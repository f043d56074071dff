import OhMySubagents.WorkflowStudio.Session

open Relational

namespace OhMySubagents.WorkflowStudio

variable {server : DraftServer} {session session' : StudioSession} {turn : StudioTurn} {edits : List BuiltDraftEdit}

/-- What a list of requests must satisfy for an operation to send them. -/
structure Sendable (session : StudioSession) (edits : List BuiltDraftEdit) : Prop where
  dirty : ∀ edit ∈ edits, ∀ x value, edit.sent.carries x value → session.runtime.snapshot.dirty.has x
  operation : ∀ edit ∈ edits, ∀ x value, edit.operation.sets x value ↔ edit.sent.carries x value
  present : ∀ edit ∈ edits, edit.sent.present session.runtime.snapshot.working_workflow
  groups : (edits.map fun edit => edit.sent.group).Nodup

/-- The invariant is about the draft, the requests and the user's values alone. -/
theorem Coherent.of_same (h : Coherent server session) (hloaded : session'.loaded = session.loaded)
    (hlast : session'.last_values = session.last_values)
    (haccepted : session'.runtime.snapshot.accepted_draft = session.runtime.snapshot.accepted_draft)
    (hworking : session'.runtime.snapshot.working_workflow = session.runtime.snapshot.working_workflow)
    (hdirty : session'.runtime.snapshot.dirty = session.runtime.snapshot.dirty)
    (hsending : session'.runtime.sending = session.runtime.sending)
    (hexchanges : session'.runtime.exchanges = session.runtime.exchanges) : Coherent server session' := by
  have hpending : session'.runtime.pending = session.runtime.pending := by
    unfold WorkflowDraftRuntime.pending
    rw [hsending]
  constructor
  · simpa only [haccepted, hworking] using h.members
  · simpa only [haccepted, hworking, hdirty] using h.clean
  · simpa only [hlast, hworking, hdirty] using h.edited
  · simpa only [hlast, hworking, hdirty, hexchanges] using h.saved
  · simpa only [hdirty] using h.nodup
  · simpa only [hdirty] using h.listed
  · simpa only [hpending, hdirty] using h.pending_dirty
  · simpa only [hpending] using h.pending_operation
  · simpa only [hpending, hworking] using h.pending_present
  · simpa only [hpending] using h.pending_groups
  · simpa only [hsending, hexchanges] using h.waiting
  · simpa only [hsending, hexchanges] using h.idle
  · simpa only [hloaded, hexchanges, haccepted] using h.latest
  · simpa only [hloaded, hexchanges] using h.sent_in_turn

theorem build_draft_edit_batch_sendable (h : Coherent server session)
    (hedits : edits.Sublist (build_draft_edit_batch session.runtime.snapshot.working_workflow
      session.runtime.snapshot.dirty)) : Sendable session edits where
  dirty _ hedit _ _ hcarries := (build_draft_edit_batch_current (hedits.subset hedit) hcarries).1
  operation _ hedit _ _ := build_draft_edit_batch_operation (hedits.subset hedit)
  present _ hedit := build_draft_edit_batch_present (hedits.subset hedit)
  groups := (build_draft_edit_batch_groups h.nodup).sublist (hedits.map _)

/-! ### Edits -/

/-- An edit that does not raise, or that gives no field of the tree a value. -/
def Lossless (session : StudioSession) : StudioAction → Prop
  | .edit_member member_id patch =>
    session.runtime.snapshot.can_accept_local_edit → session.runtime.snapshot.dirty.inherits member_id →
      session.runtime.snapshot.working_workflow.has_member member_id = false ∨ patch.keys = []
  | _ => True

/-- What an edit of a Workflow does to the values of its fields. -/
structure Edits (values : EditableField → Option (Option String)) (state state' : StudioSnapshot) : Prop where
  accepted : state'.accepted_draft = state.accepted_draft
  read : ∀ x, state'.working_workflow.read x = (state.working_workflow.read x).map fun value => (values x).getD value
  has : ∀ x, state'.dirty.has x ↔ state.dirty.has x ∨ (values x).isSome
  nodup : state'.dirty.member_ids.Nodup
  listed : ∀ member_id ∉ state'.dirty.member_ids, state'.dirty.member_fields member_id = []

theorem edit_workflow_state_edits (h : Coherent server session) (patch : WorkflowEdit) :
    Edits patch.values session.runtime.snapshot (session.runtime.snapshot.edit_workflow_state patch) where
  accepted := rfl
  read x := by
    cases x with
    | workflow field => simp [StudioSnapshot.edit_workflow_state, NormalizedWorkflow.read,
        read_apply_workflow_edit, WorkflowEdit.values]
    | member member_id field =>
      simp only [WorkflowEdit.values, Option.getD_none, Option.map_id']
      rfl
  has x := by
    cases x with
    | workflow field => simp [StudioSnapshot.edit_workflow_state, StudioDirtyState.edit_workflow,
        StudioDirtyState.has, WorkflowEdit.values, WorkflowEdit.mem_keys]
    | member member_id field => simp [StudioSnapshot.edit_workflow_state, StudioDirtyState.edit_workflow,
        StudioDirtyState.has, WorkflowEdit.values]
  nodup := h.nodup
  listed := h.listed

theorem member_edited_edits (h : Coherent server session) (member_id : String) (patch : MemberEdit) :
    Edits (patch.values member_id) session.runtime.snapshot
      (session.runtime.snapshot.member_edited member_id patch) where
  accepted := rfl
  read x := by
    have hread : (update_workflow_member session.runtime.snapshot.working_workflow member_id patch).read x = _ :=
      read_update_workflow_member
    refine hread.trans ?_
    cases x with
    | workflow field => simp [MemberEdit.values]
    | member id field =>
      refine congrArg (fun f => Option.map f _) (funext fun value => ?_)
      by_cases hid : id = member_id <;> simp [MemberEdit.on, MemberEdit.values, hid]
  has x := by
    cases x with
    | workflow field => simp [StudioSnapshot.member_edited, StudioDirtyState.edit_member, StudioDirtyState.has,
        MemberEdit.values]
    | member id field =>
      by_cases hid : id = member_id
      · subst hid
        have hlisted := h.listed id
        by_cases hmem : id ∈ session.runtime.snapshot.dirty.member_ids
        · simp [StudioSnapshot.member_edited, StudioDirtyState.edit_member, StudioDirtyState.has,
            MemberEdit.values, MemberEdit.mem_keys, hmem]
        · simp [StudioSnapshot.member_edited, StudioDirtyState.edit_member, StudioDirtyState.has,
            MemberEdit.values, MemberEdit.mem_keys, hmem, hlisted hmem]
      · simp [StudioSnapshot.member_edited, StudioDirtyState.edit_member, StudioDirtyState.has,
          MemberEdit.values, hid]
  nodup := nodup_union
  listed id hid := by
    have hne : id ≠ member_id ∧ id ∉ session.runtime.snapshot.dirty.member_ids := by
      simpa [StudioSnapshot.member_edited, StudioDirtyState.edit_member, not_or, and_comm] using hid
    simpa [StudioSnapshot.member_edited, StudioDirtyState.edit_member, Function.update_of_ne hne.1]
      using h.listed id hne.2

/-- An edit that the Studio takes keeps the invariant. -/
theorem Coherent.edit {values : EditableField → Option (Option String)} {snapshot' : StudioSnapshot}
    (h : Coherent server session) (hedits : Edits values session.runtime.snapshot snapshot') :
    Coherent server { session with
      runtime := { session.runtime with snapshot := snapshot' }
      last_values := fun x => (values x).or (session.last_values x) } := by
  have hmembers : ∀ member_id, snapshot'.working_workflow.has_member member_id =
      session.runtime.snapshot.working_workflow.has_member member_id :=
    fun member_id => has_member_congr fun x => by rw [hedits.read, Option.isSome_map]
  have huntouched : ∀ x, ¬ snapshot'.dirty.has x → ¬ session.runtime.snapshot.dirty.has x ∧ values x = none := by
    intro x hx
    rw [hedits.has, not_or, Option.not_isSome_iff_eq_none] at hx
    exact hx
  have hsame : ∀ x, values x = none →
      snapshot'.working_workflow.read x = session.runtime.snapshot.working_workflow.read x := by
    intro x hx
    rw [hedits.read, hx]
    exact Option.map_id'
  constructor
  · intro member_id
    change snapshot'.working_workflow.has_member member_id = snapshot'.accepted_draft.workflow.has_member member_id
    rw [hmembers, hedits.accepted, h.members]
  · intro x hx
    obtain ⟨hclean, hvalues⟩ := huntouched x hx
    change snapshot'.working_workflow.read x = snapshot'.accepted_draft.workflow.read x
    rw [hsame x hvalues, hedits.accepted, h.clean x hclean]
  · intro x value hx hread
    change snapshot'.working_workflow.read x = some value at hread
    change (values x).or (session.last_values x) = some value
    cases hvalues : values x with
    | none =>
      rw [hsame x hvalues] at hread
      have hdirty := ((hedits.has x).mp hx).resolve_right (by simp [hvalues])
      rw [Option.none_or]
      exact h.edited x value hdirty hread
    | some given =>
      rw [hedits.read, hvalues] at hread
      obtain ⟨_, _, hgiven⟩ := Option.map_eq_some_iff.mp hread
      rw [Option.some_or]
      exact congrArg some hgiven
  · intro x last value hx hlast hread
    obtain ⟨hclean, hvalues⟩ := huntouched x hx
    change (values x).or (session.last_values x) = some last at hlast
    rw [hvalues, Option.none_or] at hlast
    exact h.saved x last value hclean hlast ((hsame x hvalues).symm.trans hread)
  · exact hedits.nodup
  · exact hedits.listed
  · exact fun edit hedit x value hcarries => (hedits.has x).mpr (.inl (h.pending_dirty edit hedit x value hcarries))
  · exact h.pending_operation
  · exact fun edit hedit => SentDraftEdit.present_congr (h.pending_present edit hedit) hmembers
  · exact h.pending_groups
  · exact h.waiting
  · exact h.idle
  · exact h.latest.trans hedits.accepted.symm
  · exact h.sent_in_turn

/-! ### Requests and answers -/

theorem end_job_same (runtime : WorkflowDraftRuntime) (is_accepted : Bool) :
    (runtime.end_job is_accepted).snapshot = runtime.snapshot ∧ (runtime.end_job is_accepted).sending = none ∧
      (runtime.end_job is_accepted).exchanges = runtime.exchanges := by
  unfold WorkflowDraftRuntime.end_job
  split <;> exact ⟨rfl, rfl, rfl⟩

/-- Sending requests keeps the invariant when no request waits. -/
theorem Coherent.send (h : Coherent server session) (hidle : session.runtime.sending = none)
    (hsendable : Sendable session edits) :
    Coherent server { session with runtime := session.runtime.send_edits edits } := by
  cases edits with
  | nil =>
    obtain ⟨hsnapshot, hsending, hexchanges⟩ := end_job_same session.runtime true
    exact h.of_same rfl rfl (congrArg _ hsnapshot) (congrArg _ hsnapshot) (congrArg _ hsnapshot)
      (hsending.trans hidle.symm) hexchanges
  | cons edit rest =>
    exact {
      members := h.members
      clean := h.clean
      edited := h.edited
      saved := h.saved
      nodup := h.nodup
      listed := h.listed
      pending_dirty := hsendable.dirty
      pending_operation := hsendable.operation
      pending_present := hsendable.present
      pending_groups := hsendable.groups
      waiting := fun sending hsending => by
        cases hsending
        exact ⟨_, _, rfl⟩
      idle := fun hsending => by cases hsending
      latest := h.latest
      sent_in_turn := ⟨by rw [h.latest], h.idle hidle, h.sent_in_turn⟩ }

/-- The dirty state that an accepted request leaves. -/
theorem retain_newer_dirty_fields_listed (workflow : NormalizedWorkflow) (sent : SentDraftEdit)
    {dirty : StudioDirtyState} (hnodup : dirty.member_ids.Nodup)
    (hlisted : ∀ member_id ∉ dirty.member_ids, dirty.member_fields member_id = []) :
    (retain_newer_dirty_fields workflow dirty sent).member_ids.Nodup ∧
      ∀ member_id ∉ (retain_newer_dirty_fields workflow dirty sent).member_ids,
        (retain_newer_dirty_fields workflow dirty sent).member_fields member_id = [] := by
  have hwithout : ∀ member_id, (without_member dirty member_id).member_ids.Nodup ∧
      ∀ id ∉ (without_member dirty member_id).member_ids, (without_member dirty member_id).member_fields id = [] := by
    refine fun member_id => ⟨hnodup.filter _, fun id hid => ?_⟩
    by_cases hsame : id = member_id
    · simp [without_member, hsame]
    · simpa [without_member, Function.update_of_ne hsame] using
        hlisted id (by simpa [without_member, hsame] using hid)
  unfold retain_newer_dirty_fields
  split
  · exact ⟨hnodup, hlisted⟩
  · rename_i member_id fields values
    split
    · exact hwithout member_id
    · rename_i member hmember
      dsimp only
      split
      · exact hwithout member_id
      · refine ⟨hnodup, fun id hid => ?_⟩
        by_cases hsame : id = member_id
        · subst hsame
          have hempty := hlisted id hid
          simp [hempty]
        · simpa [Function.update_of_ne hsame] using hlisted id hid

/-- The state between an accepted answer and the next request of the same operation. -/
def StudioSession.settled (session : StudioSession) (sent : SentDraftEdit) (draft : WorkflowDraftReadback) :
    StudioSession :=
  { session with runtime := { session.runtime with
    snapshot := session.runtime.snapshot.accept_draft sent draft
    sending := none
    exchanges := .accepted draft :: session.runtime.exchanges } }

/-- An accepted answer makes clean exactly the fields whose current values the request carried. -/
theorem Coherent.settle (h : Coherent server session) {edit : BuiltDraftEdit} {rest : List BuiltDraftEdit}
    {draft : WorkflowDraftReadback} (hsending : session.runtime.sending = some ⟨edit, rest⟩)
    (haccepts : server.accepts session.runtime.snapshot.accepted_draft edit.operation draft) :
    Coherent server (session.settled edit.sent draft) ∧ Sendable (session.settled edit.sent draft) rest := by
  set snapshot := session.runtime.snapshot with hsnapshot
  set remaining := retain_newer_dirty_fields snapshot.working_workflow snapshot.dirty edit.sent with hremaining
  set working := overlay_dirty_values draft.workflow snapshot.working_workflow remaining with hworking
  have hpending : session.runtime.pending = edit :: rest := by simp [WorkflowDraftRuntime.pending, hsending]
  have hedit : edit ∈ session.runtime.pending := by simp [hpending]
  obtain ⟨etag, exchanges, hexchanges⟩ := h.waiting _ hsending
  have hremains : ∀ x, remaining.has x ↔
      snapshot.dirty.has x ∧ ¬ ∃ value, edit.sent.carries x value ∧ snapshot.working_workflow.read x = some value :=
    fun x => retain_newer_dirty_fields_has (h.pending_present edit hedit)
  have hread : ∀ x, working.read x = (draft.workflow.read x).map fun value =>
      if remaining.has x then (snapshot.working_workflow.read x).getD value else value :=
    fun x => read_overlay_dirty_values
  have hsame : ∀ member_id, draft.workflow.has_member member_id = snapshot.working_workflow.has_member member_id :=
    fun member_id => (server.members haccepts member_id).trans (h.members member_id).symm
  have hmembers : ∀ member_id, working.has_member member_id = draft.workflow.has_member member_id :=
    fun member_id => has_member_congr fun x => by rw [hread, Option.isSome_map]
  -- what the user sees in a field that stays clean, or becomes clean, is a form of the user's last value
  have hsaved : ∀ x last value, ¬ remaining.has x → session.last_values x = some last → draft.workflow.read x =
      some value → server.form x last value ∧
        LastSet x last (accepted_operations (.accepted draft :: session.runtime.exchanges)) := by
    intro x last value hx hlast hvalue
    rw [hexchanges]
    by_cases hdirty : snapshot.dirty.has x
    · obtain ⟨current, hcarries, hcurrent⟩ : ∃ value, edit.sent.carries x value ∧
          snapshot.working_workflow.read x = some value := by
        by_contra hnone
        exact hx ((hremains x).mpr ⟨hdirty, hnone⟩)
      obtain rfl := Option.some.inj ((h.edited x current hdirty hcurrent).symm.trans hlast)
      have hsets := (h.pending_operation edit hedit x current).mpr hcarries
      exact ⟨server.patched haccepts hsets hvalue, .inl hsets⟩
    · have hunset : ∀ v, ¬ edit.operation.sets x v := fun v hsets =>
        hdirty (h.pending_dirty edit hedit x v ((h.pending_operation edit hedit x v).mp hsets))
      obtain ⟨current, hcurrent⟩ := Option.isSome_iff_exists.mp
        ((read_isSome_congr hsame x).symm.trans (Option.isSome_iff_exists.mpr ⟨value, hvalue⟩))
      obtain ⟨hform, hset⟩ := h.saved x last current hdirty hlast hcurrent
      rw [h.clean x hdirty] at hcurrent
      refine ⟨server.form_trans hform (server.kept haccepts hunset hcurrent hvalue), .inr ⟨hunset, ?_⟩⟩
      rwa [hexchanges] at hset
  obtain ⟨hnodup, hlisted⟩ := retain_newer_dirty_fields_listed snapshot.working_workflow edit.sent h.nodup h.listed
  have hclean : ∀ x, ¬ remaining.has x → working.read x = draft.workflow.read x := by
    intro x hx
    rw [hread]
    simp only [if_neg hx]
    exact Option.map_id'
  refine ⟨?_, ?_⟩
  · constructor
    · exact hmembers
    · exact hclean
    · intro x value hx hvalue
      change remaining.has x at hx
      change working.read x = some value at hvalue
      rw [hread] at hvalue
      obtain ⟨base, hbase, hvalue⟩ := Option.map_eq_some_iff.mp hvalue
      rw [if_pos hx] at hvalue
      obtain ⟨current, hcurrent⟩ := Option.isSome_iff_exists.mp
        ((read_isSome_congr hsame x).symm.trans (Option.isSome_iff_exists.mpr ⟨base, hbase⟩))
      rw [hcurrent, Option.getD_some] at hvalue
      exact hvalue ▸ h.edited x current ((hremains x).mp hx).1 hcurrent
    · intro x last value hx hlast hvalue
      exact hsaved x last value hx hlast ((hclean x hx).symm.trans hvalue)
    · exact hnodup
    · exact hlisted
    · intro other hother
      cases hother
    · intro other hother
      cases hother
    · intro other hother
      cases hother
    · exact List.nodup_nil
    · intro sending hnone
      cases hnone
    · exact fun _ hwaiting => hwaiting
    · rfl
    · refine ⟨?_, h.sent_in_turn⟩
      rw [hexchanges]
      trivial
  · have hgroups := h.pending_groups
    rw [hpending, List.map_cons, List.nodup_cons] at hgroups
    have hmem : ∀ other ∈ rest, other ∈ session.runtime.pending := fun other hother => by
      rw [hpending]
      exact List.mem_cons_of_mem _ hother
    refine ⟨fun other hother x value hcarries => ?_, fun other hother => h.pending_operation other (hmem other hother),
      fun other hother => SentDraftEdit.present_congr (h.pending_present other (hmem other hother))
        fun member_id => (hmembers member_id).trans (hsame member_id), hgroups.2⟩
    refine (hremains x).mpr ⟨h.pending_dirty other (hmem other hother) x value hcarries, ?_⟩
    rintro ⟨value', hcarries', -⟩
    refine hgroups.1 (List.mem_map.mpr ⟨other, hother, ?_⟩)
    exact hcarries.group.symm.trans hcarries'.group

/-! ### Turns of the event loop -/

theorem schedule_autosave_same (runtime : WorkflowDraftRuntime) :
    ∃ autosave validation, runtime.schedule_autosave =
      { runtime with autosave, snapshot := { runtime.snapshot with validation } } := by
  unfold WorkflowDraftRuntime.schedule_autosave
  split
  · exact ⟨_, _, rfl⟩
  · exact ⟨_, _, rfl⟩

theorem Coherent.edited_session (h : Coherent server session) {values : EditableField → Option (Option String)}
    {snapshot' : StudioSnapshot} {runtime' : WorkflowDraftRuntime}
    (hedits : Edits values session.runtime.snapshot snapshot')
    (hruntime : runtime' = if session.runtime.snapshot.can_accept_local_edit then
      { session.runtime with snapshot := snapshot' }.schedule_autosave else session.runtime) :
    Coherent server (session.edited values runtime') := by
  subst hruntime
  split
  · rename_i haccept
    obtain ⟨autosave, validation, hsame⟩ :=
      schedule_autosave_same { session.runtime with snapshot := snapshot' }
    rw [hsame]
    refine (h.edit hedits).of_same rfl ?_ rfl rfl rfl rfl rfl
    funext x
    simp [StudioSession.edited, haccept]
  · rename_i haccept
    refine h.of_same rfl ?_ rfl rfl rfl rfl rfl
    funext x
    simp [StudioSession.edited, haccept]

/-- An edit whose reduction raises changes nothing, whatever its values are. -/
theorem Coherent.raised (h : Coherent server session) {member_id : String} {patch : MemberEdit}
    (hraises : session.runtime.snapshot.dirty.inherits member_id = true)
    (hlossless : Lossless session (.edit_member member_id patch)) :
    Coherent server (session.edited (patch.values member_id) (session.runtime.edit_member member_id patch)) := by
  have hruntime : session.runtime.edit_member member_id patch = session.runtime := by
    rw [WorkflowDraftRuntime.edit_member, StudioSnapshot.edit_member_state, if_pos hraises]
    split <;> rfl
  rw [hruntime]
  have hlast : ∀ x value, session.runtime.snapshot.working_workflow.read x = some value →
      (session.edited (patch.values member_id) session.runtime).last_values x = session.last_values x := by
    intro x value hread
    change (if session.runtime.snapshot.can_accept_local_edit then (patch.values member_id x).or (session.last_values x)
      else session.last_values x) = session.last_values x
    split
    · next haccept =>
      suffices hvalues : patch.values member_id x = none by rw [hvalues, Option.none_or]
      cases x with
      | workflow => rfl
      | member id field =>
        rw [MemberEdit.values]
        split
        · next hid =>
          rcases hlossless haccept hraises with hgone | hempty
          · have hthere := @read_isSome_member id session.runtime.snapshot.working_workflow field
            rw [hread, hid, hgone] at hthere
            cases hthere
          · refine Option.not_isSome_iff_eq_none.mp fun hgiven => ?_
            have hkey := MemberEdit.mem_keys.mpr hgiven
            rw [hempty] at hkey
            cases hkey
        · rfl
    · rfl
  exact ⟨h.members, h.clean, fun x value hx hread => (hlast x value hread).trans (h.edited x value hx hread),
    fun x last value hx hgiven hread => h.saved x last value hx ((hlast x value hread).symm.trans hgiven) hread,
    h.nodup, h.listed, h.pending_dirty, h.pending_operation, h.pending_present, h.pending_groups, h.waiting, h.idle,
    h.latest, h.sent_in_turn⟩

/-- One turn of the event loop keeps the invariant. -/
theorem Coherent.take (h : Coherent server session) {action : StudioAction}
    (hanswered : session.answered server action) (hlossless : Lossless session action)
    (htake : session.take action = some session') :
    Coherent server session' := by
  cases action with
  | edit_workflow patch =>
    cases htake
    exact h.edited_session (edit_workflow_state_edits h patch) rfl
  | edit_member member_id patch =>
    cases htake
    by_cases hraises : session.runtime.snapshot.dirty.inherits member_id = true
    · exact h.raised hraises hlossless
    · refine h.edited_session (member_edited_edits h member_id patch) ?_
      rw [WorkflowDraftRuntime.edit_member, StudioSnapshot.edit_member_state, if_neg hraises]
  | fire =>
    obtain ⟨runtime, hfire, rfl⟩ := Option.map_eq_some_iff.mp htake
    unfold WorkflowDraftRuntime.fire at hfire
    split at hfire
    · cases hfire
    · split at hfire
      · cases hfire
      · cases hfire
        exact h.of_same rfl rfl rfl rfl rfl rfl rfl
  | flush_edits =>
    cases htake
    exact h.of_same rfl rfl rfl rfl rfl rfl rfl
  | retry_save =>
    obtain ⟨runtime, hretry, rfl⟩ := Option.map_eq_some_iff.mp htake
    unfold WorkflowDraftRuntime.retry_save at hretry
    split at hretry
    · cases hretry
      exact h
    · split at hretry
      · cases hretry
        exact h
      · split at hretry
        · cases hretry
        · cases hretry
          exact h.of_same rfl rfl rfl rfl rfl rfl rfl
  | check =>
    obtain ⟨runtime, hcheck, rfl⟩ := Option.map_eq_some_iff.mp htake
    unfold WorkflowDraftRuntime.check at hcheck
    split at hcheck
    · cases hcheck
    · split at hcheck
      · split at hcheck <;> cases hcheck <;> exact h.of_same rfl rfl rfl rfl rfl rfl rfl
      · cases hcheck
        exact h.of_same rfl rfl rfl rfl rfl rfl rfl
  | run =>
    obtain ⟨runtime, hrun, rfl⟩ := Option.map_eq_some_iff.mp htake
    unfold WorkflowDraftRuntime.run at hrun
    dsimp only at hrun
    split at hrun
    · rename_i hsending _
      cases hrun
      have hclaimed : Coherent server { session with
          runtime := { session.runtime with autosave := (session.runtime.autosave.claim_due session.runtime.now).1 }
            } :=
        h.of_same rfl rfl rfl rfl rfl rfl rfl
      refine hclaimed.send hsending ?_
      split
      · exact build_draft_edit_batch_sendable (h.of_same rfl rfl rfl rfl rfl rfl rfl) (List.Sublist.refl _)
      · exact ⟨by simp, by simp, by simp, by simp⟩
    · rename_i hsending _
      cases hrun
      refine h.send hsending (build_draft_edit_batch_sendable h ?_)
      unfold build_next_draft_edit
      cases build_draft_edit_batch session.runtime.snapshot.working_workflow session.runtime.snapshot.dirty with
      | nil => exact List.Sublist.refl _
      | cons edit rest => exact List.singleton_sublist.mpr List.mem_cons_self
    · cases hrun
  | accept draft =>
    obtain ⟨runtime, haccept, rfl⟩ := Option.map_eq_some_iff.mp htake
    obtain ⟨edit, rest, hsending, haccepts⟩ := hanswered
    simp only [WorkflowDraftRuntime.accept, hsending] at haccept
    obtain ⟨hsettled, hrest⟩ := h.settle hsending haccepts
    have hsend := hsettled.send rfl hrest
    cases haccept
    cases rest with
    | nil =>
      obtain ⟨hsnapshot, hidle, hexchanges⟩ := end_job_same { session.runtime with
        snapshot := session.runtime.snapshot.accept_draft edit.sent draft
        exchanges := .accepted draft :: session.runtime.exchanges } true
      exact hsettled.of_same rfl rfl (congrArg _ hsnapshot) (congrArg _ hsnapshot) (congrArg _ hsnapshot) hidle
        hexchanges
    | cons next rest => exact hsend
  | refuse failure =>
    obtain ⟨runtime, hrefuse, rfl⟩ := Option.map_eq_some_iff.mp htake
    cases hsending : session.runtime.sending with
    | none => simp [WorkflowDraftRuntime.refuse, hsending] at hrefuse
    | some sending =>
      simp only [WorkflowDraftRuntime.refuse, hsending] at hrefuse
      cases hrefuse
      obtain ⟨etag, exchanges, hexchanges⟩ := h.waiting _ hsending
      have hfail : ∀ state : StudioSnapshot, (state.fail failure).accepted_draft = state.accepted_draft ∧
          (state.fail failure).working_workflow = state.working_workflow ∧
          (state.fail failure).dirty = state.dirty := by
        intro state
        cases failure <;> exact ⟨rfl, rfl, rfl⟩
      obtain ⟨haccepted, hworking, hdirty⟩ := hfail session.runtime.snapshot
      obtain ⟨hsnapshot, hidle, hrefused⟩ := end_job_same { session.runtime with
        snapshot := session.runtime.snapshot.fail failure
        exchanges := .refused :: session.runtime.exchanges } false
      have hbase : Coherent server { session with runtime := { session.runtime with
          sending := none, exchanges := .refused :: session.runtime.exchanges } } := by
        refine ⟨h.members, h.clean, h.edited, ?_, h.nodup, h.listed, by simp [WorkflowDraftRuntime.pending],
          by simp [WorkflowDraftRuntime.pending], by simp [WorkflowDraftRuntime.pending], List.nodup_nil,
          fun _ hnone => (by cases hnone), fun _ hwaiting => hwaiting, h.latest, ?_, h.sent_in_turn⟩
        · intro x last value hx hlast hvalue
          exact h.saved x last value hx hlast hvalue
        · rw [hexchanges]
          trivial
      refine hbase.of_same rfl rfl ?_ ?_ ?_ hidle hrefused
      · exact (congrArg _ hsnapshot).trans haccepted
      · exact (congrArg _ hsnapshot).trans hworking
      · exact (congrArg _ hsnapshot).trans hdirty

theorem Coherent.step (h : Coherent server session) (hlossless : Lossless session turn.action)
    (hcommit : server.studio.commit turn session session') :
    Coherent server session' := by
  obtain ⟨hanswered, hstep⟩ := hcommit
  unfold StudioSession.step at hstep
  split at hstep
  · cases hstep
  · exact Coherent.take (h.of_same rfl rfl rfl rfl rfl rfl rfl : Coherent server (session.advance turn.at_time))
      hanswered hlossless hstep

/-- The Studio in which no edit of a Member is lost to an inherited value. -/
def DraftServer.lossless_studio (server : DraftServer) : Transactional StudioSession StudioTurn :=
  server.studio.restrict fun turn session => Lossless session turn.action

theorem DraftServer.coherent (h : server.lossless_studio.Reachable session) : Coherent server session := by
  refine h.invariant ?_ (fun _ _ _ hcoherent hcommit => hcoherent.step hcommit.1 hcommit.2)
  rintro _ ⟨draft, now, rfl⟩
  exact .load draft now

end OhMySubagents.WorkflowStudio
