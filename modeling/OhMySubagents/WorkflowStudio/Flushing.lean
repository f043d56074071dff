import OhMySubagents.WorkflowStudio.FlushTermination
import Mathlib.Data.Prod.Lex

open Relational

namespace OhMySubagents.WorkflowStudio

variable {server : DraftServer} {session session' : StudioSession} {turn : StudioTurn} {edit : BuiltDraftEdit}
  {edits : List BuiltDraftEdit} {runtime runtime' : WorkflowDraftRuntime}

/-- What happens without the user: the timer fires, the queue and the flushes go on, the server accepts. -/
def StudioAction.IsQuiet : StudioAction → Prop
  | .fire | .check | .run | .accept _ => True
  | _ => False

def Quiet (server : DraftServer) (session session' : StudioSession) : Prop :=
  ∃ turn, turn.action.IsQuiet ∧ server.studio.commit turn session session'

def WorkflowDraftRuntime.is_flushing (runtime : WorkflowDraftRuntime) : Prop :=
  0 < runtime.checking ∨ .flush ∈ runtime.jobs

/-- When the user stops editing and the server keeps accepting, every flush ends: nothing goes on for ever, and
    while a flush is not at its end the Console either waits for the server or goes on. -/
structure FlushEnds (server : DraftServer) (session : StudioSession) : Prop where
  finite : Acc (fun session' session => Quiet server session session') session
  progress : ∀ session', Relation.ReflTransGen (Quiet server) session session' → session'.runtime.is_flushing →
    session'.runtime.sending = none → ∃ next, Quiet server session' next
  answered : ∀ session', Relation.ReflTransGen (Quiet server) session session' → ∀ edit rest draft,
    session'.runtime.sending = some ⟨edit, rest⟩ →
    server.accepts session'.runtime.snapshot.accepted_draft edit.operation draft →
      ∃ next, Quiet server session' next

/-- An edit of a Member that is in the tree and has a dirty field afterwards, or one that raises and gives no field of
    the tree a value. -/
def Effective (session : StudioSession) : StudioAction → Prop
  | .edit_member member_id patch =>
    session.runtime.snapshot.can_accept_local_edit →
      if session.runtime.snapshot.dirty.inherits member_id then
        session.runtime.snapshot.working_workflow.has_member member_id = false ∨ patch.keys = []
      else
        session.runtime.snapshot.working_workflow.has_member member_id ∧
          (patch.keys ≠ [] ∨ session.runtime.snapshot.dirty.member_fields member_id ≠ [])
  | _ => True

theorem Effective.lossless {action : StudioAction} (h : Effective session action) : Lossless session action := by
  cases action with
  | edit_member member_id patch =>
    intro haccept hraises
    have heffect := h haccept
    rwa [if_pos hraises] at heffect
  | edit_workflow | fire | flush_edits | retry_save | check | run | accept | refuse => trivial

/-! ### The number of dirty groups -/

def StudioDirtyState.count (dirty : StudioDirtyState) : Nat := dirty.workflow.length + dirty.member_ids.length

theorem has_dirty_fields_iff {dirty : StudioDirtyState} : has_dirty_fields dirty = true ↔ 0 < dirty.count := by
  simp only [has_dirty_fields, StudioDirtyState.count, Bool.or_eq_true, Bool.not_eq_true', List.isEmpty_eq_false_iff,
    ← List.length_pos_iff]
  omega

theorem without_member_count_le {dirty : StudioDirtyState} {member_id : String} :
    (without_member dirty member_id).count ≤ dirty.count :=
  Nat.add_le_add_left (List.length_filter_le _ _) _

theorem without_member_count_lt {dirty : StudioDirtyState} {member_id : String} (h : member_id ∈ dirty.member_ids) :
    (without_member dirty member_id).count < dirty.count :=
  Nat.add_lt_add_left (List.length_filter_lt_length_iff_exists.mpr ⟨member_id, h, by simp⟩) _

theorem retain_newer_dirty_fields_count_le {workflow : NormalizedWorkflow} {dirty : StudioDirtyState}
    {sent : SentDraftEdit} : (retain_newer_dirty_fields workflow dirty sent).count ≤ dirty.count := by
  unfold retain_newer_dirty_fields
  split
  · exact Nat.add_le_add_right (List.length_filter_le _ _) _
  · split
    · exact without_member_count_le
    · dsimp only
      split
      · exact without_member_count_le
      · exact le_rfl

/-- A fresh request cleans its whole group. -/
theorem Fresh.count_lt {state : StudioSnapshot} (h : Fresh state edit)
    (hpresent : edit.sent.present state.working_workflow) :
    (retain_newer_dirty_fields state.working_workflow state.dirty edit.sent).count < state.dirty.count := by
  obtain ⟨x, hx, hgroup⟩ := h.dirty
  have hcarries := h.carries
  generalize edit.sent = sent at *
  cases sent with
  | workflow fields values =>
    cases x with
    | member => cases hgroup
    | workflow field =>
      refine Nat.add_lt_add_right (List.length_filter_lt_length_iff_exists.mpr ⟨field, hx, ?_⟩) _
      obtain ⟨value, ⟨hfield, rfl⟩, hread⟩ := hcarries (.workflow field) hx rfl
      have hvalue : read_workflow_value state.working_workflow field = values field := Option.some.inj hread
      simp [hfield, hvalue]
  | member member_id fields values =>
    cases x with
    | workflow => cases hgroup
    | member id field =>
      obtain rfl := Option.some.inj hgroup
      obtain ⟨member, hmember⟩ := Option.isSome_iff_exists.mp hpresent
      have hall : (state.dirty.member_fields id).filter
          (fun field => field ∉ fields ∨ read_member_value member field ≠ values field) = [] := by
        rw [List.filter_eq_nil_iff]
        intro field hfield
        obtain ⟨value, ⟨-, hsent, rfl⟩, hread⟩ := hcarries (.member id field) ⟨hx.1, hfield⟩ rfl
        have hvalue : read_member_value member field = values field := by
          simpa [NormalizedWorkflow.read, hmember] using hread
        simp [hsent, hvalue]
      simp only [retain_newer_dirty_fields, hmember, hall, List.isEmpty_nil, ↓reduceIte]
      exact without_member_count_lt hx.1

/-! ### Deliverable dirty states -/

theorem Deliverable.retain {state : StudioSnapshot} {sent : SentDraftEdit} (h : Deliverable state) :
    ∀ member_id ∈ (retain_newer_dirty_fields state.working_workflow state.dirty sent).member_ids,
      member_id ∈ state.dirty.member_ids ∧
        (retain_newer_dirty_fields state.working_workflow state.dirty sent).member_fields member_id ≠ [] := by
  have hwithout : ∀ id, ∀ member_id ∈ (without_member state.dirty id).member_ids,
      member_id ∈ state.dirty.member_ids ∧ (without_member state.dirty id).member_fields member_id ≠ [] := by
    intro id member_id hmem
    obtain ⟨hmem, hne⟩ := List.mem_filter.mp hmem
    have hne : member_id ≠ id := by simpa using hne
    refine ⟨hmem, ?_⟩
    simpa [without_member, Function.update_of_ne hne] using (h member_id hmem).2
  unfold retain_newer_dirty_fields
  split
  · exact fun member_id hmem => ⟨hmem, (h member_id hmem).2⟩
  · rename_i id fields values
    split
    · exact hwithout id
    · rename_i member hmember
      dsimp only
      split
      · exact hwithout id
      · rename_i hremaining
        refine fun member_id hmem => ⟨hmem, ?_⟩
        dsimp only
        by_cases hsame : member_id = id
        · subst hsame
          rw [Function.update_self]
          exact fun hnil => hremaining (List.isEmpty_iff.mpr hnil)
        · rw [Function.update_of_ne hsame]
          exact (h member_id hmem).2

theorem Deliverable.settle {state : StudioSnapshot} (h : Deliverable state) {sent : SentDraftEdit}
    {draft : WorkflowDraftReadback}
    (hmembers : ∀ member_id, (state.accept_draft sent draft).working_workflow.has_member member_id =
      state.working_workflow.has_member member_id) : Deliverable (state.accept_draft sent draft) := by
  intro member_id hmem
  obtain ⟨hold, hfields⟩ := h.retain member_id hmem
  exact ⟨(hmembers member_id).trans (h member_id hold).1, hfields⟩

theorem end_job_snapshot (runtime : WorkflowDraftRuntime) (is_accepted : Bool) :
    (runtime.end_job is_accepted).snapshot = runtime.snapshot := (end_job_same runtime is_accepted).1

theorem send_edits_snapshot (runtime : WorkflowDraftRuntime) (edits : List BuiltDraftEdit) :
    (runtime.send_edits edits).snapshot.dirty = runtime.snapshot.dirty ∧
      (runtime.send_edits edits).snapshot.working_workflow = runtime.snapshot.working_workflow := by
  cases edits with
  | nil =>
    have hsame := end_job_snapshot runtime true
    exact ⟨congrArg _ hsame, congrArg _ hsame⟩
  | cons => exact ⟨rfl, rfl⟩

theorem Deliverable.of_same {state state' : StudioSnapshot} (h : Deliverable state)
    (hdirty : state'.dirty = state.dirty)
    (hworking : state'.working_workflow = state.working_workflow) : Deliverable state' := by
  unfold Deliverable
  rw [hdirty, hworking]
  exact h

theorem check_snapshot (hcheck : runtime.check = some runtime') :
    runtime'.snapshot.dirty = runtime.snapshot.dirty ∧
      runtime'.snapshot.working_workflow = runtime.snapshot.working_workflow := by
  unfold WorkflowDraftRuntime.check at hcheck
  split at hcheck
  · cases hcheck
  · split at hcheck
    · split at hcheck <;> cases hcheck <;> exact ⟨rfl, rfl⟩
    · cases hcheck
      exact ⟨rfl, rfl⟩

theorem run_snapshot (hrun : runtime.run = some runtime') :
    runtime'.snapshot.dirty = runtime.snapshot.dirty ∧
      runtime'.snapshot.working_workflow = runtime.snapshot.working_workflow := by
  obtain ⟨-, ⟨jobs, -, rfl⟩ | ⟨jobs, -, rfl⟩⟩ := run_cases hrun <;> exact send_edits_snapshot _ _

theorem Deliverable.edit_workflow {state : StudioSnapshot} (h : Deliverable state) (patch : WorkflowEdit) :
    Deliverable (state.edit_workflow_state patch) := h

theorem Deliverable.member_edited {state : StudioSnapshot} (h : Deliverable state) {member_id : String}
    {patch : MemberEdit} (hmember : state.working_workflow.has_member member_id)
    (hfields : patch.keys ≠ [] ∨ state.dirty.member_fields member_id ≠ []) :
    Deliverable (state.member_edited member_id patch) := by
  intro id hid
  have hsame : (state.member_edited member_id patch).working_workflow.has_member id =
      state.working_workflow.has_member id := has_member_congr fun x => by
    cases x with
    | workflow => rfl
    | member => exact (congrArg _ (read_update_workflow_member)).trans Option.isSome_map
  rw [hsame]
  by_cases hone : id = member_id
  · subst hone
    refine ⟨hmember, ?_⟩
    simp only [StudioSnapshot.member_edited, StudioDirtyState.edit_member, Function.update_self]
    have hadd : ∀ field, field ∈ patch.keys ∨ field ∈ state.dirty.member_fields id →
        union (state.dirty.member_fields id) patch.keys ≠ [] :=
      fun field hfield => List.ne_nil_of_mem (mem_union.mpr hfield.symm)
    rcases hfields with hkeys | hold
    · obtain ⟨field, hfield⟩ := List.exists_mem_of_ne_nil _ hkeys
      exact hadd field (.inl hfield)
    · obtain ⟨field, hfield⟩ := List.exists_mem_of_ne_nil _ hold
      exact hadd field (.inr hfield)
  · have hold : id ∈ state.dirty.member_ids := by
      simpa [StudioSnapshot.member_edited, StudioDirtyState.edit_member, hone] using hid
    refine ⟨(h id hold).1, ?_⟩
    simpa [StudioSnapshot.member_edited, StudioDirtyState.edit_member, Function.update_of_ne hone]
      using (h id hold).2

theorem schedule_autosave_snapshot (runtime : WorkflowDraftRuntime) :
    runtime.schedule_autosave.snapshot.dirty = runtime.snapshot.dirty ∧
      runtime.schedule_autosave.snapshot.working_workflow = runtime.snapshot.working_workflow := by
  obtain ⟨autosave, validation, hsame⟩ := schedule_autosave_same runtime
  rw [hsame]
  exact ⟨rfl, rfl⟩

/-! ### What a session needs for its flushes to end -/

structure Ready (server : DraftServer) (session : StudioSession) : Prop where
  coherent : Coherent server session
  orderly : Orderly session.runtime
  deliverable : Deliverable session.runtime.snapshot

theorem Ready.advance (h : Ready server session) (now : Nat) : Ready server (session.advance now) :=
  ⟨h.coherent.of_same rfl rfl rfl rfl rfl rfl rfl, ⟨h.orderly.armed, h.orderly.queued, h.orderly.running⟩,
    h.deliverable⟩

/-- What an accepted answer leaves of the running operation. -/
theorem accept_success {draft : WorkflowDraftReadback} (haccept : runtime.accept draft = some runtime') :
    ∃ edit rest, runtime.sending = some ⟨edit, rest⟩ ∧
      runtime' = { runtime with
        snapshot := runtime.snapshot.accept_draft edit.sent draft
        exchanges := .accepted draft :: runtime.exchanges }.send_edits rest := by
  unfold WorkflowDraftRuntime.accept at haccept
  split at haccept
  · cases haccept
  · rename_i edit rest hsending
    cases haccept
    exact ⟨edit, rest, hsending, rfl⟩

theorem Coherent.settle_members (h : Coherent server session) {rest : List BuiltDraftEdit}
    {draft : WorkflowDraftReadback} (hsending : session.runtime.sending = some ⟨edit, rest⟩)
    (haccepts : server.accepts session.runtime.snapshot.accepted_draft edit.operation draft) (member_id : String) :
    (session.runtime.snapshot.accept_draft edit.sent draft).working_workflow.has_member member_id =
      session.runtime.snapshot.working_workflow.has_member member_id :=
  ((h.settle hsending haccepts).1.members member_id).trans
    ((server.members haccepts member_id).trans (h.members member_id).symm)

theorem Ready.take (h : Ready server session) {action : StudioAction}
    (hanswered : session.answered server action) (heffective : Effective session action)
    (htake : session.take action = some session') : Ready server session' := by
  refine ⟨h.coherent.take hanswered heffective.lossless htake, h.orderly.take htake, ?_⟩
  cases action with
  | edit_workflow patch =>
    cases htake
    change Deliverable (session.runtime.edit_workflow patch).snapshot
    unfold WorkflowDraftRuntime.edit_workflow
    split
    · obtain ⟨hdirty, hworking⟩ := schedule_autosave_snapshot
        { session.runtime with snapshot := session.runtime.snapshot.edit_workflow_state patch }
      exact (h.deliverable.edit_workflow patch).of_same hdirty hworking
    · exact h.deliverable
  | edit_member member_id patch =>
    cases htake
    change Deliverable (session.runtime.edit_member member_id patch).snapshot
    unfold WorkflowDraftRuntime.edit_member
    split
    · rename_i haccept
      by_cases hraises : session.runtime.snapshot.dirty.inherits member_id = true
      · rw [StudioSnapshot.edit_member_state, if_pos hraises]
        exact h.deliverable
      have heffect := heffective haccept
      rw [if_neg hraises] at heffect
      obtain ⟨hmember, hfields⟩ := heffect
      rw [StudioSnapshot.edit_member_state, if_neg hraises]
      obtain ⟨hdirty, hworking⟩ := schedule_autosave_snapshot
        { session.runtime with snapshot := session.runtime.snapshot.member_edited member_id patch }
      exact (h.deliverable.member_edited hmember hfields).of_same hdirty hworking
    · exact h.deliverable
  | fire =>
    obtain ⟨runtime, hfire, rfl⟩ := Option.map_eq_some_iff.mp htake
    unfold WorkflowDraftRuntime.fire at hfire
    split at hfire
    · cases hfire
    · split at hfire
      · cases hfire
      · cases hfire
        exact h.deliverable
  | flush_edits =>
    cases htake
    exact h.deliverable
  | retry_save =>
    obtain ⟨runtime, hretry, rfl⟩ := Option.map_eq_some_iff.mp htake
    unfold WorkflowDraftRuntime.retry_save at hretry
    split at hretry
    · cases hretry
      exact h.deliverable
    · split at hretry
      · cases hretry
        exact h.deliverable
      · split at hretry
        · cases hretry
        · cases hretry
          exact h.deliverable
  | check =>
    obtain ⟨runtime, hcheck, rfl⟩ := Option.map_eq_some_iff.mp htake
    obtain ⟨hdirty, hworking⟩ := check_snapshot hcheck
    exact h.deliverable.of_same hdirty hworking
  | run =>
    obtain ⟨runtime, hrun, rfl⟩ := Option.map_eq_some_iff.mp htake
    obtain ⟨hdirty, hworking⟩ := run_snapshot hrun
    exact h.deliverable.of_same hdirty hworking
  | accept draft =>
    obtain ⟨runtime, haccept, rfl⟩ := Option.map_eq_some_iff.mp htake
    obtain ⟨edit, rest, hsending, haccepts⟩ := hanswered
    obtain ⟨edit', rest', hsending', rfl⟩ := accept_success haccept
    obtain ⟨rfl, rfl⟩ : edit' = edit ∧ rest' = rest := by simpa [hsending'] using hsending
    obtain ⟨hdirty, hworking⟩ := send_edits_snapshot { session.runtime with
      snapshot := session.runtime.snapshot.accept_draft edit'.sent draft
      exchanges := .accepted draft :: session.runtime.exchanges } rest'
    exact (h.deliverable.settle (h.coherent.settle_members hsending haccepts)).of_same hdirty hworking
  | refuse failure =>
    obtain ⟨runtime, hrefuse, rfl⟩ := Option.map_eq_some_iff.mp htake
    unfold WorkflowDraftRuntime.refuse at hrefuse
    split at hrefuse
    · cases hrefuse
    · cases hrefuse
      have hsame := end_job_snapshot { session.runtime with
        snapshot := session.runtime.snapshot.fail failure
        exchanges := .refused :: session.runtime.exchanges } false
      refine h.deliverable.of_same ((congrArg _ hsame).trans ?_) ((congrArg _ hsame).trans ?_) <;>
        cases failure <;> rfl

theorem answered_advance {action : StudioAction} (now : Nat) :
    (session.advance now).answered server action ↔ session.answered server action := by
  cases action <;> rfl

theorem effective_advance {action : StudioAction} {now : Nat} :
    Effective (session.advance now) action ↔ Effective session action := by
  cases action <;> rfl

theorem Ready.step (h : Ready server session) (heffective : Effective session turn.action)
    (hcommit : server.studio.commit turn session session') : Ready server session' := by
  obtain ⟨hanswered, hstep⟩ := hcommit
  unfold StudioSession.step at hstep
  split at hstep
  · cases hstep
  · exact (h.advance turn.at_time).take ((answered_advance _).mpr hanswered) (effective_advance.mpr heffective) hstep

/-! ### What an answer leaves fresh -/

theorem Fresh.settle {draft : WorkflowDraftReadback} {next : BuiltDraftEdit} (h : Coherent server session)
    {rest : List BuiltDraftEdit} (hsending : session.runtime.sending = some ⟨edit, rest⟩)
    (haccepts : server.accepts session.runtime.snapshot.accepted_draft edit.operation draft) (hnext : next ∈ rest)
    (hfresh : Fresh session.runtime.snapshot next) :
    Fresh (session.runtime.snapshot.accept_draft edit.sent draft) next := by
  have hpending : session.runtime.pending = edit :: rest := by simp [WorkflowDraftRuntime.pending, hsending]
  have hedit : edit ∈ session.runtime.pending := by simp [hpending]
  have hgroups := h.pending_groups
  rw [hpending, List.map_cons, List.nodup_cons] at hgroups
  have hother : ∀ x, x.group = next.sent.group → ∀ value, ¬ edit.sent.carries x value := fun x hgroup value hcarries =>
    hgroups.1 (List.mem_map.mpr ⟨next, hnext, hgroup.symm.trans hcarries.group⟩)
  have hremains : ∀ x, (session.runtime.snapshot.accept_draft edit.sent draft).dirty.has x ↔
      session.runtime.snapshot.dirty.has x ∧ ¬ ∃ value, edit.sent.carries x value ∧
        session.runtime.snapshot.working_workflow.read x = some value :=
    fun x => retain_newer_dirty_fields_has (h.pending_present edit hedit)
  obtain ⟨x, hx, hgroup⟩ := hfresh.dirty
  have hkept : ¬ ∃ value, edit.sent.carries x value ∧
      session.runtime.snapshot.working_workflow.read x = some value := by
    rintro ⟨value, hcarries, -⟩
    exact hother x hgroup value hcarries
  refine ⟨⟨x, (hremains x).mpr ⟨hx, hkept⟩, hgroup⟩, fun y hy hgroup => ?_⟩
  obtain ⟨value, hcarries, hread⟩ := hfresh.carries y ((hremains y).mp hy).1 hgroup
  refine ⟨value, hcarries, ?_⟩
  obtain ⟨base, hbase⟩ := Option.isSome_iff_exists.mp ((read_isSome_congr
    (h.settle_members hsending haccepts) y).trans (Option.isSome_iff_exists.mpr ⟨value, hread⟩))
  have hoverlay : (session.runtime.snapshot.accept_draft edit.sent draft).working_workflow.read y =
      (draft.workflow.read y).map fun value =>
        if (session.runtime.snapshot.accept_draft edit.sent draft).dirty.has y
        then (session.runtime.snapshot.working_workflow.read y).getD value else value := read_overlay_dirty_values
  rw [hbase] at hoverlay
  obtain ⟨_, _, hvalue⟩ := Option.map_eq_some_iff.mp hoverlay.symm
  rw [if_pos hy, hread, Option.getD_some] at hvalue
  rw [hbase, hvalue]

/-! ### The measure -/

def WorkflowDraftRuntime.is_delivering (runtime : WorkflowDraftRuntime) : Bool :=
  runtime.sending.isSome && runtime.jobs.head? = some .autosave

open Classical in
/-- The requests of the running operation that need not clean their group. -/
noncomputable def WorkflowDraftRuntime.stale_count (runtime : WorkflowDraftRuntime) : Nat :=
  runtime.pending.countP fun edit => ¬ Fresh runtime.snapshot edit

/-- What the flushes have still to do with the dirty fields as they are. -/
def WorkflowDraftRuntime.flush_count (runtime : WorkflowDraftRuntime) : Nat :=
  if has_dirty_fields runtime.snapshot.dirty then
    3 * runtime.checking + 2 * runtime.jobs.count .flush - if runtime.sending.isSome then 1 else 0
  else runtime.checking + 2 * runtime.jobs.count .flush

/-- First the autosave, then the dirty groups, then the stale requests, then the rounds of the flushes. -/
noncomputable def WorkflowDraftRuntime.remaining (runtime : WorkflowDraftRuntime) : ℕ ×ₗ ℕ ×ₗ ℕ ×ₗ ℕ :=
  toLex (runtime.autosave.rank runtime.now runtime.is_delivering,
    toLex (runtime.snapshot.dirty.count, toLex (runtime.stale_count, runtime.flush_count)))

theorem remaining_lt (hrank : runtime'.autosave.rank runtime'.now runtime'.is_delivering ≤
      runtime.autosave.rank runtime.now runtime.is_delivering)
    (hrest : runtime'.autosave.rank runtime'.now runtime'.is_delivering <
        runtime.autosave.rank runtime.now runtime.is_delivering ∨
      runtime'.snapshot.dirty.count ≤ runtime.snapshot.dirty.count ∧
        (runtime'.snapshot.dirty.count < runtime.snapshot.dirty.count ∨ runtime'.stale_count ≤ runtime.stale_count ∧
          (runtime'.stale_count < runtime.stale_count ∨ runtime'.flush_count < runtime.flush_count))) :
    runtime'.remaining < runtime.remaining := by
  unfold WorkflowDraftRuntime.remaining
  refine Prod.Lex.toLex_lt_toLex'.mpr ⟨hrank, fun hsame => Prod.Lex.toLex_lt_toLex'.mpr ?_⟩
  dsimp only at hsame ⊢
  obtain ⟨hdirty, hrest⟩ := hrest.resolve_left (by omega)
  refine ⟨hdirty, fun hsame => Prod.Lex.toLex_lt_toLex'.mpr ?_⟩
  dsimp only at hsame ⊢
  obtain ⟨hstale, hrest⟩ := hrest.resolve_left (by omega)
  exact ⟨hstale, fun hsame => hrest.resolve_left (by omega)⟩

theorem count_append_flush {jobs : List Job} : (jobs ++ [Job.flush]).count Job.flush = jobs.count Job.flush + 1 := by
  simp

theorem fresh_congr {state state' : StudioSnapshot} (hdirty : state'.dirty = state.dirty)
    (hworking : state'.working_workflow = state.working_workflow) : Fresh state' edit ↔ Fresh state edit :=
  ⟨fun h => ⟨hdirty ▸ h.dirty, hdirty ▸ hworking ▸ h.carries⟩,
    fun h => ⟨hdirty ▸ h.dirty, hdirty ▸ hworking ▸ h.carries⟩⟩

theorem stale_count_idle (h : runtime.sending = none) : runtime.stale_count = 0 := by
  simp [WorkflowDraftRuntime.stale_count, WorkflowDraftRuntime.pending, h]

/-- A timer that fires brings the autosave nearer to its end. -/
theorem fire_lower (horderly : Orderly runtime) (hfire : runtime.fire = some runtime') :
    runtime'.remaining < runtime.remaining := by
  unfold WorkflowDraftRuntime.fire at hfire
  split at hfire
  · cases hfire
  · rename_i timer htimer
    split at hfire
    · cases hfire
    · rename_i hdue
      rw [horderly.armed.queue_delivery (by simp [htimer])] at hfire
      cases hfire
      obtain ⟨hsome, hqueued⟩ := horderly.armed.timer (by simp [htimer])
      obtain ⟨due_at, hdue_at⟩ := Option.isSome_iff_exists.mp hsome
      have hnone : runtime.jobs.count .autosave = 0 := by
        have hcount := horderly.queued
        rwa [hqueued] at hcount
      have hidle : WorkflowDraftRuntime.is_delivering { runtime with
          autosave := { runtime.autosave with timer := none, is_delivery_queued := true }
          jobs := runtime.jobs ++ [.autosave] } = false := by
        cases hjobs : runtime.jobs with
        | nil =>
          have hsending : runtime.sending = none := by
            by_contra hne
            exact horderly.running (Option.ne_none_iff_isSome.mp hne) hjobs
          simp [WorkflowDraftRuntime.is_delivering, hsending]
        | cons job jobs =>
          rw [hjobs] at hnone
          cases job with
          | autosave => simp at hnone
          | flush => simp [WorkflowDraftRuntime.is_delivering]
      have hlt : AutosaveDeadline.rank { runtime.autosave with timer := none, is_delivery_queued := true } runtime.now
          false < runtime.autosave.rank runtime.now runtime.is_delivering := by
        simp only [AutosaveDeadline.rank, hdue_at, hqueued, htimer, Option.any_some, ↓reduceIte, Bool.false_eq_true]
        split <;> split <;> simp_all
        omega
      refine remaining_lt ?_ (.inl ?_) <;> simp only [↓reduceIte, hidle]
      · exact hlt.le
      · exact hlt

/-- A flush that tests its loop's condition ends, or goes one round on. -/
theorem check_lower (hcheck : runtime.check = some runtime') : runtime'.remaining < runtime.remaining := by
  unfold WorkflowDraftRuntime.check at hcheck
  split at hcheck
  · cases hcheck
  · rename_i checking hchecking
    have hstale : ∀ snapshot : StudioSnapshot, ∀ jobs, snapshot.dirty = runtime.snapshot.dirty →
        snapshot.working_workflow = runtime.snapshot.working_workflow →
        WorkflowDraftRuntime.stale_count { runtime with snapshot, jobs, checking } ≤ runtime.stale_count := by
      intro snapshot jobs hdirty hworking
      refine le_of_eq (congrArg (fun p => List.countP p runtime.pending) (funext fun edit => ?_))
      exact decide_eq_decide.mpr (not_congr (fresh_congr hdirty hworking))
    split at hcheck
    · rename_i hdirty
      split at hcheck
      · cases hcheck
        refine remaining_lt ?_ (.inr ⟨le_rfl, .inr ⟨hstale _ _ rfl rfl, .inr ?_⟩⟩)
        · refine le_of_eq (congrArg _ ?_)
          cases hjobs : runtime.jobs <;> simp [WorkflowDraftRuntime.is_delivering, hjobs]
        · simp only [WorkflowDraftRuntime.flush_count, hdirty, ↓reduceIte, count_append_flush, hchecking]
          split <;> omega
      · cases hcheck
        refine remaining_lt le_rfl (.inr ⟨le_rfl, .inr ⟨hstale _ _ rfl rfl, .inr ?_⟩⟩)
        simp only [WorkflowDraftRuntime.flush_count, hdirty, ↓reduceIte, hchecking]
        split <;> omega
    · rename_i hdirty
      cases hcheck
      refine remaining_lt le_rfl (.inr ⟨le_rfl, .inr ⟨hstale _ _ rfl rfl, .inr ?_⟩⟩)
      simp only [WorkflowDraftRuntime.flush_count, hdirty, Bool.false_eq_true, ↓reduceIte, hchecking]
      omega

theorem Fresh.has_dirty {state : StudioSnapshot} (h : Fresh state edit) : has_dirty_fields state.dirty = true := by
  obtain ⟨x, hx, -⟩ := h.dirty
  rw [has_dirty_fields_iff, StudioDirtyState.count]
  cases x with
  | workflow field => exact Nat.add_pos_left (List.length_pos_of_mem hx) _
  | member id field => exact Nat.add_pos_right _ (List.length_pos_of_mem hx.1)

/-- An operation that starts brings the autosave or a flush nearer to its end. -/
theorem run_lower (horderly : Orderly runtime) (hdeliverable : Deliverable runtime.snapshot)
    (hrun : runtime.run = some runtime') : runtime'.remaining < runtime.remaining := by
  obtain ⟨hsending, ⟨jobs, hjobs, rfl⟩ | ⟨jobs, hjobs, rfl⟩⟩ := run_cases hrun
  · obtain ⟨hqueued, -⟩ := horderly.delivering hjobs
    have hidle : runtime.is_delivering = false := by simp [WorkflowDraftRuntime.is_delivering, hsending]
    have hdelivered := (runtime.autosave.rank_delivered runtime.now false hqueued horderly.armed)
    suffices hlt : ∀ next : WorkflowDraftRuntime, next = _ → next.autosave.rank next.now next.is_delivering <
        runtime.autosave.rank runtime.now runtime.is_delivering from
      remaining_lt (hlt _ rfl).le (.inl (hlt _ rfl))
    rintro next rfl
    rw [hidle]
    cases hdue : runtime.autosave.due_at with
    | none =>
      have hclaim : runtime.autosave.claim_due runtime.now = (runtime.autosave, false) := by
        simp [AutosaveDeadline.claim_due, hdue]
      simp only [hclaim, Bool.false_eq_true, ↓reduceIte, WorkflowDraftRuntime.send_edits, WorkflowDraftRuntime.end_job,
        hjobs, WorkflowDraftRuntime.is_delivering, Option.isSome_none, Bool.false_and]
      exact hdelivered (.inr (by simp [hdue]))
    | some due_at =>
      by_cases hearly : runtime.now < due_at
      · have hclaim : runtime.autosave.claim_due runtime.now = (runtime.autosave, false) := by
          simp [AutosaveDeadline.claim_due, hdue, hearly]
        simp only [hclaim, Bool.false_eq_true, ↓reduceIte, WorkflowDraftRuntime.send_edits,
          WorkflowDraftRuntime.end_job, hjobs, WorkflowDraftRuntime.is_delivering, Option.isSome_none, Bool.false_and]
        exact hdelivered (.inr (by simpa [hdue] using hearly))
      · have hclaim : runtime.autosave.claim_due runtime.now = ({ runtime.autosave with due_at := none }, true) := by
          simp [AutosaveDeadline.claim_due, hdue, hearly]
        have hbefore : runtime.autosave.rank runtime.now false = 2 := by
          simp [AutosaveDeadline.rank, hdue, hqueued, hearly]
        rw [hbefore, hclaim]
        dsimp only
        cases build_draft_edit_batch runtime.snapshot.working_workflow runtime.snapshot.dirty with
        | nil =>
          simp [WorkflowDraftRuntime.send_edits, WorkflowDraftRuntime.end_job, hjobs, AutosaveDeadline.delivered,
            AutosaveDeadline.arm, AutosaveDeadline.rank]
        | cons edit rest =>
          simp [WorkflowDraftRuntime.send_edits, AutosaveDeadline.rank, hqueued]
  · cases hnext : build_next_draft_edit runtime.snapshot.working_workflow runtime.snapshot.dirty with
    | none =>
      have hclean := hdeliverable.next hnext
      simp only [Option.toList_none, WorkflowDraftRuntime.send_edits, WorkflowDraftRuntime.end_job, hjobs, ↓reduceIte]
      refine remaining_lt ?_ (.inr ⟨le_rfl, .inr ⟨?_, .inr ?_⟩⟩)
      · simp [WorkflowDraftRuntime.is_delivering, hsending]
      · rw [stale_count_idle rfl]
        exact Nat.zero_le _
      · simp only [WorkflowDraftRuntime.flush_count, hclean, Bool.false_eq_true, ↓reduceIte, hjobs,
          List.count_cons_self]
        omega
    | some edit =>
      have hfresh : Fresh runtime.snapshot edit := build_draft_edit_batch_fresh (List.mem_of_mem_head? hnext)
      have hdirty := hfresh.has_dirty
      simp only [Option.toList_some, WorkflowDraftRuntime.send_edits]
      refine remaining_lt ?_ (.inr ⟨le_rfl, .inr ⟨?_, .inr ?_⟩⟩)
      · simp [WorkflowDraftRuntime.is_delivering, hsending, hjobs]
      · rw [stale_count_idle hsending]
        refine le_of_eq ?_
        simp only [WorkflowDraftRuntime.stale_count, WorkflowDraftRuntime.pending]
        have hstill : Fresh { runtime.snapshot with save := .saving } edit :=
          ⟨hfresh.dirty, hfresh.carries⟩
        exact List.countP_eq_zero.mpr fun next hmem => by
          obtain rfl := List.mem_singleton.mp hmem
          simp [hstill]
      · simp only [WorkflowDraftRuntime.flush_count, hdirty, ↓reduceIte, hsending, hjobs, List.count_cons_self,
          Option.isSome_some, Option.isSome_none, Bool.false_eq_true]
        omega

/-- An accepted answer ends an autosave, cleans a group, or was to a stale request. -/
theorem accept_lower (h : Ready server session) {draft : WorkflowDraftReadback} {rest : List BuiltDraftEdit}
    (hsending : session.runtime.sending = some ⟨edit, rest⟩)
    (haccepts : server.accepts session.runtime.snapshot.accepted_draft edit.operation draft)
    (haccept : session.runtime.accept draft = some runtime') : runtime'.remaining < session.runtime.remaining := by
  obtain ⟨edit', rest', hsending', rfl⟩ := accept_success haccept
  obtain ⟨rfl, rfl⟩ : edit' = edit ∧ rest' = rest := by simpa [hsending'] using hsending
  set state := session.runtime.snapshot.accept_draft edit'.sent draft with hstate
  have hpresent := h.coherent.pending_present edit' (by simp [WorkflowDraftRuntime.pending, hsending])
  have hdirty : state.dirty.count ≤ session.runtime.snapshot.dirty.count := retain_newer_dirty_fields_count_le
  have hstale : ∀ next : WorkflowDraftRuntime, next.pending = rest' → next.snapshot.dirty = state.dirty →
      next.snapshot.working_workflow = state.working_workflow →
      next.snapshot.dirty.count ≤ session.runtime.snapshot.dirty.count ∧
        (next.snapshot.dirty.count < session.runtime.snapshot.dirty.count ∨
          next.stale_count ≤ session.runtime.stale_count ∧ (next.stale_count < session.runtime.stale_count ∨
            next.flush_count < session.runtime.flush_count)) := by
    intro next hpending hnext hworking
    rw [hnext]
    refine ⟨hdirty, ?_⟩
    by_cases hfresh : Fresh session.runtime.snapshot edit'
    · exact .inl (hfresh.count_lt hpresent)
    · have hle : next.stale_count < session.runtime.stale_count := by
        simp only [WorkflowDraftRuntime.stale_count, hpending]
        simp only [WorkflowDraftRuntime.pending, hsending]
        rw [List.countP_cons_of_pos (by simpa using hfresh)]
        refine Nat.lt_succ_of_le (List.countP_mono_left fun other hother hnot => ?_)
        simp only [decide_eq_true_eq] at hnot ⊢
        exact fun hother' => hnot ((fresh_congr hnext hworking).mpr
          (Fresh.settle h.coherent hsending haccepts hother hother'))
      exact .inr ⟨hle.le, .inl hle⟩
  have hjobs := h.orderly.running (by simp [hsending])
  obtain ⟨job, jobs, hjobs⟩ := List.exists_cons_of_ne_nil hjobs
  cases hrest : rest' with
  | cons next rest =>
    refine remaining_lt (le_of_eq ?_) (.inr (hstale _ ?_ rfl rfl))
    · simp only [WorkflowDraftRuntime.send_edits, WorkflowDraftRuntime.is_delivering, hsending, Option.isSome_some]
      rfl
    · rw [hrest]
      rfl
  | nil =>
    cases job with
    | autosave =>
      obtain ⟨hqueued, -⟩ := h.orderly.delivering hjobs
      have hdelivered := session.runtime.autosave.rank_delivered session.runtime.now
        session.runtime.is_delivering hqueued h.orderly.armed
        (.inl (by simp [WorkflowDraftRuntime.is_delivering, hsending, hjobs]))
      simp only [WorkflowDraftRuntime.send_edits, WorkflowDraftRuntime.end_job, hjobs]
      exact remaining_lt hdelivered.le (.inl hdelivered)
    | flush =>
      simp only [WorkflowDraftRuntime.send_edits, WorkflowDraftRuntime.end_job, hjobs]
      refine remaining_lt ?_ (.inr (hstale _ ?_ rfl rfl))
      · simp [WorkflowDraftRuntime.is_delivering, hjobs]
      · rw [hrest]
        rfl

/-! ### The end of a flush -/

theorem advance_remaining_le {now : Nat} (h : session.runtime.now ≤ now) :
    (session.advance now).runtime.remaining ≤ session.runtime.remaining :=
  Prod.Lex.toLex_le_toLex'.mpr ⟨AutosaveDeadline.rank_mono h, fun _ => le_rfl⟩

theorem Quiet.ready (h : Ready server session) (hquiet : Quiet server session session') : Ready server session' := by
  obtain ⟨turn, haction, hcommit⟩ := hquiet
  refine h.step ?_ hcommit
  cases hturn : turn.action <;> rw [hturn] at haction <;> first | exact haction.elim | trivial

theorem Quiet.lower (h : Ready server session) (hquiet : Quiet server session session') :
    session'.runtime.remaining < session.runtime.remaining := by
  obtain ⟨⟨now, action⟩, haction, hanswered, hstep⟩ := hquiet
  unfold StudioSession.step at hstep
  split at hstep
  · cases hstep
  · rename_i hnow
    refine lt_of_lt_of_le ?_ (advance_remaining_le (Nat.le_of_not_lt hnow))
    have hready := h.advance now
    replace hanswered := (answered_advance now).mpr hanswered
    cases action with
    | fire =>
      obtain ⟨runtime, hfire, rfl⟩ := Option.map_eq_some_iff.mp hstep
      exact fire_lower hready.orderly hfire
    | check =>
      obtain ⟨runtime, hcheck, rfl⟩ := Option.map_eq_some_iff.mp hstep
      exact check_lower hcheck
    | run =>
      obtain ⟨runtime, hrun, rfl⟩ := Option.map_eq_some_iff.mp hstep
      exact run_lower hready.orderly hready.deliverable hrun
    | accept draft =>
      obtain ⟨runtime, haccept, rfl⟩ := Option.map_eq_some_iff.mp hstep
      obtain ⟨edit, rest, hsending, haccepts⟩ := hanswered
      exact accept_lower hready hsending haccepts haccept
    | edit_workflow | edit_member | flush_edits | retry_save | refuse => exact haction.elim

theorem Ready.flush_ends (h : Ready server session) : FlushEnds server session where
  finite := acc_of_measure wellFounded_lt (fun session => session.runtime.remaining)
    (fun _ _ hready hquiet => hquiet.ready hready) (fun _ _ hready hquiet => hquiet.lower hready) h
  progress session' _ hflushing hidle := by
    rcases hflushing with hchecking | hjob
    · obtain ⟨runtime, hcheck⟩ : ∃ runtime, session'.runtime.check = some runtime := by
        unfold WorkflowDraftRuntime.check
        split
        · omega
        · split
          · split <;> exact ⟨_, rfl⟩
          · exact ⟨_, rfl⟩
      refine ⟨{ session' with runtime }, ⟨session'.runtime.now, .check⟩, trivial, trivial, ?_⟩
      simp only [StudioSession.step, lt_irrefl, ↓reduceIte, StudioSession.take]
      exact Option.map_eq_some_iff.mpr ⟨runtime, hcheck, rfl⟩
    · obtain ⟨runtime, hrun⟩ : ∃ runtime, session'.runtime.run = some runtime := by
        obtain ⟨job, jobs, hjobs⟩ := List.exists_cons_of_ne_nil (List.ne_nil_of_mem hjob)
        unfold WorkflowDraftRuntime.run
        rw [hidle, hjobs]
        cases job <;> exact ⟨_, rfl⟩
      refine ⟨{ session' with runtime }, ⟨session'.runtime.now, .run⟩, trivial, trivial, ?_⟩
      simp only [StudioSession.step, lt_irrefl, ↓reduceIte, StudioSession.take]
      exact Option.map_eq_some_iff.mpr ⟨runtime, hrun, rfl⟩
  answered session' _ edit rest draft hsending haccepts := by
    obtain ⟨runtime, haccept⟩ : ∃ runtime, session'.runtime.accept draft = some runtime := by
      unfold WorkflowDraftRuntime.accept
      rw [hsending]
      exact ⟨_, rfl⟩
    refine ⟨{ session' with runtime }, ⟨session'.runtime.now, .accept draft⟩, trivial,
      ⟨edit, rest, hsending, haccepts⟩, ?_⟩
    simp only [StudioSession.step, lt_irrefl, ↓reduceIte, StudioSession.take]
    exact Option.map_eq_some_iff.mpr ⟨runtime, haccept, rfl⟩

theorem Ready.load (draft : WorkflowDraftReadback) (now : Nat) : Ready server (.load draft now) where
  coherent := .load draft now
  orderly := ⟨⟨fun hdue => (by cases hdue), fun htimer => (by cases htimer)⟩, rfl, fun hsending => (by cases hsending)⟩
  deliverable _ hmem := by cases hmem

end OhMySubagents.WorkflowStudio
