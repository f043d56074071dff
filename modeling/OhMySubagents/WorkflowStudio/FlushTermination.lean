import OhMySubagents.WorkflowStudio.Coherence

open Relational

namespace OhMySubagents.WorkflowStudio

variable {server : DraftServer} {session session' : StudioSession} {turn : StudioTurn} {edit : BuiltDraftEdit}
  {edits : List BuiltDraftEdit}

/-! ### The queue and the deadline -/

namespace AutosaveDeadline

/-- A deadline has a timer or a queued delivery, and a timer belongs to a deadline that nothing delivers yet. -/
structure Armed (deadline : AutosaveDeadline) : Prop where
  due : deadline.due_at.isSome → deadline.is_delivery_queued ∨ deadline.timer.isSome
  timer : deadline.timer.isSome → deadline.due_at.isSome ∧ deadline.is_delivery_queued = false

variable {deadline : AutosaveDeadline} {now : Nat}

theorem arm_queued : (deadline.arm now).is_delivery_queued = deadline.is_delivery_queued := by
  unfold arm
  split
  · rfl
  · split <;> rfl

theorem arm_due_at : (deadline.arm now).due_at = deadline.due_at := by
  unfold arm
  split
  · rfl
  · split <;> rfl

theorem Armed.arm (htimer : deadline.timer.isSome → deadline.due_at.isSome ∧ deadline.is_delivery_queued = false) :
    (deadline.arm now).Armed := by
  constructor
  · rw [arm_due_at, arm_queued]
    intro hdue
    obtain ⟨due, hdue⟩ := Option.isSome_iff_exists.mp hdue
    cases hqueued : deadline.is_delivery_queued with
    | true => exact .inl rfl
    | false =>
      refine .inr ?_
      cases htimer : deadline.timer <;> simp [AutosaveDeadline.arm, hdue, hqueued, htimer]
  · rw [arm_due_at, arm_queued]
    unfold AutosaveDeadline.arm
    split
    · exact htimer
    · rename_i hdue
      split
      · exact htimer
      · rename_i hnone
        rw [Bool.not_eq_true, Bool.or_eq_false_iff] at hnone
        exact fun _ => ⟨by simp [hdue], hnone.1⟩

theorem Armed.record_edit (h : deadline.Armed) : (deadline.record_edit now).Armed :=
  .arm fun htimer => ⟨rfl, (h.timer htimer).2⟩

theorem Armed.clear : deadline.clear.Armed := ⟨fun h => (by cases h), fun h => (by cases h)⟩

theorem Armed.delivered (h : deadline.Armed) : (deadline.delivered now).Armed :=
  .arm fun htimer => ⟨(h.timer htimer).1, rfl⟩

theorem Armed.claim_due (now : Nat) (h : deadline.Armed) (hqueued : deadline.is_delivery_queued = true) :
    (deadline.claim_due now).1.Armed ∧ (deadline.claim_due now).1.is_delivery_queued = true := by
  unfold AutosaveDeadline.claim_due
  split
  · exact ⟨h, hqueued⟩
  · split
    · exact ⟨h, hqueued⟩
    · refine ⟨⟨fun hdue => (by cases hdue), fun htimer => ?_⟩, hqueued⟩
      have hidle := (h.timer htimer).2
      rw [hqueued] at hidle
      cases hidle

/-- A timer whose time has come queues a delivery. -/
theorem Armed.queue_delivery (h : deadline.Armed) (htimer : deadline.timer.isSome) :
    deadline.queue_delivery = ({ deadline with timer := none, is_delivery_queued := true }, true) := by
  obtain ⟨hdue, hqueued⟩ := h.timer htimer
  obtain ⟨due, hdue⟩ := Option.isSome_iff_exists.mp hdue
  simp [AutosaveDeadline.queue_delivery, hdue, hqueued]

/-- How far an autosave is from its end, when no edit moves its deadline. -/
def rank (deadline : AutosaveDeadline) (now : Nat) (is_delivering : Bool) : Nat :=
  match deadline.due_at with
  | none => if deadline.is_delivery_queued then 1 else 0
  | some due_at =>
    if deadline.is_delivery_queued then if is_delivering then 4 else if now < due_at then 5 else 2
    else if deadline.timer.any (· < due_at) then 6 else 3

theorem rank_mono {later : Nat} {is_delivering : Bool} (h : now ≤ later) :
    deadline.rank later is_delivering ≤ deadline.rank now is_delivering := by
  unfold rank
  split
  · exact le_rfl
  · split
    · split
      · exact le_rfl
      · split <;> split <;> omega
    · exact le_rfl

theorem rank_delivered (now : Nat) (is_delivering : Bool) (h : deadline.is_delivery_queued = true)
    (harmed : deadline.Armed) (hdelivering : is_delivering = true ∨ ∀ due_at ∈ deadline.due_at, now < due_at) :
    (deadline.delivered now).rank now false < deadline.rank now is_delivering := by
  have htimer : deadline.timer = none := by
    cases htimer : deadline.timer with
    | none => rfl
    | some timer =>
      have hidle := (harmed.timer (by simp [htimer])).2
      rw [h] at hidle
      cases hidle
  have hqueued : (deadline.delivered now).is_delivery_queued = false := arm_queued
  have hsame : (deadline.delivered now).due_at = deadline.due_at := arm_due_at
  unfold rank
  rw [hsame, hqueued, h]
  cases hdue : deadline.due_at with
  | none => simp
  | some due_at =>
    have harm : (deadline.delivered now).timer = some (now + (due_at - now)) := by
      simp [delivered, arm, hdue, htimer]
    simp only [harm, Option.any_some, Bool.false_eq_true, ↓reduceIte]
    rw [if_neg (by simp; omega)]
    rcases hdelivering with rfl | hearly
    · simp
    · rw [if_pos (hearly due_at hdue)]
      split <;> simp

end AutosaveDeadline

/-- How the mutation queue, the deadline and the running operation hang together. -/
structure Orderly (runtime : WorkflowDraftRuntime) : Prop where
  armed : runtime.autosave.Armed
  queued : runtime.jobs.count .autosave = if runtime.autosave.is_delivery_queued then 1 else 0
  running : runtime.sending.isSome → runtime.jobs ≠ []

variable {runtime runtime' : WorkflowDraftRuntime}

theorem Orderly.delivering (h : Orderly runtime) {jobs : List Job} (hjobs : runtime.jobs = .autosave :: jobs) :
    runtime.autosave.is_delivery_queued = true ∧ jobs.count .autosave = 0 := by
  have hqueued := h.queued
  rw [hjobs, List.count_cons_self] at hqueued
  split at hqueued
  · rename_i hdelivery
    exact ⟨hdelivery, by omega⟩
  · omega

theorem Orderly.end_job (h : Orderly runtime) (is_accepted : Bool) : Orderly (runtime.end_job is_accepted) := by
  unfold WorkflowDraftRuntime.end_job
  split
  · exact ⟨h.armed, h.queued, fun hsome => by cases hsome⟩
  · rename_i jobs hjobs
    obtain ⟨hqueued, hcount⟩ := h.delivering hjobs
    exact ⟨h.armed.delivered, by simpa [AutosaveDeadline.delivered, AutosaveDeadline.arm_queued] using hcount,
      fun hsome => by cases hsome⟩
  · rename_i jobs hjobs
    refine ⟨h.armed, ?_, fun hsome => by cases hsome⟩
    rw [← h.queued, hjobs]
    simp

theorem Orderly.send_edits (h : Orderly runtime) (hjobs : runtime.jobs ≠ []) : Orderly (runtime.send_edits edits) := by
  cases edits with
  | nil => exact h.end_job true
  | cons edit rest => exact ⟨h.armed, h.queued, fun _ => hjobs⟩

theorem Orderly.schedule_autosave (h : Orderly runtime) : Orderly runtime.schedule_autosave := by
  unfold WorkflowDraftRuntime.schedule_autosave
  split
  · exact ⟨h.armed.record_edit, by simpa [AutosaveDeadline.record_edit, AutosaveDeadline.arm_queued] using h.queued,
      h.running⟩
  · exact ⟨.clear, h.queued, h.running⟩

theorem Orderly.flush_edits (h : Orderly runtime) : Orderly runtime.flush_edits := ⟨.clear, h.queued, h.running⟩

theorem Orderly.fire (h : Orderly runtime) (hfire : runtime.fire = some runtime') : Orderly runtime' := by
  unfold WorkflowDraftRuntime.fire at hfire
  split at hfire
  · cases hfire
  · rename_i timer htimer
    split at hfire
    · cases hfire
    · rw [h.armed.queue_delivery (by simp [htimer])] at hfire
      cases hfire
      obtain ⟨hdue, hqueued⟩ := h.armed.timer (by simp [htimer])
      refine ⟨⟨fun _ => .inl rfl, fun hsome => (by cases hsome)⟩, ?_, fun _ => by simp⟩
      have hcount := h.queued
      rw [hqueued] at hcount
      simpa using hcount

theorem Orderly.check (h : Orderly runtime) (hcheck : runtime.check = some runtime') : Orderly runtime' := by
  unfold WorkflowDraftRuntime.check at hcheck
  split at hcheck
  · cases hcheck
  · split at hcheck
    · split at hcheck
      · cases hcheck
        exact ⟨h.armed, by simpa using h.queued, fun _ => by simp⟩
      · cases hcheck
        exact ⟨h.armed, h.queued, h.running⟩
    · cases hcheck
      exact ⟨h.armed, h.queued, h.running⟩

/-- What the queue does when it starts its next operation. -/
theorem run_cases (hrun : runtime.run = some runtime') : runtime.sending = none ∧
    ((∃ jobs, runtime.jobs = .autosave :: jobs ∧
      runtime' = { runtime with autosave := (runtime.autosave.claim_due runtime.now).1 }.send_edits
        (if (runtime.autosave.claim_due runtime.now).2 then
          build_draft_edit_batch runtime.snapshot.working_workflow runtime.snapshot.dirty else [])) ∨
    ∃ jobs, runtime.jobs = .flush :: jobs ∧ runtime' = runtime.send_edits
      (build_next_draft_edit runtime.snapshot.working_workflow runtime.snapshot.dirty).toList) := by
  unfold WorkflowDraftRuntime.run at hrun
  dsimp only at hrun
  split at hrun
  · rename_i jobs hsending hjobs
    cases hrun
    exact ⟨hsending, .inl ⟨jobs, hjobs, rfl⟩⟩
  · rename_i jobs hsending hjobs
    cases hrun
    exact ⟨hsending, .inr ⟨jobs, hjobs, rfl⟩⟩
  · cases hrun

theorem Orderly.run (h : Orderly runtime) (hrun : runtime.run = some runtime') : Orderly runtime' := by
  obtain ⟨hsending, ⟨jobs, hjobs, rfl⟩ | ⟨jobs, hjobs, rfl⟩⟩ := run_cases hrun
  · obtain ⟨hqueued, hcount⟩ := h.delivering hjobs
    obtain ⟨harmed, hstill⟩ := h.armed.claim_due runtime.now hqueued
    refine Orderly.send_edits ⟨harmed, ?_, fun hsome => ?_⟩ (by simp [hjobs])
    · have hsame := hstill.trans hqueued.symm
      exact h.queued.trans (by rw [hsame])
    · exact h.running hsome
  · exact h.send_edits (by simp [hjobs])

theorem Orderly.accept (h : Orderly runtime) {draft : WorkflowDraftReadback}
    (haccept : runtime.accept draft = some runtime') : Orderly runtime' := by
  unfold WorkflowDraftRuntime.accept at haccept
  split at haccept
  · cases haccept
  · rename_i edit rest hsending
    cases haccept
    exact Orderly.send_edits ⟨h.armed, h.queued, h.running⟩ (h.running (by simp [hsending]))

/-- One turn of the event loop keeps the queue in order. -/
theorem Orderly.take (h : Orderly session.runtime) {action : StudioAction}
    (htake : session.take action = some session') :
    Orderly session'.runtime := by
  cases action with
  | edit_workflow patch =>
    cases htake
    change Orderly (session.runtime.edit_workflow patch)
    unfold WorkflowDraftRuntime.edit_workflow
    split
    · exact Orderly.schedule_autosave ⟨h.armed, h.queued, h.running⟩
    · exact h
  | edit_member member_id patch =>
    cases htake
    change Orderly (session.runtime.edit_member member_id patch)
    unfold WorkflowDraftRuntime.edit_member
    split
    · split
      · exact h
      · exact Orderly.schedule_autosave ⟨h.armed, h.queued, h.running⟩
    · exact h
  | fire =>
    obtain ⟨runtime, hfire, rfl⟩ := Option.map_eq_some_iff.mp htake
    exact h.fire hfire
  | flush_edits =>
    cases htake
    exact h.flush_edits
  | retry_save =>
    obtain ⟨runtime, hretry, rfl⟩ := Option.map_eq_some_iff.mp htake
    unfold WorkflowDraftRuntime.retry_save at hretry
    split at hretry
    · cases hretry
      exact h
    · split at hretry
      · cases hretry
        exact h
      · split at hretry
        · cases hretry
        · cases hretry
          exact Orderly.flush_edits ⟨h.armed, h.queued, h.running⟩
  | check =>
    obtain ⟨runtime, hcheck, rfl⟩ := Option.map_eq_some_iff.mp htake
    exact h.check hcheck
  | run =>
    obtain ⟨runtime, hrun, rfl⟩ := Option.map_eq_some_iff.mp htake
    exact h.run hrun
  | accept draft =>
    obtain ⟨runtime, haccept, rfl⟩ := Option.map_eq_some_iff.mp htake
    exact h.accept haccept
  | refuse failure =>
    obtain ⟨runtime, hrefuse, rfl⟩ := Option.map_eq_some_iff.mp htake
    unfold WorkflowDraftRuntime.refuse at hrefuse
    split at hrefuse
    · cases hrefuse
    · cases hrefuse
      have hrefused : Orderly { session.runtime with
          snapshot := session.runtime.snapshot.fail failure
          exchanges := .refused :: session.runtime.exchanges } := ⟨h.armed, h.queued, h.running⟩
      exact hrefused.end_job false

/-! ### Requests that clean their fields -/

/-- A request that carries the current value of every dirty field of its group, which has one. -/
structure Fresh (state : StudioSnapshot) (edit : BuiltDraftEdit) : Prop where
  dirty : ∃ x, state.dirty.has x ∧ x.group = edit.sent.group
  carries : ∀ x, state.dirty.has x → x.group = edit.sent.group →
    ∃ value, edit.sent.carries x value ∧ state.working_workflow.read x = some value

/-- Every dirty Member is in the tree and has a dirty field. -/
def Deliverable (state : StudioSnapshot) : Prop :=
  ∀ member_id ∈ state.dirty.member_ids,
    state.working_workflow.has_member member_id ∧ state.dirty.member_fields member_id ≠ []

theorem build_draft_edit_batch_fresh {state : StudioSnapshot}
    (hedit : edit ∈ build_draft_edit_batch state.working_workflow state.dirty) : Fresh state edit := by
  rcases mem_build_draft_edit_batch.mp hedit with ⟨hdirty, rfl⟩ | ⟨member_id, hmem, hbuilt⟩
  · obtain ⟨field, hfield⟩ := List.exists_mem_of_ne_nil _ hdirty
    refine ⟨⟨.workflow field, hfield, rfl⟩, fun x hx hgroup => ?_⟩
    cases x with
    | member => cases hgroup
    | workflow field => exact ⟨_, ⟨hx, rfl⟩, rfl⟩
  · obtain ⟨member, hmember, hfields, rfl⟩ := build_member_edit_success hbuilt
    obtain rfl := find_member_id _ _ hmember
    obtain ⟨field, hfield⟩ := List.exists_mem_of_ne_nil _ hfields
    refine ⟨⟨.member member.id field, ⟨hmem, hfield⟩, rfl⟩, fun x hx hgroup => ?_⟩
    cases x with
    | workflow => cases hgroup
    | member member_id field =>
      obtain rfl := Option.some.inj hgroup
      exact ⟨_, ⟨rfl, hx.2, rfl⟩, by simp [NormalizedWorkflow.read, hmember]⟩

/-- A deliverable dirty state has a request to send, unless nothing is dirty. -/
theorem Deliverable.next {state : StudioSnapshot} (h : Deliverable state)
    (hnone : build_next_draft_edit state.working_workflow state.dirty = none) :
    has_dirty_fields state.dirty = false := by
  have hempty := List.head?_eq_none_iff.mp hnone
  unfold build_draft_edit_batch at hempty
  obtain ⟨hworkflow, hmembers⟩ := List.append_eq_nil_iff.mp hempty
  have hclean : state.dirty.workflow = [] := by
    by_contra hdirty
    simp [hdirty] at hworkflow
  have hids : state.dirty.member_ids = [] := by
    rw [List.eq_nil_iff_forall_not_mem]
    intro member_id hmem
    obtain ⟨hmember, hfields⟩ := h member_id hmem
    obtain ⟨member, hfound⟩ := Option.isSome_iff_exists.mp hmember
    have hbuilt := (List.filterMap_eq_nil_iff.mp hmembers) member_id hmem
    simp [build_member_edit, hfound, hfields] at hbuilt
  simp [has_dirty_fields, hclean, hids]

end OhMySubagents.WorkflowStudio
