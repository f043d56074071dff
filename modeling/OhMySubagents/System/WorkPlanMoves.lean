import OhMySubagents.System.Reachable

open Relational

namespace OhMySubagents

variable {controller : Controller} {db db' db'' : TaskDb} {t : Transaction}

/-- No plan was set: the plans are as they were, and every Assignment keeps its plan revision. -/
structure SamePlans (db db' : TaskDb) : Prop where
  plans : db'.assignment_work_plans = db.assignment_work_plans
  revisions : ∀ assignment_id assignment, db.assignments.get? assignment_id = some assignment →
    ∃ assignment', db'.assignments.get? assignment_id = some assignment' ∧
      assignment'.work_plan_revision = assignment.work_plan_revision

theorem SamePlans.of_eq (hplans : db'.assignment_work_plans = db.assignment_work_plans)
    (hassignments : db'.assignments = db.assignments) : SamePlans db db' :=
  ⟨hplans, fun _ assignment hrow => ⟨assignment, hassignments ▸ hrow, rfl⟩⟩

theorem SamePlans.refl (db : TaskDb) : SamePlans db db := .of_eq rfl rfl

theorem SamePlans.trans (h : SamePlans db db') (h' : SamePlans db' db'') : SamePlans db db'' := by
  refine ⟨h'.plans.trans h.plans, fun assignment_id assignment hrow => ?_⟩
  obtain ⟨middle, hmiddle, hsame⟩ := h.revisions assignment_id assignment hrow
  obtain ⟨last, hlast, hsame'⟩ := h'.revisions assignment_id middle hmiddle
  exact ⟨last, hlast, hsame'.trans hsame⟩

/-- A change of one Assignment that leaves its plan revision. -/
theorem SamePlans.of_set {assignment_id : AssignmentId} {assignment changed : Assignment}
    (hrow : db.assignments.get? assignment_id = some assignment)
    (hassignments : db'.assignments = db.assignments.set assignment_id changed)
    (hsame : changed.work_plan_revision = assignment.work_plan_revision)
    (hplans : db'.assignment_work_plans = db.assignment_work_plans) : SamePlans db db' := by
  refine ⟨hplans, fun other found hfound => ?_⟩
  rw [hassignments, Table.get?_set]
  split
  · next hother =>
    obtain rfl := Option.some.inj (hrow.symm.trans (hother ▸ hfound))
    exact ⟨changed, rfl, hsame⟩
  · exact ⟨found, hfound, rfl⟩

theorem LanesHalted.plans (h : LanesHalted db db') : SamePlans db db' := by
  rw [h.frame]
  exact .of_eq rfl rfl

theorem TaskPaused.plans {reason : PauseReason} (h : TaskPaused db db' reason) : SamePlans db db' := by
  have hpaused : SamePlans db { db with task := db.task.pause reason } := .of_eq rfl rfl
  exact hpaused.trans h.halted.plans

theorem StartPaused.plans {signal : DispatchStartDue} {candidate : ProviderStartCandidate} {dispatch : DispatchTurn}
    {attempt : Attempt} (h : StartPaused db signal candidate dispatch attempt db') : SamePlans db db' := by
  have hfailed : SamePlans db (db.fail_start signal dispatch attempt) := .of_eq rfl rfl
  exact hfailed.trans h.paused.plans

theorem DispatchOpened.plans {claimed : TaskDb} {snapshot : OrdinaryDispatchSnapshot}
    {prepared : PreparedDispatchRequest} {attempt : Attempt}
    (h : DispatchOpened db claimed db' snapshot prepared attempt) : SamePlans db db' := by
  rw [h.frame]
  exact .of_eq rfl rfl

theorem ContinuationsOpened.plans {items : List PreparedPausedContinuation} (h : ContinuationsOpened items db db') :
    SamePlans db db' := by
  induction h with
  | nil => exact .refl _
  | cons opened _ _ ih => exact opened.plans.trans ih

theorem CheckpointCommitted.plans {authority : NodeOperationAuthority} {checkpoint_id : CheckpointId}
    {drawn : Option DrawnSemanticRetry} {outcome : Option BoundaryOutcome} {wave_id : Option WaveId}
    (hauth : AuthorityHolds db authority)
    (h : CheckpointCommitted db authority checkpoint_id drawn outcome wave_id db') : SamePlans db db' := by
  cases h with
  | progress => exact .of_eq rfl rfl
  | child => exact .of_set hauth.assignment_row rfl rfl rfl
  | root => exact .of_set hauth.assignment_row rfl rfl rfl
  | retry _ _ _ _ _ hretried staged =>
    obtain ⟨_, -, -, -, rfl⟩ := stage_starting_dispatch_eq_ok.mp staged
    rw [hretried]
    exact .of_set hauth.assignment_row rfl rfl rfl

theorem DelegationTables.plans {authority : NodeOperationAuthority} {wave_id : WaveId} {wait_id : WaitId}
    {members : List PreparedWaveMember} (hauth : AuthorityHolds db authority)
    (h : DelegationTables db db' authority wave_id wait_id members) : SamePlans db db' := by
  obtain ⟨children, hinserted, -, hassignments⟩ := h.assignments
  obtain ⟨hchildren, -, -⟩ := Table.insertAll_eq_some hinserted
  have hcreated : SamePlans db { db with assignments := children } :=
    ⟨rfl, fun assignment_id assignment hrow => ⟨assignment, (hchildren assignment_id assignment).mpr (.inl hrow), rfl⟩⟩
  have hparent : children.get? authority.assignment_id = some authority.assignment :=
    (hchildren _ _).mpr (.inl hauth.assignment_row)
  refine hcreated.trans (.of_set hparent hassignments rfl ?_)
  rw [h.frame]

/-- Only `set_work_plan` sets a plan. -/
def Transaction.sets_work_plan : Transaction → Bool
  | .commit_node_operation _ (.set_work_plan _) _ => true
  | _ => false

theorem NodeOperationCommitted.plans {authority : NodeOperationAuthority} {operation : NodeOperation}
    (hauth : AuthorityHolds db authority) (hother : ∀ request, operation ≠ .set_work_plan request)
    (h : NodeOperationCommitted db authority operation db') : SamePlans db db' := by
  cases h with
  | get_current_context => exact .refl _
  | @set_work_plan request => exact absurd rfl (hother request)
  | checkpoint committed => exact committed.plans hauth
  | delegate committed => exact (committed.tables hauth).plans hauth
  | replan committed =>
    rw [committed.result]
    exact .of_eq rfl rfl
  | open_human_request committed =>
    obtain ⟨-, -, -, rfl⟩ := open_human_request_success hauth committed
    exact .of_eq rfl rfl
  | start_command_run committed =>
    obtain ⟨-, -, -, rfl⟩ := start_command_run_success hauth committed
    exact .of_eq rfl rfl

theorem WaitsDropped.plans (h : WaitsDropped db db') : SamePlans db db' := by
  rw [h.frame]
  exact .of_eq rfl rfl

theorem TaskCancelled.plans {closed unwaited : TaskDb} (h : TaskCancelled db closed unwaited db') :
    SamePlans db db' := by
  have hcancelled : SamePlans db { db with task := db.task.cancel } := .of_eq rfl rfl
  have hrows : SamePlans unwaited db' := by
    rw [h.rows]
    exact .of_eq rfl rfl
  exact ((hcancelled.trans h.halted.plans).trans h.dropped.plans).trans hrows

theorem Committed.plans (hother : t.sets_work_plan = false) (h : Committed controller db t db') : SamePlans db db' := by
  cases h with
  | unchanged => exact .refl _
  | admitted => exact .of_eq rfl rfl
  | operated _ auth _ committed =>
    refine committed.plans auth ?_
    rintro request rfl
    cases hother
  | wave_settled settled =>
    obtain ⟨_, _, _, _, -, -, -, -, -, -, -, -, -, -, -, rfl⟩ := settle_delegation_wave_success settled
    exact .of_eq rfl rfl
  | opened _ opened => exact opened.opened.plans
  | barrier moved => cases moved <;> exact .of_eq rfl rfl
  | provider_start _ _ recorded =>
    cases recorded with
    | accepted => exact .of_eq rfl rfl
    | rotated => exact .of_eq rfl rfl
    | paused paused => exact paused.plans
  | paused paused => exact paused.plans
  | retired => exact .of_eq rfl rfl
  | replaced _ _ replaced =>
    rw [replaced.result]
    exact .of_eq rfl rfl
  | human_resolved resolved =>
    rw [resolved.result]
    exact .of_eq rfl rfl
  | launch_claimed => exact .of_eq rfl rfl
  | marked_running => exact .of_eq rfl rfl
  | cancellation_requested => exact .of_eq rfl rfl
  | command_ended ended => cases ended.terminated <;> exact .of_eq rfl rfl
  | continued _ continued =>
    have hresumed : SamePlans db db.resumed := .of_eq rfl rfl
    exact hresumed.trans continued.opened.plans
  | cancelled cancelled => exact cancelled.plans
  | steered => exact .of_eq rfl rfl

end OhMySubagents
