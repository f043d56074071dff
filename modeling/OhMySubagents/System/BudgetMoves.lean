import OhMySubagents.Relational.Table
import OhMySubagents.System.Reachable

open Relational

namespace OhMySubagents

/-- What an Assignment may still spend, and on whose account it was created. -/
structure AssignmentBudget where
  parent_assignment_id : Option AssignmentId
  child_assignment_limit : Nat
  child_assignments_remaining : Nat
  retry_limit : Nat
  retries_remaining : Nat
  deriving DecidableEq, Repr

def Assignment.budget (assignment : Assignment) : AssignmentBudget where
  parent_assignment_id := assignment.parent_assignment_id
  child_assignment_limit := assignment.child_assignment_limit
  child_assignments_remaining := assignment.child_assignments_remaining
  retry_limit := assignment.retry_limit
  retries_remaining := assignment.retries_remaining

/-- The Member that a Wave delegates for, as the Team revision of its Dispatch has it. -/
def DelegationWave.parent (wave : DelegationWave) : RevisionId × MemberId :=
  (wave.team_revision_id, wave.parent_member_id)

/-- Nothing was spent, created or fanned out. -/
structure SameBudgets (db db' : TaskDb) : Prop where
  assignments : db'.assignments.view Assignment.budget = db.assignments.view Assignment.budget
  attempts : db'.attempts.view Attempt.assignment_id = db.attempts.view Attempt.assignment_id
  waves : db'.delegation_waves.view DelegationWave.parent = db.delegation_waves.view DelegationWave.parent
  members : db'.delegation_wave_members.view DelegationWaveMember.child_member_id =
    db.delegation_wave_members.view DelegationWaveMember.child_member_id
  limit : db'.task.max_wave_members = db.task.max_wave_members

variable {controller : Controller} {db db' db'' : TaskDb} {t : Transaction}

theorem SameBudgets.refl (db : TaskDb) : SameBudgets db db := ⟨rfl, rfl, rfl, rfl, rfl⟩

theorem SameBudgets.trans (h : SameBudgets db db') (h' : SameBudgets db' db'') : SameBudgets db db'' :=
  ⟨h'.assignments.trans h.assignments, h'.attempts.trans h.attempts, h'.waves.trans h.waves,
    h'.members.trans h.members, h'.limit.trans h.limit⟩

/-- What one transaction does to the budgets: nothing, a fan-out, or one retry. -/
inductive BudgetMoves (db db' : TaskDb) : Prop
  | same (budgets : SameBudgets db db')
  | delegated {authority request wave_id wait_id rev members rows consumed dispatched}
      (auth : AuthorityHolds db authority) (committed :
        DelegationCommitted db authority request wave_id wait_id rev members rows consumed dispatched db')
  | retried {authority : NodeOperationAuthority} {retry_attempt_id retry_of_attempt_id}
      (auth : AuthorityHolds db authority) (budget : 0 < authority.assignment.retries_remaining)
      (fresh : db.attempts.get? retry_attempt_id = none)
      (attempts : db'.attempts.view Attempt.assignment_id = (db.attempts.set retry_attempt_id
        (new_attempt authority.assignment_id retry_of_attempt_id)).view Attempt.assignment_id)
      (rest : SameBudgets { db with
        attempts := db'.attempts
        assignments := db.assignments.set authority.assignment_id { authority.assignment with
          retries_remaining := authority.assignment.retries_remaining - 1 } } db')

private theorem attempts_set {a : AttemptId} {attempt attempt' : Attempt} (row : db.attempts.get? a = some attempt)
    (h : attempt'.assignment_id = attempt.assignment_id) :
    (db.attempts.set a attempt').view Attempt.assignment_id = db.attempts.view Attempt.assignment_id :=
  Table.view_set_same row h

theorem LanesHalted.budgets (h : LanesHalted db db') : SameBudgets db db' := by
  have hattempts := Evolves.view (f := Attempt.assignment_id) (fun r r' hfrees => by
    obtain rfl | rfl := hfrees <;> rfl) h.attempts
  rw [h.frame]
  exact ⟨rfl, hattempts, rfl, rfl, rfl⟩

theorem TaskPaused.budgets {reason : PauseReason} (h : TaskPaused db db' reason) : SameBudgets db db' := by
  have hpaused : SameBudgets db { db with task := db.task.pause reason } := ⟨rfl, rfl, rfl, rfl, rfl⟩
  exact hpaused.trans h.halted.budgets

theorem StartPaused.budgets {signal : DispatchStartDue} {candidate : ProviderStartCandidate} {dispatch : DispatchTurn}
    {attempt : Attempt} (h : StartPaused db signal candidate dispatch attempt db') : SameBudgets db db' := by
  have hfailed : SameBudgets db (db.fail_start signal dispatch attempt) :=
    ⟨rfl, attempts_set h.attempt_row rfl, rfl, rfl, rfl⟩
  exact hfailed.trans h.paused.budgets

theorem SourceClaimed.waves {claimed : TaskDb} {snapshot : OrdinaryDispatchSnapshot} {dispatch_id : DispatchId}
    (h : SourceClaimed db snapshot dispatch_id claimed) :
    claimed.delegation_waves.view DelegationWave.parent = db.delegation_waves.view DelegationWave.parent := by
  cases h with
  | delegation_wave row => exact Table.view_set_same row rfl
  | human_request | command_run | replan_transition | tail => rfl

theorem DispatchOpened.budgets {claimed : TaskDb} {snapshot : OrdinaryDispatchSnapshot}
    {prepared : PreparedDispatchRequest} {attempt : Attempt}
    (h : DispatchOpened db claimed db' snapshot prepared attempt) : SameBudgets db db' := by
  have hattempts : db'.attempts.view Attempt.assignment_id = db.attempts.view Attempt.assignment_id := by
    rw [h.rows]
    exact attempts_set h.attempt_row rfl
  have hwaves := h.claims.waves
  rw [h.frame]
  exact ⟨rfl, hattempts, hwaves, rfl, rfl⟩

theorem ContinuationsOpened.budgets {items : List PreparedPausedContinuation} (h : ContinuationsOpened items db db') :
    SameBudgets db db' := by
  induction h with
  | nil => exact .refl _
  | cons opened _ _ ih => exact opened.budgets.trans ih

theorem CheckpointCommitted.budgets {authority : NodeOperationAuthority} {checkpoint_id : CheckpointId}
    {drawn : Option DrawnSemanticRetry} {outcome : Option BoundaryOutcome} {wave_id : Option WaveId}
    (hauth : AuthorityHolds db authority)
    (h : CheckpointCommitted db authority checkpoint_id drawn outcome wave_id db') : BudgetMoves db db' := by
  have hrow : db.attempts.get? authority.attempt_id = some authority.attempt := hauth.lane.attempt_row
  have hclosed : ∀ closed, (db.assignments.set authority.assignment_id
      { authority.assignment with terminal_outcome := closed }).view Assignment.budget =
        db.assignments.view Assignment.budget := fun _ => Table.view_set_same hauth.assignment_row rfl
  cases h with
  | progress => exact .same ⟨rfl, attempts_set hrow rfl, rfl, rfl, rfl⟩
  | child _ _ _ member_row =>
    exact .same ⟨hclosed _, attempts_set hrow rfl, rfl, Table.view_set_same member_row rfl, rfl⟩
  | root => exact .same ⟨hclosed _, attempts_set hrow rfl, rfl, rfl, rfl⟩
  | @retry draw _ _ _ budget _ _ fresh_attempt hretried staged =>
    obtain ⟨attempt, hattempt, -, -, rfl⟩ := stage_starting_dispatch_eq_ok.mp staged
    rw [hretried] at hattempt ⊢
    have hdraw : (((db.attempts.set authority.attempt_id (completed_attempt authority checkpoint_id .retry)).set
        draw.attempt_id (new_attempt authority.assignment_id (some authority.attempt_id))).get? draw.attempt_id) =
          some attempt := hattempt
    rw [Table.get?_set_self] at hdraw
    cases hdraw
    have hcompleted : (db.attempts.set authority.attempt_id (completed_attempt authority checkpoint_id .retry)).view
        Attempt.assignment_id = db.attempts.view Attempt.assignment_id := attempts_set hrow rfl
    refine @BudgetMoves.retried _ _ authority draw.attempt_id (some authority.attempt_id) hauth budget
      fresh_attempt ?_ ⟨?_, rfl, rfl, rfl, rfl⟩
    · dsimp only [semantic_retry_basis]
      rw [Table.set_set, Table.view_set, hcompleted, Table.view_set]
    · rw [Table.view_set, Table.view_set]
      rfl

theorem NodeOperationCommitted.budgets {authority : NodeOperationAuthority} {operation : NodeOperation}
    (hauth : AuthorityHolds db authority) (h : NodeOperationCommitted db authority operation db') :
    BudgetMoves db db' := by
  cases h with
  | get_current_context => exact .same (.refl _)
  | set_work_plan committed =>
    rcases set_assignment_work_plan_success committed with rfl | ⟨_, _, hrow, rfl⟩
    · exact .same (.refl _)
    · exact .same ⟨Table.view_set_same hrow rfl, rfl, rfl, rfl, rfl⟩
  | checkpoint committed => exact committed.budgets hauth
  | delegate committed => exact .delegated hauth committed
  | replan committed =>
    refine .same ?_
    rw [committed.result]
    exact ⟨rfl, attempts_set hauth.lane.attempt_row rfl, rfl, rfl, rfl⟩
  | open_human_request committed =>
    obtain ⟨-, -, -, rfl⟩ := open_human_request_success hauth committed
    exact .same ⟨rfl, attempts_set hauth.lane.attempt_row rfl, rfl, rfl, rfl⟩
  | start_command_run committed =>
    obtain ⟨-, -, -, rfl⟩ := start_command_run_success hauth committed
    exact .same ⟨rfl, attempts_set hauth.lane.attempt_row rfl, rfl, rfl, rfl⟩

theorem WaitsDropped.budgets (h : WaitsDropped db db') : SameBudgets db db' := by
  have hattempts := Evolves.view (f := Attempt.assignment_id) (fun r r' hunparks => by
    obtain rfl | ⟨-, rfl⟩ := hunparks <;> rfl) h.attempts
  have hwaves := Evolves.view (f := DelegationWave.parent) (fun r r' hgives => by
    obtain rfl | ⟨-, rfl⟩ := hgives <;> rfl) h.waves
  have hmembers := Evolves.view (f := DelegationWaveMember.child_member_id) (fun r r' hgives => by
    obtain rfl | rfl := hgives
    · rfl
    · unfold DelegationWaveMember.cancel
      split <;> rfl) h.members
  rw [h.frame]
  exact ⟨rfl, hattempts, hwaves, hmembers, rfl⟩

theorem cancel_execution_rows_budgets (db : TaskDb) : SameBudgets db (cancel_execution_rows db) := by
  refine ⟨rfl, ?_, ?_, ?_, rfl⟩
  · refine Evolves.view (R := fun r r' => r'.assignment_id = r.assignment_id) (fun _ _ h => h)
      (.mapRows fun _ attempt => ?_)
    unfold Attempt.cancel
    split <;> rfl
  · refine Evolves.view (R := fun r r' => r'.parent = r.parent) (fun _ _ h => h) (.mapRows fun _ wave => ?_)
    split <;> rfl
  · refine Evolves.view (R := fun r r' => r'.child_member_id = r.child_member_id) (fun _ _ h => h)
      (.mapRows fun _ member => ?_)
    unfold DelegationWaveMember.cancel
    split <;> rfl

theorem TaskCancelled.budgets {closed unwaited : TaskDb} (h : TaskCancelled db closed unwaited db') :
    SameBudgets db db' := by
  have hcancelled : SameBudgets db { db with task := db.task.cancel } := ⟨rfl, rfl, rfl, rfl, rfl⟩
  have hclosed := hcancelled.trans h.halted.budgets
  have hended := (hclosed.trans h.dropped.budgets).trans (cancel_execution_rows_budgets unwaited)
  rw [h.rows]
  exact ⟨hended.assignments, hended.attempts, hended.waves, hended.members, hended.limit⟩

theorem TaskDb.resumed_budgets (db : TaskDb) : SameBudgets db db.resumed := by
  refine ⟨rfl, ?_, rfl, rfl, rfl⟩
  refine Evolves.view (R := fun r r' => r'.assignment_id = r.assignment_id) (fun _ _ h => h)
    (.mapRows fun _ attempt => ?_)
  unfold Attempt.reset_watchdog
  split <;> rfl

/-- **Budgets.** What one transaction spends and creates. -/
theorem Committed.budgets (h : Committed controller db t db') : BudgetMoves db db' := by
  cases h with
  | unchanged => exact .same (.refl _)
  | admitted => exact .same ⟨rfl, rfl, rfl, rfl, rfl⟩
  | operated _ auth _ committed => exact committed.budgets auth
  | wave_settled settled =>
    obtain ⟨wave, _, wait, attempt, -, hwave, -, -, -, -, -, hattempt, -, -, -, rfl⟩ :=
      settle_delegation_wave_success settled
    exact .same ⟨rfl, attempts_set hattempt rfl, Table.view_set_same hwave rfl, rfl, rfl⟩
  | opened _ opened => exact .same opened.opened.budgets
  | barrier moved => cases moved <;> exact .same ⟨rfl, rfl, rfl, rfl, rfl⟩
  | provider_start _ _ recorded =>
    cases recorded with
    | accepted => exact .same ⟨rfl, rfl, rfl, rfl, rfl⟩
    | rotated => exact .same ⟨rfl, rfl, rfl, rfl, rfl⟩
    | paused paused => exact .same paused.budgets
  | paused paused => exact .same paused.budgets
  | retired => exact .same ⟨rfl, rfl, rfl, rfl, rfl⟩
  | replaced _ _ replaced =>
    refine .same ?_
    rw [replaced.result]
    exact ⟨rfl, attempts_set replaced.lane.attempt_row rfl, rfl, rfl, rfl⟩
  | human_resolved resolved =>
    refine .same ?_
    rw [resolved.result]
    exact ⟨rfl, attempts_set resolved.waits.attempt_row rfl, rfl, rfl, rfl⟩
  | launch_claimed => exact .same ⟨rfl, rfl, rfl, rfl, rfl⟩
  | marked_running => exact .same ⟨rfl, rfl, rfl, rfl, rfl⟩
  | cancellation_requested => exact .same ⟨rfl, rfl, rfl, rfl, rfl⟩
  | command_ended ended =>
    cases ended.terminated with
    | cleared waits => exact .same ⟨rfl, attempts_set waits.attempt_row rfl, rfl, rfl, rfl⟩
    | orphaned => exact .same ⟨rfl, rfl, rfl, rfl, rfl⟩
  | continued _ continued => exact .same ((TaskDb.resumed_budgets db).trans continued.opened.budgets)
  | cancelled cancelled => exact .same cancelled.budgets
  | steered => exact .same ⟨rfl, rfl, rfl, rfl, rfl⟩

end OhMySubagents
