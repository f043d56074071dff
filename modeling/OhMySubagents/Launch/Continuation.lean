import OhMySubagents.Dispatch.OrdinaryContinuation
import OhMySubagents.Control.Transitions
import OhMySubagents.Dispatch.Successor

open Relational

namespace OhMySubagents

/-- What one read of the Task start found. The prompt of a root Dispatch shows no steers. -/
structure RootOpeningSnapshot where
  task_control_revision : Nat
  assignment_work_plan_revision : Nat
  assignment_id : AssignmentId
  attempt_id : AttemptId
  team_revision_id : RevisionId
  selection : MemberSelection
  expected_task_status : TaskStatus
  expected_pause_reason : Option PauseReason
  opened_reason : DispatchOpenedReason
  deriving DecidableEq, Repr

/-- The revisions that a resume names; an opening of a running Task names none. -/
abbrev ExpectedRevisions := Option (RevisionId × Nat)

def task_start_is_current (db : TaskDb) (expected_task_status : TaskStatus) (expected : ExpectedRevisions) : Bool :=
  db.task_start_source.successor_dispatch_id.isNone && db.task.status == expected_task_status &&
    db.task.root_assignment_id == db.task_start_source.root_assignment_id &&
    expected.all (fun revisions => db.task.current_team_revision_id == revisions.1 &&
      db.task.control_revision == revisions.2) &&
    (expected_task_status != .paused || db.task.pause_reason.isSome)

/-- The selection of the root and the Assignment that the start names. -/
def read_root_runtime_context (db : TaskDb) : Option (TeamRevisionMember × Assignment × Attempt) := do
  let rev ← db.team_revisions.get? db.task.current_team_revision_id
  let selection ← rev.members.find? fun selection => selection.parent_member_id.isNone
  let configuration ← db.member_configurations.get? selection.member_configuration_id
  let assignment ← db.assignments.get? db.task_start_source.root_assignment_id
  let attempt ← db.attempts.get? db.task_start_source.root_attempt_id
  ensure (configuration.member_id == selection.member_id && assignment.member_id == selection.member_id &&
    attempt.assignment_id == db.task_start_source.root_assignment_id)
  return (selection, assignment, attempt)

/-- `_root_trigger`: the reason that the opened Dispatch records. -/
def root_opened_reason : TaskStatus → DispatchOpenedReason
  | .paused => .operator_continue
  | _ => .root

/-- Read one exact unconsumed Task-start source and its pinned root truth. -/
def read_root_opening_snapshot (db : TaskDb) (expected_task_status : TaskStatus) (expected : ExpectedRevisions) :
    Result (Option RootOpeningSnapshot) :=
  if task_start_is_current db expected_task_status expected then do
    let (selection, assignment, attempt) ← require_some (read_root_runtime_context db)
      (value_error "runnable Task start is missing its root runtime context")
    require (assignment.current_attempt_id == db.task_start_source.root_attempt_id &&
        assignment.terminal_outcome.isNone && attempt.is_idle db.task_start_source.root_assignment_id)
      (value_error "runnable Task start has inconsistent pinned root context")
    return some {
      task_control_revision := db.task.control_revision
      assignment_work_plan_revision := assignment.work_plan_revision
      assignment_id := db.task_start_source.root_assignment_id
      attempt_id := db.task_start_source.root_attempt_id
      team_revision_id := db.task.current_team_revision_id
      selection := ⟨selection.member_id, selection.member_configuration_id, selection.member_branch_basis_id⟩
      expected_task_status := expected_task_status
      expected_pause_reason := db.task.pause_reason
      opened_reason := root_opened_reason expected_task_status }
  else .ok none

/-- Final-transaction predicates for the prepared root context. -/
def root_context_is_current (db : TaskDb) (snapshot : RootOpeningSnapshot) : Bool :=
  (db.team_revisions.get? snapshot.team_revision_id).any (fun rev =>
      rev.members.any fun selected => selected.member_id == snapshot.selection.member_id &&
        selected.parent_member_id.isNone &&
        selected.member_configuration_id == snapshot.selection.member_configuration_id &&
        selected.member_branch_basis_id == snapshot.selection.member_branch_basis_id) &&
    (db.assignments.get? snapshot.assignment_id).any (fun assignment =>
      assignment.is_current snapshot.selection.member_id snapshot.attempt_id &&
        assignment.work_plan_revision == snapshot.assignment_work_plan_revision) &&
    (db.attempts.get? snapshot.attempt_id).any (fun attempt => attempt.is_idle snapshot.assignment_id) &&
    db.task.root_assignment_id == snapshot.assignment_id &&
    db.task.current_team_revision_id == snapshot.team_revision_id

/-- The root lane that a snapshot of the Task start describes. -/
structure RootRead (db : TaskDb) (snapshot : RootOpeningSnapshot) (rev : TeamRevision) (selected : TeamRevisionMember)
    (assignment : Assignment) (attempt : Attempt) : Prop where
  unconsumed : db.task_start_source.successor_dispatch_id = none
  status : db.task.status = snapshot.expected_task_status
  team : db.task.current_team_revision_id = snapshot.team_revision_id
  rev_row : db.team_revisions.get? snapshot.team_revision_id = some rev
  selected_mem : selected ∈ rev.members
  selection : snapshot.selection =
    ⟨selected.member_id, selected.member_configuration_id, selected.member_branch_basis_id⟩
  start : db.task_start_source.root_assignment_id = snapshot.assignment_id ∧
    db.task_start_source.root_attempt_id = snapshot.attempt_id
  assignment_row : db.assignments.get? snapshot.assignment_id = some assignment
  assignment_member : assignment.member_id = selected.member_id
  assignment_attempt : assignment.current_attempt_id = snapshot.attempt_id
  assignment_open : assignment.terminal_outcome = none
  attempt_row : db.attempts.get? snapshot.attempt_id = some attempt
  idle : attempt.is_idle snapshot.assignment_id = true
  opened_reason : snapshot.opened_reason = root_opened_reason snapshot.expected_task_status

theorem read_root_opening_snapshot_success {db : TaskDb} {expected_task_status : TaskStatus}
    {expected : ExpectedRevisions} {snapshot : RootOpeningSnapshot}
    (h : read_root_opening_snapshot db expected_task_status expected = .ok (some snapshot)) :
    snapshot.expected_task_status = expected_task_status ∧
      ∃ rev selected assignment attempt, RootRead db snapshot rev selected assignment attempt := by
  unfold read_root_opening_snapshot at h
  split at h
  · next hcurrent =>
    simp only [bind_eq_ok_iff, require_some_eq_ok_iff, require_eq_ok_iff, Bool.and_eq_true, beq_iff_eq,
      Option.isNone_iff_eq_none] at h
    obtain ⟨⟨selected, assignment, attempt⟩, hcontext, _, ⟨⟨hattempt, hopen⟩, hidle⟩, h⟩ := h
    cases h
    unfold read_root_runtime_context at hcontext
    simp only [Option.bind_eq_bind, Option.bind_eq_some_iff, ensure_eq_some_iff, Bool.and_eq_true, beq_iff_eq,
      Option.pure_def, Option.some.injEq, Prod.mk.injEq] at hcontext
    obtain ⟨rev, hrev, _, hselected, _, -, _, hassignment, _, hattemptrow, _, ⟨⟨-, hmember⟩, -⟩, rfl, rfl, rfl⟩ :=
      hcontext
    unfold task_start_is_current at hcurrent
    simp only [Bool.and_eq_true, beq_iff_eq, Option.isNone_iff_eq_none] at hcurrent
    obtain ⟨⟨⟨⟨hnone, hstatus⟩, -⟩, -⟩, -⟩ := hcurrent
    exact ⟨rfl, rev, _, _, _, hnone, hstatus, rfl, hrev, List.mem_of_find?_eq_some hselected, rfl, ⟨rfl, rfl⟩,
      hassignment, hmember, hattempt, hopen, hattemptrow, hidle, rfl⟩
  · cases h

def RootOpeningSnapshot.starting_basis (snapshot : RootOpeningSnapshot) : StartingDispatchBasis where
  assignment_id := snapshot.assignment_id
  team_revision_id := snapshot.team_revision_id
  selection := snapshot.selection
  attempt_id := snapshot.attempt_id
  opened_reason := snapshot.opened_reason
  predecessor_dispatch_id := none

def advance_root_task_state (db : TaskDb) (snapshot : RootOpeningSnapshot) : Option TaskDb := do
  ensure (db.task.root_assignment_id == snapshot.assignment_id &&
    db.task.status == snapshot.expected_task_status &&
    db.task.current_team_revision_id == snapshot.team_revision_id &&
    db.task.control_revision == snapshot.task_control_revision && root_context_is_current db snapshot &&
    (snapshot.expected_task_status != .paused || db.task.pause_reason == snapshot.expected_pause_reason))
  return if snapshot.expected_task_status = .paused then { db with task := db.task.resume } else db

def claim_root_dispatch_source (db : TaskDb) (snapshot : RootOpeningSnapshot) (dispatch_id : DispatchId) :
    Option TaskDb := do
  ensure (db.task_start_source.root_assignment_id == snapshot.assignment_id &&
    db.task_start_source.root_attempt_id == snapshot.attempt_id &&
    db.task_start_source.successor_dispatch_id.isNone)
  return { db with task_start_source := { db.task_start_source with successor_dispatch_id := some dispatch_id } }

/-- Stage the root Dispatch, unless another transition won since its prompt was read. -/
def stage_root_dispatch_if_current (db : TaskDb) (snapshot : RootOpeningSnapshot) (drawn : DrawnDispatchRequest) :
    Result (Option TaskDb) :=
  match (advance_root_task_state db snapshot).bind fun advanced =>
      claim_root_dispatch_source advanced snapshot drawn.dispatch_id with
  | none => .ok none
  | some claimed =>
    (stage_starting_dispatch claimed snapshot.starting_basis (prepare_dispatch_request drawn [])).map some

def pause_failed_task_start (db : TaskDb) : TaskDb :=
  if db.task.status == .running && db.task_start_source.successor_dispatch_id.isNone then
    { db with task := db.task.pause .runtime_transition_failed }
  else db

/-- Open the root Dispatch of a Task whose start was committed without one. -/
def open_root_dispatch (stale db : TaskDb) (drawn : Option DrawnDispatchRequest) :
    Result (OrdinaryOpeningOutcome × TaskDb) :=
  match read_root_opening_snapshot stale .running none, drawn with
  | .error _, _ => .ok (.paused, pause_failed_task_start db)
  | .ok none, _ => .ok (.skipped, db)
  | .ok (some _), none => .ok (.paused, pause_failed_task_start db)
  | .ok (some snapshot), some drawn => do
    match ← stage_root_dispatch_if_current db snapshot drawn with
    | none => return (.skipped, db)
    | some opened => return (.opened drawn.dispatch_id, opened)

def root_continue_conflict (summary : String) : RuntimeOperationError := conflict_error summary

/-- `RuntimeOperationError` of a resume whose prompt or provider cannot be prepared. -/
def continue_preparation_error : RuntimeOperationError :=
  illegal_state_error "operator continue preparation failed"

/-- Directly resume one paused, unconsumed Task-start source. -/
def continue_paused_root_dispatch (stale db : TaskDb) (expected : RevisionId × Nat)
    (drawn : Option DrawnDispatchRequest) : Result TaskDb :=
  match read_root_opening_snapshot stale .paused (some expected), drawn with
  | .error _, _ => .error continue_preparation_error
  | .ok none, _ => .error (root_continue_conflict "paused Task start is no longer current")
  | .ok (some _), none => .error continue_preparation_error
  | .ok (some snapshot), some drawn => do
    match ← stage_root_dispatch_if_current db snapshot drawn with
    | none => .error (root_continue_conflict "another controller transition won during continue")
    | some opened => return opened

/-- Stage the first exact Dispatch inside Task admission. -/
def stage_initial_root_dispatch (db : TaskDb) (drawn : Option DrawnDispatchRequest) : Result TaskDb := do
  let snapshot ← require_some (← read_root_opening_snapshot db .running none)
    (internal_error "new Task is missing its exact root Dispatch source")
  let drawn ← require_some drawn (value_error "new Task has no provider route for its root")
  require_some (← stage_root_dispatch_if_current db snapshot drawn)
    (internal_error "new Task root Dispatch source changed during admission")

variable {stale db db' : TaskDb} {drawn : Option DrawnDispatchRequest}

/-- A start that was consumed opens nothing again. -/
theorem stage_root_dispatch_if_current_consumed {snapshot : RootOpeningSnapshot} {request : DrawnDispatchRequest}
    (hconsumed : db.task_start_source.successor_dispatch_id.isSome) :
    stage_root_dispatch_if_current db snapshot request = .ok none := by
  have hclaim : (advance_root_task_state db snapshot).bind (fun advanced =>
      claim_root_dispatch_source advanced snapshot request.dispatch_id) = none := by
    rw [Option.bind_eq_none_iff]
    intro advanced hadvanced
    have hsource : advanced.task_start_source = db.task_start_source := by
      unfold advance_root_task_state at hadvanced
      simp only [Option.bind_eq_bind, Option.bind_eq_some_iff, Option.pure_def, Option.some.injEq] at hadvanced
      obtain ⟨_, -, rfl⟩ := hadvanced
      split <;> rfl
    unfold claim_root_dispatch_source
    obtain ⟨d, hd⟩ := Option.isSome_iff_exists.mp hconsumed
    simp [hsource, hd, ensure]
  unfold stage_root_dispatch_if_current
  rw [hclaim]

theorem pause_failed_task_start_consumed (hconsumed : db.task_start_source.successor_dispatch_id.isSome) :
    pause_failed_task_start db = db := by
  obtain ⟨d, hd⟩ := Option.isSome_iff_exists.mp hconsumed
  simp [pause_failed_task_start, hd]

theorem open_root_dispatch_consumed {outcome : OrdinaryOpeningOutcome}
    (hconsumed : db.task_start_source.successor_dispatch_id.isSome)
    (h : open_root_dispatch stale db drawn = .ok (outcome, db')) : db' = db := by
  unfold open_root_dispatch at h
  split at h
  · cases h
    exact pause_failed_task_start_consumed hconsumed
  · cases h
    rfl
  · cases h
    exact pause_failed_task_start_consumed hconsumed
  · rw [stage_root_dispatch_if_current_consumed hconsumed] at h
    cases h
    rfl

theorem continue_paused_root_dispatch_consumed {expected : RevisionId × Nat}
    (hconsumed : db.task_start_source.successor_dispatch_id.isSome) :
    continue_paused_root_dispatch stale db expected drawn ≠ .ok db' := by
  intro h
  unfold continue_paused_root_dispatch at h
  split at h
  · cases h
  · cases h
  · cases h
  · rw [stage_root_dispatch_if_current_consumed hconsumed] at h
    cases h

end OhMySubagents
