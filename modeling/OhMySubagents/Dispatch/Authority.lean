import OhMySubagents.Dispatch.Currentness
import OhMySubagents.Team.Currentness

open Relational

namespace OhMySubagents

/-- The Dispatch a caller speaks for, with the provider-start generation of a managed binding. -/
structure NodeOperationScope where
  dispatch_id : DispatchId
  provider_start_revision : Option Nat
  deriving DecidableEq, Repr

/-- What one read of the exact current Dispatch found. -/
structure NodeOperationAuthority where
  dispatch_id : DispatchId
  assignment_id : AssignmentId
  attempt_id : AttemptId
  member_id : MemberId
  is_task_lead : Bool
  has_direct_team : Bool
  team_revision_id : RevisionId
  current_team_revision_id : RevisionId
  task_control_revision : Nat
  work_plan_revision : Nat
  expected_provider_start_revision : Option Nat
  dispatch : DispatchTurn
  assignment : Assignment
  attempt : Attempt
  deriving DecidableEq, Repr

def NodeOperationAuthority.identity (authority : NodeOperationAuthority) : AttemptDispatchIdentity where
  assignment_id := authority.assignment_id
  attempt_id := authority.attempt_id
  dispatch_id := authority.dispatch_id

/-- The Member values that an authority retains in the current Team. -/
def NodeOperationAuthority.selection (authority : NodeOperationAuthority) : MemberSelection :=
  { authority.dispatch.selection with member_id := authority.member_id }

def scope_mismatch_error : RuntimeOperationError :=
  { code := .scope_mismatch, summary := "task_id and dispatch_id do not identify one Dispatch" }

def read_current_dispatch (db : TaskDb) (scope : NodeOperationScope) : Result DispatchTurn := do
  let dispatch ← require_some (db.dispatches.get? scope.dispatch_id) scope_mismatch_error
  require (scope.provider_start_revision.all fun revision => dispatch.provider_start_revision == revision)
    (stale_dispatch_error "managed binding provider-start generation is no longer current")
  require dispatch.is_live (stale_dispatch_error "Dispatch is no longer current Member authority")
  require (db.task.status == .running)
    (stale_dispatch_error "Dispatch is no longer in a running Task")
  require (current_team_selects_member db dispatch.selection)
    (stale_dispatch_error "current Team no longer retains the Dispatch selection")
  return dispatch

/-- The filter on the open Assignment whose current Attempt a Dispatch speaks for. -/
def Assignment.is_current (assignment : Assignment) (member_id : MemberId) (attempt_id : AttemptId) : Bool :=
  assignment.member_id == member_id && assignment.current_attempt_id == attempt_id &&
    assignment.terminal_outcome.isNone

def read_current_assignment_and_attempt (db : TaskDb) (dispatch_id : DispatchId) (dispatch : DispatchTurn) :
    Result (Assignment × Attempt) := do
  let lane_changed := stale_dispatch_error "Dispatch Assignment or Attempt lane is no longer current"
  let assignment ← require_some (db.assignments.get? dispatch.assignment_id) lane_changed
  let attempt ← require_some (db.attempts.get? dispatch.attempt_id) lane_changed
  require (assignment.is_current dispatch.member_id dispatch.attempt_id &&
      attempt.holds { assignment_id := dispatch.assignment_id, attempt_id := dispatch.attempt_id, dispatch_id })
    lane_changed
  return (assignment, attempt)

/-- Whether the current Team places any Member directly below this one. -/
def member_has_direct_team (db : TaskDb) (member_id : MemberId) : Bool :=
  (db.team_revisions.get? db.task.current_team_revision_id).any fun rev =>
    !(rev.children member_id).isEmpty

def read_node_operation_authority (db : TaskDb) (scope : NodeOperationScope) :
    Result NodeOperationAuthority := do
  let dispatch ← read_current_dispatch db scope
  let (assignment, attempt) ← read_current_assignment_and_attempt db scope.dispatch_id dispatch
  require (team_revision_selects_member db dispatch.team_revision_id dispatch.selection)
    (stale_dispatch_error "Dispatch Team selection is no longer current")
  return {
    dispatch_id := scope.dispatch_id
    assignment_id := dispatch.assignment_id
    attempt_id := dispatch.attempt_id
    member_id := dispatch.member_id
    is_task_lead := db.task.root_assignment_id == dispatch.assignment_id
    has_direct_team := member_has_direct_team db dispatch.member_id
    team_revision_id := dispatch.team_revision_id
    current_team_revision_id := db.task.current_team_revision_id
    task_control_revision := db.task.control_revision
    work_plan_revision := assignment.work_plan_revision
    expected_provider_start_revision := scope.provider_start_revision
    dispatch := dispatch
    assignment := assignment
    attempt := attempt }

/-- The filter on the exact live Dispatch row that an authority was read from. -/
def DispatchTurn.matches_authority (dispatch : DispatchTurn) (authority : NodeOperationAuthority) : Bool :=
  dispatch.is_owned authority.identity authority.team_revision_id &&
    dispatch.member_id == authority.member_id &&
    authority.expected_provider_start_revision.all fun revision =>
      dispatch.provider_start_revision == revision

def exact_node_operation_authority_exists (db : TaskDb) (authority : NodeOperationAuthority) : Bool :=
  attempt_dispatch_is_current db authority.identity &&
    (db.task.status == .running && db.task.control_revision == authority.task_control_revision) &&
    current_team_selects_member db authority.dispatch.selection &&
    (db.dispatches.get? authority.dispatch_id).any (fun dispatch => dispatch.matches_authority authority) &&
    (db.assignments.get? authority.assignment_id).any
      (fun assignment => assignment.is_current authority.member_id authority.attempt_id) &&
    team_revision_selects_member db authority.team_revision_id
      { authority.dispatch.selection with member_id := authority.member_id }

def task_authority_changed_error : RuntimeOperationError :=
  conflict_error "another transition changed exact Task authority"

def dispatch_authority_changed_error : RuntimeOperationError :=
  conflict_error "another transition changed exact Dispatch authority"

/-- Lock and validate the exact running Task before any Member-owned row. -/
def claim_exact_node_operation_task (db : TaskDb) (authority : NodeOperationAuthority) : Result Unit :=
  require (db.task.status == .running && db.task.control_revision == authority.task_control_revision &&
    exact_node_operation_authority_exists db authority) task_authority_changed_error

/-- Establish the short exact-Dispatch transaction boundary for a mutation. -/
def claim_exact_node_operation_transition (db : TaskDb) (authority : NodeOperationAuthority) :
    Result Unit := do
  claim_exact_node_operation_task db authority
  require ((db.dispatches.get? authority.dispatch_id).any fun dispatch =>
      dispatch.is_owned authority.identity authority.team_revision_id &&
        dispatch.member_id == authority.member_id &&
        dispatch.member_configuration_id == authority.dispatch.member_configuration_id &&
        dispatch.member_branch_basis_id == authority.dispatch.member_branch_basis_id &&
        exact_node_operation_authority_exists db authority)
    dispatch_authority_changed_error

/-- The activity columns after one accepted request: the revision advances, the instant never goes
    back. -/
def DispatchTurn.refresh_activity (dispatch : DispatchTurn) (occurred_at : Instant) : DispatchTurn :=
  { dispatch with
    last_node_activity_at := some (dispatch.last_node_activity_at.elim occurred_at (max occurred_at))
    node_activity_revision := dispatch.node_activity_revision + 1 }

def refresh_node_activity (db : TaskDb) (authority : NodeOperationAuthority) (occurred_at : Instant) :
    Result TaskDb := do
  claim_exact_node_operation_task db authority
  let dispatches ← require_some
    (db.dispatches.updateWhere authority.dispatch_id
      (fun dispatch => dispatch.assignment_id == authority.assignment_id &&
        dispatch.attempt_id == authority.attempt_id && dispatch.is_live &&
        exact_node_operation_authority_exists db authority)
      fun dispatch => dispatch.refresh_activity occurred_at)
    (stale_dispatch_error "Dispatch lost currentness before Member activity admission")
  return { db with dispatches := dispatches }

/-- What holds of the rows while an authority read from them is exact. -/
structure AuthorityHolds (db : TaskDb) (authority : NodeOperationAuthority) : Prop where
  lane : HoldsLane db authority.identity authority.attempt authority.dispatch
  team_revision : authority.team_revision_id = authority.dispatch.team_revision_id
  member : authority.member_id = authority.dispatch.member_id
  has_direct_team : authority.has_direct_team = member_has_direct_team db authority.member_id
  current_team : authority.current_team_revision_id = db.task.current_team_revision_id
  control : authority.task_control_revision = db.task.control_revision
  task_lead : authority.is_task_lead = (db.task.root_assignment_id == authority.assignment_id)
  assignment_row : db.assignments.get? authority.assignment_id = some authority.assignment
  assignment_member : authority.assignment.member_id = authority.member_id
  assignment_attempt : authority.assignment.current_attempt_id = authority.attempt_id
  assignment_open : authority.assignment.terminal_outcome = none
  work_plan : authority.work_plan_revision = authority.assignment.work_plan_revision
  selected : ∃ rev, db.team_revisions.get? db.task.current_team_revision_id = some rev ∧
    rev.selects authority.dispatch.selection = true

/-- A read authority describes a Dispatch that holds its lane and that the current Team selects. -/
theorem read_node_operation_authority_success {db : TaskDb} {scope : NodeOperationScope}
    {authority : NodeOperationAuthority} (h : read_node_operation_authority db scope = .ok authority) :
    authority.dispatch_id = scope.dispatch_id ∧ AuthorityHolds db authority := by
  unfold read_node_operation_authority read_current_dispatch read_current_assignment_and_attempt at h
  simp only [bind_eq_ok_iff, require_some_eq_ok_iff, require_eq_ok_iff, Bool.and_eq_true,
    beq_iff_eq] at h
  obtain ⟨dispatch, ⟨_, hdispatch, _, -, _, hlive, _, hrunning, _, hselected, hd⟩, ⟨assignment, attempt⟩,
    ⟨_, hassignment, _, hattempt, _, ⟨hcurrent, hholds⟩, ha⟩, _, -, h⟩ := h
  cases hd
  cases ha
  cases h
  simp only [Assignment.is_current, Bool.and_eq_true, beq_iff_eq, Option.isNone_iff_eq_none] at hcurrent
  obtain ⟨⟨hmember, hattemptId⟩, hopen⟩ := hcurrent
  obtain ⟨hasg, hstatus, hpointer, hwait⟩ := Attempt.holds_iff.mp hholds
  exact ⟨rfl,
    { lane := ⟨hrunning, hattempt, hasg, hstatus, hpointer, hwait, hdispatch, rfl, rfl, hlive⟩
      team_revision := rfl
      member := rfl
      has_direct_team := rfl
      current_team := rfl
      control := rfl
      task_lead := rfl
      assignment_row := hassignment
      assignment_member := hmember
      assignment_attempt := hattemptId
      assignment_open := hopen
      work_plan := rfl
      selected := team_revision_selects_member_iff.mp hselected }⟩

/-- Recording activity changes one row's activity columns only. -/
theorem refresh_node_activity_success {db db' : TaskDb} {authority : NodeOperationAuthority}
    {occurred_at : Instant} (h : refresh_node_activity db authority occurred_at = .ok db') :
    ∃ dispatch, db.dispatches.get? authority.dispatch_id = some dispatch ∧
      db' = { db with
        dispatches := db.dispatches.set authority.dispatch_id (dispatch.refresh_activity occurred_at) } := by
  unfold refresh_node_activity at h
  simp only [bind_eq_ok_iff, require_some_eq_ok_iff, Table.updateWhere_eq_some] at h
  obtain ⟨_, -, _, ⟨dispatch, hdispatch, -, rfl⟩, h⟩ := h
  cases h
  exact ⟨dispatch, hdispatch, rfl⟩

end OhMySubagents
