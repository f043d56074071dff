import OhMySubagents.Lanes.Step
import OhMySubagents.Dispatch.Authority

open Relational

namespace OhMySubagents

section

def Assignment.lane (assignment : Assignment) : LaneAssignment where
  member_id := assignment.member_id
  parent_assignment_id := assignment.parent_assignment_id
  current_attempt_id := assignment.current_attempt_id
  terminal_outcome := assignment.terminal_outcome

def Attempt.lane (attempt : Attempt) : LaneAttempt where
  assignment_id := attempt.assignment_id
  current_dispatch_id := attempt.current_dispatch_id
  current_wait_id := attempt.current_wait_id
  status := attempt.status

/-- The reason a Dispatch closed with, if it did. -/
def DispatchStatus.closed_reason : DispatchStatus → Option DispatchClosedReason
  | .closed reason => some reason
  | _ => none

def DispatchTurn.lane (dispatch : DispatchTurn) : LaneDispatch where
  assignment_id := dispatch.assignment_id
  attempt_id := dispatch.attempt_id
  team_revision_id := dispatch.team_revision_id
  selection := dispatch.selection
  predecessor_dispatch_id := dispatch.predecessor_dispatch_id
  opened_reason := dispatch.opened_reason
  closed_reason := dispatch.status.closed_reason

/-- A source that was followed is consumed, whatever else its row says. -/
def SourcePhase.of (successor_dispatch_id : Option DispatchId) (phase : SourcePhase) : SourcePhase :=
  successor_dispatch_id.elim phase .consumed

def TaskStartSource.lane (source : TaskStartSource) : LaneSource where
  assignment_id := source.root_assignment_id
  attempt_id := source.root_attempt_id
  source_dispatch_id := none
  phase := .of source.successor_dispatch_id .resolved

def WaveStatus.phase : WaveStatus → SourcePhase
  | .open => .unresolved
  | .settled => .resolved
  | .cancelled => .cancelled

def DelegationWave.lane (wave : DelegationWave) : LaneSource where
  assignment_id := wave.parent_assignment_id
  attempt_id := wave.parent_attempt_id
  source_dispatch_id := some wave.source_dispatch_id
  phase := .of wave.successor_dispatch_id wave.status.phase

/-- `status IN ('resolved', 'timed_out', 'cancelled')`. -/
def HumanRequestStatus.is_terminal : HumanRequestStatus → Bool
  | .open => false
  | _ => true

def HumanRequest.lane (request : HumanRequest) : LaneSource where
  assignment_id := request.assignment_id
  attempt_id := request.attempt_id
  source_dispatch_id := some request.source_dispatch_id
  phase := .of request.successor_dispatch_id (if request.status.is_terminal then .resolved else .unresolved)

/-- `state IN COMMAND_RUN_TERMINAL_STATE_VALUES`. -/
def CommandRunState.is_terminal : CommandRunState → Bool
  | .succeeded | .failed | .timed_out | .cancelled | .abandoned => true
  | _ => false

def CommandRun.lane (run : CommandRun) : LaneSource where
  assignment_id := run.assignment_id
  attempt_id := run.attempt_id
  source_dispatch_id := some run.source_dispatch_id
  phase := .of run.successor_dispatch_id (if run.state.is_terminal then .resolved else .unresolved)

def SuccessorState.phase : SuccessorState → SourcePhase
  | .cancelled => .cancelled
  | _ => .resolved

def ReplanTransition.lane (transition : ReplanTransition) : LaneSource where
  assignment_id := transition.assignment_id
  attempt_id := transition.attempt_id
  source_dispatch_id := some transition.source_dispatch_id
  phase := .of transition.successor_dispatch_id transition.successor_state.phase

def DelegationWaveMember.lane (member : DelegationWaveMember) : LaneWaveMember where
  child_assignment_id := member.child_assignment_id
  status := member.status

def AcceptedBoundary.lane (boundary : AcceptedBoundary) : LaneBoundary where
  assignment_id := boundary.assignment_id
  attempt_id := boundary.attempt_id
  outcome := boundary.outcome

/-- The durable source that an identifier names. -/
def TaskDb.source (db : TaskDb) : SourceId → Option LaneSource
  | .task_start => some db.task_start_source.lane
  | .delegation_wave id => db.delegation_waves.view DelegationWave.lane id
  | .human_request id => db.human_requests.view HumanRequest.lane id
  | .command_run id => db.command_runs.view CommandRun.lane id
  | .replan_transition id => db.replan_transitions.view ReplanTransition.lane id

/-- The lanes that the rows of one Task describe. -/
@[simps -fullyApplied] def TaskDb.lanes (db : TaskDb) : Lanes where
  status := db.task.status
  root_assignment_id := db.task.root_assignment_id
  current_team_revision_id := db.task.current_team_revision_id
  result_boundary_id := db.task.result_boundary_id
  team := db.toTeamTables
  assignments := db.assignments.view Assignment.lane
  attempts := db.attempts.view Attempt.lane
  dispatches := db.dispatches.view DispatchTurn.lane
  waits := db.attempt_waits.view id
  sources := db.source
  wave_members := db.delegation_wave_members.view DelegationWaveMember.lane
  boundaries := db.accepted_boundaries.view AcceptedBoundary.lane

variable {db db' : TaskDb}

@[simp] theorem DispatchTurn.lane_close (dispatch : DispatchTurn) (reason : DispatchClosedReason) :
    (dispatch.close reason).lane = dispatch.lane.close reason := rfl

theorem DispatchTurn.lane_live {dispatch : DispatchTurn} :
    dispatch.lane.closed_reason = none ↔ dispatch.is_live = true := by
  unfold DispatchTurn.lane DispatchTurn.is_live DispatchStatus.closed_reason
  cases dispatch.status <;> simp

theorem lanes_release (d : DispatchId) (q : DispatchTurn) (a : AttemptId) (r : Attempt)
    (reason : DispatchClosedReason) :
    ({ db with
      dispatches := db.dispatches.set d (q.close reason)
      attempts := db.attempts.set a { r with current_dispatch_id := none } } : TaskDb).lanes =
      db.lanes.release d q.lane a r.lane reason := by
  apply Lanes.ext <;> first | rfl | simp [Attempt.lane, LaneAttempt.free]

theorem lanes_wave (id : WaveId) (row : DelegationWave) :
    ({ db with delegation_waves := db.delegation_waves.set id row } : TaskDb).lanes =
      db.lanes.putSource (.delegation_wave id) row.lane := by
  apply Lanes.ext <;> first | rfl | skip
  funext s
  cases s <;> simp [TaskDb.source, Function.update_apply]

theorem lanes_human_request (id : RequestId) (row : HumanRequest) :
    ({ db with human_requests := db.human_requests.set id row } : TaskDb).lanes =
      db.lanes.putSource (.human_request id) row.lane := by
  apply Lanes.ext <;> first | rfl | skip
  funext s
  cases s <;> simp [TaskDb.source, Function.update_apply]

theorem lanes_command_run (id : RunId) (row : CommandRun) :
    ({ db with command_runs := db.command_runs.set id row } : TaskDb).lanes =
      db.lanes.putSource (.command_run id) row.lane := by
  apply Lanes.ext <;> first | rfl | skip
  funext s
  cases s <;> simp [TaskDb.source, Function.update_apply]

theorem lanes_replan_transition (id : TransitionId) (row : ReplanTransition) :
    ({ db with replan_transitions := db.replan_transitions.set id row } : TaskDb).lanes =
      db.lanes.putSource (.replan_transition id) row.lane := by
  apply Lanes.ext <;> first | rfl | skip
  funext s
  cases s <;> simp [TaskDb.source, Function.update_apply]

theorem lanes_task_start (row : TaskStartSource) :
    ({ db with task_start_source := row } : TaskDb).lanes = db.lanes.putSource .task_start row.lane := by
  apply Lanes.ext <;> first | rfl | skip
  funext s
  cases s <;> simp [TaskDb.source]

end

variable {db : TaskDb} {authority : NodeOperationAuthority}

theorem HoldsLane.lanes_holds {identity : AttemptDispatchIdentity} {attempt : Attempt} {dispatch : DispatchTurn}
    (h : HoldsLane db identity attempt dispatch) :
    db.lanes.Holds identity.dispatch_id identity.attempt_id dispatch.lane attempt.lane where
  running := h.running
  attempt := Table.view_eq_some.mpr ⟨attempt, h.attempt_row, rfl⟩
  attempt_running := h.attempt_running
  current := h.current
  no_wait := h.no_wait
  dispatch := Table.view_eq_some.mpr ⟨dispatch, h.dispatch_row, rfl⟩
  dispatch_attempt := h.dispatch_attempt
  dispatch_assignment := h.dispatch_assignment.trans h.attempt_assignment.symm
  live := DispatchTurn.lane_live.mpr h.live

namespace AuthorityHolds

/-- An authority is held by a live Dispatch. -/
theorem lanes_holds (h : AuthorityHolds db authority) :
    db.lanes.Holds authority.dispatch_id authority.attempt_id authority.dispatch.lane authority.attempt.lane :=
  h.lane.lanes_holds

theorem attempt_assignment (h : AuthorityHolds db authority) :
    authority.attempt.assignment_id = authority.assignment_id := h.lane.attempt_assignment

/-- Its Assignment is open and runs that Attempt. -/
theorem lanes_serves (h : AuthorityHolds db authority) :
    db.lanes.Serves authority.attempt.lane.assignment_id authority.attempt_id authority.assignment.lane where
  row := Table.view_eq_some.mpr ⟨authority.assignment,
    (congrArg db.assignments.get? h.attempt_assignment).trans h.assignment_row, rfl⟩
  attempt := h.assignment_attempt
  is_open := h.assignment_open

end AuthorityHolds

end OhMySubagents
