import OhMySubagents.Dispatch.Currentness
import OhMySubagents.Team.Currentness

open Relational

namespace OhMySubagents

/-! # Lanes

What the runtime's rows mean for scheduling: every Attempt is one lane, held by a live Dispatch, parked
on a wait, or free between two Dispatches. -/

structure LaneAssignment where
  member_id : MemberId
  parent_assignment_id : Option AssignmentId
  current_attempt_id : AttemptId
  terminal_outcome : Option TerminalOutcome
  deriving DecidableEq, Repr

structure LaneAttempt where
  assignment_id : AssignmentId
  current_dispatch_id : Option DispatchId
  current_wait_id : Option WaitId
  status : AttemptStatus
  deriving DecidableEq, Repr

/-- A Dispatch as a lane sees it; `closed_reason` is empty while the Dispatch is live. -/
structure LaneDispatch where
  assignment_id : AssignmentId
  attempt_id : AttemptId
  team_revision_id : RevisionId
  selection : MemberSelection
  predecessor_dispatch_id : Option DispatchId
  opened_reason : DispatchOpenedReason
  closed_reason : Option DispatchClosedReason
  deriving DecidableEq, Repr

/-- The durable sources that a continuation Dispatch can follow. -/
inductive SourceId
  | task_start
  | delegation_wave (id : WaveId)
  | human_request (id : RequestId)
  | command_run (id : RunId)
  | replan_transition (id : TransitionId)
  deriving DecidableEq, Repr

/-- A source is unresolved while its lane waits for it, resolved once its successor may open, and
    consumed once it did. -/
inductive SourcePhase
  | unresolved
  | resolved
  | consumed (successor_dispatch_id : DispatchId)
  | cancelled
  deriving DecidableEq, Repr

structure LaneSource where
  assignment_id : AssignmentId
  attempt_id : AttemptId
  source_dispatch_id : Option DispatchId
  phase : SourcePhase
  deriving DecidableEq, Repr

structure LaneWaveMember where
  child_assignment_id : AssignmentId
  status : WaveMemberStatus
  deriving DecidableEq, Repr

structure LaneBoundary where
  assignment_id : AssignmentId
  attempt_id : AttemptId
  outcome : BoundaryOutcome
  deriving DecidableEq, Repr

/-- The lanes of one Task. -/
@[ext] structure Lanes where
  status : TaskStatus
  root_assignment_id : AssignmentId
  current_team_revision_id : RevisionId
  result_boundary_id : Option DispatchId
  team : TeamTables
  assignments : AssignmentId → Option LaneAssignment
  attempts : AttemptId → Option LaneAttempt
  dispatches : DispatchId → Option LaneDispatch
  waits : WaitId → Option AttemptWait
  sources : SourceId → Option LaneSource
  wave_members : WaveId × Nat → Option LaneWaveMember
  boundaries : DispatchId → Option LaneBoundary

def WaitSource.source_id : WaitSource → SourceId
  | .delegation_wave id => .delegation_wave id
  | .human_request id => .human_request id
  | .command_run id => .command_run id

/-- The reason a Dispatch closes with when a source of this kind follows from it. -/
def SourceId.closed_reason : SourceId → Option DispatchClosedReason
  | .task_start => none
  | .delegation_wave _ => some .delegation
  | .human_request _ => some .human_request_wait
  | .command_run _ => some .command_run_wait
  | .replan_transition _ => some .structural_replan

/-- The close reasons that leave nothing behind: the lane continues from its tail. -/
def DispatchClosedReason.is_tail : DispatchClosedReason → Bool
  | .paused | .control_failed | .watchdog_superseded => true
  | _ => false

/-- A lane with neither a Dispatch nor a wait, whose Attempt still runs. -/
structure LaneAttempt.Idle (attempt : LaneAttempt) : Prop where
  running : attempt.status = .running
  no_dispatch : attempt.current_dispatch_id = none
  no_wait : attempt.current_wait_id = none

@[simps] def LaneAttempt.free (attempt : LaneAttempt) : LaneAttempt :=
  { attempt with current_dispatch_id := none }

@[simps] def LaneAttempt.start (assignment_id : AssignmentId) : LaneAttempt where
  assignment_id := assignment_id
  current_dispatch_id := none
  current_wait_id := none
  status := .running

def LaneAttempt.cancel (attempt : LaneAttempt) : LaneAttempt :=
  if attempt.status = .running ∨ attempt.status = .pending then
    { attempt with current_dispatch_id := none, current_wait_id := none, status := .cancelled }
  else attempt

def LaneWaveMember.cancel (member : LaneWaveMember) : LaneWaveMember :=
  if member.status = .pending then { member with status := .cancelled } else member

@[simps] def LaneDispatch.close (dispatch : LaneDispatch) (reason : DispatchClosedReason) : LaneDispatch :=
  { dispatch with closed_reason := some reason }

/-- The Team revision that is current. -/
def Lanes.current_team (lanes : Lanes) : Option TeamRevision :=
  lanes.team.team_revisions.get? lanes.current_team_revision_id

/-- Whether the current Team selects these exact values. -/
def Lanes.SelectedNow (lanes : Lanes) (selection : MemberSelection) : Prop :=
  ∃ rev, lanes.current_team = some rev ∧ rev.selects selection = true

end OhMySubagents
