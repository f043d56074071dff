import OhMySubagents.Relational.Table
import OhMySubagents.Rows

open Relational

namespace OhMySubagents

/-- The immutable history of the Task's Team: what replans add to, and nothing ever changes. -/
structure TeamTables where
  members : Table MemberId Unit
  member_configurations : Table ConfigurationId MemberConfiguration
  member_branch_bases : Table BranchBasisId MemberBranchBasis
  team_revisions : Table RevisionId TeamRevision

/-- All rows of one Task. Every statement of the runtime filters by `task_id`, so the rows of one Task
    are the whole state its transactions read and write. -/
structure TaskDb extends TeamTables where
  task : Task
  task_start_source : TaskStartSource
  assignments : Table AssignmentId Assignment
  assignment_work_plans : Table AssignmentId AssignmentWorkPlan
  attempts : Table AttemptId Attempt
  dispatches : Table DispatchId DispatchTurn
  attempt_waits : Table WaitId AttemptWait
  delegation_waves : Table WaveId DelegationWave
  delegation_wave_members : Table (WaveId × Nat) DelegationWaveMember
  human_requests : Table RequestId HumanRequest
  command_runs : Table RunId CommandRun
  replan_transitions : Table TransitionId ReplanTransition
  accepted_boundaries : Table DispatchId AcceptedBoundary
  attempt_checkpoints : Table CheckpointId AttemptCheckpoint
  member_steered_events : List MemberSteered

def MemberSteered.prompt (event : MemberSteered) : PromptSteer where
  message := event.message
  occurred_at := event.occurred_at

/-- The accepted steers of one Assignment, in event order. -/
def read_assignment_prompt_steers (db : TaskDb) (assignment_id : AssignmentId) : List PromptSteer :=
  (db.member_steered_events.filter fun event => event.assignment_id == assignment_id).map MemberSteered.prompt

end OhMySubagents
