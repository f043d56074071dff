import Mathlib.Data.List.AList

namespace OhMySubagents

/-- The limits of `RuntimeSettings` that the transactions read. The backoff bounds are floats in the source;
    whole units of the clock stand for them. -/
structure RuntimeSettings where
  max_child_assignments_per_assignment : Nat
  max_retries_per_assignment : Nat
  max_wave_members : Nat
  dispatch_launch_retry_initial_backoff_seconds : Nat
  dispatch_launch_retry_max_backoff_seconds : Nat
  watchdog_inactivity_timeout_seconds : Nat
  watchdog_same_attempt_replacement_limit : Nat
  deriving DecidableEq, Repr

/-! # Runtime rows

Every row belongs to one Task, so the `task_id` column is left implicit. Identifiers are opaque;
instants are natural numbers. -/

abbrev AssignmentId := Nat
abbrev AttemptId := Nat
abbrev DispatchId := Nat
abbrev WaitId := Nat
abbrev WaveId := Nat
abbrev RequestId := Nat
abbrev RunId := Nat
abbrev TransitionId := Nat
abbrev CheckpointId := Nat
abbrev MemberId := Nat
abbrev RevisionId := Nat
abbrev ConfigurationId := Nat
abbrev BranchBasisId := Nat
abbrev Instant := Nat

inductive TaskStatus
  | running | paused | completed | cancelled
  deriving DecidableEq, Repr

/-- The `status` column of a Task. -/
def TaskStatus.text : TaskStatus → String
  | running => "running"
  | paused => "paused"
  | completed => "completed"
  | cancelled => "cancelled"

inductive TerminalOutcome
  | green | blocked
  deriving DecidableEq, Repr

inductive BoundaryOutcome
  | green | retry | blocked
  deriving DecidableEq, Repr

/-- The outcome that a terminal boundary records. -/
def TerminalOutcome.boundary : TerminalOutcome → BoundaryOutcome
  | .green => .green
  | .blocked => .blocked

inductive PauseReason
  | paused_by_operator | runtime_recovery_exhausted | runtime_transition_failed
  | workspace_unavailable | provider_retired
  deriving DecidableEq, Repr

inductive AttemptStatus
  | pending | running | completed | cancelled
  deriving DecidableEq, Repr

/-- `status IN ('pending', 'running')`. -/
def AttemptStatus.is_active : AttemptStatus → Bool
  | .pending | .running => true
  | _ => false

inductive DispatchOpenedReason
  | root | delegation | delegation_wave | human_result | command_result | watchdog_recovery
  | semantic_retry | operator_continue | structural_replan
  deriving DecidableEq, Repr

inductive DispatchClosedReason
  | boundary | delegation | human_request_wait | command_run_wait | watchdog_superseded | paused
  | cancelled | control_failed | task_terminal | structural_replan
  deriving DecidableEq, Repr

inductive ProviderStartRetryKind
  | initial | definite_failure | uncertain_acceptance
  deriving DecidableEq, Repr

/-- Lifecycle of a Dispatch. The fields that one status makes meaningful are its arguments, as
`ck_dispatch_turns_lifecycle_fields` demands. -/
inductive DispatchStatus
  | starting (next_provider_start_at : Instant) (retry_kind : ProviderStartRetryKind)
  | open
  | closed (closed_reason : DispatchClosedReason)
  deriving DecidableEq, Repr

inductive WaveStatus
  | open | settled | cancelled
  deriving DecidableEq, Repr

/-- Lifecycle of a Wave member. Only a settled member carries a terminal boundary and its outcome
(`ck_delegation_wave_members_lifecycle`). -/
inductive WaveMemberStatus
  | pending
  | settled (terminal_boundary_id : DispatchId) (terminal_outcome : TerminalOutcome)
  | cancelled
  deriving DecidableEq, Repr

def WaveMemberStatus.is_settled : WaveMemberStatus → Bool
  | .settled _ _ => true
  | _ => false

inductive HumanRequestStatus
  | open | resolved | timed_out | cancelled
  deriving DecidableEq, Repr

inductive CommandRunState
  | pending_start | running | cancellation_requested
  | succeeded | failed | timed_out | cancelled | abandoned
  deriving DecidableEq, Repr

inductive ManifestState
  | pending | repair_required | current
  deriving DecidableEq, Repr

inductive SuccessorState
  | blocked | pending | opening_failed | opened | cancelled
  deriving DecidableEq, Repr

/-- The one typed source an `AttemptWait` row names (`ck_attempt_waits_exactly_one_source`). -/
inductive WaitSource
  | delegation_wave (id : WaveId)
  | human_request (id : RequestId)
  | command_run (id : RunId)
  deriving DecidableEq, Repr

structure Task where
  status : TaskStatus
  terminal_outcome : Option TerminalOutcome
  control_revision : Nat
  pause_reason : Option PauseReason
  root_assignment_id : AssignmentId
  current_team_revision_id : RevisionId
  result_boundary_id : Option DispatchId
  max_child_assignments_per_assignment : Nat
  max_retries_per_assignment : Nat
  max_wave_members : Nat
  deriving DecidableEq, Repr

/-- One Assignment. `closed_at` is set exactly when `terminal_outcome` is
(`ck_assignments_terminal_state`), so the outcome stands for both. -/
structure Assignment where
  member_id : MemberId
  parent_assignment_id : Option AssignmentId
  current_attempt_id : AttemptId
  work_plan_revision : Nat
  child_assignment_limit : Nat
  child_assignments_remaining : Nat
  retry_limit : Nat
  retries_remaining : Nat
  created_by_dispatch_id : Option DispatchId
  terminal_outcome : Option TerminalOutcome
  deriving DecidableEq, Repr

structure Attempt where
  assignment_id : AssignmentId
  retry_of_attempt_id : Option AttemptId
  latest_checkpoint_id : Option CheckpointId
  current_dispatch_id : Option DispatchId
  current_wait_id : Option WaitId
  watchdog_replacement_count : Nat
  status : AttemptStatus
  terminal_outcome : Option BoundaryOutcome
  deriving DecidableEq, Repr

inductive WorkPlanStepStatus
  | pending | in_progress | completed
  deriving DecidableEq, Repr

structure WorkPlanStep where
  step : String
  status : WorkPlanStepStatus
  deriving DecidableEq, Repr

/-- The advisory work plan of one Assignment, with its ordered steps. -/
structure AssignmentWorkPlan where
  revision : Nat
  explanation : Option String
  steps : List WorkPlanStep
  deriving DecidableEq, Repr

/-- One steer as a prompt shows it. -/
structure PromptSteer where
  message : String
  occurred_at : Instant
  deriving DecidableEq, Repr

/-- A `MEMBER_STEERED` event, with the columns that the runtime reads back. -/
structure MemberSteered where
  event_id : String
  action_id : String
  member_id : MemberId
  assignment_id : AssignmentId
  dispatch_id : DispatchId
  message : String
  occurred_at : Instant
  deriving DecidableEq, Repr

/-- One Dispatch with its stored request, of which only the steers are kept. -/
structure DispatchTurn where
  assignment_id : AssignmentId
  attempt_id : AttemptId
  team_revision_id : RevisionId
  member_id : MemberId
  member_configuration_id : ConfigurationId
  member_branch_basis_id : BranchBasisId
  predecessor_dispatch_id : Option DispatchId
  status : DispatchStatus
  opened_reason : DispatchOpenedReason
  request_steering : List PromptSteer
  provider_start_revision : Nat
  provider_start_attempt_count : Nat
  adapter_started_at : Option Instant
  last_node_activity_at : Option Instant
  node_activity_revision : Nat
  deriving DecidableEq, Repr

structure AttemptWait where
  assignment_id : AssignmentId
  attempt_id : AttemptId
  source_dispatch_id : DispatchId
  source : WaitSource
  deriving DecidableEq, Repr

structure DelegationWave where
  parent_assignment_id : AssignmentId
  parent_attempt_id : AttemptId
  source_dispatch_id : DispatchId
  team_revision_id : RevisionId
  parent_member_id : MemberId
  parent_member_configuration_id : ConfigurationId
  parent_member_branch_basis_id : BranchBasisId
  status : WaveStatus
  successor_dispatch_id : Option DispatchId
  deriving DecidableEq, Repr

structure DelegationWaveMember where
  parent_assignment_id : AssignmentId
  parent_attempt_id : AttemptId
  source_dispatch_id : DispatchId
  team_revision_id : RevisionId
  child_assignment_id : AssignmentId
  child_member_id : MemberId
  child_member_configuration_id : ConfigurationId
  child_member_branch_basis_id : BranchBasisId
  status : WaveMemberStatus
  deriving DecidableEq, Repr

/-- One question of a human request. Exactly one of the response schema (as JSON text) and the options
(as their identifiers) is set. -/
structure HumanRequestItem where
  id : String
  response_schema : Option String
  options : Option (List String)
  allow_other : Bool
  allow_skip : Bool
  deriving DecidableEq, Repr

/-- The answer to one question; a value is kept as JSON text. -/
inductive HumanRequestItemAnswer
  | value (value : String)
  | option (option_id : String)
  | other (text : String)
  | skipped
  deriving DecidableEq, Repr

inductive HumanRequestResolutionSurface
  | control_api | operator | controller
  deriving DecidableEq, Repr

/-- The resolution columns of a human request, set together (`ck_human_requests_terminal_state`). -/
structure HumanRequestResolution where
  item_responses : Option (List (String × HumanRequestItemAnswer))
  summary : String
  resolved_at : Instant
  resolved_by_actor_ref : Option String
  resolved_by_surface : HumanRequestResolutionSurface
  deriving DecidableEq, Repr

structure HumanRequest where
  assignment_id : AssignmentId
  attempt_id : AttemptId
  source_dispatch_id : DispatchId
  items : List HumanRequestItem
  due_at : Option Instant
  status : HumanRequestStatus
  resolution : Option HumanRequestResolution
  successor_dispatch_id : Option DispatchId
  deriving DecidableEq, Repr

/-- What the owner of a command process records about it. -/
inductive CommandProcessMetadata
  | launching (owner_ref : String) (claimed_at : Instant)
  | running (owner_ref : String) (pid : Nat)
  deriving DecidableEq, Repr

structure CommandOutputFacts where
  observed_bytes : Nat
  written_bytes : Nat
  is_complete : Bool
  deriving DecidableEq, Repr

/-- The columns that one terminal transition of a command run sets together. -/
structure CommandRunTerminal where
  summary : String
  ended_at : Instant
  exit_code : Option Int
  failure_code : Option String
  actor_ref : Option String
  output : Option CommandOutputFacts
  deriving DecidableEq, Repr

structure CommandRun where
  assignment_id : AssignmentId
  attempt_id : AttemptId
  source_dispatch_id : DispatchId
  timeout_seconds : Option Nat
  started_at : Option Instant
  due_at : Option Instant
  state : CommandRunState
  ownership_revision : Nat
  process_metadata : Option CommandProcessMetadata
  cancellation_requested_at : Option Instant
  terminal : Option CommandRunTerminal
  successor_dispatch_id : Option DispatchId
  deriving DecidableEq, Repr

structure TaskStartSource where
  root_assignment_id : AssignmentId
  root_attempt_id : AttemptId
  successor_dispatch_id : Option DispatchId
  deriving DecidableEq, Repr

structure ReplanTransition where
  assignment_id : AssignmentId
  attempt_id : AttemptId
  source_dispatch_id : DispatchId
  source_team_revision_id : RevisionId
  successor_team_revision_id : RevisionId
  manifest_state : ManifestState
  successor_state : SuccessorState
  successor_dispatch_id : Option DispatchId
  deriving DecidableEq, Repr

/-- One accepted boundary. Its identifier is `accepted-boundary.<source dispatch>`, so the table of
boundaries is keyed by the source Dispatch. -/
structure AcceptedBoundary where
  assignment_id : AssignmentId
  attempt_id : AttemptId
  outcome : BoundaryOutcome
  checkpoint_id : CheckpointId
  successor_attempt_id : Option AttemptId
  successor_dispatch_id : Option DispatchId
  deriving DecidableEq, Repr

structure AttemptCheckpoint where
  assignment_id : AssignmentId
  attempt_id : AttemptId
  authoring_dispatch_id : DispatchId
  outcome : Option BoundaryOutcome
  deriving DecidableEq, Repr

/-- One member selection of a Team revision. -/
structure TeamRevisionMember where
  member_id : MemberId
  parent_member_id : Option MemberId
  member_configuration_id : ConfigurationId
  member_branch_basis_id : BranchBasisId
  deriving DecidableEq, Repr

/-- One immutable Team revision with its selections. The rows of one revision are staged together,
so they form a list: `preorder_index` is the position in it, `sibling_order` the position among the
selections with one parent. -/
structure TeamRevision where
  revision_no : Nat
  predecessor_team_revision_id : Option RevisionId
  root_member_id : MemberId
  members : List TeamRevisionMember
  deriving DecidableEq, Repr

/-- The authored content of a member configuration. -/
structure MemberContent where
  title : Option String
  description : Option String
  instruction : Option String
  provider_json : Option String
  capabilities_json : Option String
  deriving DecidableEq, Repr

structure MemberConfiguration where
  member_id : MemberId
  predecessor_member_configuration_id : Option ConfigurationId
  content : MemberContent
  deriving DecidableEq, Repr

structure MemberBranchBasis where
  member_id : MemberId
  member_configuration_id : ConfigurationId
  parent_member_id : Option MemberId
  parent_member_branch_basis_id : Option BranchBasisId
  deriving DecidableEq, Repr

end OhMySubagents
