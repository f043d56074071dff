import OhMySubagents.Checkpoint.Persistence
import OhMySubagents.Delegation.Staging
import OhMySubagents.NodeOperations.ExternalWaits
import OhMySubagents.Replan.Persistence
import OhMySubagents.WorkPlan.Operations
import OhMySubagents.Checkpoint.Steps
import OhMySubagents.Delegation.Steps

open Relational

namespace OhMySubagents

/-- One Node operation with its request and the identifiers that are drawn for it. -/
inductive NodeOperation
  | get_current_context
  | set_work_plan (request : SetWorkPlanRequest)
  | checkpoint (outcome : Option BoundaryOutcome) (checkpoint_id : CheckpointId) (drawn : Option DrawnSemanticRetry)
  | delegate (request : DelegateRequest) (wave_id : WaveId) (wait_id : WaitId)
      (drawn : MemberId → Option DrawnWaveMember)
  | replan (request : ReplanRequest) (resolution_failure : PlannedMember → Option String) (drawn : DrawnReplan)
  | open_human_request (request : OpenHumanRequestRequest) (files : Result Unit) (request_id : RequestId)
      (wait_id : WaitId)
  | start_command_run (timeout_seconds : Option Nat) (cwd : Result Unit) (run_id : RunId) (wait_id : WaitId)

namespace NodeOperation

/-- The name under which the catalog lists an operation. -/
def name : NodeOperation → String
  | get_current_context => "get_current_context"
  | set_work_plan _ => "set_work_plan"
  | checkpoint _ _ _ => "checkpoint"
  | delegate _ _ _ _ => "delegate"
  | replan (.add_child _) _ _ => "add_child"
  | replan (.update_child _ _ _) _ _ => "update_child"
  | replan (.remove_child _) _ _ => "remove_child"
  | open_human_request _ _ _ _ => "open_human_request"
  | start_command_run _ _ _ _ => "start_command_run"

/-- The rows that an operation uses although they were read before its first write. -/
def reads : NodeOperation → List TaskDb
  | checkpoint _ _ (some drawn) => [drawn.prompted]
  | _ => []

def is_read : NodeOperation → Bool
  | get_current_context => true
  | _ => false

def is_replan : NodeOperation → Bool
  | replan _ _ _ => true
  | _ => false

def is_direct_team_required : NodeOperation → Bool
  | delegate _ _ _ _ => true
  | replan (.add_child _) _ _ => false
  | replan _ _ _ => true
  | _ => false

/-- `name in _TRANSITION_OPERATIONS`. -/
def requires_transition_claim : NodeOperation → Bool
  | get_current_context | set_work_plan _ => false
  | _ => true

end NodeOperation

/-- The Dispatch already has a boundary, a Wave, a human request or a command run. -/
def dispatch_already_owns_source (db : TaskDb) (authority : NodeOperationAuthority) : Bool :=
  (db.accepted_boundaries.get? authority.dispatch_id).isSome ||
    db.delegation_waves.any (fun _ wave => wave.source_dispatch_id == authority.dispatch_id) ||
    db.human_requests.any (fun _ request => request.source_dispatch_id == authority.dispatch_id) ||
    db.command_runs.any fun _ run => run.source_dispatch_id == authority.dispatch_id

def read_direct_team (db : TaskDb) (authority : NodeOperationAuthority) : List TeamRevisionMember :=
  ((db.team_revisions.get? authority.current_team_revision_id).map fun rev =>
    rev.child_members authority.member_id).getD []

/-- What `_narrow_structural_operations` leaves legal for a caller with a direct team. -/
def structural_operation_is_legal (db : TaskDb) (authority : NodeOperationAuthority) : NodeOperation → Bool
  | .delegate _ _ _ _ => (read_direct_team db authority).any fun child => !member_is_busy db child.member_id
  | .replan (.update_child _ _ _) _ _ | .replan (.remove_child _) _ _ => !(read_direct_team db authority).isEmpty
  | _ => true

def state_legal_node_operation (db : TaskDb) (authority : NodeOperationAuthority) (operation : NodeOperation) : Bool :=
  operation.is_read ||
    (!operation.is_direct_team_required || authority.has_direct_team) &&
      !dispatch_already_owns_source db authority &&
      (!authority.has_direct_team || structural_operation_is_legal db authority operation)

def require_state_legal_node_operation (db : TaskDb) (authority : NodeOperationAuthority)
    (operation : NodeOperation) : Result Unit :=
  require (state_legal_node_operation db authority operation)
    (illegal_state_error s!"{operation.name} is not legal in the current source state")

/-- `is_capability_allowed` stands for the capability that the stored Dispatch grants. -/
def authorize (operation : NodeOperation) (authority : NodeOperationAuthority) (is_capability_allowed : Bool) :
    Result Unit := do
  require (!operation.is_direct_team_required || authority.has_direct_team)
    { code := .illegal_caller, summary := s!"current Member has no direct team for {operation.name}" }
  require is_capability_allowed
    { code := .capability_rejected, summary := s!"current capability denies {operation.name}" }

/-- A conflict of a replan may be retried; a rejected row is an internal error. -/
def normalize_node_operation_error (operation : NodeOperation) (error : RuntimeOperationError) :
    RuntimeOperationError :=
  if error = integrity_error then
    internal_error "controller persistence rejected the operation and rolled back its state change"
  else if operation.is_replan && error.code == .conflict then { error with is_retryable := true }
  else error

/-- The admission transaction of one request: it records the Member's activity. -/
def admit_node_operation (db : TaskDb) (scope : NodeOperationScope) (operation : NodeOperation)
    (is_capability_allowed : Bool) (occurred_at : Instant) : Result TaskDb :=
  (do
    let authority ← read_node_operation_authority db scope
    authorize operation authority is_capability_allowed
    refresh_node_activity db authority occurred_at).mapError (normalize_node_operation_error operation)

/-- The handler of one operation. -/
def execute_operation (db : TaskDb) (authority : NodeOperationAuthority) : NodeOperation → Result TaskDb
  | .get_current_context => .ok db
  | .set_work_plan request => set_assignment_work_plan db authority request
  | .checkpoint outcome checkpoint_id drawn =>
    (commit_checkpoint db authority outcome checkpoint_id drawn).map Prod.snd
  | .delegate request wave_id wait_id drawn => commit_delegation_wave db authority request wave_id wait_id drawn
  | .replan request resolution_failure drawn => commit_replan_rows db authority request resolution_failure drawn
  | .open_human_request request files request_id wait_id =>
    open_human_request db authority request files request_id wait_id
  | .start_command_run timeout_seconds cwd run_id wait_id =>
    start_command_run db authority timeout_seconds cwd run_id wait_id

/-- The state token that the source compares around the claim is read in one transaction, where it cannot
    change. -/
def claim_unchanged_node_operation_state (db : TaskDb) (authority : NodeOperationAuthority)
    (operation : NodeOperation) : Result Unit :=
  if operation.requires_transition_claim then claim_exact_node_operation_transition db authority else .ok ()

def execute_node_operation_transaction (db : TaskDb) (scope : NodeOperationScope) (operation : NodeOperation)
    (is_capability_allowed : Bool) : Result TaskDb := do
  let authority ← read_node_operation_authority db scope
  authorize operation authority is_capability_allowed
  claim_unchanged_node_operation_state db authority operation
  require_state_legal_node_operation db authority operation
  execute_operation db authority operation

/-- The operation transaction of one admitted request. -/
def commit_node_operation (db : TaskDb) (scope : NodeOperationScope) (operation : NodeOperation)
    (is_capability_allowed : Bool) : Result TaskDb :=
  (execute_node_operation_transaction db scope operation is_capability_allowed).mapError
    (normalize_node_operation_error operation)

/-- What each operation leaves behind, under the authority of its Dispatch. -/
inductive NodeOperationCommitted (db : TaskDb) (authority : NodeOperationAuthority) : NodeOperation → TaskDb → Prop
  | get_current_context : NodeOperationCommitted db authority .get_current_context db
  | set_work_plan {request db'} (committed : set_assignment_work_plan db authority request = .ok db') :
      NodeOperationCommitted db authority (.set_work_plan request) db'
  | checkpoint {outcome checkpoint_id drawn wave_id db'}
      (committed : CheckpointCommitted db authority checkpoint_id drawn outcome wave_id db') :
      NodeOperationCommitted db authority (.checkpoint outcome checkpoint_id drawn) db'
  | delegate {request wave_id wait_id drawn rev members rows consumed dispatched db'}
      (committed : DelegationCommitted db authority request wave_id wait_id rev members rows consumed dispatched db') :
      NodeOperationCommitted db authority (.delegate request wave_id wait_id drawn) db'
  | replan {request resolution_failure drawn rev loaded mutation db'}
      (committed : ReplanCommitted db authority request drawn rev loaded mutation db') :
      NodeOperationCommitted db authority (.replan request resolution_failure drawn) db'
  | open_human_request {request files request_id wait_id db'}
      (committed : open_human_request db authority request files request_id wait_id = .ok db') :
      NodeOperationCommitted db authority (.open_human_request request files request_id wait_id) db'
  | start_command_run {timeout_seconds cwd run_id wait_id db'}
      (committed : start_command_run db authority timeout_seconds cwd run_id wait_id = .ok db') :
      NodeOperationCommitted db authority (.start_command_run timeout_seconds cwd run_id wait_id) db'

variable {db db' : TaskDb} {scope : NodeOperationScope} {operation : NodeOperation} {is_capability_allowed : Bool}

/-- Admission touches the activity columns of the exact Dispatch only. -/
theorem admit_node_operation_success {occurred_at : Instant}
    (h : admit_node_operation db scope operation is_capability_allowed occurred_at = .ok db') :
    ∃ authority, authority.dispatch_id = scope.dispatch_id ∧ AuthorityHolds db authority ∧
      db' = { db with
        dispatches := db.dispatches.set authority.dispatch_id (authority.dispatch.refresh_activity occurred_at) } := by
  unfold admit_node_operation at h
  simp only [mapError_eq_ok_iff, bind_eq_ok_iff] at h
  obtain ⟨authority, hread, _, -, hrefresh⟩ := h
  obtain ⟨hid, hauth⟩ := read_node_operation_authority_success hread
  obtain ⟨dispatch, hdispatch, rfl⟩ := refresh_node_activity_success hrefresh
  have hrow := hauth.lane.dispatch_row.symm.trans hdispatch
  cases hrow
  exact ⟨authority, hid, hauth, rfl⟩

/-- A committed operation acted under the exact authority of its live Dispatch, which owned no source. -/
theorem commit_node_operation_success
    (h : commit_node_operation db scope operation is_capability_allowed = .ok db') :
    ∃ authority, authority.dispatch_id = scope.dispatch_id ∧ AuthorityHolds db authority ∧
      (operation.is_read = false → dispatch_already_owns_source db authority = false) ∧
      NodeOperationCommitted db authority operation db' := by
  unfold commit_node_operation execute_node_operation_transaction require_state_legal_node_operation at h
  simp only [mapError_eq_ok_iff, bind_eq_ok_iff, require_eq_ok_iff] at h
  obtain ⟨authority, hread, _, -, _, -, _, hlegal, hexecute⟩ := h
  obtain ⟨hid, hauth⟩ := read_node_operation_authority_success hread
  refine ⟨authority, hid, hauth, ?_, ?_⟩
  · intro hwrite
    simp only [state_legal_node_operation, hwrite, Bool.false_or, Bool.and_eq_true, Bool.not_eq_true'] at hlegal
    exact hlegal.1.2
  · cases operation with
    | get_current_context => cases hexecute; exact .get_current_context
    | set_work_plan request => exact .set_work_plan hexecute
    | checkpoint outcome checkpoint_id drawn =>
      simp only [execute_operation, map_eq_ok_iff] at hexecute
      obtain ⟨⟨wave_id, committed⟩, hcommit, rfl⟩ := hexecute
      exact .checkpoint (commit_checkpoint_success hauth hcommit)
    | delegate request wave_id wait_id drawn =>
      obtain ⟨rev, members, rows, consumed, dispatched, hcommitted⟩ := commit_delegation_wave_success hexecute
      exact .delegate hcommitted
    | replan request resolution_failure drawn =>
      obtain ⟨rev, loaded, mutation, hcommitted⟩ := commit_replan_rows_success hauth hexecute
      exact .replan hcommitted
    | open_human_request request files request_id wait_id => exact .open_human_request hexecute
    | start_command_run timeout_seconds cwd run_id wait_id => exact .start_command_run hexecute

/-- Every committed operation moves the lanes by whole steps. -/
theorem NodeOperationCommitted.steps {authority : NodeOperationAuthority} (hinv : db.lanes.Invariant)
    (hauth : AuthorityHolds db authority) (h : NodeOperationCommitted db authority operation db') :
    Lanes.Steps db.lanes db'.lanes := by
  cases h with
  | get_current_context => exact .refl
  | set_work_plan hcommitted =>
    rw [set_assignment_work_plan_lanes hcommitted]
  | checkpoint hcommitted => exact hcommitted.steps hinv hauth
  | delegate hcommitted => exact hcommitted.steps hauth
  | replan hcommitted => exact .single (hcommitted.step hauth hinv)
  | open_human_request hcommitted => exact .single (open_human_request_step hauth hcommitted)
  | start_command_run hcommitted => exact .single (start_command_run_step hauth hcommitted)

end OhMySubagents
