import OhMySubagents.CommandRun.Continuation
import OhMySubagents.Delegation.Continuation
import OhMySubagents.Delegation.Settlement
import OhMySubagents.HumanRequest.Continuation
import OhMySubagents.Replan.Continuation
import OhMySubagents.Launch.Continuation
import OhMySubagents.TaskControl.Cancellation

open Relational

namespace OhMySubagents

def paused_continuation_conflict (summary : String) : RuntimeOperationError := conflict_error summary

structure PausedAttemptLane where
  assignment_id : AssignmentId
  attempt_id : AttemptId
  current_wait_id : Option WaitId
  deriving DecidableEq, Repr

structure PausedTaskSnapshot where
  current_team_revision_id : RevisionId
  control_revision : Nat
  pause_reason : PauseReason
  lanes : List PausedAttemptLane
  deriving DecidableEq, Repr

structure OperatorContinueSource where
  basis : OrdinaryContinuationBasis
  claim : OrdinarySourceClaim

structure PausedTaskContinuationPlan where
  task : PausedTaskSnapshot
  sources : List OperatorContinueSource
  has_unconsumed_task_start : Bool

def OperatorContinueSource.lane_key (source : OperatorContinueSource) : AssignmentId × AttemptId :=
  (source.basis.assignment_id, source.basis.attempt_id)

def PausedAttemptLane.key (lane : PausedAttemptLane) : AssignmentId × AttemptId :=
  (lane.assignment_id, lane.attempt_id)

/-- The pause reasons that `_read_paused_task_snapshot` accepts. -/
def PauseReason.is_resumable : PauseReason → Bool
  | .paused_by_operator | .runtime_recovery_exhausted | .runtime_transition_failed => true
  | _ => false

/-- Recheck one source-free closed Attempt lineage tail before batch commit. -/
def claim_operator_continue_tail : OrdinarySourceClaim := fun db snapshot _ => do
  let source_dispatch_id := snapshot.basis.source_dispatch_id
  ensure ((db.dispatches.get? source_dispatch_id).any
    (fun dispatch => dispatch.is_continuation_source snapshot.basis) &&
    (!db.dispatches.any fun _ successor => successor.predecessor_dispatch_id == some source_dispatch_id) &&
    (!db.human_requests.any fun _ request => request.source_dispatch_id == source_dispatch_id &&
      request.successor_dispatch_id.isNone) &&
    (!db.command_runs.any fun _ run => run.source_dispatch_id == source_dispatch_id &&
      run.successor_dispatch_id.isNone) &&
    (!db.delegation_waves.any fun _ wave => wave.source_dispatch_id == source_dispatch_id &&
      wave.successor_dispatch_id.isNone) &&
    !db.replan_transitions.any fun _ transition => transition.source_dispatch_id == source_dispatch_id &&
      transition.successor_dispatch_id.isNone && !transition.successor_state.is_ended)
  return db

def PausedAttemptLane.of (attempt_id : AttemptId) (attempt : Attempt) : PausedAttemptLane where
  assignment_id := attempt.assignment_id
  attempt_id := attempt_id
  current_wait_id := attempt.current_wait_id

def running_attempts (db : TaskDb) : List (AttemptId × Attempt) :=
  db.attempts.select fun _ attempt => attempt.status == .running

def read_paused_task_snapshot (db : TaskDb) (expected_team_revision_id : RevisionId) (expected_control_revision : Nat) :
    Result PausedTaskSnapshot := do
  let pause_reason ← require_some (db.task.pause_reason.filter PauseReason.is_resumable)
    (paused_continuation_conflict "Task is not paused at the expected revision")
  require (db.task.status == .paused && db.task.current_team_revision_id == expected_team_revision_id &&
      db.task.control_revision == expected_control_revision)
    (paused_continuation_conflict "Task is not paused at the expected revision")
  require ((running_attempts db).all fun row => row.2.current_dispatch_id.isNone)
    (paused_continuation_conflict "paused Task still owns a current Attempt Dispatch")
  return {
    current_team_revision_id := db.task.current_team_revision_id
    control_revision := db.task.control_revision
    pause_reason := pause_reason
    lanes := (running_attempts db).map fun row => PausedAttemptLane.of row.1 row.2 }

/-- Read the basis of every source of one kind. -/
def read_continue_sources (db : TaskDb) (claim : OrdinarySourceClaim) :
    List OrdinarySourceReader → Result (List OperatorContinueSource)
  | [] => .ok []
  | read_source :: rest => do
    let basis ← read_source db
    let sources ← read_continue_sources db claim rest
    return (basis.map fun basis => ⟨basis, claim⟩).toList ++ sources

def read_human_request_sources (db : TaskDb) : Result (List OperatorContinueSource) :=
  read_continue_sources db claim_human_request_continuation <|
    (db.human_requests.select fun _ request => request.is_terminal_unconsumed).map fun row =>
      read_human_request_continuation_basis row.1

def read_command_run_sources (db : TaskDb) : Result (List OperatorContinueSource) :=
  read_continue_sources db claim_command_run_continuation <|
    (db.command_runs.select fun _ run => run.is_terminal_unconsumed).map fun row =>
      read_command_run_continuation_basis row.1

def read_delegation_wave_sources (db : TaskDb) : Result (List OperatorContinueSource) :=
  read_continue_sources db claim_delegation_wave_continuation <|
    (db.delegation_waves.select fun _ wave => wave.is_settled_unconsumed).map fun row =>
      read_delegation_wave_continuation_basis row.1

/-- Only transitions into the current Team revision are sources. -/
def read_replan_sources (db : TaskDb) : Result (List OperatorContinueSource) :=
  read_continue_sources db claim_replan_continuation <|
    (db.replan_transitions.select fun _ transition => transition.can_continue &&
      transition.successor_team_revision_id == db.task.current_team_revision_id).map fun row =>
        read_replan_continuation_basis row.1

def operator_continue_basis (task : PausedTaskSnapshot) (dispatch_id : DispatchId) (tail : DispatchTurn)
    (closed_reason : DispatchClosedReason) : OrdinaryContinuationBasis where
  assignment_id := tail.assignment_id
  attempt_id := tail.attempt_id
  source_dispatch_id := dispatch_id
  source_dispatch_closed_reason := closed_reason
  opened_reason := .operator_continue
  trigger := .operator_continue dispatch_id task.control_revision (some task.pause_reason)
  continuation_source_id := none

/-- The reason that a Dispatch closed with, where a resume may continue from it. -/
def DispatchTurn.paused_tail_reason (dispatch : DispatchTurn) : Option DispatchClosedReason :=
  match dispatch.status with
  | .closed .paused => some .paused
  | .closed .control_failed => some .control_failed
  | _ => none

def read_closed_tail_sources (db : TaskDb) (task : PausedTaskSnapshot) : List OperatorContinueSource :=
  (db.dispatches.select fun dispatch_id _ =>
      !db.dispatches.any fun _ successor => successor.predecessor_dispatch_id == some dispatch_id).filterMap fun row =>
    row.2.paused_tail_reason.map fun closed_reason =>
      ⟨operator_continue_basis task row.1 row.2 closed_reason, claim_operator_continue_tail⟩

def read_operator_continue_sources (db : TaskDb) (task : PausedTaskSnapshot) :
    Result (List OperatorContinueSource) := do
  let human_requests ← read_human_request_sources db
  let command_runs ← read_command_run_sources db
  let delegation_waves ← read_delegation_wave_sources db
  let replans ← read_replan_sources db
  return human_requests ++ command_runs ++ delegation_waves ++ replans ++ read_closed_tail_sources db task

/-- `_wait_source_is_unresolved`. Of a Wave only its own row is read, not its members. -/
def wait_source_is_unresolved (db : TaskDb) (wait : AttemptWait) : Bool :=
  match wait.source with
  | .human_request request_id => (db.human_requests.get? request_id).any fun request =>
      request.status == .open && request.successor_dispatch_id.isNone
  | .command_run run_id => (db.command_runs.get? run_id).any fun run =>
      !run.state.is_terminal && run.successor_dispatch_id.isNone
  | .delegation_wave wave_id => (db.delegation_waves.get? wave_id).any DelegationWave.is_open

def validate_current_attempt_wait (db : TaskDb) (lane : PausedAttemptLane) (wait_id : WaitId) : Result Unit := do
  let wait ← require_some ((db.attempt_waits.get? wait_id).filter fun wait =>
      wait.assignment_id == lane.assignment_id && wait.attempt_id == lane.attempt_id)
    (paused_continuation_conflict "Attempt current wait identity is inconsistent")
  require (wait_source_is_unresolved db wait)
    (paused_continuation_conflict "Attempt wait source is no longer unresolved")

/-- The sources of one lane. -/
def lane_sources (sources : List OperatorContinueSource) (lane : PausedAttemptLane) : List OperatorContinueSource :=
  sources.filter fun source => source.lane_key == lane.key

def validate_lane_source (db : TaskDb) (sources : List OperatorContinueSource) (has_task_start : Bool)
    (lane : PausedAttemptLane) : Result Unit :=
  match lane.current_wait_id with
  | some wait_id => do
    require (lane_sources sources lane).isEmpty
      (paused_continuation_conflict "waiting Attempt also retained a runnable continuation source")
    validate_current_attempt_wait db lane wait_id
  | none => do
    require ((lane_sources sources lane).length ≤ 1)
      (paused_continuation_conflict "paused Attempt retained more than one runnable continuation source")
    require (!(lane_sources sources lane).isEmpty || has_task_start)
      (paused_continuation_conflict "paused Attempt has no exact continuation source")

def validate_lane_sources (db : TaskDb) (task : PausedTaskSnapshot) (sources : List OperatorContinueSource)
    (has_task_start : Bool) : Result Unit := do
  task.lanes.forM (validate_lane_source db sources has_task_start)
  if has_task_start then
    require (task.lanes.length == 1 && sources.isEmpty && task.lanes.all fun lane => lane.current_wait_id.isNone)
      (paused_continuation_conflict "unconsumed Task start is not the exclusive initial Attempt source")
  else
    require (!task.lanes.isEmpty) (paused_continuation_conflict "paused Task has no running Attempt lanes")

/-- Enumerate every paused Attempt lane without inventing a global lane pointer. -/
def read_paused_task_continuation_plan (db : TaskDb) (expected_team_revision_id : RevisionId)
    (expected_control_revision : Nat) : Result PausedTaskContinuationPlan := do
  let task ← read_paused_task_snapshot db expected_team_revision_id expected_control_revision
  let sources ← read_operator_continue_sources db task
  require (sources.all fun source => task.lanes.any fun lane => source.lane_key == lane.key)
    (paused_continuation_conflict "paused Task retained a source outside its running Attempts")
  let has_task_start := db.task_start_source.successor_dispatch_id.isNone
  validate_lane_sources db task sources has_task_start
  return ⟨task, sources, has_task_start⟩

structure PreparedPausedContinuation where
  snapshot : OrdinaryDispatchSnapshot
  prepared : PreparedDispatchRequest
  claim : OrdinarySourceClaim

/-- `RuntimeOperationError` of a resume whose prompts or providers cannot be prepared. -/
def paused_continuation_preparation_error : RuntimeOperationError :=
  illegal_state_error "operator continue preparation failed"

/-- Read the prompt of one source. `stale` are the rows that the plan was read from. -/
def read_paused_continuation (stale : TaskDb) (plan : PausedTaskContinuationPlan) (source : OperatorContinueSource) :
    Result (OrdinaryDispatchSnapshot × OrdinarySourceClaim) := do
  let snapshot ← require_some
    (← read_ordinary_dispatch_snapshot stale source.basis .paused (some plan.task.control_revision))
    (paused_continuation_conflict "paused Attempt continuation is no longer current")
  return (snapshot, source.claim)

/-- What the controller draws for one opened source; empty when its provider cannot be prepared. -/
abbrev DrawnContinuations := DispatchId → Option DrawnDispatchRequest

def prepare_paused_continuation (drawn : DrawnContinuations)
    (candidate : OrdinaryDispatchSnapshot × OrdinarySourceClaim) : Result PreparedPausedContinuation := do
  let request ← require_some (drawn candidate.1.basis.source_dispatch_id) paused_continuation_preparation_error
  return ⟨candidate.1, prepare_dispatch_request request candidate.1.steering, candidate.2⟩

def prepare_paused_continuations (stale : TaskDb) (plan : PausedTaskContinuationPlan) (drawn : DrawnContinuations) :
    Result (List PreparedPausedContinuation) := do
  let candidates ← plan.sources.mapM (read_paused_continuation stale plan)
  candidates.mapM (prepare_paused_continuation drawn)

/-- The filter on a running Attempt that is still the lane of the plan. -/
def Attempt.is_paused_lane (attempt : Attempt) (lane : PausedAttemptLane) : Bool :=
  attempt.assignment_id == lane.assignment_id && attempt.status == .running &&
    attempt.current_dispatch_id.isNone && attempt.current_wait_id == lane.current_wait_id

def paused_task_is_current (db : TaskDb) (task : PausedTaskSnapshot) : Bool :=
  db.task.status == .paused && db.task.current_team_revision_id == task.current_team_revision_id &&
    db.task.control_revision == task.control_revision && db.task.pause_reason == some task.pause_reason &&
    (running_attempts db).length == task.lanes.length &&
    task.lanes.all fun lane => (db.attempts.get? lane.attempt_id).any fun attempt => attempt.is_paused_lane lane

/-- The filter on a running Attempt that no Dispatch holds. -/
def Attempt.is_halted (attempt : Attempt) : Bool :=
  attempt.status == .running && attempt.current_dispatch_id.isNone

def Attempt.reset_watchdog (attempt : Attempt) : Attempt :=
  if attempt.is_halted then { attempt with watchdog_replacement_count := 0 } else attempt

def reset_watchdog_replacement_counts (db : TaskDb) (task : PausedTaskSnapshot) : Result TaskDb := do
  let reset_lanes := (db.attempts.select fun _ attempt => attempt.is_halted).map fun row =>
    (PausedAttemptLane.of row.1 row.2).key
  require (reset_lanes.all (fun key => task.lanes.any fun lane => lane.key == key) &&
      task.lanes.all fun lane => reset_lanes.contains lane.key)
    (paused_continuation_conflict "paused Attempt lanes changed while resetting watchdog recovery budgets")
  return { db with attempts := db.attempts.mapRows fun _ attempt => attempt.reset_watchdog }

/-- Claim the source of one lane and open its Dispatch. -/
def open_paused_continuation (db : TaskDb) (item : PreparedPausedContinuation) : Result TaskDb := do
  let claimed ← require_some (item.claim db item.snapshot item.prepared)
    (paused_continuation_conflict "a paused Attempt source changed during continue")
  stage_starting_dispatch claimed item.snapshot.starting_basis item.prepared

/-- Resume the Task and open every prepared lane in one transaction. -/
def commit_paused_continuations (db : TaskDb) (plan : PausedTaskContinuationPlan)
    (prepared : List PreparedPausedContinuation) : Result TaskDb := do
  require (paused_task_is_current db plan.task && prepared.all fun item => ordinary_context_is_current db item.snapshot)
    (paused_continuation_conflict "another controller transition won during continue")
  let reset ← reset_watchdog_replacement_counts { db with task := db.task.resume } plan.task
  prepared.foldlM open_paused_continuation reset

/-- The exceptions of reading and preparing a plan: only a `ValueError` is not a `RuntimeOperationError`. -/
def normalize_plan_error (error : RuntimeOperationError) : RuntimeOperationError :=
  if error.code = .internal_error then paused_continuation_preparation_error else error

/-- The exceptions of the commit: a rejected row passes, a lost lane is a conflict. -/
def normalize_commit_error (error : RuntimeOperationError) : RuntimeOperationError :=
  if error = integrity_error then error
  else if error.code = .internal_error then
    paused_continuation_conflict "another controller transition won during continue"
  else error

/-- Resume every runnable Attempt lane from one exact paused Task snapshot. `stale` are the rows that the plan
    and its prompts were read from. -/
def continue_paused_task (stale db : TaskDb) (snapshot : ControlSnapshot) (drawn : DrawnContinuations)
    (drawn_root : Option DrawnDispatchRequest) : Result TaskDb := do
  let plan ← (read_paused_task_continuation_plan stale snapshot.expected_team_revision_id
    snapshot.expected_control_revision).mapError normalize_plan_error
  if plan.has_unconsumed_task_start then
    continue_paused_root_dispatch stale db (plan.task.current_team_revision_id, plan.task.control_revision) drawn_root
  else do
    let prepared ← (prepare_paused_continuations stale plan drawn).mapError normalize_plan_error
    (commit_paused_continuations db plan prepared).mapError normalize_commit_error

/-- `repair_paused_replan_manifests`: every transition into the expected Team revision that has not ended gets
    its manifest repaired before the plan is read. Returns whether every manifest is current. -/
def repair_paused_replan_manifests (db : TaskDb) (snapshot : ControlSnapshot) (written : TransitionId → Bool) :
    Bool × TaskDb :=
  let transitions := db.replan_transitions.select fun _ transition =>
    transition.is_cancellable snapshot.expected_team_revision_id && db.task.status == .paused &&
      db.task.current_team_revision_id == snapshot.expected_team_revision_id &&
      db.task.control_revision == snapshot.expected_control_revision
  transitions.foldl (fun state row =>
    if state.1 then ensure_replan_manifest_current state.2 state.2 state.2 row.1 (written row.1) else state) (true, db)

/-- The checks that a resume makes first, on rows that may change before its plan is read. -/
def require_resumable (db : TaskDb) (snapshot : ControlSnapshot) (workspace_available : Bool) : Result Unit := do
  require_control_snapshot db.task snapshot [.paused]
  require (db.task.pause_reason != some .provider_retired)
    (task_control_conflict "the current Team selects retired provider OpenClaw and cannot be resumed")
  require workspace_available
    (task_control_conflict "The Task workspace is unavailable and the run cannot be resumed.")

/-- Resume one exact paused Task. `checked` are the rows that the first checks read; the manifest repairs that
    follow them are transactions of their own. -/
def continue_task (checked stale db : TaskDb) (snapshot : ControlSnapshot) (workspace_available : Bool)
    (drawn : DrawnContinuations) (drawn_root : Option DrawnDispatchRequest) : Result TaskDb := do
  require_resumable checked snapshot workspace_available
  continue_paused_task stale db snapshot drawn drawn_root

end OhMySubagents
