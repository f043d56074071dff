import OhMySubagents.CommandRun.ProcessOwner
import OhMySubagents.Delegation.Settlement
import OhMySubagents.HumanRequest.Service
import OhMySubagents.Relational.Alteration
import OhMySubagents.Control.Transitions

open Relational

namespace OhMySubagents

section

def task_control_conflict (summary : String) : RuntimeOperationError := conflict_error summary

def DelegationWave.cancel (wave : DelegationWave) : DelegationWave := { wave with status := .cancelled }

def DelegationWaveMember.cancel (member : DelegationWaveMember) : DelegationWaveMember :=
  if member.status = .pending then { member with status := .cancelled } else member

/-- The resolution that Task cancellation leaves behind. -/
def cancelled_resolution (actor_ref : Option String) (surface : HumanRequestResolutionSurface)
    (cancelled_at : Instant) : HumanRequestResolution where
  item_responses := none
  summary := "Cancelled because the task was cancelled."
  resolved_at := cancelled_at
  resolved_by_actor_ref := actor_ref
  resolved_by_surface := surface

/-- The actor of one Task cancellation. -/
structure CancellationActor where
  actor_ref : Option String
  surface : HumanRequestResolutionSurface
  deriving DecidableEq, Repr

/-- The waits that running Attempts point at. -/
def read_current_attempt_waits (db : TaskDb) : List (WaitId × AttemptWait) :=
  db.attempt_waits.select fun wait_id wait =>
    (db.attempts.get? wait.attempt_id).any fun attempt => attempt.waits_on wait.assignment_id wait_id

/-- The filter on an open human request that one wait names. -/
def HumanRequest.is_waited_by (request : HumanRequest) (wait : AttemptWait) : Bool :=
  request.assignment_id == wait.assignment_id && request.attempt_id == wait.attempt_id &&
    request.source_dispatch_id == wait.source_dispatch_id && request.status == .open &&
    request.successor_dispatch_id.isNone

def cancel_human_request (db : TaskDb) (wait : AttemptWait) (request_id : RequestId) (actor : CancellationActor)
    (cancelled_at : Instant) : Result TaskDb := do
  let human_requests ← require_some
    (db.human_requests.updateWhere request_id (fun request => request.is_waited_by wait)
      fun request => request.resolve .cancelled (cancelled_resolution actor.actor_ref actor.surface cancelled_at))
    (task_control_conflict "the waiting human request changed before task cancellation")
  return { db with human_requests := human_requests }

/-- The filter on an open Wave that one wait names. -/
def DelegationWave.is_waited_by (wave : DelegationWave) (wait : AttemptWait) : Bool :=
  wave.parent_assignment_id == wait.assignment_id && wave.parent_attempt_id == wait.attempt_id &&
    wave.source_dispatch_id == wait.source_dispatch_id && wave.is_open

def cancel_waiting_delegation_wave (db : TaskDb) (wait : AttemptWait) (wave_id : WaveId) : Result TaskDb := do
  let delegation_waves ← require_some
    (db.delegation_waves.updateWhere wave_id (fun wave => wave.is_waited_by wait) DelegationWave.cancel)
    (task_control_conflict "the waiting Delegation Wave changed before task cancellation")
  return { db with
    delegation_waves := delegation_waves
    delegation_wave_members := db.delegation_wave_members.mapRows fun key member =>
      if key.1 = wave_id then member.cancel else member }

def cancel_attempt_wait_source (db : TaskDb) (wait : AttemptWait) (actor : CancellationActor)
    (cancelled_at : Instant) : Result TaskDb :=
  match wait.source with
  | .human_request request_id => cancel_human_request db wait request_id actor cancelled_at
  | .command_run run_id => (request_command_run_cancellation db run_id cancelled_at true true).map Prod.snd
  | .delegation_wave wave_id => cancel_waiting_delegation_wave db wait wave_id

/-- The filter on the wait row that was read. -/
def AttemptWait.is_same_owner (wait other : AttemptWait) : Bool :=
  other.assignment_id == wait.assignment_id && other.attempt_id == wait.attempt_id &&
    other.source_dispatch_id == wait.source_dispatch_id

def clear_and_delete_attempt_wait (db : TaskDb) (wait_id : WaitId) (wait : AttemptWait) : Result TaskDb := do
  let changed := task_control_conflict "an Attempt wait changed before task cancellation"
  let cleared ← require_some (clear_current_attempt_wait db
    { assignment_id := wait.assignment_id, attempt_id := wait.attempt_id, wait_id }) changed
  require ((cleared.attempt_waits.get? wait_id).any wait.is_same_owner) changed
  return { cleared with attempt_waits := cleared.attempt_waits.delete wait_id }

def cancel_attempt_wait (actor : CancellationActor) (cancelled_at : Instant) (db : TaskDb)
    (row : WaitId × AttemptWait) : Result TaskDb := do
  let source_cancelled ← cancel_attempt_wait_source db row.2 actor cancelled_at
  clear_and_delete_attempt_wait source_cancelled row.1 row.2

/-- Settle and delete every current Attempt wait after global cancellation wins. -/
def cancel_attempt_waits (db : TaskDb) (actor : CancellationActor) (cancelled_at : Instant) : Result TaskDb := do
  let cancelled ← (read_current_attempt_waits db).foldlM (cancel_attempt_wait actor cancelled_at) db
  require (!cancelled.attempt_waits.any fun _ _ => true)
    (illegal_state_error "task cancellation did not settle every Attempt wait")
  return cancelled

/-- The filter on a Wave that never opened its successor. -/
def DelegationWave.is_cancellable (wave : DelegationWave) : Bool :=
  (wave.status == .open || wave.status == .settled) && wave.successor_dispatch_id.isNone

def Attempt.cancel (attempt : Attempt) : Attempt :=
  if attempt.status.is_active then
    { attempt with
      status := .cancelled
      terminal_outcome := none
      current_dispatch_id := none
      current_wait_id := none }
  else attempt

def cancel_execution_rows (db : TaskDb) : TaskDb :=
  { db with
    delegation_waves := db.delegation_waves.mapRows fun _ wave => if wave.is_cancellable then wave.cancel else wave
    delegation_wave_members := db.delegation_wave_members.mapRows fun _ member => member.cancel
    attempts := db.attempts.mapRows fun _ attempt => attempt.cancel }

/-- What cancelling the source of one wait found and left behind. -/
inductive SourceGivenUp (db : TaskDb) (wait : AttemptWait) : TaskDb → Prop
  | human_request {request_id request resolution} (source : wait.source = .human_request request_id)
      (row : db.human_requests.get? request_id = some request) (is_open : request.status = .open)
      (unfollowed : request.successor_dispatch_id = none) :
      SourceGivenUp db wait { db with
        human_requests := db.human_requests.set request_id (request.resolve .cancelled resolution) }
  | command_run {run_id run requested_at} (source : wait.source = .command_run run_id)
      (row : db.command_runs.get? run_id = some run) (state : run.state = .pending_start ∨ run.state = .running) :
      SourceGivenUp db wait { db with
        command_runs := db.command_runs.set run_id (run.request_cancellation requested_at) }
  | stopping_command_run {run_id run} (source : wait.source = .command_run run_id)
      (row : db.command_runs.get? run_id = some run)
      (state : run.state.is_terminal = true ∨ run.state = .cancellation_requested) : SourceGivenUp db wait db
  | delegation_wave {wave_id wave} (source : wait.source = .delegation_wave wave_id)
      (row : db.delegation_waves.get? wave_id = some wave) (is_open : wave.status = .open)
      (unfollowed : wave.successor_dispatch_id = none) :
      SourceGivenUp db wait { db with
        delegation_waves := db.delegation_waves.set wave_id wave.cancel
        delegation_wave_members := db.delegation_wave_members.mapRows fun key member =>
          if key.1 = wave_id then member.cancel else member }

variable {db db' : TaskDb} {wait : AttemptWait} {wait_id : WaitId} {actor : CancellationActor}
  {cancelled_at : Instant}

theorem cancel_attempt_wait_source_success (h : cancel_attempt_wait_source db wait actor cancelled_at = .ok db') :
    SourceGivenUp db wait db' := by
  unfold cancel_attempt_wait_source at h
  split at h
  · next request_id hsource =>
    simp only [cancel_human_request, bind_eq_ok_iff, require_some_eq_ok_iff, Table.updateWhere_eq_some,
      HumanRequest.is_waited_by, Bool.and_eq_true, beq_iff_eq, Option.isNone_iff_eq_none] at h
    obtain ⟨_, ⟨request, hrow, ⟨⟨-, hopen⟩, hnone⟩, rfl⟩, h⟩ := h
    cases h
    exact .human_request hsource hrow hopen hnone
  · next run_id hsource =>
    rw [map_eq_ok_iff] at h
    obtain ⟨⟨changed, requested⟩, hrequest, rfl⟩ := h
    obtain ⟨-, rfl, run, hrow, hstate⟩ | ⟨run, -, hrow, hstate, -, rfl⟩ :=
      request_command_run_cancellation_success hrequest
    · exact .stopping_command_run hsource hrow hstate
    · exact .command_run hsource hrow hstate
  · next wave_id hsource =>
    simp only [cancel_waiting_delegation_wave, bind_eq_ok_iff, require_some_eq_ok_iff, Table.updateWhere_eq_some,
      DelegationWave.is_waited_by, Bool.and_eq_true, DelegationWave.is_open_iff] at h
    obtain ⟨_, ⟨wave, hrow, ⟨-, hopen, hnone⟩, rfl⟩, h⟩ := h
    cases h
    exact .delegation_wave hsource hrow hopen hnone

theorem clear_and_delete_attempt_wait_success (h : clear_and_delete_attempt_wait db wait_id wait = .ok db') :
    ∃ attempt row, db.attempts.get? wait.attempt_id = some attempt ∧ attempt.status = .running ∧
      attempt.current_wait_id = some wait_id ∧ db.attempt_waits.get? wait_id = some row ∧
      db' = db.clear_wait wait_id wait.attempt_id attempt := by
  unfold clear_and_delete_attempt_wait at h
  simp only [bind_eq_ok_iff, require_some_eq_ok_iff, require_eq_ok_iff, clear_current_attempt_wait_eq_some,
    Option.any_eq_true] at h
  obtain ⟨_, ⟨attempt, hattempt, -, hrunning, -, hwait, rfl⟩, _, ⟨row, hrow, -⟩, h⟩ := h
  cases h
  exact ⟨attempt, row, hattempt, hrunning, hwait, hrow, rfl⟩

end

/-- The revisions that a control request was made against. -/
structure ControlSnapshot where
  expected_team_revision_id : RevisionId
  expected_control_revision : Nat
  deriving DecidableEq, Repr

def require_control_snapshot (task : Task) (snapshot : ControlSnapshot) (allowed_statuses : List TaskStatus) :
    Result Unit := do
  require (task.current_team_revision_id == snapshot.expected_team_revision_id)
    (stale_team_revision_error "the current Team revision changed before control")
  require (task.control_revision == snapshot.expected_control_revision)
    (task_control_conflict "the Task control revision changed before control")
  require (allowed_statuses.contains task.status)
    (task_control_conflict ("Task cannot be controlled from status '" ++ task.status.text ++ "'"))

/-- Pause one exact running Task while retaining any external wait. -/
def pause_task (db : TaskDb) (snapshot : ControlSnapshot) : Result TaskDb := do
  require_control_snapshot db.task snapshot [.running]
  close_current_task_dispatches { db with task := db.task.pause .paused_by_operator } .paused fun _ => none

def Task.cancel (task : Task) : Task :=
  { task with
    status := .cancelled
    terminal_outcome := none
    result_boundary_id := none
    pause_reason := none
    control_revision := task.control_revision + 1 }

/-- The filter on a transition into one Team revision that has not ended. -/
def ReplanTransition.is_cancellable (transition : ReplanTransition) (current_team_revision_id : RevisionId) : Bool :=
  transition.successor_team_revision_id == current_team_revision_id && transition.successor_state != .opened &&
    transition.successor_state != .cancelled && transition.successor_dispatch_id.isNone

def ReplanTransition.cancel (transition : ReplanTransition) : ReplanTransition :=
  { transition with successor_state := .cancelled }

/-- `_cancel_pending_replan_transition`: only a transition into the current Team revision is cancelled. -/
def cancel_pending_replan_transition (db : TaskDb) : TaskDb :=
  { db with
    replan_transitions := db.replan_transitions.mapRows fun _ transition =>
      if transition.is_cancellable db.task.current_team_revision_id then transition.cancel else transition }

/-- Cancel one exact nonterminal Task without opening a successor. -/
def cancel_task (db : TaskDb) (snapshot : ControlSnapshot) (actor : CancellationActor) (cancelled_at : Instant) :
    Result TaskDb := do
  require_control_snapshot db.task snapshot [.running, .paused]
  let closed ← close_current_task_dispatches { db with task := db.task.cancel } .cancelled fun _ => none
  let unwaited ← cancel_attempt_waits closed actor cancelled_at
  return cancel_pending_replan_transition (cancel_execution_rows unwaited)

variable {db db' : TaskDb} {snapshot : ControlSnapshot}

theorem require_control_snapshot_success {task : Task} {allowed_statuses : List TaskStatus}
    (h : require_control_snapshot task snapshot allowed_statuses = .ok ()) :
    task.current_team_revision_id = snapshot.expected_team_revision_id ∧
      task.control_revision = snapshot.expected_control_revision ∧ task.status ∈ allowed_statuses := by
  unfold require_control_snapshot at h
  simp only [bind_eq_ok_iff, require_eq_ok_iff, beq_iff_eq, List.contains_iff_mem] at h
  obtain ⟨_, hteam, _, hcontrol, hstatus⟩ := h
  exact ⟨hteam, hcontrol, hstatus⟩

theorem pause_task_success (h : pause_task db snapshot = .ok db') : TaskPaused db db' .paused_by_operator := by
  unfold pause_task at h
  rw [bind_eq_ok_iff] at h
  obtain ⟨_, hsnapshot, hclose⟩ := h
  obtain ⟨-, -, hstatus⟩ := require_control_snapshot_success hsnapshot
  exact close_current_task_dispatches_pause (List.mem_singleton.mp hstatus) (by simp) hclose

end OhMySubagents
