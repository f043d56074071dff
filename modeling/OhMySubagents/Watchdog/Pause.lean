import OhMySubagents.Dispatch.OrdinaryContinuation
import OhMySubagents.Control.Transitions

open Relational

namespace OhMySubagents

/-- `WatchdogDue`: one open Dispatch that has been silent since one recorded activity. -/
structure WatchdogDue where
  dispatch_id : DispatchId
  activity_revision : Nat
  due_at : Instant
  deriving DecidableEq, Repr

/-- The replacement that one read of a stale Dispatch prepared, with the activity columns of the Dispatch. -/
structure WatchdogRecoverySnapshot where
  dispatch : OrdinaryDispatchSnapshot
  source_team_revision_id : RevisionId
  adapter_started_at : Instant
  last_node_activity_at : Option Instant
  activity_revision : Nat
  authoritative_due_at : Instant
  watchdog_replacement_count : Nat
  deriving DecidableEq, Repr

/-- Return the authoritative inactivity deadline for one open dispatch. -/
def calculate_watchdog_due_at (adapter_started_at : Instant) (last_node_activity_at : Option Instant)
    (inactivity_timeout_seconds : Nat) : Instant :=
  max adapter_started_at (last_node_activity_at.getD adapter_started_at) + inactivity_timeout_seconds

/-- What the deadline handler does with its timer. -/
inductive DeadlineRegistration
  | cancelled | kept
  | registered (due : WatchdogDue)
  deriving DecidableEq, Repr

/-- The deadline registration of one exact Dispatch: its timer is set when the signal names its activity and the due
    time of the rows, and cancelled when the Dispatch holds no running lane. -/
def register_deadline (db : TaskDb) (signal : WatchdogDue) (inactivity_timeout_seconds : Nat) : DeadlineRegistration :=
  let row := (db.dispatches.get? signal.dispatch_id).bind fun dispatch =>
    ((db.attempts.get? dispatch.attempt_id).filter fun attempt => attempt.assignment_id == dispatch.assignment_id &&
      attempt.status == .running && attempt.current_wait_id.isNone).map fun attempt => (dispatch, attempt)
  match row with
  | none => .cancelled
  | some (dispatch, attempt) =>
    if dispatch.status != .open || db.task.status != .running ||
        attempt.current_dispatch_id != some signal.dispatch_id then .cancelled
    else if dispatch.node_activity_revision != signal.activity_revision then .kept
    else
      match dispatch.adapter_started_at with
      | none => .cancelled
      | some adapter_started_at =>
        let due_at := calculate_watchdog_due_at adapter_started_at dispatch.last_node_activity_at
          inactivity_timeout_seconds
        if signal.due_at != due_at then .kept
        else .registered ⟨signal.dispatch_id, dispatch.node_activity_revision, due_at⟩

/-- Return whether any human or command source remains bound to a Dispatch. -/
def dispatch_owns_external_source (db : TaskDb) (dispatch_id : DispatchId) : Bool :=
  db.human_requests.any (fun _ request => request.source_dispatch_id == dispatch_id) ||
    db.command_runs.any fun _ run => run.source_dispatch_id == dispatch_id

/-- The rows that one Dispatch joins to while the current Team retains its selection. -/
def select_watchdog_rows (db : TaskDb) (dispatch_id : DispatchId) : Option (DispatchTurn × Assignment × Attempt) := do
  let dispatch ← db.dispatches.get? dispatch_id
  let assignment ← db.assignments.get? dispatch.assignment_id
  let attempt ← db.attempts.get? dispatch.attempt_id
  ensure (current_team_selects_member db dispatch.selection && assignment.member_id == dispatch.member_id &&
    attempt.assignment_id == dispatch.assignment_id)
  return (dispatch, assignment, attempt)

/-- The Dispatch is open in the current lane of its open Assignment, and did nothing since the signal was
    registered. -/
def context_is_plausible (db : TaskDb) (signal : WatchdogDue) (source : DispatchTurn) (assignment : Assignment)
    (attempt : Attempt) : Bool :=
  source.status == .open && source.node_activity_revision == signal.activity_revision &&
    db.task.status == .running && assignment.is_current source.member_id source.attempt_id &&
    attempt.holds ⟨source.assignment_id, source.attempt_id, signal.dispatch_id⟩

/-- The exact stale Dispatch that a signal names, with the instant its provider started. -/
def read_stale_dispatch (db : TaskDb) (signal : WatchdogDue) (now : Instant) (inactivity_timeout_seconds : Nat) :
    Option (DispatchTurn × Assignment × Attempt × Instant) := do
  let (source, assignment, attempt) ← select_watchdog_rows db signal.dispatch_id
  let adapter_started_at ← source.adapter_started_at
  ensure ( context_is_plausible db signal source assignment attempt &&
    calculate_watchdog_due_at adapter_started_at source.last_node_activity_at inactivity_timeout_seconds ==
      signal.due_at && signal.due_at ≤ now && !dispatch_owns_external_source db signal.dispatch_id)
  return (source, assignment, attempt, adapter_started_at)

/-- A replacement also joins the configuration that its prompt shows. -/
def read_watchdog_recovery_candidate (db : TaskDb) (signal : WatchdogDue) (now : Instant)
    (inactivity_timeout_seconds : Nat) : Option (DispatchTurn × Assignment × Attempt × Instant) := do
  let candidate ← read_stale_dispatch db signal now inactivity_timeout_seconds
  let configuration ← db.member_configurations.get? candidate.1.member_configuration_id
  ensure (configuration.member_id == candidate.1.member_id)
  return candidate

/-- The prompt of a replacement. It is built without the accepted steers of the Assignment. -/
def build_watchdog_replacement_dispatch (db : TaskDb) (signal : WatchdogDue) (source : DispatchTurn)
    (assignment : Assignment) : OrdinaryDispatchSnapshot where
  basis :=
    { assignment_id := source.assignment_id
      attempt_id := source.attempt_id
      source_dispatch_id := signal.dispatch_id
      source_dispatch_closed_reason := .watchdog_superseded
      opened_reason := .watchdog_recovery
      trigger := .watchdog_recovery signal.dispatch_id
      continuation_source_id := none }
  expected_task_status := .running
  expected_pause_reason := none
  task_control_revision := db.task.control_revision
  assignment_work_plan_revision := assignment.work_plan_revision
  team_revision_id := db.task.current_team_revision_id
  selection := source.selection
  steering := []

/-- Read the exact stale Dispatch and render its replacement request. -/
def read_watchdog_recovery_snapshot (db : TaskDb) (signal : WatchdogDue) (now : Instant)
    (inactivity_timeout_seconds : Nat) : Option WatchdogRecoverySnapshot := do
  let (source, assignment, attempt, adapter_started_at) ←
    read_watchdog_recovery_candidate db signal now inactivity_timeout_seconds
  return {
    dispatch := build_watchdog_replacement_dispatch db signal source assignment
    source_team_revision_id := source.team_revision_id
    adapter_started_at := adapter_started_at
    last_node_activity_at := source.last_node_activity_at
    activity_revision := source.node_activity_revision
    authoritative_due_at := signal.due_at
    watchdog_replacement_count := attempt.watchdog_replacement_count }

/-- What a signal found of the stale Dispatch that it names. -/
structure StaleDispatch (db : TaskDb) (signal : WatchdogDue) (source : DispatchTurn) (assignment : Assignment)
    (attempt : Attempt) (adapter_started_at : Instant) : Prop where
  lane : HoldsLane db ⟨source.assignment_id, source.attempt_id, signal.dispatch_id⟩ attempt source
  is_open : source.status = .open
  started : source.adapter_started_at = some adapter_started_at
  activity : source.node_activity_revision = signal.activity_revision
  assignment_row : db.assignments.get? source.assignment_id = some assignment
  assignment_member : assignment.member_id = source.member_id
  assignment_attempt : assignment.current_attempt_id = source.attempt_id
  assignment_open : assignment.terminal_outcome = none
  selected : current_team_selects_member db source.selection = true

theorem read_stale_dispatch_success {db : TaskDb} {signal : WatchdogDue} {now : Instant}
    {inactivity_timeout_seconds : Nat} {source : DispatchTurn} {assignment : Assignment} {attempt : Attempt}
    {adapter_started_at : Instant}
    (h : read_stale_dispatch db signal now inactivity_timeout_seconds =
      some (source, assignment, attempt, adapter_started_at)) :
    StaleDispatch db signal source assignment attempt adapter_started_at ∧
      calculate_watchdog_due_at adapter_started_at source.last_node_activity_at inactivity_timeout_seconds =
        signal.due_at ∧
      signal.due_at ≤ now ∧ dispatch_owns_external_source db signal.dispatch_id = false := by
  unfold read_stale_dispatch select_watchdog_rows context_is_plausible at h
  simp only [Option.bind_eq_bind, Option.bind_eq_some_iff, ensure_eq_some_iff, Option.pure_def, Option.some.injEq,
    Bool.and_eq_true, beq_iff_eq, Bool.not_eq_true', decide_eq_true_eq, Prod.mk.injEq, Assignment.is_current_iff,
    Attempt.holds_iff] at h
  obtain ⟨⟨source, assignment, attempt⟩, ⟨_, hdispatch, _, hassignment, _, hattempt, _, ⟨⟨hselected, -⟩, -⟩, rfl, rfl,
    rfl⟩, started, hstarted, _, ⟨⟨⟨⟨⟨⟨⟨hopen, hactivity⟩, hrunning⟩, hmember, hcurrent, hnone⟩, hasg, hstatus,
    hpointer, hwait⟩, hdue⟩, hnow⟩, hexternal⟩, rfl, rfl, rfl, rfl⟩ := h
  have hlive : source.is_live = true := by simp [DispatchTurn.is_live, show source.status = .open from hopen]
  exact ⟨⟨⟨hrunning, hattempt, hasg, hstatus, hpointer, hwait, hdispatch, rfl, rfl, hlive⟩, hopen, hstarted,
    hactivity, hassignment, hmember, hcurrent, hnone, hselected⟩, hdue, hnow, hexternal⟩

/-- What a snapshot pins of the stale Dispatch that it was read from. -/
theorem read_watchdog_recovery_snapshot_success {db : TaskDb} {signal : WatchdogDue} {now : Instant}
    {inactivity_timeout_seconds : Nat} {snapshot : WatchdogRecoverySnapshot}
    (h : read_watchdog_recovery_snapshot db signal now inactivity_timeout_seconds = some snapshot) :
    ∃ source assignment attempt adapter_started_at,
      StaleDispatch db signal source assignment attempt adapter_started_at ∧
      calculate_watchdog_due_at adapter_started_at source.last_node_activity_at inactivity_timeout_seconds =
        signal.due_at ∧
      signal.due_at ≤ now ∧
      snapshot = {
        dispatch := build_watchdog_replacement_dispatch db signal source assignment
        source_team_revision_id := source.team_revision_id
        adapter_started_at := adapter_started_at
        last_node_activity_at := source.last_node_activity_at
        activity_revision := source.node_activity_revision
        authoritative_due_at := signal.due_at
        watchdog_replacement_count := attempt.watchdog_replacement_count } := by
  unfold read_watchdog_recovery_snapshot read_watchdog_recovery_candidate at h
  simp only [Option.bind_eq_bind, Option.bind_eq_some_iff, ensure_eq_some_iff, Option.pure_def,
    Option.some.injEq] at h
  obtain ⟨_, ⟨⟨source, assignment, attempt, started⟩, hread, _, -, _, -, rfl⟩, rfl⟩ := h
  obtain ⟨hstale, hdue, hnow, -⟩ := read_stale_dispatch_success hread
  exact ⟨source, assignment, attempt, started, hstale, hdue, hnow, rfl⟩

/-- `watchdog_context_is_current`: everything that the prompt of a replacement shows is still so, and the
    Dispatch that it replaces is still open in its lane. -/
def watchdog_context_is_current (db : TaskDb) (snapshot : WatchdogRecoverySnapshot) : Bool :=
  let prompt := snapshot.dispatch
  db.task.status == .running && db.task.current_team_revision_id == prompt.team_revision_id &&
    db.task.control_revision == prompt.task_control_revision &&
    team_revision_selects_member db prompt.team_revision_id prompt.selection &&
    (db.assignments.get? prompt.basis.assignment_id).any (fun assignment => assignment.is_snapshot prompt) &&
    (db.attempts.get? prompt.basis.attempt_id).any (fun attempt => attempt.holds
      ⟨prompt.basis.assignment_id, prompt.basis.attempt_id, prompt.basis.source_dispatch_id⟩) &&
    (db.dispatches.get? prompt.basis.source_dispatch_id).any fun dispatch =>
      dispatch.assignment_id == prompt.basis.assignment_id && dispatch.attempt_id == prompt.basis.attempt_id &&
        dispatch.team_revision_id == snapshot.source_team_revision_id && dispatch.selection == prompt.selection &&
        dispatch.status == .open

def watchdog_replacement_count_matches (db : TaskDb) (snapshot : WatchdogRecoverySnapshot) : Bool :=
  (db.attempts.get? snapshot.dispatch.basis.attempt_id).any fun attempt =>
    attempt.assignment_id == snapshot.dispatch.basis.assignment_id &&
      attempt.watchdog_replacement_count == snapshot.watchdog_replacement_count

def dispatch_has_no_external_source (db : TaskDb) (dispatch_id : DispatchId) : Bool :=
  !dispatch_owns_external_source db dispatch_id

def dispatch_has_no_successor (db : TaskDb) (dispatch_id : DispatchId) : Bool :=
  !db.dispatches.any fun _ successor => successor.predecessor_dispatch_id == some dispatch_id

/-- Pause the running Task of one stale Dispatch, which closes as failed, and settle every other lane. -/
def commit_watchdog_pause (db : TaskDb) (current_team_revision_id : RevisionId) (dispatch_id : DispatchId)
    (control_revision : Nat) (source_is_current : Bool) (pause_reason : PauseReason) : Option TaskDb := do
  ensure (db.task.status == .running && db.task.current_team_revision_id == current_team_revision_id &&
    db.task.control_revision == control_revision && source_is_current &&
    dispatch_has_no_external_source db dispatch_id && dispatch_has_no_successor db dispatch_id)
  (close_current_task_dispatches { db with task := db.task.pause pause_reason } .paused fun d =>
    if d = dispatch_id then some .control_failed else none).toOption

/-- Pause a still-current rendered watchdog source and all runnable lanes. -/
def pause_watchdog_snapshot (db : TaskDb) (snapshot : WatchdogRecoverySnapshot) (pause_reason : PauseReason) :
    Option TaskDb :=
  commit_watchdog_pause db snapshot.dispatch.team_revision_id snapshot.dispatch.basis.source_dispatch_id
    snapshot.dispatch.task_control_revision
    (watchdog_context_is_current db snapshot && watchdog_replacement_count_matches db snapshot) pause_reason

/-- `_failed_watchdog_candidate_is_current`: the Dispatch is open in its lane and did nothing since it was
    read. -/
def failed_watchdog_candidate_is_current (db : TaskDb) (current_team_revision_id : RevisionId) (signal : WatchdogDue)
    (candidate : DispatchTurn) : Bool :=
  team_revision_selects_member db current_team_revision_id candidate.selection &&
    (db.assignments.get? candidate.assignment_id).any
      (fun assignment => assignment.is_current candidate.member_id candidate.attempt_id) &&
    (db.attempts.get? candidate.attempt_id).any (fun attempt => attempt.holds
      ⟨candidate.assignment_id, candidate.attempt_id, signal.dispatch_id⟩) &&
    (db.dispatches.get? signal.dispatch_id).any fun dispatch =>
      dispatch.assignment_id == candidate.assignment_id && dispatch.attempt_id == candidate.attempt_id &&
        dispatch.team_revision_id == candidate.team_revision_id && dispatch.selection == candidate.selection &&
        dispatch.status == .open && dispatch.adapter_started_at == candidate.adapter_started_at &&
        dispatch.last_node_activity_at == candidate.last_node_activity_at &&
        dispatch.node_activity_revision == signal.activity_revision

/-- Reread a failed preparation source, then pause every runnable lane. `stale` are the rows of the reread,
    which a rollback ends. -/
def pause_failed_watchdog_signal (stale db : TaskDb) (signal : WatchdogDue) (paused_at : Instant)
    (inactivity_timeout_seconds : Nat) : Option TaskDb := do
  let (candidate, _, _, _) ← read_stale_dispatch stale signal paused_at inactivity_timeout_seconds
  commit_watchdog_pause db stale.task.current_team_revision_id signal.dispatch_id stale.task.control_revision
    (failed_watchdog_candidate_is_current db stale.task.current_team_revision_id signal candidate)
    .runtime_transition_failed

variable {db db' : TaskDb}

theorem commit_watchdog_pause_success {current_team_revision_id : RevisionId} {dispatch_id : DispatchId}
    {control_revision : Nat} {source_is_current : Bool} {pause_reason : PauseReason}
    (h : commit_watchdog_pause db current_team_revision_id dispatch_id control_revision source_is_current
      pause_reason = some db') :
    TaskPaused db db' pause_reason ∧ source_is_current = true ∧
      db.task.current_team_revision_id = current_team_revision_id ∧ db.task.control_revision = control_revision := by
  unfold commit_watchdog_pause at h
  simp only [Option.bind_eq_bind, Option.bind_eq_some_iff, ensure_eq_some_iff, Bool.and_eq_true, beq_iff_eq,
    toOption_eq_some_iff] at h
  obtain ⟨_, ⟨⟨⟨⟨⟨hrunning, hteam⟩, hcontrol⟩, hcurrent⟩, -⟩, -⟩, hclose⟩ := h
  refine ⟨close_current_task_dispatches_pause hrunning (fun d => ?_) hclose, hcurrent, hteam, hcontrol⟩
  split <;> simp

theorem pause_watchdog_snapshot_success {snapshot : WatchdogRecoverySnapshot} {pause_reason : PauseReason}
    (h : pause_watchdog_snapshot db snapshot pause_reason = some db') : TaskPaused db db' pause_reason :=
  (commit_watchdog_pause_success h).1

theorem pause_failed_watchdog_signal_success {stale : TaskDb} {signal : WatchdogDue} {paused_at : Instant}
    {inactivity_timeout_seconds : Nat}
    (h : pause_failed_watchdog_signal stale db signal paused_at inactivity_timeout_seconds = some db') :
    TaskPaused db db' .runtime_transition_failed := by
  unfold pause_failed_watchdog_signal at h
  simp only [Option.bind_eq_bind, Option.bind_eq_some_iff] at h
  obtain ⟨_, -, hcommit⟩ := h
  exact (commit_watchdog_pause_success hcommit).1

end OhMySubagents
