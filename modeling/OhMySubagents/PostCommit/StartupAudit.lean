import OhMySubagents.CommandRun.Transitions
import OhMySubagents.Dispatch.ProviderStart
import OhMySubagents.HumanRequest.Service
import OhMySubagents.Relational.Ordered
import OhMySubagents.Replan.Continuation
import OhMySubagents.Watchdog.Pause

open Relational

namespace OhMySubagents

/-- The wait row of the lane that an open Wave keeps waiting. -/
def DelegationWave.wait (wave : DelegationWave) (wave_id : WaveId) : AttemptWait where
  assignment_id := wave.parent_assignment_id
  attempt_id := wave.parent_attempt_id
  source_dispatch_id := wave.source_dispatch_id
  source := .delegation_wave wave_id

namespace PostCommit

/-! # What a startup discovers -/

abbrev TaskId := Nat

/-- The scheduling hints that a startup publishes, each with its exact source. -/
inductive RuntimeEffectSignal
  | task_start_committed (task_id : TaskId)
  | wave_member_settled (delegation_wave_id : WaveId)
  | delegation_wave_settled (delegation_wave_id : WaveId)
  | replan_committed (transition_id : TransitionId)
  | human_request_opened (request_id : RequestId)
  | human_request_terminal (request_id : RequestId)
  | command_run_pending (run_id : RunId)
  | command_run_cancellation_requested (run_id : RunId) (ownership_revision : Nat)
  | command_run_terminal (run_id : RunId)
  | watchdog_deadline_changed (signal : WatchdogDue)
  | dispatch_start_due (signal : DispatchStartDue)
  deriving DecidableEq, Repr

inductive RuntimeEffectSignalType
  | task_start_committed | wave_member_settled | delegation_wave_settled | replan_committed | human_request_opened
  | human_request_terminal | command_run_pending | command_run_cancellation_requested | command_run_terminal
  | watchdog_deadline_changed | dispatch_start_due
  deriving DecidableEq, Repr

def RuntimeEffectSignal.signal_type : RuntimeEffectSignal → RuntimeEffectSignalType
  | task_start_committed _ => .task_start_committed
  | wave_member_settled _ => .wave_member_settled
  | delegation_wave_settled _ => .delegation_wave_settled
  | replan_committed _ => .replan_committed
  | human_request_opened _ => .human_request_opened
  | human_request_terminal _ => .human_request_terminal
  | command_run_pending _ => .command_run_pending
  | command_run_cancellation_requested _ _ => .command_run_cancellation_requested
  | command_run_terminal _ => .command_run_terminal
  | watchdog_deadline_changed _ => .watchdog_deadline_changed
  | dispatch_start_due _ => .dispatch_start_due

/-- `_RUNTIME_STARTUP_ROUTED_SIGNAL_TYPES`. -/
def RUNTIME_STARTUP_ROUTED_SIGNAL_TYPES : List RuntimeEffectSignalType :=
  [.task_start_committed, .wave_member_settled, .delegation_wave_settled, .replan_committed, .human_request_opened,
    .human_request_terminal, .command_run_pending, .command_run_cancellation_requested, .command_run_terminal,
    .watchdog_deadline_changed, .dispatch_start_due]

inductive StartupAuditError
  | no_provider_start_due (dispatch_id : DispatchId)
  | no_adapter_acceptance (dispatch_id : DispatchId)
  | page_guard (family_name : String)
  | oversized_page (family_name : String) (sources : Nat)
  | non_advancing_cursor (family_name : String)
  | not_published (signal : RuntimeEffectSignal)
  | no_inactivity_timeout
  deriving DecidableEq, Repr

abbrev AuditResult (α : Type) := Except StartupAuditError α

/-- One bounded page of exact recoverable source rows. -/
structure StartupAuditPage where
  sources : List RuntimeEffectSignal
  next_cursor : Option Nat
  deriving DecidableEq, Repr

/-- A row that only one Task has. -/
def OneTask (tasks : Table TaskId TaskDb) (has : TaskDb → Nat → Prop) : Prop :=
  ∀ t t' db db' k, tasks.get? t = some db → tasks.get? t' = some db' → has db k → has db' k → t = t'

/-- The rows of every Task. What a startup pages through is stored under primary keys of the whole database. -/
structure ControllerDb where
  tasks : Table TaskId TaskDb
  dispatches : OneTask tasks fun db k => (db.dispatches.get? k).isSome
  delegation_waves : OneTask tasks fun db k => (db.delegation_waves.get? k).isSome
  human_requests : OneTask tasks fun db k => (db.human_requests.get? k).isSome
  command_runs : OneTask tasks fun db k => (db.command_runs.get? k).isSome
  replan_transitions : OneTask tasks fun db k => (db.replan_transitions.get? k).isSome

/-- The rows that one query finds, with the key that orders them and the signal that is built of each. -/
abbrev StartupRows := TaskId → TaskDb → List (Nat × AuditResult RuntimeEffectSignal)

def ControllerDb.rows (database : ControllerDb) (query : StartupRows) : List (Nat × AuditResult RuntimeEffectSignal) :=
  (database.tasks.select fun _ _ => true).flatMap fun row => query row.1 row.2

/-- One page of a query. A row whose signal cannot be built fails its page. -/
def read_startup_page (query : StartupRows) (database : ControllerDb) (cursor : Option Nat) (page_size : Nat) :
    AuditResult StartupAuditPage := do
  let rows := keysetPage Prod.fst cursor page_size (database.rows query)
  let sources ← rows.mapM Prod.snd
  return ⟨sources, nextCursor Prod.fst page_size rows⟩

/-! # Source families -/

/-- An Attempt without a Dispatch whose current wait row reads exactly like this. -/
def lane_waits (db : TaskDb) (wait : AttemptWait) : Bool :=
  (db.attempts.get? wait.attempt_id).any fun attempt =>
    attempt.assignment_id == wait.assignment_id && attempt.status == .running &&
      attempt.current_dispatch_id.isNone &&
      attempt.current_wait_id.any fun wait_id => db.attempt_waits.get? wait_id == some wait

def lane_is_idle (db : TaskDb) (assignment_id : AssignmentId) (attempt_id : AttemptId) : Bool :=
  (db.attempts.get? attempt_id).any fun attempt => attempt.is_idle assignment_id

/-- The root source has no committed root Dispatch although its lane could run. -/
def task_start_is_runnable (db : TaskDb) : Bool :=
  let source := db.task_start_source
  source.successor_dispatch_id.isNone && db.task.status == .running &&
    (db.assignments.get? source.root_assignment_id).isSome &&
    lane_is_idle db source.root_assignment_id source.root_attempt_id

def task_start_rows : StartupRows := fun task_id db =>
  if task_start_is_runnable db then [(task_id, .ok (.task_start_committed task_id))] else []

/-- An open Wave whose exact ordered members are all settled. -/
def wave_is_complete (db : TaskDb) (wave_id : WaveId) (wave : DelegationWave) : Bool :=
  wave.status == .open && wave.successor_dispatch_id.isNone &&
    (db.task.status == .running || db.task.status == .paused) && lane_waits db (wave.wait wave_id) &&
    !db.delegation_wave_members.any fun key member => key.1 == wave_id && !member.status.is_settled

def wave_settlement_rows : StartupRows := fun _ db =>
  (db.delegation_waves.select fun wave_id wave => wave_is_complete db wave_id wave).map fun row =>
    (row.1, .ok (.wave_member_settled row.1))

/-- A settled Wave whose parent continuation is still unconsumed. -/
def wave_continues (db : TaskDb) (wave : DelegationWave) : Bool :=
  wave.status == .settled && wave.successor_dispatch_id.isNone && db.task.status == .running &&
    lane_is_idle db wave.parent_assignment_id wave.parent_attempt_id

def wave_continuation_rows : StartupRows := fun _ db =>
  (db.delegation_waves.select fun _ wave => wave_continues db wave).map fun row =>
    (row.1, .ok (.delegation_wave_settled row.1))

/-- Committed replans whose manifest or successor still needs repair. -/
def replan_continuation_rows : StartupRows := fun _ db =>
  (db.replan_transitions.select fun _ transition => !transition.successor_state.is_ended).map fun row =>
    (row.1, .ok (.replan_committed row.1))

def human_deadline_rows : StartupRows := fun _ db =>
  (db.human_requests.select fun request_id request => request.status == .open &&
    lane_waits db (request.wait request_id)).map fun row => (row.1, .ok (.human_request_opened row.1))

/-- A terminal source of an idle lane that still has no committed successor. -/
def human_continuation_rows : StartupRows := fun _ db =>
  (db.human_requests.select fun _ request => request.status.is_terminal && request.successor_dispatch_id.isNone &&
    lane_is_idle db request.assignment_id request.attempt_id).map fun row =>
      (row.1, .ok (.human_request_terminal row.1))

def command_continuation_rows : StartupRows := fun _ db =>
  (db.command_runs.select fun _ run => run.state.is_terminal && run.successor_dispatch_id.isNone &&
    lane_is_idle db run.assignment_id run.attempt_id).map fun row => (row.1, .ok (.command_run_terminal row.1))

/-- `_read_command_state_page`. -/
def command_state_rows (state : CommandRunState) : StartupRows := fun _ db =>
  (db.command_runs.select fun run_id run => run.state == state && lane_waits db (run.wait run_id)).map fun row =>
    (row.1, .ok (.command_run_pending row.1))

def command_pending_rows : StartupRows := command_state_rows .pending_start

def command_running_rows : StartupRows := command_state_rows .running

def command_cancellation_rows : StartupRows := fun _ db =>
  (db.command_runs.select fun _ run => run.state == .cancellation_requested).map fun row =>
    (row.1, .ok (.command_run_cancellation_requested row.1 row.2.ownership_revision))

/-- A Dispatch that holds its lane and that the current Team still selects. -/
def dispatch_is_current (db : TaskDb) (dispatch_id : DispatchId) (dispatch : DispatchTurn) : Bool :=
  dispatch_attempt_is_current db dispatch_id dispatch && db.task.status == .running &&
    current_team_selects_member db dispatch.selection

/-- `status = 'starting'`. -/
def dispatch_is_starting (dispatch : DispatchTurn) : Bool :=
  match dispatch.status with
  | .starting _ _ => true
  | _ => false

/-- The signal of the generation that a starting Dispatch waits for. -/
def dispatch_start_signal (dispatch_id : DispatchId) (dispatch : DispatchTurn) : AuditResult RuntimeEffectSignal :=
  match dispatch.next_provider_start_at with
  | none => .error (.no_provider_start_due dispatch_id)
  | some due_at => .ok (.dispatch_start_due ⟨dispatch_id, dispatch.provider_start_revision, due_at⟩)

def dispatch_start_rows : StartupRows := fun _ db =>
  (db.dispatches.select fun dispatch_id dispatch => dispatch_is_starting dispatch &&
    dispatch_is_current db dispatch_id dispatch).map fun row => (row.1, dispatch_start_signal row.1 row.2)

/-- The deadline of an open Dispatch that has done nothing since its last recorded activity. -/
def watchdog_deadline_signal (inactivity_timeout_seconds : Nat) (dispatch_id : DispatchId) (dispatch : DispatchTurn) :
    AuditResult RuntimeEffectSignal :=
  match dispatch.adapter_started_at with
  | none => .error (.no_adapter_acceptance dispatch_id)
  | some adapter_started_at => .ok (.watchdog_deadline_changed ⟨dispatch_id, dispatch.node_activity_revision,
      calculate_watchdog_due_at adapter_started_at dispatch.last_node_activity_at inactivity_timeout_seconds⟩)

def watchdog_deadline_rows (inactivity_timeout_seconds : Nat) : StartupRows := fun _ db =>
  (db.dispatches.select fun dispatch_id dispatch => dispatch.status == .open &&
    dispatch_is_current db dispatch_id dispatch && !dispatch_owns_external_source db dispatch_id).map fun row =>
      (row.1, watchdog_deadline_signal inactivity_timeout_seconds row.1 row.2)

/-! # The audit -/

def STARTUP_AUDIT_PAGE_SIZE : Nat := 200

def STARTUP_AUDIT_PAGE_GUARD : Nat := 10000

/-- A fetched page, by the number of pages that were read before it. -/
abbrev PageFetcher := Nat → Option Nat → Nat → AuditResult StartupAuditPage

/-- The checks on one page that make the audit finite. -/
def check_startup_page (family_name : String) (page_size : Nat) (cursor : Option Nat) (page : StartupAuditPage) :
    AuditResult Unit :=
  if page_size < page.sources.length then .error (.oversized_page family_name page.sources.length)
  else
    match cursor, page.next_cursor with
    | some previous, some candidate =>
      if previous < candidate then .ok () else .error (.non_advancing_cursor family_name)
    | _, _ => .ok ()

/-- Page one source family and route each exact row through its handler. `remaining` counts the pages that the
    guard still admits. -/
def audit_startup_source_family {σ : Type} (family_name : String) (page_size : Nat) (fetch_page : PageFetcher)
    (route_source : σ → RuntimeEffectSignal → AuditResult σ) :
    (remaining pages_read sources_routed : Nat) → Option Nat → σ → AuditResult (Nat × σ)
  | 0, pages_read, _, cursor, _ => do
    let _ ← fetch_page pages_read cursor page_size
    .error (.page_guard family_name)
  | remaining + 1, pages_read, sources_routed, cursor, state => do
    let page ← fetch_page pages_read cursor page_size
    check_startup_page family_name page_size cursor page
    let state ← page.sources.foldlM route_source state
    match page.next_cursor with
    | none => return (sources_routed + page.sources.length, state)
    | some next_cursor =>
      audit_startup_source_family family_name page_size fetch_page route_source remaining (pages_read + 1)
        (sources_routed + page.sources.length) (some next_cursor) state

/-- Discovered, routed, and deliberately deferred rows for one source family. -/
structure StartupRuntimeFamilyResult where
  discovered_count : Nat
  routed_count : Nat
  deferred_count : Nat
  deriving DecidableEq, Repr

/-- What the audit of one family has routed so far, with all that was published before. -/
structure StartupRouting where
  published : List RuntimeEffectSignal
  routed_count : Nat
  deferred_count : Nat
  deriving DecidableEq, Repr

def route_startup_signal (publish : List RuntimeEffectSignal → RuntimeEffectSignal → Bool)
    (routed_signal_types : List RuntimeEffectSignalType) (routing : StartupRouting) (signal : RuntimeEffectSignal) :
    AuditResult StartupRouting :=
  if signal.signal_type ∉ routed_signal_types then
    .ok { routing with deferred_count := routing.deferred_count + 1 }
  else if publish routing.published signal then
    .ok { routing with
      published := routing.published ++ [signal]
      routed_count := routing.routed_count + 1 }
  else .error (.not_published signal)

/-- `_startup_runtime_families`. -/
def startup_runtime_families (inactivity_timeout_seconds : Nat) : List (String × StartupRows) :=
  [("runnable_task_start", task_start_rows), ("complete_delegation_wave", wave_settlement_rows),
    ("settled_delegation_wave", wave_continuation_rows), ("committed_replan", replan_continuation_rows),
    ("open_human_request", human_deadline_rows), ("terminal_human_request", human_continuation_rows),
    ("terminal_command_run", command_continuation_rows), ("pending_command_run", command_pending_rows),
    ("running_command_run", command_running_rows),
    ("cancellation_requested_command_run", command_cancellation_rows),
    ("current_starting_dispatch", dispatch_start_rows),
    ("current_open_watchdog", watchdog_deadline_rows inactivity_timeout_seconds)]

/-- Exhaust exact runtime pages and publish only routes with real handlers. `reads` are the rows that each page of
    each family is read from: other transactions may commit between two pages. -/
def audit_startup_runtime_effects (reads : String → Nat → ControllerDb)
    (publish : List RuntimeEffectSignal → RuntimeEffectSignal → Bool)
    (routed_signal_types : List RuntimeEffectSignalType) (watchdog_inactivity_timeout_seconds : Nat) :
    AuditResult (List (String × StartupRuntimeFamilyResult) × List RuntimeEffectSignal) :=
  if watchdog_inactivity_timeout_seconds = 0 then .error .no_inactivity_timeout
  else
    (startup_runtime_families watchdog_inactivity_timeout_seconds).foldlM (fun (results, published) family => do
      let fetch_page : PageFetcher := fun page => read_startup_page family.2 (reads family.1 page)
      let (discovered_count, routing) ← audit_startup_source_family family.1 STARTUP_AUDIT_PAGE_SIZE fetch_page
        (route_startup_signal publish routed_signal_types) (STARTUP_AUDIT_PAGE_GUARD - 1) 0 0 none ⟨published, 0, 0⟩
      let result := ⟨discovered_count, routing.routed_count, routing.deferred_count⟩
      return (results ++ [(family.1, result)], routing.published)) ([], [])

/-! # What an audit finds -/

/-- The lane that a signal is about, if its source is a row of this Task. -/
def RuntimeEffectSignal.lane (task_id : TaskId) (db : TaskDb) : RuntimeEffectSignal → Option AttemptId
  | task_start_committed started => if started = task_id then some db.task_start_source.root_attempt_id else none
  | wave_member_settled id | delegation_wave_settled id =>
    (db.delegation_waves.get? id).map DelegationWave.parent_attempt_id
  | replan_committed id => (db.replan_transitions.get? id).map ReplanTransition.attempt_id
  | human_request_opened id | human_request_terminal id => (db.human_requests.get? id).map HumanRequest.attempt_id
  | command_run_pending id | command_run_cancellation_requested id _ | command_run_terminal id =>
    (db.command_runs.get? id).map CommandRun.attempt_id
  | watchdog_deadline_changed ⟨id, _, _⟩ | dispatch_start_due ⟨id, _, _⟩ =>
    (db.dispatches.get? id).map DispatchTurn.attempt_id

/-- The rows of one Task that a startup finds, by family, with their keys and signals. -/
inductive StartupFound (timeout : Nat) (task_id : TaskId) (db : TaskDb) : String → Nat → RuntimeEffectSignal → Prop
  | task_start (runnable : task_start_is_runnable db = true) :
      StartupFound timeout task_id db "runnable_task_start" task_id (.task_start_committed task_id)
  | joined {wave_id wave} (row : db.delegation_waves.get? wave_id = some wave)
      (complete : wave_is_complete db wave_id wave = true) :
      StartupFound timeout task_id db "complete_delegation_wave" wave_id (.wave_member_settled wave_id)
  | settled {wave_id wave} (row : db.delegation_waves.get? wave_id = some wave)
      (continues : wave_continues db wave = true) :
      StartupFound timeout task_id db "settled_delegation_wave" wave_id (.delegation_wave_settled wave_id)
  | replanned {transition_id transition} (row : db.replan_transitions.get? transition_id = some transition)
      (unended : transition.successor_state.is_ended = false) :
      StartupFound timeout task_id db "committed_replan" transition_id (.replan_committed transition_id)
  | asked {request_id request} (row : db.human_requests.get? request_id = some request)
      (is_open : request.status = .open)
      (waits : lane_waits db (request.wait request_id) = true) :
      StartupFound timeout task_id db "open_human_request" request_id (.human_request_opened request_id)
  | answered {request_id request} (row : db.human_requests.get? request_id = some request)
      (terminal : request.status.is_terminal = true) (unfollowed : request.successor_dispatch_id = none)
      (idle : lane_is_idle db request.assignment_id request.attempt_id = true) :
      StartupFound timeout task_id db "terminal_human_request" request_id (.human_request_terminal request_id)
  | command_ended {run_id run} (row : db.command_runs.get? run_id = some run) (terminal : run.state.is_terminal = true)
      (unfollowed : run.successor_dispatch_id = none) (idle : lane_is_idle db run.assignment_id run.attempt_id = true) :
      StartupFound timeout task_id db "terminal_command_run" run_id (.command_run_terminal run_id)
  | command_pending {run_id run} (row : db.command_runs.get? run_id = some run) (state : run.state = .pending_start)
      (waits : lane_waits db (run.wait run_id) = true) :
      StartupFound timeout task_id db "pending_command_run" run_id (.command_run_pending run_id)
  | command_running {run_id run} (row : db.command_runs.get? run_id = some run) (state : run.state = .running)
      (waits : lane_waits db (run.wait run_id) = true) :
      StartupFound timeout task_id db "running_command_run" run_id (.command_run_pending run_id)
  | command_cancellation {run_id run} (row : db.command_runs.get? run_id = some run)
      (state : run.state = .cancellation_requested) :
      StartupFound timeout task_id db "cancellation_requested_command_run" run_id
        (.command_run_cancellation_requested run_id run.ownership_revision)
  | starting {dispatch_id dispatch due_at} (row : db.dispatches.get? dispatch_id = some dispatch)
      (current : dispatch_is_current db dispatch_id dispatch = true)
        (due : dispatch.next_provider_start_at = some due_at) :
      StartupFound timeout task_id db "current_starting_dispatch" dispatch_id
        (.dispatch_start_due ⟨dispatch_id, dispatch.provider_start_revision, due_at⟩)
  | is_open {dispatch_id dispatch started_at} (row : db.dispatches.get? dispatch_id = some dispatch)
      (is_open : dispatch.status = .open) (current : dispatch_is_current db dispatch_id dispatch = true)
      (unowned : dispatch_owns_external_source db dispatch_id = false)
      (started : dispatch.adapter_started_at = some started_at) :
      StartupFound timeout task_id db "current_open_watchdog" dispatch_id
        (.watchdog_deadline_changed ⟨dispatch_id, dispatch.node_activity_revision,
          calculate_watchdog_due_at started_at dispatch.last_node_activity_at timeout⟩)

variable {timeout : Nat} {task_id task_id' : TaskId} {db db' : TaskDb} {family family' : String} {k k' : Nat}
  {signal : RuntimeEffectSignal}

theorem mem_selected_rows {α : Type} {table : Table Nat α} {p : Nat → α → Bool}
    {build : Nat × α → AuditResult RuntimeEffectSignal} {result : AuditResult RuntimeEffectSignal} :
    (k, result) ∈ (table.select p).map (fun row => (row.1, build row)) ↔
      ∃ r, table.get? k = some r ∧ p k r = true ∧ build (k, r) = result := by
  rw [List.mem_map]
  constructor
  · rintro ⟨⟨k', r⟩, hrow, ⟨⟩⟩
    obtain ⟨hget, hp⟩ := Table.mem_select_iff.mp hrow
    exact ⟨r, hget, hp, rfl⟩
  · rintro ⟨r, hget, hp, rfl⟩
    exact ⟨(k, r), Table.mem_select_iff.mpr ⟨hget, hp⟩, rfl⟩

theorem dispatch_start_signal_eq_ok {dispatch : DispatchTurn} : dispatch_start_signal k dispatch = .ok signal ↔
    ∃ due_at, dispatch.next_provider_start_at = some due_at ∧
      signal = .dispatch_start_due ⟨k, dispatch.provider_start_revision, due_at⟩ := by
  unfold dispatch_start_signal
  cases dispatch.next_provider_start_at <;> simp [eq_comm]

theorem watchdog_deadline_signal_eq_ok {dispatch : DispatchTurn} :
    watchdog_deadline_signal timeout k dispatch = .ok signal ↔ ∃ started_at,
      dispatch.adapter_started_at = some started_at ∧
      signal = .watchdog_deadline_changed ⟨k, dispatch.node_activity_revision,
        calculate_watchdog_due_at started_at dispatch.last_node_activity_at timeout⟩ := by
  unfold watchdog_deadline_signal
  cases dispatch.adapter_started_at <;> simp [eq_comm]

/-- Exactly a starting Dispatch has a start that is due. -/
theorem dispatch_is_starting_iff {dispatch : DispatchTurn} :
    dispatch_is_starting dispatch = true ↔ ∃ due_at, dispatch.next_provider_start_at = some due_at := by
  unfold dispatch_is_starting DispatchTurn.next_provider_start_at
  cases dispatch.status <;> simp

/-- The families find exactly these rows. -/
theorem startup_runtime_families_found {query : StartupRows} (h : (family, query) ∈ startup_runtime_families timeout) :
    (k, .ok signal) ∈ query task_id db ↔ StartupFound timeout task_id db family k signal := by
  simp only [startup_runtime_families, List.mem_cons, Prod.mk.injEq, List.not_mem_nil, or_false] at h
  rcases h with ⟨hname, rfl⟩ | ⟨hname, rfl⟩ | ⟨hname, rfl⟩ | ⟨hname, rfl⟩ | ⟨hname, rfl⟩ | ⟨hname, rfl⟩ |
    ⟨hname, rfl⟩ | ⟨hname, rfl⟩ | ⟨hname, rfl⟩ | ⟨hname, rfl⟩ | ⟨hname, rfl⟩ | ⟨hname, rfl⟩
  · unfold task_start_rows
    constructor
    · intro hrow
      split at hrow
      · next hrunnable =>
        cases List.mem_singleton.mp hrow
        subst hname
        exact .task_start hrunnable
      · cases hrow
    · intro hfound
      cases hfound <;> first | exact absurd hname (by decide) | simp_all
  all_goals
    simp only [wave_settlement_rows, wave_continuation_rows, replan_continuation_rows, human_deadline_rows,
      human_continuation_rows, command_continuation_rows, command_pending_rows, command_running_rows,
      command_state_rows, command_cancellation_rows, dispatch_start_rows, watchdog_deadline_rows, mem_selected_rows,
      Bool.and_eq_true, Bool.not_eq_true', beq_iff_eq, Option.isNone_iff_eq_none, dispatch_start_signal_eq_ok,
      watchdog_deadline_signal_eq_ok, dispatch_is_starting_iff, Except.ok.injEq]
    constructor
  · rintro ⟨wave, row, complete, rfl⟩
    subst hname
    exact .joined row complete
  · intro hfound
    cases hfound <;> first | exact absurd hname (by decide) | exact ⟨_, ‹_›, ‹_›, rfl⟩
  · rintro ⟨wave, row, continues, rfl⟩
    subst hname
    exact .settled row continues
  · intro hfound
    cases hfound <;> first | exact absurd hname (by decide) | exact ⟨_, ‹_›, ‹_›, rfl⟩
  · rintro ⟨transition, row, unended, rfl⟩
    subst hname
    exact .replanned row unended
  · intro hfound
    cases hfound <;> first | exact absurd hname (by decide) | exact ⟨_, ‹_›, ‹_›, rfl⟩
  · rintro ⟨request, row, ⟨is_open, waits⟩, rfl⟩
    subst hname
    exact .asked row is_open waits
  · intro hfound
    cases hfound <;> first | exact absurd hname (by decide) | exact ⟨_, ‹_›, ⟨‹_›, ‹_›⟩, rfl⟩
  · rintro ⟨request, row, ⟨⟨terminal, unfollowed⟩, idle⟩, rfl⟩
    subst hname
    exact .answered row terminal unfollowed idle
  · intro hfound
    cases hfound <;> first | exact absurd hname (by decide) | exact ⟨_, ‹_›, ⟨⟨‹_›, ‹_›⟩, ‹_›⟩, rfl⟩
  · rintro ⟨run, row, ⟨⟨terminal, unfollowed⟩, idle⟩, rfl⟩
    subst hname
    exact .command_ended row terminal unfollowed idle
  · intro hfound
    cases hfound <;> first | exact absurd hname (by decide) | exact ⟨_, ‹_›, ⟨⟨‹_›, ‹_›⟩, ‹_›⟩, rfl⟩
  · rintro ⟨run, row, ⟨state, waits⟩, rfl⟩
    subst hname
    exact .command_pending row state waits
  · intro hfound
    cases hfound <;> first | exact absurd hname (by decide) | exact ⟨_, ‹_›, ⟨‹_›, ‹_›⟩, rfl⟩
  · rintro ⟨run, row, ⟨state, waits⟩, rfl⟩
    subst hname
    exact .command_running row state waits
  · intro hfound
    cases hfound <;> first | exact absurd hname (by decide) | exact ⟨_, ‹_›, ⟨‹_›, ‹_›⟩, rfl⟩
  · rintro ⟨run, row, state, rfl⟩
    subst hname
    exact .command_cancellation row state
  · intro hfound
    cases hfound <;> first | exact absurd hname (by decide) | exact ⟨_, ‹_›, ‹_›, rfl⟩
  · rintro ⟨dispatch, row, ⟨-, current⟩, due_at, due, rfl⟩
    subst hname
    exact .starting row current due
  · intro hfound
    cases hfound <;> first | exact absurd hname (by decide) | exact ⟨_, ‹_›, ⟨⟨_, ‹_›⟩, ‹_›⟩, _, ‹_›, rfl⟩
  · rintro ⟨dispatch, row, ⟨⟨is_open, current⟩, unowned⟩, started_at, started, rfl⟩
    subst hname
    exact .is_open row is_open current unowned started
  · intro hfound
    cases hfound <;> first | exact absurd hname (by decide) | exact ⟨_, ‹_›, ⟨⟨‹_›, ‹_›⟩, ‹_›⟩, _, ‹_›, rfl⟩

/-- The signal of a row tells where the row was found. -/
theorem StartupFound.unique (h : StartupFound timeout task_id db family k signal)
    (h' : StartupFound timeout task_id db family' k' signal) : family = family' ∧ k = k' := by
  generalize hsame : signal = signal' at h'
  cases h <;> cases h' <;> simp_all

theorem StartupFound.lane (h : StartupFound timeout task_id db family k signal) : (signal.lane task_id db).isSome := by
  cases h <;> simp_all [RuntimeEffectSignal.lane]

end PostCommit

end OhMySubagents
