import OhMySubagents.RunLive.History
import OhMySubagents.Relational.Runs

open Relational

namespace OhMySubagents.RunLive

/-- The result of a Task read that a call waits for; `some none` when the read failed. -/
abbrev Awaited := Option (Option TaskView)

/-- Where `synchronizeActivityHistory` and what follows it wait: for a page, which is asked when the Task has some
    events, or for a Task read. -/
inductive Synchronization
  | backfill (page_cursor : Option Nat) (asked : Nat) (changed allow_reset : Bool)
  | resetting (result : Awaited)
  | loading (page_cursor : Option Nat) (asked : Nat) (collected : List Nat) (is_reset : Bool)
  | confirming (result : Awaited)
deriving DecidableEq, Repr

/-- A call of the session that waits. -/
inductive Call
  | starting (result : Awaited)
  | refreshing (result : Awaited)
  | refetching (result : Awaited)
  | recovering
  | synchronizing (synchronization : Synchronization)
deriving DecidableEq, Repr

/-- A live session of a Run, with the Task that it shows. Of an open stream it keeps the number of the last event
    that came, of a Task read in flight the number of events when it was asked. -/
structure RunLiveSession where
  events : Nat
  activities : List Nat
  activity_history_truncated : Bool
  cursor : Option Nat
  is_live_initialized : Bool
  stream : Option Nat
  reconnect_timer : Bool
  delayed_notice_timer : Bool
  live_delayed : Bool
  task_read_in_flight : Option Nat
  task_read_pending : Bool
  calls : List Call
deriving DecidableEq, Repr

def Call.settle (result : Option TaskView) : Call → Call
  | .starting none => .starting (some result)
  | .refreshing none => .refreshing (some result)
  | .refetching none => .refetching (some result)
  | .synchronizing (.resetting none) => .synchronizing (.resetting (some result))
  | .synchronizing (.confirming none) => .synchronizing (.confirming (some result))
  | call => call

/-- Adds the items that the list does not have at its end. -/
def merge_activities (activities items : List Nat) : List Nat :=
  items.foldl (fun activities activity => if activity ∈ activities then activities else activities ++ [activity])
    activities

namespace RunLiveSession

variable (session : RunLiveSession) (history : TaskHistory)

/-- `readTask`: joins the read in flight, or starts one. -/
def read_task : RunLiveSession :=
  if session.task_read_in_flight.isSome then { session with task_read_pending := true }
  else { session with task_read_in_flight := some session.events, task_read_pending := false }

/-- The loop of `drainTaskReads` after a response: another read, or the end. -/
def drain_task_reads (result : Option TaskView) : RunLiveSession :=
  if session.task_read_pending then
    { session with task_read_in_flight := some session.events, task_read_pending := false }
  else { session with task_read_in_flight := none, calls := session.calls.map (Call.settle result) }

def schedule_recovery : RunLiveSession :=
  { session with stream := none, delayed_notice_timer := true, reconnect_timer := true }

/-- Opens the stream after the cursor, or after the newest event when there is no cursor. -/
def open_stream : RunLiveSession := { session with stream := some (session.cursor.getD session.events) }

def seed_activities (task : TaskView) : RunLiveSession :=
  { session with
    activities := task.activities
    cursor := task.activities.getLast?
    activity_history_truncated := task.activities_truncated }

/-- The first request of `synchronizeActivityHistory`. -/
def synchronize_activity_history : Synchronization :=
  if session.activity_history_truncated then .loading none session.events [] false
  else .backfill session.cursor session.events false true

/-- The end of a synchronization: a changed history is followed by a Task read, then the stream opens. -/
def synchronized (i : Nat) (changed : Bool) : RunLiveSession :=
  if changed then { session with calls := session.calls.set i (.synchronizing (.confirming none)) }.read_task
  else { session with calls := session.calls.eraseIdx i }.open_stream

/-- A call that ends with an error schedules a recovery. -/
def fail_call (i : Nat) : RunLiveSession := { session with calls := session.calls.eraseIdx i }.schedule_recovery

def initialize_live (i : Nat) (task : TaskView) : RunLiveSession :=
  if session.is_live_initialized then { session with calls := session.calls.eraseIdx i }
  else
    let seeded := { session with is_live_initialized := true }.seed_activities task
    { seeded with calls := seeded.calls.set i (.synchronizing seeded.synchronize_activity_history) }

/-- A response to the Task read in flight. -/
def task_read (result : Option TaskView) : RunLiveSession :=
  match result with
  | none => session.drain_task_reads none
  | some task =>
    { session with activities := merge_activities session.activities task.activities }.drain_task_reads (some task)

/-- One page that `backfill` waits for. -/
def backfill_page (i : Nat) (page : TaskActivityPage) (changed allow_reset : Bool) : RunLiveSession :=
  let merged := merge_activities session.activities page.items
  let changed := changed || merged != session.activities
  match page.next_cursor with
  | none =>
    { session with activities := merged, cursor := page.items.getLast?.or session.cursor }.synchronized i changed
  | some next_cursor =>
    { session with
      activities := merged
      cursor := some next_cursor
      calls := session.calls.set i
        (.synchronizing (.backfill (some next_cursor) session.events changed allow_reset)) }

/-- One page that `loadActivityHistory` waits for. The history of the last page replaces the list. Whether it has
    other items than the list had when the loading began is left open. -/
def loading_page (i : Nat) (page : TaskActivityPage) (collected : List Nat) (is_reset changed : Bool) :
    RunLiveSession :=
  let collected := merge_activities collected page.items
  match page.next_cursor with
  | some next_cursor =>
    let next := Synchronization.loading (some next_cursor) session.events collected is_reset
    { session with calls := session.calls.set i (.synchronizing next) }
  | none =>
    let loaded := { session with
      activities := collected, cursor := collected.getLast?, activity_history_truncated := false }
    if is_reset then
      let next := Synchronization.backfill loaded.cursor loaded.events false false
      { loaded with calls := loaded.calls.set i (.synchronizing next) }
    else loaded.synchronized i changed

/-- `resetCursor` when its Task read is there. -/
def reset_cursor (i : Nat) (task : TaskView) : RunLiveSession :=
  let seeded := session.seed_activities task
  let next := if seeded.activity_history_truncated then Synchronization.loading none seeded.events [] true
    else .backfill seeded.cursor seeded.events false false
  { seeded with calls := seeded.calls.set i (.synchronizing next) }

/-- A frame of the stream: the Activity of the next event, or the notice that the Task has changed. -/
def stream_event : Option RunLiveSession :=
  match session.stream with
  | none => none
  | some position =>
    if session.events ≤ position then none
    else
      let event := position + 1
      let received := { session with
        stream := some event
        cursor := some event
        activities :=
          if history.is_activity event then merge_activities session.activities [event] else session.activities }
      some { received with calls := received.calls ++ [Call.refetching none] }.read_task

end RunLiveSession

/-- What happens to a session. A response carries the number of events that the Task had when it was read. -/
inductive LiveAction
  | event
  | task_read (events : Nat)
  | task_read_fails
  | replace_task (events : Nat)
  | resume (i : Nat)
  | page (i : Nat) (events : Nat) (changed : Bool)
  | page_fails (i : Nat) (is_cursor_reset : Bool)
  | stream_opens
  | stream_event
  | stream_fails
  | command_history_fails
  | reconnect
  | begin_recovery (i : Nat)
  | recovery_fails (i : Nat)
  | notice_delay
  | retry_live
  | refresh
deriving DecidableEq, Repr

namespace RunLiveSession

variable (session : RunLiveSession) (history : TaskHistory)

/-- A call that goes on after its Task read. -/
def resume (i : Nat) : Option RunLiveSession :=
  match session.calls[i]? with
  | some (.starting (some none)) | some (.refreshing (some none)) =>
    some { session with calls := session.calls.eraseIdx i }
  | some (.starting (some (some task))) | some (.refreshing (some (some task))) =>
    some (session.initialize_live i task)
  | some (.refetching (some none)) | some (.synchronizing (.confirming (some none)))
  | some (.synchronizing (.resetting (some none))) => some (session.fail_call i)
  | some (.refetching (some (some _))) => some { session with calls := session.calls.eraseIdx i }
  | some (.synchronizing (.confirming (some (some _)))) =>
    some { session with calls := session.calls.eraseIdx i }.open_stream
  | some (.synchronizing (.resetting (some (some task)))) => some (session.reset_cursor i task)
  | _ => none

/-- A page of a Task with some events. -/
def page (i events : Nat) (changed : Bool) : Option RunLiveSession :=
  match session.calls[i]? with
  | some (.synchronizing (.backfill page_cursor asked changed' allow_reset)) =>
    if asked ≤ events ∧ events ≤ session.events then
      some (session.backfill_page i (history.list_task_activities page_cursor events) changed' allow_reset)
    else none
  | some (.synchronizing (.loading page_cursor asked collected is_reset)) =>
    if asked ≤ events ∧ events ≤ session.events then
      some (session.loading_page i (history.list_task_activities page_cursor events) collected is_reset changed)
    else none
  | _ => none

def page_fails (i : Nat) (is_cursor_reset : Bool) : Option RunLiveSession :=
  match session.calls[i]? with
  | some (.synchronizing (.backfill _ _ _ allow_reset)) =>
    if is_cursor_reset && allow_reset then
      some { session with calls := session.calls.set i (.synchronizing (.resetting none)) }.read_task
    else some (session.fail_call i)
  | some (.synchronizing (.loading _ _ _ _)) => some (session.fail_call i)
  | _ => none

def step : LiveAction → Option RunLiveSession
  | .event => some { session with events := session.events + 1 }
  | .task_read events =>
    match session.task_read_in_flight with
    | none => none
    | some asked =>
      if asked ≤ events ∧ events ≤ session.events then
        some (session.task_read (some (history.list_recent_task_activities events)))
      else none
  | .task_read_fails => if session.task_read_in_flight.isSome then some (session.task_read none) else none
  | .replace_task events =>
    if events ≤ session.events then
      some { session with
        activities := merge_activities session.activities (history.list_recent_task_activities events).activities }
    else none
  | .resume i => session.resume i
  | .page i events changed => session.page history i events changed
  | .page_fails i is_cursor_reset => session.page_fails i is_cursor_reset
  | .stream_opens =>
    if session.stream.isSome then some { session with delayed_notice_timer := false, live_delayed := false } else none
  | .stream_event => session.stream_event history
  | .stream_fails => if session.stream.isSome then some session.schedule_recovery else none
  | .command_history_fails => if session.is_live_initialized then some session.schedule_recovery else none
  | .reconnect =>
    if session.reconnect_timer then
      some { session with reconnect_timer := false, calls := session.calls ++ [.recovering] }
    else none
  | .begin_recovery i =>
    if session.calls[i]? = some .recovering then
      some { session with calls := session.calls.set i (.synchronizing session.synchronize_activity_history) }
    else none
  | .recovery_fails i => if session.calls[i]? = some .recovering then some (session.fail_call i) else none
  | .notice_delay =>
    if session.delayed_notice_timer then some { session with delayed_notice_timer := false, live_delayed := true }
    else none
  | .retry_live => if session.live_delayed then some session.schedule_recovery else none
  | .refresh => some { session with calls := session.calls ++ [Call.refreshing none] }.read_task

/-- A session that has just started to read its Task. -/
def start (events : Nat) : RunLiveSession where
  events
  activities := []
  activity_history_truncated := false
  cursor := none
  is_live_initialized := false
  stream := none
  reconnect_timer := false
  delayed_notice_timer := false
  live_delayed := false
  task_read_in_flight := some events
  task_read_pending := false
  calls := [.starting none]

end RunLiveSession

/-- A session, and the number of events up to which it is known to have read the history. -/
structure Observed where
  session : RunLiveSession
  synchronized_to : Option Nat
deriving DecidableEq, Repr

namespace Observed

/-- How an action changes what the session has read of the history. The last page of a backfill and the frames after
    it extend it, the last page of a full load replaces it, and a list that is seeded begins it anew. -/
def note (observed : Observed) (history : TaskHistory) : LiveAction → Option Nat
  | .page i events _ =>
    match observed.session.calls[i]? with
    | some (.synchronizing (.backfill page_cursor _ _ _)) =>
      if (history.list_task_activities page_cursor events).next_cursor.isNone then
        some (max events (observed.synchronized_to.getD 0))
      else observed.synchronized_to
    | some (.synchronizing (.loading page_cursor _ _ _)) =>
      if (history.list_task_activities page_cursor events).next_cursor.isNone then some events
      else observed.synchronized_to
    | _ => observed.synchronized_to
  | .stream_event =>
    observed.synchronized_to.map fun events => max events (observed.session.stream.getD 0 + 1)
  | .resume i =>
    match observed.session.calls[i]? with
    | some (.starting (some (some _))) | some (.refreshing (some (some _))) =>
      if observed.session.is_live_initialized then observed.synchronized_to else none
    | some (.synchronizing (.resetting (some (some _)))) => none
    | _ => observed.synchronized_to
  | _ => observed.synchronized_to

end Observed

/-- The runs of a live session of a Task. -/
def TaskHistory.live (history : TaskHistory) : Transactional Observed LiveAction where
  start observed := ∃ events, 0 < events ∧ observed = ⟨.start events, none⟩
  reads _ := []
  commit action observed observed' :=
    ∃ session, observed.session.step history action = some session ∧
      observed' = ⟨session, observed.note history action⟩

end OhMySubagents.RunLive
