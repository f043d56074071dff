import Mathlib.Data.List.MinMax
import OhMySubagents.Relational.Runs
import OhMySubagents.Relational.Table
import OhMySubagents.TaskEvents.Record

open Relational JsonData

namespace OhMySubagents

namespace TaskEvents

/-- A row of `task_event_stream_heads`. -/
structure StreamHead where
  allocator_revision : Nat
  last_event_seq : Nat
  last_event_hash : Option String
  deriving DecidableEq

/-- The two tables of the chronology, the events newest first. -/
structure ChronologyDb where
  heads : String → Option StreamHead
  events : List TaskEventRow

/-- The arguments of `append_task_event`. -/
structure AppendRequest where
  task_id : String
  event_type : String
  event_source : String
  event_id : Option String
  occurred_at : Datetime
  team_revision_id : Option String
  dispatch_id : Option String
  attempt_id : Option String
  member_id : Option String
  actor_ref : Option String
  payload : JsonData

structure TaskEventAllocation where
  event_seq : Nat
  previous_event_seq : Nat
  previous_event_hash : Option String

/-- How far the append of a transaction got. A transaction with a failed append can only roll back. -/
inductive AppendStage
  | idle
  | allocated (request : AppendRequest) (allocation : TaskEventAllocation)
  | checked (request : AppendRequest) (allocation : TaskEventAllocation)
  | inserted (request : AppendRequest) (allocation : TaskEventAllocation) (event_hash : String)
  | failed

/-- An open transaction: the rows that it wrote, and its append. -/
structure EventTransaction where
  heads : String → Option StreamHead
  events : List TaskEventRow
  stage : AppendStage

abbrev SessionId := Nat

structure ChronologyState where
  committed : ChronologyDb
  sessions : Table SessionId EventTransaction

/-- One statement of a transaction that writes the chronology. -/
inductive EventStatement
  | create_stream (task_id : TaskIdentifier)
  | allocate (request : AppendRequest)
  | check
  | insert
  | advance

inductive ChronologyAction
  | begin (session : SessionId)
  | execute (session : SessionId) (statement : EventStatement)
  | commit (session : SessionId)
  | rollback (session : SessionId)

/-- `task_event_id`. -/
def task_event_id (task_id : String) (event_seq : Nat) : String :=
  let digits := (toString event_seq).toList
  "task-event." ++ task_id ++ "." ++ String.ofList (List.replicate (8 - digits.length) '0' ++ digits)

/-- An identifier that is not empty, or a default. -/
def AppendRequest.event_id_or (request : AppendRequest) (default : String) : String :=
  match request.event_id with
  | some event_id => if event_id.isEmpty then default else event_id
  | none => default

/-- The record of a request before its hash is known. -/
def AppendRequest.record (request : AppendRequest) (event_id : String) (event_seq : Nat)
    (prev_event_hash : Option String) : Option TaskEventRecord :=
  build_task_event_record {
    event_id, event_seq, prev_event_hash
    task_id := request.task_id
    event_type := request.event_type
    event_source := request.event_source
    occurred_at := request.occurred_at
    team_revision_id := request.team_revision_id
    dispatch_id := request.dispatch_id
    attempt_id := request.attempt_id
    member_id := request.member_id
    actor_ref := request.actor_ref
    payload := request.payload
    event_hash := "pending" }

/-- The events of one Task. -/
def events_of (events : List TaskEventRow) (task_id : String) : List TaskEventRow :=
  events.filter (·.task_id == task_id)

/-- `_latest_task_event_head`. -/
def latest_task_event_head (events : List TaskEventRow) (task_id : String) : Nat × Option String :=
  match (events_of events task_id).argmax TaskEventRow.event_seq with
  | none => (0, none)
  | some row => (row.event_seq, some row.event_hash)

/-- Two rows that the unique indexes do not let stand together. -/
def TaskEventRow.conflicts (row other : TaskEventRow) : Bool :=
  row.event_id == other.event_id || (row.task_id == other.task_id && row.event_seq == other.event_seq)

/-- The row that an append adds. -/
def AppendRequest.row (sha256 : String → BitVec 256) (request : AppendRequest) (allocation : TaskEventAllocation) :
    Option TaskEventRow :=
  (request.record (request.event_id_or (task_event_id request.task_id allocation.event_seq)) allocation.event_seq
    allocation.previous_event_hash).bind (task_event_row sha256)

namespace EventTransaction

variable (tx : EventTransaction) (committed : ChronologyDb)

/-- The head that the transaction sees. -/
def head (task_id : String) : Option StreamHead := (tx.heads task_id).or (committed.heads task_id)

/-- The events that the transaction sees. -/
def visible_events : List TaskEventRow := tx.events ++ committed.events

def put_head (task_id : String) (head : StreamHead) : EventTransaction :=
  { tx with heads := fun task => if task = task_id then some head else tx.heads task }

def fail : EventTransaction := { tx with stage := .failed }

/-- The row of a new Task's stream, with the defaults of its columns. -/
def create_stream (task_id : TaskIdentifier) : EventTransaction :=
  match tx.head committed task_id.val with
  | some _ => tx.fail
  | none => tx.put_head task_id.val ⟨0, 0, none⟩

/-- Validate the event and allocate its number. -/
def allocate (request : AppendRequest) : EventTransaction :=
  match request.record (request.event_id_or "task-event.validation") 1 none with
  | none => tx.fail
  | some _ =>
    match tx.head committed request.task_id with
    | none => tx.fail
    | some head =>
      { tx.put_head request.task_id { head with allocator_revision := head.allocator_revision + 1 } with
        stage := .allocated request ⟨head.allocator_revision + 1, head.last_event_seq, head.last_event_hash⟩ }

/-- Compare the allocation with the newest event. -/
def check (request : AppendRequest) (allocation : TaskEventAllocation) : EventTransaction :=
  if allocation.event_seq ≠ allocation.previous_event_seq + 1 ∨
      latest_task_event_head (tx.visible_events committed) request.task_id ≠
        (allocation.previous_event_seq, allocation.previous_event_hash) then tx.fail
  else { tx with stage := .checked request allocation }

/-- Build the event under its number and add its row. -/
def insert (sha256 : String → BitVec 256) (request : AppendRequest) (allocation : TaskEventAllocation) :
    EventTransaction :=
  match request.row sha256 allocation with
  | none => tx.fail
  | some row =>
    if (tx.visible_events committed).any row.conflicts then tx.fail
    else { tx with events := row :: tx.events, stage := .inserted request allocation row.event_hash }

/-- `_advance_task_event_stream_head`. -/
def advance (request : AppendRequest) (allocation : TaskEventAllocation) (event_hash : String) : EventTransaction :=
  match tx.head committed request.task_id with
  | none => tx.fail
  | some head =>
    if head.allocator_revision = allocation.event_seq ∧ head.last_event_seq = allocation.previous_event_seq ∧
        head.last_event_hash = allocation.previous_event_hash then
      { tx.put_head request.task_id
          { head with last_event_seq := allocation.event_seq, last_event_hash := some event_hash } with stage := .idle }
    else tx.fail

/-- One statement at the stage that it belongs to. -/
def execute (sha256 : String → BitVec 256) (statement : EventStatement) : Option EventTransaction :=
  match statement, tx.stage with
  | .create_stream task_id, .idle => some (tx.create_stream committed task_id)
  | .allocate request, .idle => some (tx.allocate committed request)
  | .check, .allocated request allocation => some (tx.check committed request allocation)
  | .insert, .checked request allocation => some (tx.insert committed sha256 request allocation)
  | .advance, .inserted request allocation event_hash => some (tx.advance committed request allocation event_hash)
  | _, _ => none

/-- The committed rows together with those of the transaction. -/
def merge : ChronologyDb where
  heads task_id := tx.head committed task_id
  events := tx.visible_events committed

end EventTransaction

namespace ChronologyState

variable (sha256 : String → BitVec 256) (state : ChronologyState)

/-- Another open transaction whose rows satisfy a condition. -/
def other_session (session : SessionId) (p : EventTransaction → Bool) : Bool :=
  state.sessions.any fun other tx => other != session && p tx

/-- A statement waits for rows that another transaction wrote and has not committed. -/
def waits (session : SessionId) (tx : EventTransaction) : EventStatement → Bool
  | .create_stream task_id => state.other_session session fun other => (other.heads task_id.val).isSome
  | .allocate request => state.other_session session fun other => (other.heads request.task_id).isSome
  | .insert =>
    match tx.stage with
    | .checked request allocation => (request.row sha256 allocation).any fun row =>
        state.other_session session fun other => other.events.any row.conflicts
    | _ => false
  | .check | .advance => false

/-- One action of some session; `none` when it cannot happen now. -/
def act : ChronologyAction → Option ChronologyState
  | .begin session =>
    if (state.sessions.get? session).isSome then none
    else some { state with sessions := state.sessions.set session ⟨fun _ => none, [], .idle⟩ }
  | .execute session statement => do
    let tx ← state.sessions.get? session
    if state.waits sha256 session tx statement then none
    else
      let tx ← tx.execute state.committed sha256 statement
      return { state with sessions := state.sessions.set session tx }
  | .commit session => do
    let tx ← state.sessions.get? session
    match tx.stage with
    | .idle => return { committed := tx.merge state.committed, sessions := state.sessions.delete session }
    | _ => none
  | .rollback session => do
    let _ ← state.sessions.get? session
    return { state with sessions := state.sessions.delete session }

end ChronologyState

/-- Transactions that append task events, from an empty database. -/
def chronology (sha256 : String → BitVec 256) : Transactional ChronologyState ChronologyAction where
  start state := state = ⟨⟨fun _ => none, []⟩, ∅⟩
  reads _ := []
  commit action state state' := state.act sha256 action = some state'

end TaskEvents

end OhMySubagents
