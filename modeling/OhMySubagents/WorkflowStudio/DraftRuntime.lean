import Mathlib.Data.Nat.Basic
import OhMySubagents.WorkflowStudio.EditOperations
import OhMySubagents.WorkflowStudio.Tree

namespace OhMySubagents.WorkflowStudio

def autosave_delay_ms : Nat := 500

/-- The deadline of the next autosave, in milliseconds of the Console's clock. A timer is the earliest time at
    which its callback runs. -/
structure AutosaveDeadline where
  due_at : Option Nat := none
  is_delivery_queued : Bool := false
  timer : Option Nat := none
deriving DecidableEq, Repr

namespace AutosaveDeadline

variable (deadline : AutosaveDeadline) (now : Nat)

/-- Sets a timer for the deadline, unless there is one or a delivery is queued. -/
def arm : AutosaveDeadline :=
  match deadline.due_at with
  | none => deadline
  | some due_at =>
    if deadline.is_delivery_queued || deadline.timer.isSome then deadline
    else { deadline with timer := some (now + (due_at - now)) }

def record_edit : AutosaveDeadline := { deadline with due_at := some (now + autosave_delay_ms) }.arm now

def clear : AutosaveDeadline := { deadline with due_at := none, timer := none }

/-- The timer's callback; `true` when it queues a delivery. -/
def queue_delivery : AutosaveDeadline × Bool :=
  let fired := { deadline with timer := none }
  if fired.due_at.isNone || fired.is_delivery_queued then (fired, false)
  else ({ fired with is_delivery_queued := true }, true)

/-- What a delivery finds when its turn comes; `true` when the deadline is due. -/
def claim_due : AutosaveDeadline × Bool :=
  match deadline.due_at with
  | none => (deadline, false)
  | some due_at => if now < due_at then (deadline, false) else ({ deadline with due_at := none }, true)

/-- The end of a delivery. -/
def delivered : AutosaveDeadline := { deadline with is_delivery_queued := false }.arm now

end AutosaveDeadline

structure WorkflowDraftReadback where
  draft_id : String
  etag : String
  workflow : NormalizedWorkflow

inductive StudioSaveState
  | idle | settling | saving
  | offline (message : String)
  | failed (message : String)
  | conflict
deriving DecidableEq, Repr

/-- What the user may do about a failed autosave. -/
inductive StudioRecovery
  | retry_autosave | reload_current
deriving DecidableEq, Repr

structure StudioConflict where
  message : String
  current : WorkflowDraftReadback

inductive StudioValidationState
  | unknown
  | invalid (issues : List StudioValidationIssue)

/-- The Studio while a draft is open and no structural change, undo, discard or reload runs. -/
structure StudioSnapshot where
  accepted_draft : WorkflowDraftReadback
  working_workflow : NormalizedWorkflow
  dirty : StudioDirtyState
  save : StudioSaveState
  recovery : Option StudioRecovery
  validation : StudioValidationState
  conflict : Option StudioConflict

/-- A draft that was just loaded. -/
def draft_state (draft : WorkflowDraftReadback) : StudioSnapshot where
  accepted_draft := draft
  working_workflow := draft.workflow
  dirty := empty_dirty
  save := .idle
  recovery := none
  validation := .unknown
  conflict := none

namespace StudioSnapshot

variable (state : StudioSnapshot)

def edit_workflow_state (patch : WorkflowEdit) : StudioSnapshot :=
  { state with
    working_workflow := apply_workflow_edit state.working_workflow patch
    dirty := state.dirty.edit_workflow patch
    save := .settling
    recovery := none
    validation := .unknown }

/-- The state with an edit of a Member. -/
def member_edited (member_id : String) (patch : MemberEdit) : StudioSnapshot :=
  { state with
    working_workflow := update_workflow_member state.working_workflow member_id patch
    dirty := state.dirty.edit_member member_id patch
    save := .settling
    recovery := none
    validation := .unknown }

/-- `none` when it raises, as an inherited value cannot be spread. -/
def edit_member_state (member_id : String) (patch : MemberEdit) : Option StudioSnapshot :=
  if state.dirty.inherits member_id then none else some (state.member_edited member_id patch)

def can_accept_local_edit : Bool :=
  state.conflict.isNone && (state.recovery = none || state.recovery = some .retry_autosave)

/-- The answer to a request becomes the base of the fields that are still dirty. -/
def accept_draft (sent : SentDraftEdit) (draft : WorkflowDraftReadback) : StudioSnapshot :=
  let remaining := retain_newer_dirty_fields state.working_workflow state.dirty sent
  { accepted_draft := draft
    working_workflow := overlay_dirty_values draft.workflow state.working_workflow remaining
    dirty := remaining
    save := if has_dirty_fields remaining then .settling else .idle
    recovery := none
    validation := .unknown
    conflict := none }

end StudioSnapshot

/-- What `mapDraftFailure` makes of an error of the API. -/
inductive DraftFailure
  | conflict (conflict : StudioConflict)
  | recoverable (recovery : StudioRecovery) (save : StudioSaveState) (field_issue : Option StudioValidationIssue)

def StudioSnapshot.fail (state : StudioSnapshot) : DraftFailure → StudioSnapshot
  | .conflict conflict => { state with save := .conflict, conflict := some conflict }
  | .recoverable recovery save field_issue =>
    { state with
      validation := (field_issue.map fun issue => .invalid [issue]).getD state.validation
      recovery := some recovery
      save := save }

/-- An operation of the mutation queue: the delivery of an autosave, or one round of a flush. -/
inductive Job
  | autosave | flush
deriving DecidableEq, Repr

/-- The requests of the running operation: the one that waits for its answer, and those that follow it. -/
structure Sending where
  edit : BuiltDraftEdit
  rest : List BuiltDraftEdit

/-- One call of the API, or its answer. -/
inductive Exchange
  | sent (etag : String) (operation : DraftOperation)
  | accepted (draft : WorkflowDraftReadback)
  | refused

/-- The draft runtime between two turns of the event loop. The head of `jobs` is the operation that the mutation
    queue runs; `checking` counts the flushes that are about to test their loop's condition. -/
structure WorkflowDraftRuntime where
  now : Nat
  snapshot : StudioSnapshot
  autosave : AutosaveDeadline
  jobs : List Job
  sending : Option Sending
  checking : Nat
  exchanges : List Exchange

namespace WorkflowDraftRuntime

variable (runtime : WorkflowDraftRuntime)

def schedule_autosave : WorkflowDraftRuntime :=
  match validate_local_workflow runtime.snapshot.working_workflow with
  | [] => { runtime with autosave := runtime.autosave.record_edit runtime.now }
  | issues =>
    { runtime with
      autosave := runtime.autosave.clear
      snapshot := { runtime.snapshot with validation := .invalid issues } }

def edit_workflow (patch : WorkflowEdit) : WorkflowDraftRuntime :=
  if runtime.snapshot.can_accept_local_edit then
    { runtime with snapshot := runtime.snapshot.edit_workflow_state patch }.schedule_autosave
  else runtime

def edit_member (member_id : String) (patch : MemberEdit) : WorkflowDraftRuntime :=
  if runtime.snapshot.can_accept_local_edit then
    match runtime.snapshot.edit_member_state member_id patch with
    | none => runtime
    | some snapshot => { runtime with snapshot }.schedule_autosave
  else runtime

/-- The autosave timer's callback, when its time has come. -/
def fire : Option WorkflowDraftRuntime :=
  match runtime.autosave.timer with
  | none => none
  | some timer =>
    if runtime.now < timer then none
    else
      let (autosave, is_queued) := runtime.autosave.queue_delivery
      some { runtime with autosave, jobs := if is_queued then runtime.jobs ++ [.autosave] else runtime.jobs }

/-- The start of `flushEdits`. -/
def flush_edits : WorkflowDraftRuntime :=
  { runtime with autosave := runtime.autosave.clear, checking := runtime.checking + 1 }

def retry_save : Option WorkflowDraftRuntime :=
  match runtime.snapshot.recovery with
  | none => some runtime
  | some recovery =>
    if runtime.snapshot.save = .conflict then some runtime
    else if recovery = .reload_current then none
    else some { runtime with snapshot := { runtime.snapshot with recovery := none } }.flush_edits

/-- The test of a flush's loop: the flush ends, or queues its next round. -/
def check : Option WorkflowDraftRuntime :=
  match runtime.checking with
  | 0 => none
  | checking + 1 =>
    if has_dirty_fields runtime.snapshot.dirty then
      match validate_local_workflow runtime.snapshot.working_workflow with
      | [] => some { runtime with checking, jobs := runtime.jobs ++ [.flush] }
      | issues =>
        some { runtime with checking, snapshot := { runtime.snapshot with validation := .invalid issues } }
    else some { runtime with checking }

/-- The end of the running operation. A flush goes on when its request was accepted. -/
def end_job (is_accepted : Bool) : WorkflowDraftRuntime :=
  match runtime.jobs with
  | [] => { runtime with sending := none }
  | .autosave :: jobs => { runtime with jobs, sending := none, autosave := runtime.autosave.delivered runtime.now }
  | .flush :: jobs =>
    { runtime with jobs, sending := none, checking := if is_accepted then runtime.checking + 1 else runtime.checking }

/-- Sends the next request of the running operation, or ends it. -/
def send_edits : List BuiltDraftEdit → WorkflowDraftRuntime
  | [] => runtime.end_job true
  | edit :: rest =>
    { runtime with
      snapshot := { runtime.snapshot with save := .saving }
      sending := some ⟨edit, rest⟩
      exchanges := .sent runtime.snapshot.accepted_draft.etag edit.operation :: runtime.exchanges }

/-- The queue starts its next operation. -/
def run : Option WorkflowDraftRuntime :=
  let { working_workflow, dirty, .. } := runtime.snapshot
  match runtime.sending, runtime.jobs with
  | none, .autosave :: _ =>
    let (autosave, is_claimed) := runtime.autosave.claim_due runtime.now
    let claimed := { runtime with autosave }
    some (claimed.send_edits (if is_claimed then build_draft_edit_batch working_workflow dirty else []))
  | none, .flush :: _ => some (runtime.send_edits (build_next_draft_edit working_workflow dirty).toList)
  | _, _ => none

/-- The server accepts the request that waits. -/
def accept (draft : WorkflowDraftReadback) : Option WorkflowDraftRuntime :=
  match runtime.sending with
  | none => none
  | some ⟨edit, rest⟩ =>
    let accepted := { runtime with
      snapshot := runtime.snapshot.accept_draft edit.sent draft
      exchanges := .accepted draft :: runtime.exchanges }
    some (accepted.send_edits rest)

/-- The server refuses the request that waits, or does not answer it. -/
def refuse (failure : DraftFailure) : Option WorkflowDraftRuntime :=
  match runtime.sending with
  | none => none
  | some _ =>
    let refused := { runtime with
      snapshot := runtime.snapshot.fail failure, exchanges := .refused :: runtime.exchanges }
    some (refused.end_job false)

end WorkflowDraftRuntime

end OhMySubagents.WorkflowStudio
