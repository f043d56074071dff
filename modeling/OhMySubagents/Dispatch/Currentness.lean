import OhMySubagents.Errors
import OhMySubagents.TaskDb

open Relational

namespace OhMySubagents

/-- Complete immutable owner tuple for one Dispatch in an Attempt lane. -/
structure AttemptDispatchIdentity where
  assignment_id : AssignmentId
  attempt_id : AttemptId
  dispatch_id : DispatchId
  deriving DecidableEq, Repr

/-- Complete immutable owner tuple for one wait selected by an Attempt. -/
structure AttemptWaitIdentity where
  assignment_id : AssignmentId
  attempt_id : AttemptId
  wait_id : WaitId
  deriving DecidableEq, Repr

/-- `status IN ('starting', 'open')`. -/
def DispatchTurn.is_live (dispatch : DispatchTurn) : Bool :=
  match dispatch.status with
  | .closed _ => false
  | _ => true

/-- The filter on an Attempt whose lane one Dispatch holds. -/
def Attempt.holds (attempt : Attempt) (identity : AttemptDispatchIdentity) : Bool :=
  attempt.assignment_id == identity.assignment_id && attempt.status == .running &&
    attempt.current_dispatch_id == some identity.dispatch_id && attempt.current_wait_id.isNone

def attempt_dispatch_is_current (db : TaskDb) (identity : AttemptDispatchIdentity) : Bool :=
  (db.attempts.get? identity.attempt_id).any fun attempt => attempt.holds identity

def dispatch_attempt_is_current (db : TaskDb) (dispatch_id : DispatchId) (dispatch : DispatchTurn) : Bool :=
  attempt_dispatch_is_current db
    { assignment_id := dispatch.assignment_id, attempt_id := dispatch.attempt_id, dispatch_id }

def claim_running_task (db : TaskDb) (identity : AttemptDispatchIdentity) : Bool :=
  db.task.status == .running && attempt_dispatch_is_current db identity

/-- The filter on the exact live Dispatch of a lane. -/
def DispatchTurn.is_owned (dispatch : DispatchTurn) (identity : AttemptDispatchIdentity)
    (team_revision_id : RevisionId) : Bool :=
  dispatch.assignment_id == identity.assignment_id && dispatch.attempt_id == identity.attempt_id &&
    dispatch.team_revision_id == team_revision_id && dispatch.is_live

def DispatchTurn.close (dispatch : DispatchTurn) (closed_reason : DispatchClosedReason) : DispatchTurn :=
  { dispatch with status := .closed closed_reason }

def close_dispatch_row (db : TaskDb) (identity : AttemptDispatchIdentity) (team_revision_id : RevisionId)
    (closed_reason : DispatchClosedReason) : Option (Table DispatchId DispatchTurn) :=
  db.dispatches.updateWhere identity.dispatch_id
    (fun dispatch => dispatch.is_owned identity team_revision_id && attempt_dispatch_is_current db identity)
    fun dispatch => dispatch.close closed_reason

def clear_current_attempt_dispatch (db : TaskDb) (identity : AttemptDispatchIdentity) : Option TaskDb := do
  let attempts ← db.attempts.updateWhere identity.attempt_id (fun attempt => attempt.holds identity)
    fun attempt => { attempt with current_dispatch_id := none }
  return { db with attempts := attempts }

/-- Close and clear one exact current Dispatch without changing Task truth. -/
def close_current_attempt_dispatch (db : TaskDb) (identity : AttemptDispatchIdentity)
    (expected_team_revision_id : RevisionId) (closed_reason : DispatchClosedReason) : Option TaskDb := do
  ensure (claim_running_task db identity)
  let dispatches ← close_dispatch_row db identity expected_team_revision_id closed_reason
  clear_current_attempt_dispatch { db with dispatches := dispatches } identity

/-- The filter on the exact wait row that a suspending Attempt selects. -/
def AttemptWait.is_owned (wait : AttemptWait) (identity : AttemptDispatchIdentity) : Bool :=
  wait.assignment_id == identity.assignment_id && wait.attempt_id == identity.attempt_id &&
    wait.source_dispatch_id == identity.dispatch_id

/-- Close one current Dispatch and select its exact typed Attempt wait. -/
def suspend_current_attempt_on_wait (db : TaskDb) (identity : AttemptDispatchIdentity) (wait_id : WaitId)
    (expected_team_revision_id : RevisionId) (closed_reason : DispatchClosedReason) : Option TaskDb := do
  ensure (claim_running_task db identity &&
    (db.attempt_waits.get? wait_id).any (fun wait => wait.is_owned identity) &&
    (db.dispatches.get? identity.dispatch_id).any
      fun dispatch => dispatch.is_owned identity expected_team_revision_id)
  let dispatches ← close_dispatch_row db identity expected_team_revision_id closed_reason
  let attempts ← db.attempts.updateWhere identity.attempt_id (fun attempt => attempt.holds identity)
    fun attempt => { attempt with current_dispatch_id := none, current_wait_id := some wait_id }
  return { db with dispatches := dispatches, attempts := attempts }

/-- The filter on an Attempt whose lane is free, or still points at the given predecessor. -/
def Attempt.accepts (attempt : Attempt) (assignment_id : AssignmentId)
    (predecessor_dispatch_id : Option DispatchId) : Bool :=
  attempt.assignment_id == assignment_id && attempt.status == .running && attempt.current_wait_id.isNone &&
    (attempt.current_dispatch_id.isNone ||
      (predecessor_dispatch_id.isSome && attempt.current_dispatch_id == predecessor_dispatch_id))

def select_starting_dispatch_for_attempt (db : TaskDb) (identity : AttemptDispatchIdentity)
    (predecessor_dispatch_id : Option DispatchId) : Option TaskDb := do
  let attempts ← db.attempts.updateWhere identity.attempt_id
    (fun attempt => attempt.accepts identity.assignment_id predecessor_dispatch_id)
    fun attempt => { attempt with current_dispatch_id := some identity.dispatch_id }
  return { db with attempts := attempts }

def clear_current_attempt_wait (db : TaskDb) (identity : AttemptWaitIdentity) : Option TaskDb := do
  let attempts ← db.attempts.updateWhere identity.attempt_id
    (fun attempt => attempt.assignment_id == identity.assignment_id && attempt.status == .running &&
      attempt.current_dispatch_id.isNone && attempt.current_wait_id == some identity.wait_id)
    fun attempt => { attempt with current_wait_id := none }
  return { db with attempts := attempts }

/-- One Dispatch holds the lane of its running Attempt, in a running Task. -/
structure HoldsLane (db : TaskDb) (identity : AttemptDispatchIdentity) (attempt : Attempt)
    (dispatch : DispatchTurn) : Prop where
  running : db.task.status = .running
  attempt_row : db.attempts.get? identity.attempt_id = some attempt
  attempt_assignment : attempt.assignment_id = identity.assignment_id
  attempt_running : attempt.status = .running
  current : attempt.current_dispatch_id = some identity.dispatch_id
  no_wait : attempt.current_wait_id = none
  dispatch_row : db.dispatches.get? identity.dispatch_id = some dispatch
  dispatch_assignment : dispatch.assignment_id = identity.assignment_id
  dispatch_attempt : dispatch.attempt_id = identity.attempt_id
  live : dispatch.is_live = true

theorem Attempt.holds_iff {attempt : Attempt} {identity : AttemptDispatchIdentity} :
    attempt.holds identity = true ↔ attempt.assignment_id = identity.assignment_id ∧
      attempt.status = .running ∧ attempt.current_dispatch_id = some identity.dispatch_id ∧
        attempt.current_wait_id = none := by
  simp [Attempt.holds, and_assoc]

theorem DispatchTurn.is_owned_iff {dispatch : DispatchTurn} {identity : AttemptDispatchIdentity}
    {team_revision_id : RevisionId} :
    dispatch.is_owned identity team_revision_id = true ↔
      dispatch.assignment_id = identity.assignment_id ∧ dispatch.attempt_id = identity.attempt_id ∧
        dispatch.team_revision_id = team_revision_id ∧ dispatch.is_live = true := by
  simp [DispatchTurn.is_owned, and_assoc]

theorem attempt_dispatch_is_current_iff {db : TaskDb} {identity : AttemptDispatchIdentity} :
    attempt_dispatch_is_current db identity = true ↔
      ∃ attempt, db.attempts.get? identity.attempt_id = some attempt ∧ attempt.holds identity = true := by
  unfold attempt_dispatch_is_current
  cases db.attempts.get? identity.attempt_id <;> simp

/-- A successful close found the Dispatch holding its lane; it closes the row and frees the lane. -/
theorem close_current_attempt_dispatch_success {db db' : TaskDb} {identity : AttemptDispatchIdentity}
    {team_revision_id : RevisionId} {closed_reason : DispatchClosedReason}
    (h : close_current_attempt_dispatch db identity team_revision_id closed_reason = some db') :
    ∃ attempt dispatch, HoldsLane db identity attempt dispatch ∧
      dispatch.team_revision_id = team_revision_id ∧
      db' = { db with
        dispatches := db.dispatches.set identity.dispatch_id (dispatch.close closed_reason)
        attempts := db.attempts.set identity.attempt_id { attempt with current_dispatch_id := none } } := by
  unfold close_current_attempt_dispatch clear_current_attempt_dispatch close_dispatch_row at h
  simp only [Option.bind_eq_bind, Option.bind_eq_some_iff, ensure_eq_some_iff,
    Table.updateWhere_eq_some, claim_running_task, Bool.and_eq_true, beq_iff_eq] at h
  obtain ⟨_, ⟨hrunning, -⟩, _, ⟨dispatch, hdispatch, ⟨howned, -⟩, rfl⟩, _,
    ⟨attempt, hattempt, hholds, rfl⟩, h⟩ := h
  cases h
  obtain ⟨hassignment, hstatus, hcurrent, hwait⟩ := Attempt.holds_iff.mp hholds
  obtain ⟨hdassignment, hdattempt, hteam, hlive⟩ := DispatchTurn.is_owned_iff.mp howned
  exact ⟨attempt, dispatch, ⟨hrunning, hattempt, hassignment, hstatus, hcurrent, hwait, hdispatch,
    hdassignment, hdattempt, hlive⟩, hteam, rfl⟩

/-- A successful suspension found the Dispatch holding its lane and the wait row; it closes the
    Dispatch and moves the lane onto the wait. -/
theorem suspend_current_attempt_on_wait_success {db db' : TaskDb} {identity : AttemptDispatchIdentity}
    {wait_id : WaitId} {team_revision_id : RevisionId} {closed_reason : DispatchClosedReason}
    (h : suspend_current_attempt_on_wait db identity wait_id team_revision_id closed_reason = some db') :
    ∃ attempt dispatch, HoldsLane db identity attempt dispatch ∧
      dispatch.team_revision_id = team_revision_id ∧
      db' = { db with
        dispatches := db.dispatches.set identity.dispatch_id (dispatch.close closed_reason)
        attempts := db.attempts.set identity.attempt_id
          { attempt with current_dispatch_id := none, current_wait_id := some wait_id } } := by
  unfold suspend_current_attempt_on_wait close_dispatch_row at h
  simp only [Option.bind_eq_bind, Option.bind_eq_some_iff, ensure_eq_some_iff,
    Table.updateWhere_eq_some, claim_running_task, Bool.and_eq_true, beq_iff_eq] at h
  obtain ⟨_, ⟨⟨⟨hrunning, -⟩, -⟩, -⟩, _, ⟨dispatch, hdispatch, ⟨howned, -⟩, rfl⟩, _,
    ⟨attempt, hattempt, hholds, rfl⟩, h⟩ := h
  cases h
  obtain ⟨hassignment, hstatus, hcurrent, hwait⟩ := Attempt.holds_iff.mp hholds
  obtain ⟨hdassignment, hdattempt, hteam, hlive⟩ := DispatchTurn.is_owned_iff.mp howned
  exact ⟨attempt, dispatch, ⟨hrunning, hattempt, hassignment, hstatus, hcurrent, hwait, hdispatch,
    hdassignment, hdattempt, hlive⟩, hteam, rfl⟩

theorem select_starting_dispatch_for_attempt_eq_some {db db' : TaskDb}
    {identity : AttemptDispatchIdentity} {predecessor : Option DispatchId} :
    select_starting_dispatch_for_attempt db identity predecessor = some db' ↔
      ∃ attempt, db.attempts.get? identity.attempt_id = some attempt ∧
        attempt.accepts identity.assignment_id predecessor = true ∧
        db' = { db with
          attempts := db.attempts.set identity.attempt_id
            { attempt with current_dispatch_id := some identity.dispatch_id } } := by
  unfold select_starting_dispatch_for_attempt
  simp only [Option.bind_eq_bind, Option.bind_eq_some_iff, Table.updateWhere_eq_some, Option.pure_def,
    Option.some.injEq]
  constructor
  · rintro ⟨_, ⟨attempt, hattempt, haccepts, rfl⟩, rfl⟩
    exact ⟨attempt, hattempt, haccepts, rfl⟩
  · rintro ⟨attempt, hattempt, haccepts, rfl⟩
    exact ⟨_, ⟨attempt, hattempt, haccepts, rfl⟩, rfl⟩

theorem clear_current_attempt_wait_eq_some {db db' : TaskDb} {identity : AttemptWaitIdentity} :
    clear_current_attempt_wait db identity = some db' ↔
      ∃ attempt, db.attempts.get? identity.attempt_id = some attempt ∧
        attempt.assignment_id = identity.assignment_id ∧ attempt.status = .running ∧
        attempt.current_dispatch_id = none ∧ attempt.current_wait_id = some identity.wait_id ∧
        db' = { db with
          attempts := db.attempts.set identity.attempt_id { attempt with current_wait_id := none } } := by
  unfold clear_current_attempt_wait
  simp only [Option.bind_eq_bind, Option.bind_eq_some_iff, Table.updateWhere_eq_some, Option.pure_def,
    Option.some.injEq, Bool.and_eq_true, beq_iff_eq, Option.isNone_iff_eq_none]
  constructor
  · rintro ⟨_, ⟨attempt, hattempt, ⟨⟨⟨hassignment, hstatus⟩, hdispatch⟩, hwait⟩, rfl⟩, rfl⟩
    exact ⟨attempt, hattempt, hassignment, hstatus, hdispatch, hwait, rfl⟩
  · rintro ⟨attempt, hattempt, hassignment, hstatus, hdispatch, hwait, rfl⟩
    exact ⟨_, ⟨attempt, hattempt, ⟨⟨⟨hassignment, hstatus⟩, hdispatch⟩, hwait⟩, rfl⟩, rfl⟩

end OhMySubagents
