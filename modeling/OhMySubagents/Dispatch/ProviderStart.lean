import OhMySubagents.Dispatch.Currentness
import OhMySubagents.Lanes.Abstraction

open Relational

namespace OhMySubagents

/-- `DispatchStartDue`: one generation of a provider start that became due. -/
structure DispatchStartDue where
  dispatch_id : DispatchId
  provider_start_revision : Nat
  due_at : Instant
  deriving DecidableEq, Repr

/-- Minimum persisted facts for one exact current starting generation. -/
structure ProviderStartCandidate where
  team_revision_id : RevisionId
  task_control_revision : Nat
  assignment_id : AssignmentId
  attempt_id : AttemptId
  member_id : MemberId
  opened_reason : DispatchOpenedReason
  predecessor_dispatch_id : Option DispatchId
  provider_start_attempt_count : Nat
  persisted_due_at : Instant
  deriving DecidableEq, Repr

/-- The due instant of a Dispatch that is still starting. -/
def DispatchTurn.next_provider_start_at (dispatch : DispatchTurn) : Option Instant :=
  match dispatch.status with
  | .starting due_at _ => some due_at
  | _ => none

/-- The filter on one exact starting generation. -/
def DispatchTurn.is_starting_generation (dispatch : DispatchTurn) (signal : DispatchStartDue)
    (candidate : ProviderStartCandidate) : Bool :=
  dispatch.next_provider_start_at == some candidate.persisted_due_at &&
    dispatch.provider_start_revision == signal.provider_start_revision &&
    dispatch.provider_start_attempt_count == candidate.provider_start_attempt_count

/-- Read only the records needed to validate and launch one exact generation. -/
def read_provider_start_candidate (db : TaskDb) (signal : DispatchStartDue) : Option ProviderStartCandidate := do
  let dispatch ← db.dispatches.get? signal.dispatch_id
  let attempt ← db.attempts.get? dispatch.attempt_id
  let due_at ← dispatch.next_provider_start_at
  ensure (current_team_selects_member db dispatch.selection &&
    dispatch.provider_start_revision == signal.provider_start_revision && due_at == signal.due_at &&
    db.task.status == .running && attempt.status == .running &&
    attempt.current_dispatch_id == some signal.dispatch_id && attempt.current_wait_id.isNone)
  return {
    team_revision_id := dispatch.team_revision_id
    task_control_revision := db.task.control_revision
    assignment_id := dispatch.assignment_id
    attempt_id := dispatch.attempt_id
    member_id := dispatch.member_id
    opened_reason := dispatch.opened_reason
    predecessor_dispatch_id := dispatch.predecessor_dispatch_id
    provider_start_attempt_count := dispatch.provider_start_attempt_count
    persisted_due_at := due_at }

/-- The exact generation still starts, in the current lane of a running Task. -/
def starting_generation_is_current (db : TaskDb) (signal : DispatchStartDue) (candidate : ProviderStartCandidate)
    (dispatch : DispatchTurn) : Bool :=
  dispatch.is_starting_generation signal candidate && dispatch_attempt_is_current db signal.dispatch_id dispatch &&
    current_team_selects_member db dispatch.selection && db.task.status == .running

/-- Recheck exact currentness immediately before provider I/O. -/
def provider_start_is_current (db : TaskDb) (signal : DispatchStartDue) (candidate : ProviderStartCandidate) : Bool :=
  (db.dispatches.get? signal.dispatch_id).any (starting_generation_is_current db signal candidate)

/-- The row of a Dispatch whose provider accepted the start. -/
def DispatchTurn.accept_start (dispatch : DispatchTurn) (accepted_at : Instant) : DispatchTurn :=
  { dispatch with
    status := .open
    adapter_started_at := some accepted_at
    provider_start_attempt_count := dispatch.provider_start_attempt_count + 1 }

/-- Accept one exact generation; a zero-row update is an ordinary loser. -/
def accept_provider_start_if_current (db : TaskDb) (signal : DispatchStartDue) (candidate : ProviderStartCandidate)
    (accepted_at : Instant) : Option TaskDb := do
  let dispatches ← db.dispatches.updateWhere signal.dispatch_id (starting_generation_is_current db signal candidate)
    fun dispatch => dispatch.accept_start accepted_at
  return { db with dispatches := dispatches }

/-- Reconcile an ambiguous commit using only exact scalar controller truth. -/
def read_provider_start_acceptance_after_commit (db : TaskDb) (signal : DispatchStartDue)
    (candidate : ProviderStartCandidate) : Bool :=
  (db.dispatches.get? signal.dispatch_id).any fun dispatch =>
    current_team_selects_member db dispatch.selection && dispatch.status == .open &&
      dispatch.provider_start_revision == signal.provider_start_revision &&
      dispatch.provider_start_attempt_count == candidate.provider_start_attempt_count + 1 &&
      dispatch.adapter_started_at.isSome && db.task.status == .running &&
      (db.attempts.get? dispatch.attempt_id).any fun attempt => attempt.status == .running &&
        attempt.current_dispatch_id == some signal.dispatch_id && attempt.current_wait_id.isNone

/-- The row of a Dispatch that is to be started once more. -/
def DispatchTurn.rotate_start (dispatch : DispatchTurn) (retry : DispatchStartDue)
    (failure_kind : ProviderStartRetryKind) : DispatchTurn :=
  { dispatch with
    status := .starting retry.due_at failure_kind
    provider_start_revision := retry.provider_start_revision
    provider_start_attempt_count := dispatch.provider_start_attempt_count + 1 }

/-- Commit one next generation after a provider call failed or was uncertain. -/
def rotate_provider_start_after_failure (db : TaskDb) (signal : DispatchStartDue)
    (candidate : ProviderStartCandidate) (retry : DispatchStartDue) (failure_kind : ProviderStartRetryKind) :
    Option TaskDb := do
  let dispatches ← db.dispatches.updateWhere signal.dispatch_id (starting_generation_is_current db signal candidate)
    fun dispatch => dispatch.rotate_start retry failure_kind
  return { db with dispatches := dispatches }

/-- One exact starting generation that holds its lane. -/
structure StartsGeneration (db : TaskDb) (signal : DispatchStartDue) (candidate : ProviderStartCandidate)
    (dispatch : DispatchTurn) : Prop where
  row : db.dispatches.get? signal.dispatch_id = some dispatch
  due : dispatch.next_provider_start_at = some candidate.persisted_due_at
  revision : dispatch.provider_start_revision = signal.provider_start_revision
  count : dispatch.provider_start_attempt_count = candidate.provider_start_attempt_count
  lane : dispatch_attempt_is_current db signal.dispatch_id dispatch = true
  running : db.task.status = .running

variable {db db' : TaskDb} {signal : DispatchStartDue} {candidate : ProviderStartCandidate}

theorem starting_generation_is_current_success {dispatch : DispatchTurn}
    (row : db.dispatches.get? signal.dispatch_id = some dispatch)
    (h : starting_generation_is_current db signal candidate dispatch = true) :
    StartsGeneration db signal candidate dispatch := by
  simp only [starting_generation_is_current, DispatchTurn.is_starting_generation, Bool.and_eq_true,
    beq_iff_eq] at h
  obtain ⟨⟨⟨⟨⟨hdue, hrevision⟩, hcount⟩, hlane⟩, -⟩, hrunning⟩ := h
  exact ⟨row, hdue, hrevision, hcount, hlane, hrunning⟩

/-- A candidate is read from the generation that its signal names. -/
theorem read_provider_start_candidate_success (h : read_provider_start_candidate db signal = some candidate) :
    candidate.persisted_due_at = signal.due_at ∧ ∃ dispatch, db.dispatches.get? signal.dispatch_id = some dispatch ∧
      dispatch.next_provider_start_at = some signal.due_at ∧
      dispatch.provider_start_revision = signal.provider_start_revision ∧
      dispatch.provider_start_attempt_count = candidate.provider_start_attempt_count := by
  unfold read_provider_start_candidate at h
  simp only [Option.bind_eq_bind, Option.bind_eq_some_iff, ensure_eq_some_iff, Bool.and_eq_true, beq_iff_eq] at h
  obtain ⟨dispatch, hdispatch, attempt, -, due_at, hdue, _, hguard, h⟩ := h
  cases h
  obtain ⟨⟨⟨⟨⟨⟨-, hrevision⟩, hsignal⟩, -⟩, -⟩, -⟩, -⟩ := hguard
  rw [hsignal] at hdue
  exact ⟨hsignal, dispatch, hdispatch, hdue, hrevision, rfl⟩

theorem accept_provider_start_success {accepted_at : Instant}
    (h : accept_provider_start_if_current db signal candidate accepted_at = some db') :
    ∃ dispatch, StartsGeneration db signal candidate dispatch ∧
      db' = { db with dispatches := db.dispatches.set signal.dispatch_id (dispatch.accept_start accepted_at) } := by
  unfold accept_provider_start_if_current at h
  simp only [Option.bind_eq_bind, Option.bind_eq_some_iff, Table.updateWhere_eq_some] at h
  obtain ⟨_, ⟨dispatch, hrow, hcurrent, rfl⟩, h⟩ := h
  cases h
  exact ⟨dispatch, starting_generation_is_current_success hrow hcurrent, rfl⟩

theorem rotate_provider_start_success {retry : DispatchStartDue} {failure_kind : ProviderStartRetryKind}
    (h : rotate_provider_start_after_failure db signal candidate retry failure_kind = some db') :
    ∃ dispatch, StartsGeneration db signal candidate dispatch ∧
      db' = { db with
        dispatches := db.dispatches.set signal.dispatch_id (dispatch.rotate_start retry failure_kind) } := by
  unfold rotate_provider_start_after_failure at h
  simp only [Option.bind_eq_bind, Option.bind_eq_some_iff, Table.updateWhere_eq_some] at h
  obtain ⟨_, ⟨dispatch, hrow, hcurrent, rfl⟩, h⟩ := h
  cases h
  exact ⟨dispatch, starting_generation_is_current_success hrow hcurrent, rfl⟩

theorem DispatchTurn.starting_of_next {dispatch : DispatchTurn} {due_at : Instant}
    (h : dispatch.next_provider_start_at = some due_at) : ∃ kind, dispatch.status = .starting due_at kind := by
  unfold DispatchTurn.next_provider_start_at at h
  split at h
  · next due_at' kind hstatus =>
    cases h
    exact ⟨kind, hstatus⟩
  · cases h

/-- A row that stays live under the same columns is the same lane. -/
theorem lanes_live_dispatch {d : DispatchId} {dispatch dispatch' : DispatchTurn}
    (row : db.dispatches.get? d = some dispatch) (hsame : dispatch'.lane = dispatch.lane) :
    ({ db with dispatches := db.dispatches.set d dispatch' } : TaskDb).lanes = db.lanes := by
  apply Lanes.ext <;> first | rfl | skip
  exact Table.view_set_same row hsame

theorem StartsGeneration.accept_lanes {dispatch : DispatchTurn} {accepted_at : Instant}
    (h : StartsGeneration db signal candidate dispatch) :
    (dispatch.accept_start accepted_at).lane = dispatch.lane := by
  obtain ⟨kind, hstatus⟩ := DispatchTurn.starting_of_next h.due
  simp [DispatchTurn.lane, DispatchTurn.accept_start, DispatchStatus.closed_reason, hstatus, DispatchTurn.selection]

theorem StartsGeneration.rotate_lanes {dispatch : DispatchTurn} {retry : DispatchStartDue}
    {failure_kind : ProviderStartRetryKind} (h : StartsGeneration db signal candidate dispatch) :
    (dispatch.rotate_start retry failure_kind).lane = dispatch.lane := by
  obtain ⟨kind, hstatus⟩ := DispatchTurn.starting_of_next h.due
  simp [DispatchTurn.lane, DispatchTurn.rotate_start, DispatchStatus.closed_reason, hstatus, DispatchTurn.selection]

end OhMySubagents
