import OhMySubagents.Control.Transitions
import OhMySubagents.TaskDb

open Relational

namespace OhMySubagents

inductive ProviderSteerOutcome
  | delivered | not_running | uncertain
  deriving DecidableEq, Repr

structure MemberSteerRequest where
  action_id : String
  message : String
  deriving DecidableEq, Repr

structure MemberSteerSource where
  team_revision_id : RevisionId
  member_id : MemberId
  assignment_id : AssignmentId
  attempt_id : AttemptId
  dispatch_id : DispatchId
  accepted_steer_count : Nat
  deriving DecidableEq, Repr

/-- `product_action_id`: the opaque hashes that name a steer action and its event. -/
structure SteerActionIds where
  action_id : MemberSteerSource → String
  event_id : String → String

def action_unavailable : RuntimeOperationError := conflict_error "That Member can no longer be steered."

/-- The filter on a Dispatch that a steer can reach. -/
def DispatchTurn.is_steerable (dispatch : DispatchTurn) (task : Task) : Bool :=
  dispatch.status == .open && dispatch.adapter_started_at.isSome &&
    dispatch.team_revision_id == task.current_team_revision_id

/-- The row of the joined query that one Assignment selects. The accepted steers are counted by a statement of its
    own, in the rows `counted`. -/
def read_assignment_steer_source (db counted : TaskDb) (assignment_id : AssignmentId) (assignment : Assignment) :
    Option MemberSteerSource := do
  let attempt ← db.attempts.get? assignment.current_attempt_id
  let dispatch_id ← attempt.current_dispatch_id
  let dispatch ← db.dispatches.get? dispatch_id
  ensure (db.task.status == .running && assignment.terminal_outcome.isNone &&
    attempt.assignment_id == assignment_id && attempt.status == .running &&
    dispatch.assignment_id == assignment_id && dispatch.attempt_id == assignment.current_attempt_id &&
    dispatch.is_steerable db.task)
  return {
    team_revision_id := dispatch.team_revision_id
    member_id := assignment.member_id
    assignment_id := assignment_id
    attempt_id := assignment.current_attempt_id
    dispatch_id := dispatch_id
    accepted_steer_count :=
      (counted.member_steered_events.filter fun event => event.dispatch_id == dispatch_id).length }

def read_member_steer_sources (db counted : TaskDb) (member_id : MemberId) : List MemberSteerSource :=
  (db.assignments.select fun _ assignment => assignment.member_id == member_id).filterMap fun row =>
    read_assignment_steer_source db counted row.1 row.2

def MemberSteerSource.event (source : MemberSteerSource) (request : MemberSteerRequest) (event_id : String)
    (occurred_at : Instant) : MemberSteered where
  event_id := event_id
  action_id := request.action_id
  member_id := source.member_id
  assignment_id := source.assignment_id
  dispatch_id := source.dispatch_id
  message := request.message
  occurred_at := occurred_at

/-- The event that a request was recorded with before. -/
def read_existing_steer (ids : SteerActionIds) (db : TaskDb) (request : MemberSteerRequest) : Option MemberSteered :=
  db.member_steered_events.find? fun event => event.event_id == ids.event_id request.action_id

/-- What a request does before its provider is asked: `none` when it was already delivered, else its source. -/
def read_requested_steer (ids : SteerActionIds) (stale counted : TaskDb) (member_id : MemberId)
    (request : MemberSteerRequest) : Result (Option MemberSteerSource) :=
  match read_existing_steer ids stale request with
  | some existing => do
    require (existing.member_id == member_id && existing.action_id == request.action_id &&
      existing.message == request.message) action_unavailable
    return none
  | none => do
    let source ← require_some (read_member_steer_sources stale counted member_id).head? action_unavailable
    require (ids.action_id source == request.action_id) action_unavailable
    return some source

/-- `append_task_event`: the event id is the primary key. -/
def record_delivered_steer (ids : SteerActionIds) (db : TaskDb) (source : MemberSteerSource)
    (request : MemberSteerRequest) (occurred_at : Instant) : Result TaskDb := do
  require (!db.member_steered_events.any fun event => event.event_id == ids.event_id request.action_id) integrity_error
  return { db with
    member_steered_events := db.member_steered_events ++
      [source.event request (ids.event_id request.action_id) occurred_at] }

/-- One steer of the Member's current work. `outcome` is what the adapter reports, empty when the provider has
    none. The provider is asked between the reads and the append, and nothing is locked meanwhile: the rows `db` that
    the event is appended to may be newer than those that its source was read from. -/
def steer_product_task_member (ids : SteerActionIds) (stale counted db : TaskDb) (member_id : MemberId)
    (request : MemberSteerRequest) (outcome : Option ProviderSteerOutcome) (occurred_at : Instant) :
    Result (ProviderSteerOutcome × TaskDb) := do
  match ← read_requested_steer ids stale counted member_id request with
  | none => return (.delivered, db)
  | some source =>
    match outcome with
    | none | some .not_running => .error action_unavailable
    | some .uncertain => return (.uncertain, db)
    | some .delivered => return (.delivered, ← record_delivered_steer ids db source request occurred_at)

variable {ids : SteerActionIds} {stale counted db db' : TaskDb} {member_id : MemberId} {request : MemberSteerRequest}
  {outcome : Option ProviderSteerOutcome} {occurred_at : Instant}

/-- The live Dispatch that a steer reaches. -/
structure Steerable (db : TaskDb) (source : MemberSteerSource) (assignment : Assignment) (attempt : Attempt)
    (dispatch : DispatchTurn) : Prop where
  running : db.task.status = .running
  assignment_row : db.assignments.get? source.assignment_id = some assignment
  assignment_member : assignment.member_id = source.member_id
  assignment_attempt : assignment.current_attempt_id = source.attempt_id
  assignment_open : assignment.terminal_outcome = none
  attempt_row : db.attempts.get? source.attempt_id = some attempt
  attempt_assignment : attempt.assignment_id = source.assignment_id
  attempt_running : attempt.status = .running
  current : attempt.current_dispatch_id = some source.dispatch_id
  dispatch_row : db.dispatches.get? source.dispatch_id = some dispatch
  dispatch_attempt : dispatch.attempt_id = source.attempt_id
  dispatch_assignment : dispatch.assignment_id = source.assignment_id
  is_open : dispatch.status = .open
  started : dispatch.adapter_started_at.isSome
  revision : dispatch.team_revision_id = db.task.current_team_revision_id

theorem DispatchTurn.is_steerable_iff {dispatch : DispatchTurn} {task : Task} :
    dispatch.is_steerable task = true ↔ dispatch.status = .open ∧ dispatch.adapter_started_at.isSome ∧
      dispatch.team_revision_id = task.current_team_revision_id := by
  simp [DispatchTurn.is_steerable, and_assoc]

theorem read_member_steer_sources_mem {source : MemberSteerSource}
    (h : source ∈ read_member_steer_sources db counted member_id) :
    source.member_id = member_id ∧ ∃ assignment attempt dispatch, Steerable db source assignment attempt dispatch := by
  unfold read_member_steer_sources at h
  obtain ⟨⟨id, assignment⟩, hrow, hread⟩ := List.mem_filterMap.mp h
  obtain ⟨hget, hmember⟩ := Table.mem_select_iff.mp hrow
  unfold read_assignment_steer_source at hread
  simp only [Option.bind_eq_bind, Option.bind_eq_some_iff, ensure_eq_some_iff, Bool.and_eq_true, beq_iff_eq,
    Option.isNone_iff_eq_none, DispatchTurn.is_steerable_iff, Option.pure_def, Option.some.injEq] at hread
  obtain ⟨attempt, hattempt, dispatch_id, hcurrent, dispatch, hdispatch, _,
    ⟨⟨⟨⟨⟨⟨hstatus, hopen⟩, hassignment⟩, hrunning⟩, hdassignment⟩, hdattempt⟩, hsteerable⟩, rfl⟩ := hread
  exact ⟨beq_iff_eq.mp hmember, assignment, attempt, dispatch, hstatus, hget, rfl, rfl, hopen, hattempt, hassignment,
    hrunning, hcurrent, hdispatch, hdattempt, hdassignment, hsteerable.1, hsteerable.2.1, hsteerable.2.2⟩

/-- The source of a request that is not recorded yet could be steered in the rows that it was read from. -/
theorem read_requested_steer_source {source : MemberSteerSource}
    (h : read_requested_steer ids stale counted member_id request = .ok (some source)) :
    source.member_id = member_id ∧ ids.action_id source = request.action_id ∧
      ∃ assignment attempt dispatch, Steerable stale source assignment attempt dispatch := by
  unfold read_requested_steer at h
  split at h
  · simp only [bind_eq_ok_iff] at h
    obtain ⟨_, -, h⟩ := h
    cases h
  · simp only [bind_eq_ok_iff, require_some_eq_ok_iff, require_eq_ok_iff, beq_iff_eq] at h
    obtain ⟨found, hfound, _, haction, h⟩ := h
    cases h
    obtain ⟨hmember, hsteerable⟩ := read_member_steer_sources_mem (List.mem_of_mem_head? (Option.mem_def.mpr hfound))
    exact ⟨hmember, haction, hsteerable⟩

/-- A steer changes nothing, or appends one new event of the source that it read, delivered by the provider. -/
theorem steer_product_task_member_success {receipt : ProviderSteerOutcome}
    (h : steer_product_task_member ids stale counted db member_id request outcome occurred_at = .ok (receipt, db')) :
    db' = db ∨ ∃ source, read_requested_steer ids stale counted member_id request = .ok (some source) ∧
      outcome = some .delivered ∧
      (∀ event ∈ db.member_steered_events, event.event_id ≠ ids.event_id request.action_id) ∧
      db' = { db with
        member_steered_events := db.member_steered_events ++
          [source.event request (ids.event_id request.action_id) occurred_at] } := by
  unfold steer_product_task_member at h
  rw [bind_eq_ok_iff] at h
  obtain ⟨requested, hread, h⟩ := h
  split at h
  · cases h
    exact .inl rfl
  · next source =>
    split at h
    · cases h
    · cases h
    · cases h
      exact .inl rfl
    · simp only [record_delivered_steer, bind_eq_ok_iff, require_eq_ok_iff, Bool.not_eq_true', List.any_eq_false,
        beq_iff_eq] at h
      obtain ⟨_, ⟨_, hnew, hrecord⟩, h⟩ := h
      cases hrecord
      cases h
      exact .inr ⟨source, hread, rfl, hnew, rfl⟩

end OhMySubagents
