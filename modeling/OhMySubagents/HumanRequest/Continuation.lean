import OhMySubagents.Control.Transitions
import OhMySubagents.Dispatch.Successor

open Relational

namespace OhMySubagents

def human_request_continuation_basis (request_id : RequestId) (source : HumanRequest)
    (opened_reason : DispatchOpenedReason) : OrdinaryContinuationBasis where
  assignment_id := source.assignment_id
  attempt_id := source.attempt_id
  source_dispatch_id := source.source_dispatch_id
  source_dispatch_closed_reason := .human_request_wait
  opened_reason := opened_reason
  trigger := .human_result request_id source.source_dispatch_id source.status
  continuation_source_id := none

def HumanRequest.is_terminal_unconsumed (request : HumanRequest) : Bool :=
  request.status.is_terminal && request.successor_dispatch_id.isNone

/-- Read one terminal, unconsumed human source and its prompt-safe result. -/
def read_human_request_continuation_basis (request_id : RequestId) (db : TaskDb) :
    Result (Option OrdinaryContinuationBasis) :=
  match db.human_requests.get? request_id with
  | none => .ok none
  | some source =>
    if source.is_terminal_unconsumed then
      .ok (some (human_request_continuation_basis request_id source .human_result))
    else .ok none

/-- Conditionally record the one successor identity on the exact human source. -/
def claim_human_request_continuation : OrdinarySourceClaim := fun db snapshot prepared =>
  match snapshot.basis.trigger with
  | .human_result request_id source_dispatch_id status => do
    let human_requests ← db.human_requests.updateWhere request_id
      (fun request => request.assignment_id == snapshot.basis.assignment_id &&
        request.attempt_id == snapshot.basis.attempt_id && request.source_dispatch_id == source_dispatch_id &&
        request.status == status && request.is_terminal_unconsumed)
      fun request => { request with successor_dispatch_id := some prepared.dispatch_id }
    return { db with human_requests := human_requests }
  | _ => none

/-- Pause the exact failed source and every runnable sibling Attempt lane. -/
def pause_failed_human_request_continuation (request_id : RequestId) (db : TaskDb) : Result TaskDb :=
  pause_task_for_runtime_transition_failure db <|
    (db.human_requests.get? request_id).any fun request => request.is_terminal_unconsumed &&
      (db.attempts.get? request.attempt_id).any fun attempt => attempt.is_idle request.assignment_id

/-- Open at most one successor from one exact terminal human request. -/
def open_human_request_successor (stale db : TaskDb) (request_id : RequestId)
    (drawn : Option DrawnDispatchRequest) : Result (OrdinaryOpeningOutcome × TaskDb) :=
  open_ordinary_successor stale db drawn (read_human_request_continuation_basis request_id)
    claim_human_request_continuation (pause_failed_human_request_continuation request_id)

theorem HumanRequest.is_terminal_unconsumed_iff {request : HumanRequest} :
    request.is_terminal_unconsumed = true ↔
      request.status.is_terminal = true ∧ request.successor_dispatch_id = none := by
  simp [HumanRequest.is_terminal_unconsumed]

theorem read_human_request_continuation_basis_success {db : TaskDb} {request_id : RequestId}
    {basis : OrdinaryContinuationBasis}
    (h : read_human_request_continuation_basis request_id db = .ok (some basis)) :
    ∃ source, db.human_requests.get? request_id = some source ∧ source.status.is_terminal = true ∧
      source.successor_dispatch_id = none ∧
      basis = human_request_continuation_basis request_id source .human_result := by
  unfold read_human_request_continuation_basis at h
  split at h
  · cases h
  · next source hsource =>
    split at h
    · next hterminal =>
      cases h
      obtain ⟨hstatus, hnone⟩ := HumanRequest.is_terminal_unconsumed_iff.mp hterminal
      exact ⟨source, hsource, hstatus, hnone, rfl⟩
    · cases h

/-- A successful claim consumes a terminal request of the snapshot's own lane. -/
theorem claim_human_request_continuation_claims {db claimed : TaskDb} {snapshot : OrdinaryDispatchSnapshot}
    {prepared : PreparedDispatchRequest} {request_id : RequestId} {source : HumanRequest}
    {opened_reason : DispatchOpenedReason}
    (hbasis : snapshot.basis = human_request_continuation_basis request_id source opened_reason)
    (h : claim_human_request_continuation db snapshot prepared = some claimed) :
    ∃ x, ClaimsSource db claimed snapshot prepared (.human_request request_id) x := by
  have htrigger : snapshot.basis.trigger = .human_result request_id snapshot.basis.source_dispatch_id
      source.status := by rw [hbasis]; rfl
  unfold claim_human_request_continuation at h
  rw [htrigger] at h
  simp only [Option.bind_eq_bind, Option.bind_eq_some_iff, Table.updateWhere_eq_some, Bool.and_eq_true,
    beq_iff_eq, HumanRequest.is_terminal_unconsumed_iff] at h
  obtain ⟨_, ⟨row, hrow, ⟨⟨⟨⟨hassignment, hattempt⟩, hsource⟩, -⟩, hstatus, hnone⟩, rfl⟩, h⟩ := h
  cases h
  refine ⟨row.lane, Table.view_eq_some.mpr ⟨row, hrow, rfl⟩, ?_, hattempt, hassignment, congrArg some hsource,
    ?_, rfl, rfl⟩
  · simp [HumanRequest.lane, SourcePhase.of, hnone, hstatus]
  · rw [lanes_human_request]
    rfl

end OhMySubagents
