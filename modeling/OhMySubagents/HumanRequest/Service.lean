import OhMySubagents.Errors
import OhMySubagents.Rows
import OhMySubagents.Dispatch.Successor

open Relational

namespace OhMySubagents

/-- What a JSON-schema validator says of one schema and one value, both as JSON text. It may raise something else: for a
    reference that it cannot resolve, or follows without end. -/
inductive SchemaVerdict
  | valid | invalid_schema | mismatch | raised
  deriving DecidableEq, Repr

abbrev SchemaValidator := String → String → SchemaVerdict

def validate_schema_response (validator : SchemaValidator) (item : HumanRequestItem) (schema value : String) :
    Result Unit :=
  match validator schema value with
  | .valid => .ok ()
  | .invalid_schema =>
    .error (illegal_state_error s!"response_schema is invalid for human request item '{item.id}'")
  | .mismatch => .error (invalid_request_shape_error
      s!"response does not match response_schema for human request item '{item.id}'")
  | .raised => .error (internal_error "an exception of the schema validator")

/-- An item with options is answered by one of them, or by another text where that is allowed. -/
def validate_option_response (item : HumanRequestItem) (option_ids : List String) :
    HumanRequestItemAnswer → Result Unit
  | .other _ => require item.allow_other
      (invalid_request_shape_error s!"human request item '{item.id}' does not allow Other")
  | .option option_id => require (option_ids.contains option_id)
      (invalid_request_shape_error s!"unknown option for human request item '{item.id}'")
  | _ => .error (invalid_request_shape_error
      s!"human request item '{item.id}' requires one tagged option answer")

def validate_value_response (validator : SchemaValidator) (item : HumanRequestItem) :
    HumanRequestItemAnswer → Result Unit
  | .value value => do
    let schema ← require_some item.response_schema
      (illegal_state_error s!"human request item '{item.id}' is missing its response contract")
    validate_schema_response validator item schema value
  | _ => .error (invalid_request_shape_error s!"human request item '{item.id}' requires one tagged value answer")

def validate_answered_item_response (validator : SchemaValidator) (item : HumanRequestItem)
    (response : HumanRequestItemAnswer) : Result Unit :=
  if response = .skipped then
    require item.allow_skip (invalid_request_shape_error s!"human request item '{item.id}' does not allow Skip")
  else
    match item.options with
    | some option_ids => validate_option_response item option_ids response
    | none => validate_value_response validator item response

/-- The responses name exactly the items of the request. -/
def answers_every_item (items : List HumanRequestItem) (item_responses : List (String × HumanRequestItemAnswer)) :
    Bool :=
  (item_responses.all fun response => items.any fun item => item.id == response.1) &&
    items.all fun item => item_responses.any fun response => response.1 == item.id

/-- Every response fits the item that it answers; the validator is the JSON-schema library. -/
def validate_answered_item_responses (validator : SchemaValidator) (source : HumanRequest)
    (item_responses : List (String × HumanRequestItemAnswer)) : Result Unit := do
  require (answers_every_item source.items item_responses)
    (invalid_request_shape_error "human request resolution must answer every request item exactly once")
  item_responses.forM fun response => do
    let item ← require_some (source.items.find? fun item => item.id == response.1) (internal_error "KeyError")
    validate_answered_item_response validator item response.2

section

/-- The exact wait row of one human request. -/
def HumanRequest.wait (source : HumanRequest) (request_id : RequestId) : AttemptWait where
  assignment_id := source.assignment_id
  attempt_id := source.attempt_id
  source_dispatch_id := source.source_dispatch_id
  source := .human_request request_id

/-- `_consume_exact_human_wait`: delete the wait row of one request, and clear the Attempt that selects it. -/
def consume_exact_human_wait (db : TaskDb) (request_id : RequestId) (source : HumanRequest) : Option TaskDb := do
  let (wait_id, db) ← delete_attempt_wait db (source.wait request_id)
  clear_current_attempt_wait db { assignment_id := source.assignment_id, attempt_id := source.attempt_id, wait_id }

def HumanRequest.resolve (source : HumanRequest) (status : HumanRequestStatus) (resolution : HumanRequestResolution) :
    HumanRequest :=
  { source with status := status, resolution := some resolution }

/-- Commit one exact answer, timeout, or cancellation winner. Returns whether this call won. -/
def persist_human_request_resolution (db : TaskDb) (request_id : RequestId) (source : HumanRequest)
    (status : HumanRequestStatus) (resolution : HumanRequestResolution) (expected_due_at : Option Instant) :
    Result (Bool × TaskDb) :=
  match db.human_requests.updateWhere request_id
      (fun request => request.status == .open && expected_due_at.all fun due_at => request.due_at == some due_at)
      fun request => request.resolve status resolution with
  | none => .ok (false, db)
  | some human_requests => do
    let consumed ← require_some
      (consume_exact_human_wait { db with human_requests := human_requests } request_id source)
      (conflict_error s!"human request '{request_id}' no longer owns its exact Attempt wait")
    return (true, consumed)

/-- Answer one human request; every losing or invalid answer raises. -/
def resolve_human_request (validator : SchemaValidator) (db : TaskDb) (request_id : RequestId)
    (item_responses : List (String × HumanRequestItemAnswer)) (actor_ref : Option String)
    (resolved_by_surface : HumanRequestResolutionSurface) (resolved_at : Instant) : Result TaskDb := do
  let source ← require_some (db.human_requests.get? request_id)
    (conflict_error s!"human request '{request_id}' is not current")
  validate_answered_item_responses validator source item_responses
  let (won, resolved) ← persist_human_request_resolution db request_id source .resolved
    { item_responses := some item_responses
      summary := "Human answered the controller-owned request."
      resolved_at := resolved_at
      resolved_by_actor_ref := actor_ref
      resolved_by_surface := resolved_by_surface }
    none
  require won (conflict_error s!"human request '{request_id}' is already terminal")
  return resolved

/-- What a resolution found and left behind. -/
structure HumanRequestResolved (db : TaskDb) (request_id : RequestId) (status : HumanRequestStatus)
    (resolution : HumanRequestResolution) (request : HumanRequest) (wait_id : WaitId) (attempt : Attempt)
    (db' : TaskDb) : Prop where
  row : db.human_requests.get? request_id = some request
  was_open : request.status = .open
  waits : WaitsFor db wait_id (request.wait request_id) attempt
  result : db' = { db.clear_wait wait_id request.attempt_id attempt with
    human_requests := db.human_requests.set request_id (request.resolve status resolution) }

variable {db db' : TaskDb} {request_id : RequestId} {source request : HumanRequest} {status : HumanRequestStatus}
  {resolution : HumanRequestResolution}

theorem consume_exact_human_wait_success (h : consume_exact_human_wait db request_id source = some db') :
    ∃ wait_id attempt, WaitsFor db wait_id (source.wait request_id) attempt ∧
      db' = db.clear_wait wait_id source.attempt_id attempt := by
  unfold consume_exact_human_wait at h
  simp only [Option.bind_eq_bind, Option.bind_eq_some_iff, clear_current_attempt_wait_eq_some] at h
  obtain ⟨⟨wait_id, deleted⟩, hdelete, attempt, hattempt, hassignment, hrunning, hdispatch, hwait, rfl⟩ := h
  obtain ⟨hrow, rfl⟩ := delete_attempt_wait_success hdelete
  exact ⟨wait_id, attempt, ⟨hrow, hattempt, hassignment, hrunning, hdispatch, hwait⟩, rfl⟩

/-- A winner found the request open, at the instant that it expects, and its Attempt waiting for it. -/
theorem persist_human_request_resolution_success {expected_due_at : Option Instant}
    (hsource : db.human_requests.get? request_id = some source)
    (h : persist_human_request_resolution db request_id source status resolution expected_due_at =
      .ok (true, db')) :
    (∀ due_at, expected_due_at = some due_at → source.due_at = some due_at) ∧
      ∃ wait_id attempt, HumanRequestResolved db request_id status resolution source wait_id attempt db' := by
  unfold persist_human_request_resolution at h
  split at h
  · cases h
  · next human_requests hupdate =>
    rw [Table.updateWhere_eq_some] at hupdate
    obtain ⟨request, hrow, hfilter, rfl⟩ := hupdate
    obtain rfl : source = request := Option.some.inj (hsource.symm.trans hrow)
    simp only [Bool.and_eq_true, beq_iff_eq] at hfilter
    obtain ⟨hopen, hdue⟩ := hfilter
    simp only [bind_eq_ok_iff, require_some_eq_ok_iff] at h
    obtain ⟨consumed, hconsume, h⟩ := h
    cases h
    obtain ⟨wait_id, attempt, hwaits, rfl⟩ := consume_exact_human_wait_success hconsume
    obtain ⟨h1, h2, h3, h4, h5, h6⟩ := hwaits
    refine ⟨?_, wait_id, attempt, hrow, hopen, ⟨h1, h2, h3, h4, h5, h6⟩, rfl⟩
    rintro due_at rfl
    simpa using hdue

/-- A call that loses leaves every row alone. -/
theorem persist_human_request_resolution_lost {expected_due_at : Option Instant}
    (h : persist_human_request_resolution db request_id source status resolution expected_due_at =
      .ok (false, db')) : db' = db := by
  unfold persist_human_request_resolution at h
  split at h
  · cases h
    rfl
  · simp only [bind_eq_ok_iff] at h
    obtain ⟨_, -, h⟩ := h
    cases h

theorem resolve_human_request_success {validator : SchemaValidator}
    {item_responses : List (String × HumanRequestItemAnswer)} {actor_ref : Option String}
    {resolved_by_surface : HumanRequestResolutionSurface} {resolved_at : Instant}
    (h : resolve_human_request validator db request_id item_responses actor_ref resolved_by_surface resolved_at =
      .ok db') :
    ∃ request wait_id attempt, validate_answered_item_responses validator request item_responses = .ok () ∧
      HumanRequestResolved db request_id .resolved
        { item_responses := some item_responses
          summary := "Human answered the controller-owned request."
          resolved_at := resolved_at
          resolved_by_actor_ref := actor_ref
          resolved_by_surface := resolved_by_surface } request wait_id attempt db' := by
  unfold resolve_human_request at h
  simp only [bind_eq_ok_iff, require_some_eq_ok_iff, require_eq_ok_iff] at h
  obtain ⟨request, hrow, _, hvalid, ⟨won, resolved⟩, hpersist, _, hwon, h⟩ := h
  cases h
  cases hwon
  obtain ⟨-, wait_id, attempt, hresolved⟩ := persist_human_request_resolution_success hrow hpersist
  exact ⟨request, wait_id, attempt, hvalid, hresolved⟩

/-- A resolution settles the request in the lanes: its Attempt is free again. -/
theorem HumanRequestResolved.step {wait_id : WaitId} {attempt : Attempt}
    (h : HumanRequestResolved db request_id status resolution request wait_id attempt db')
    (hterminal : status.is_terminal = true) (hinv : db.lanes.Invariant) (active : db.lanes.Active) :
    Lanes.Step db.lanes db'.lanes := by
  have hrow : db.lanes.sources (.human_request request_id) = some request.lane :=
    Table.view_eq_some.mpr ⟨request, h.row, rfl⟩
  obtain ⟨x, hx, hphase, -⟩ := hinv.waiting.wait_source wait_id _ active
    (Table.view_eq_some.mpr ⟨_, h.waits.wait_row, rfl⟩)
  obtain rfl : x = request.lane := Option.some.inj (hx.symm.trans hrow)
  have hnone : request.successor_dispatch_id = none := by
    cases hs : request.successor_dispatch_id with
    | none => rfl
    | some d => simp [HumanRequest.lane, SourcePhase.of, hs] at hphase
  refine h.waits.settle_step active hrow hphase (fun _ _ _ hwave => by cases hwave) ?_
  have hlane : (request.resolve status resolution).lane = { request.lane with phase := .resolved } := by
    simp [HumanRequest.lane, HumanRequest.resolve, SourcePhase.of, hnone, hterminal]
  rw [h.result]
  refine (@lanes_human_request (db.clear_wait wait_id request.attempt_id attempt) request_id _).trans ?_
  rw [hlane]
  rfl

end

/-- `HumanRequestDue`: the stored deadline of one request. -/
structure HumanRequestDue where
  request_id : RequestId
  due_at : Instant
  deriving DecidableEq, Repr

/-- The resolution that a deadline leaves behind. -/
def timeout_resolution (resolved_at : Instant) : HumanRequestResolution where
  item_responses := none
  summary := "The controller-owned human request reached its deadline."
  resolved_at := resolved_at
  resolved_by_actor_ref := none
  resolved_by_surface := .controller

/-- Terminalize one exact elapsed request deadline or lose harmlessly. Returns whether this signal won. -/
def expire_human_request (db : TaskDb) (signal : HumanRequestDue) (now : Instant) : Result (Bool × TaskDb) :=
  match (db.human_requests.get? signal.request_id).filter fun source =>
      source.status == .open && source.due_at == some signal.due_at && signal.due_at ≤ now with
  | none => .ok (false, db)
  | some source => persist_human_request_resolution db signal.request_id source .timed_out (timeout_resolution now)
      source.due_at

variable {db db' : TaskDb} {signal : HumanRequestDue} {now : Instant}

theorem expire_human_request_success (h : expire_human_request db signal now = .ok (true, db')) :
    signal.due_at ≤ now ∧ ∃ request wait_id attempt, request.due_at = some signal.due_at ∧
      HumanRequestResolved db signal.request_id .timed_out (timeout_resolution now) request wait_id attempt db' := by
  unfold expire_human_request at h
  split at h
  · cases h
  · next source hfilter =>
    obtain ⟨hrow, hopen⟩ := Option.filter_eq_some_iff.mp hfilter
    simp only [Bool.and_eq_true, beq_iff_eq, decide_eq_true_eq] at hopen
    obtain ⟨⟨-, hdue⟩, hnow⟩ := hopen
    obtain ⟨-, wait_id, attempt, hresolved⟩ := persist_human_request_resolution_success hrow h
    exact ⟨hnow, source, wait_id, attempt, hdue, hresolved⟩

/-- An early, late or duplicated signal leaves every row alone. -/
theorem expire_human_request_lost (h : expire_human_request db signal now = .ok (false, db')) : db' = db := by
  unfold expire_human_request at h
  split at h
  · cases h
    rfl
  · exact persist_human_request_resolution_lost h

end OhMySubagents
