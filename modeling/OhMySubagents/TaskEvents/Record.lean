import OhMySubagents.TaskEvents.Payloads

open JsonData

namespace OhMySubagents

open Contracts (ConstrainedText strip_whitespace strip_whitespace_idem strip_whitespace_eq_self is_white_space)

namespace TaskEvents

/-- What `validate_terminal_kind` accepts for one event type. -/
abbrev HumanRequestEnded (status : HumanRequestTerminalStatus) (kind : HumanRequestResolutionKind) :=
  {payload : HumanRequestTerminalEventPayload // payload.status = status ∧ payload.resolution_kind = kind}

/-- What `validate_terminal_state` accepts for one event type. -/
abbrev CommandRunEnded (state : CommandRunTerminalState) :=
  {payload : CommandRunTerminalEventPayload // payload.state = state ∧
    (payload.state = .abandoned → payload.failure_code.map Subtype.val = some "command_ownership_lost")}

/-- The payload that goes with each event type. -/
def TaskEventPayload : TaskEventType → Type
  | .task_started => TaskStartedEventPayload
  | .dispatch_opened => DispatchOpenedEventPayload
  | .dispatch_start_updated => DispatchStartUpdatedEventPayload
  | .work_plan_set => WorkPlanSetEventPayload
  | .work_plan_cleared => WorkPlanClearedEventPayload
  | .checkpoint_recorded => CheckpointRecordedEventPayload
  | .boundary_accepted => BoundaryAcceptedEventPayload
  | .structural_revision_adopted => StructuralRevisionAdoptedEventPayload
  | .human_request_opened => HumanRequestOpenedEventPayload
  | .human_request_resolved => HumanRequestEnded .resolved .answered
  | .human_request_timed_out => HumanRequestEnded .timed_out .timed_out
  | .human_request_cancelled => HumanRequestEnded .cancelled .cancelled
  | .command_run_opened => CommandRunOpenedEventPayload
  | .command_run_started => CommandRunStartedEventPayload
  | .command_run_progressed => CommandRunProgressedEventPayload
  | .command_run_cancel_requested => CommandRunCancelRequestedEventPayload
  | .command_run_succeeded => CommandRunEnded .succeeded
  | .command_run_failed => CommandRunEnded .failed
  | .command_run_timed_out => CommandRunEnded .timed_out
  | .command_run_cancelled => CommandRunEnded .cancelled
  | .command_run_abandoned => CommandRunEnded .abandoned
  | .task_paused => TaskPausedEventPayload
  | .task_resumed => TaskControlEventPayload
  | .task_cancelled => TaskControlEventPayload
  | .member_steered => MemberSteeredEventPayload

def TaskEventPayload.codec : (event_type : TaskEventType) → Codec (TaskEventPayload event_type)
  | .task_started => TaskStartedEventPayload.codec
  | .dispatch_opened => DispatchOpenedEventPayload.codec
  | .dispatch_start_updated => DispatchStartUpdatedEventPayload.codec
  | .work_plan_set => WorkPlanSetEventPayload.codec
  | .work_plan_cleared => WorkPlanClearedEventPayload.codec
  | .checkpoint_recorded => CheckpointRecordedEventPayload.codec
  | .boundary_accepted => BoundaryAcceptedEventPayload.codec
  | .structural_revision_adopted => StructuralRevisionAdoptedEventPayload.codec
  | .human_request_opened => HumanRequestOpenedEventPayload.codec
  | .human_request_resolved | .human_request_timed_out | .human_request_cancelled =>
    HumanRequestTerminalEventPayload.codec.check _
  | .command_run_opened => CommandRunOpenedEventPayload.codec
  | .command_run_started => CommandRunStartedEventPayload.codec
  | .command_run_progressed => CommandRunProgressedEventPayload.codec
  | .command_run_cancel_requested => CommandRunCancelRequestedEventPayload.codec
  | .command_run_succeeded | .command_run_failed | .command_run_timed_out | .command_run_cancelled
  | .command_run_abandoned => CommandRunTerminalEventPayload.codec.check _
  | .task_paused => TaskPausedEventPayload.codec
  | .task_resumed | .task_cancelled => TaskControlEventPayload.codec
  | .member_steered => MemberSteeredEventPayload.codec

/-- `TaskIdentifier`: stripped and not empty. -/
abbrev TaskIdentifier := {s : String // strip_whitespace s = s ∧ 1 ≤ s.length}

def TaskIdentifier.validate (s : String) : Option TaskIdentifier :=
  if h : 1 ≤ (strip_whitespace s).length then some ⟨strip_whitespace s, strip_whitespace_idem s, h⟩ else none

@[simp]
theorem TaskIdentifier.validate_val (task_id : TaskIdentifier) : validate task_id.val = some task_id := by
  simp [validate, task_id.property]

/-- One bounded chronology event with an event-type-specific payload. -/
structure TaskEventRecord where
  event_id : Identifier
  event_seq : Positive
  task_id : TaskIdentifier
  event_source : TaskEventSource
  occurred_at : Datetime
  team_revision_id : Option Identifier
  dispatch_id : Option Identifier
  attempt_id : Option Identifier
  member_id : Option Identifier
  actor_ref : Option Identifier
  prev_event_hash : Option Ref
  event_hash : Ref
  event_type : TaskEventType
  payload : TaskEventPayload event_type

/-- The arguments of `_build_task_event_record`. A payload stands for every one that validates like it. -/
structure TaskEventInput where
  event_id : String
  event_seq : Nat
  task_id : String
  event_type : String
  event_source : String
  occurred_at : Datetime
  team_revision_id : Option String
  dispatch_id : Option String
  attempt_id : Option String
  member_id : Option String
  actor_ref : Option String
  payload : JsonData
  prev_event_hash : Option String
  event_hash : String

def Positive.validate (n : Nat) : Option Positive := if h : 1 ≤ n then some ⟨n, h⟩ else none

@[simp]
theorem Positive.validate_val (n : Positive) : validate n.val = some n := dif_pos n.property

def validate_optional (max_length : Nat) : Option String → Option (Option (ConstrainedText max_length))
  | none => some none
  | some value => (ConstrainedText.validate max_length value).map some

@[simp]
theorem validate_optional_val {max_length : Nat} (value : Option (ConstrainedText max_length)) :
    validate_optional max_length (value.map Subtype.val) = some value := by
  cases value <;> simp [validate_optional]

/-- `none` when the validation fails. -/
def build_task_event_record (input : TaskEventInput) : Option TaskEventRecord := do
  let event_id ← ConstrainedText.validate 255 input.event_id
  let event_seq ← Positive.validate input.event_seq
  let task_id ← TaskIdentifier.validate input.task_id
  let event_source ← TaskEventSource.codec.decode (.string input.event_source)
  let team_revision_id ← validate_optional 255 input.team_revision_id
  let dispatch_id ← validate_optional 255 input.dispatch_id
  let attempt_id ← validate_optional 255 input.attempt_id
  let member_id ← validate_optional 255 input.member_id
  let actor_ref ← validate_optional 255 input.actor_ref
  let prev_event_hash ← validate_optional 2048 input.prev_event_hash
  let event_hash ← ConstrainedText.validate 2048 input.event_hash
  let event_type ← TaskEventType.codec.decode (.string input.event_type)
  let payload ← (TaskEventPayload.codec event_type).decode input.payload
  return {
    event_id, event_seq, task_id, event_source, team_revision_id, dispatch_id, attempt_id, member_id, actor_ref
    prev_event_hash, event_hash, event_type, payload, occurred_at := input.occurred_at }

/-- A row of `task_events`, with its time as the database holds it. -/
structure TaskEventRow where
  event_id : String
  event_seq : Nat
  task_id : String
  event_type : String
  event_source : String
  occurred_at : NaiveDatetime
  team_revision_id : Option String
  dispatch_id : Option String
  attempt_id : Option String
  member_id : Option String
  actor_ref : Option String
  payload : JsonData
  prev_event_hash : Option String
  event_hash : String
  deriving DecidableEq

/-- Rebuild the record of a row whose time was loaded in some zone or in none. -/
def task_event_record_from_model (row : TaskEventRow) (occurred_at : Datetime) : Option TaskEventRecord :=
  build_task_event_record {
    event_id := row.event_id
    event_seq := row.event_seq
    task_id := row.task_id
    event_type := row.event_type
    event_source := row.event_source
    occurred_at
    team_revision_id := row.team_revision_id
    dispatch_id := row.dispatch_id
    attempt_id := row.attempt_id
    member_id := row.member_id
    actor_ref := row.actor_ref
    payload := row.payload
    prev_event_hash := row.prev_event_hash
    event_hash := row.event_hash }

def hexdigest (digest : BitVec 256) : List Char :=
  (List.range 64).map fun place => Json.hex_digit (digest.toNat / 16 ^ (63 - place) % 16)

def optional_string {max_length : Nat} (value : Option (ConstrainedText max_length)) : JsonData :=
  value.elim .null fun text => .string text.val

namespace TaskEventRecord

/-- `model_dump(mode="json")`. -/
def model_dump (event : TaskEventRecord) : List (String × JsonData) :=
  [("event_id", .string event.event_id.val), ("event_seq", .int event.event_seq.val),
    ("task_id", .string event.task_id.val), ("event_source", TaskEventSource.codec.encode event.event_source),
    ("occurred_at", Datetime.codec.encode event.occurred_at),
    ("team_revision_id", optional_string event.team_revision_id), ("dispatch_id", optional_string event.dispatch_id),
    ("attempt_id", optional_string event.attempt_id), ("member_id", optional_string event.member_id),
    ("actor_ref", optional_string event.actor_ref), ("prev_event_hash", optional_string event.prev_event_hash),
    ("event_hash", .string event.event_hash.val), ("event_type", TaskEventType.codec.encode event.event_type),
    ("payload", (TaskEventPayload.codec event.event_type).encode event.payload)]

/-- The text that is hashed; the hash itself is left out, and the time is taken in UTC without zone. -/
def encoded (event : TaskEventRecord) (timestamp : List Char) : String :=
  let materialized := (event.model_dump.filter fun member => member.1 != "event_hash").map fun member =>
    if member.1 == "occurred_at" then (member.1, .string (String.ofList timestamp)) else member
  String.ofList (ensure_ascii (sort_keys (.object materialized)).dumps)

end TaskEventRecord

def hash_text (digest : BitVec 256) : String :=
  String.ofList (['s', 'h', 'a', '2', '5', '6', ':'] ++ hexdigest digest)

/-- `none` when the time is out of range in UTC. -/
def compute_task_event_hash (sha256 : String → BitVec 256) (event : TaskEventRecord) : Option String :=
  event.occurred_at.as_utc.map fun utc => hash_text (sha256 (event.encoded utc.isoformat))

/-- The row that a record is added as. -/
def task_event_row (sha256 : String → BitVec 256) (record : TaskEventRecord) : Option TaskEventRow := do
  let occurred_at ← record.occurred_at.as_utc
  let event_hash ← compute_task_event_hash sha256 record
  return {
    event_id := record.event_id.val
    event_seq := record.event_seq.val
    task_id := record.task_id.val
    event_type := record.event_type.text
    event_source := record.event_source.text
    occurred_at
    team_revision_id := record.team_revision_id.map Subtype.val
    dispatch_id := record.dispatch_id.map Subtype.val
    attempt_id := record.attempt_id.map Subtype.val
    member_id := record.member_id.map Subtype.val
    actor_ref := record.actor_ref.map Subtype.val
    payload := (TaskEventPayload.codec record.event_type).encode record.payload
    prev_event_hash := record.prev_event_hash.map Subtype.val
    event_hash }

/-- What a built record takes from its input. -/
theorem build_task_event_record_success {input : TaskEventInput} {record : TaskEventRecord}
    (h : build_task_event_record input = some record) :
    TaskIdentifier.validate input.task_id = some record.task_id ∧ record.event_seq.val = input.event_seq ∧
      validate_optional 2048 input.prev_event_hash = some record.prev_event_hash := by
  unfold build_task_event_record at h
  obtain ⟨event_id, -, h⟩ := Option.bind_eq_some_iff.mp h
  obtain ⟨event_seq, hseq, h⟩ := Option.bind_eq_some_iff.mp h
  obtain ⟨task_id, htask, h⟩ := Option.bind_eq_some_iff.mp h
  obtain ⟨event_source, -, h⟩ := Option.bind_eq_some_iff.mp h
  obtain ⟨team_revision_id, -, h⟩ := Option.bind_eq_some_iff.mp h
  obtain ⟨dispatch_id, -, h⟩ := Option.bind_eq_some_iff.mp h
  obtain ⟨attempt_id, -, h⟩ := Option.bind_eq_some_iff.mp h
  obtain ⟨member_id, -, h⟩ := Option.bind_eq_some_iff.mp h
  obtain ⟨actor_ref, -, h⟩ := Option.bind_eq_some_iff.mp h
  obtain ⟨prev_event_hash, hprev, h⟩ := Option.bind_eq_some_iff.mp h
  obtain ⟨event_hash, -, h⟩ := Option.bind_eq_some_iff.mp h
  obtain ⟨event_type, -, h⟩ := Option.bind_eq_some_iff.mp h
  obtain ⟨payload, -, h⟩ := Option.bind_eq_some_iff.mp h
  cases h
  refine ⟨htask, ?_, hprev⟩
  unfold Positive.validate at hseq
  split at hseq
  · cases hseq
    rfl
  · cases hseq

theorem task_event_row_success {sha256 : String → BitVec 256} {record : TaskEventRecord} {row : TaskEventRow}
    (h : task_event_row sha256 record = some row) :
    row.task_id = record.task_id.val ∧ row.event_seq = record.event_seq.val ∧
      row.prev_event_hash = record.prev_event_hash.map Subtype.val := by
  unfold task_event_row at h
  obtain ⟨_, -, h⟩ := Option.bind_eq_some_iff.mp h
  obtain ⟨_, -, h⟩ := Option.bind_eq_some_iff.mp h
  cases h
  exact ⟨rfl, rfl, rfl⟩

section Hashes

variable {sha256 : String → BitVec 256} {event : TaskEventRecord} {row : TaskEventRow}

private theorem hex_digit_not_blank (n : Nat) : is_white_space (Json.hex_digit (n % 16)) = false := by
  have hlt : n % 16 < 16 := Nat.mod_lt _ (by decide)
  generalize n % 16 = k at hlt
  interval_cases k <;> decide

/-- The text of a digest is a reference as it is. -/
theorem hash_text_valid (digest : BitVec 256) :
    strip_whitespace (hash_text digest) = hash_text digest ∧ 1 ≤ (hash_text digest).length ∧
      (hash_text digest).length ≤ 2048 := by
  refine ⟨strip_whitespace_eq_self fun c hc => ?_, ?_⟩
  · rw [hash_text, String.toList_ofList, List.mem_append] at hc
    rcases hc with hc | hc
    · revert c
      simp
      decide
    · obtain ⟨place, -, rfl⟩ := List.mem_map.mp hc
      exact hex_digit_not_blank _
  · have hlength : (hash_text digest).length = 71 := by
      rw [hash_text, String.length_ofList, List.length_append, hexdigest, List.length_map, List.length_range]
      rfl
    rw [hlength]
    decide

theorem compute_task_event_hash_ref {event_hash : String} (h : compute_task_event_hash sha256 event = some event_hash) :
    ∃ ref : Ref, ref.val = event_hash := by
  obtain ⟨utc, -, rfl⟩ := Option.map_eq_some_iff.mp h
  exact ⟨⟨_, hash_text_valid _⟩, rfl⟩

/-- The hash says nothing about the hash field, and of the time only the instant. -/
theorem compute_task_event_hash_congr {occurred_at : Datetime} {event_hash : Ref}
    (h : occurred_at.as_utc = event.occurred_at.as_utc) :
    compute_task_event_hash sha256 { event with occurred_at, event_hash } = compute_task_event_hash sha256 event := by
  unfold compute_task_event_hash
  rw [h]
  rfl

/-- A stored event rebuilds to a record with the stored hash. -/
theorem task_event_row_rehash (h : task_event_row sha256 event = some row) {occurred_at : Datetime}
    (hinstant : occurred_at.as_utc = some row.occurred_at) :
    ∃ record, task_event_record_from_model row occurred_at = some record ∧
      compute_task_event_hash sha256 record = some row.event_hash := by
  unfold task_event_row at h
  simp only [Option.bind_eq_bind, Option.bind_eq_some_iff, Option.pure_def, Option.some.injEq] at h
  obtain ⟨utc, hutc, event_hash, hhash, rfl⟩ := h
  obtain ⟨ref, rfl⟩ := compute_task_event_hash_ref hhash
  refine ⟨{ event with occurred_at, event_hash := ref }, ?_, ?_⟩
  · have hsource : TaskEventSource.codec.decode (.string event.event_source.text) = some event.event_source :=
      TaskEventSource.codec.decode_encode _
    have htype : TaskEventType.codec.decode (.string event.event_type.text) = some event.event_type :=
      TaskEventType.codec.decode_encode _
    simp only [task_event_record_from_model, build_task_event_record, ConstrainedText.validate_val,
      Positive.validate_val, TaskIdentifier.validate_val, hsource, validate_optional_val, htype,
      Codec.decode_encode, Option.bind_eq_bind, Option.bind_some, Option.pure_def]
  · rw [compute_task_event_hash_congr (hinstant.trans hutc.symm)]
    exact hhash

end Hashes

end TaskEvents

end OhMySubagents
