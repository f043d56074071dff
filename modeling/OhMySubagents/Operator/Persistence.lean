import Mathlib.Data.List.MinMax
import OhMySubagents.Errors
import OhMySubagents.Operator.Contracts
import OhMySubagents.Relational.Table

open Relational

namespace OhMySubagents

namespace Operator

structure OperatorConversation where
  provider : String
  model : Option String
  effort : Option String
  provider_thread_id : Option String
  state : OperatorConversationState
  active_turn_id : Option TurnId
  create_idempotency_key : String
  deriving DecidableEq, Repr

inductive DiagnosticCategory
  | admission_cancelled | completion_cancelled | completion_failed | provider_failure
  | provider_thread_unavailable | startup_repair | thread_identity_changed | turn_cancelled
  deriving DecidableEq, Repr

/-- The kind of an entry with its body. -/
inductive OperatorEntryBody
  | user_message (text : String)
  | user_question_answers (question_set_id : String) (answers : List OperatorQuestionAnswer)
  | assistant_message (text : String)
  | assistant_question_set (explanation : Option String) (questions : List OperatorQuestion)
  | turn_interrupted (explanation next_step : String) (diagnostic_category : DiagnosticCategory)
  deriving DecidableEq, Repr

structure OperatorConversationEntry where
  conversation_id : ConversationId
  sequence : Nat
  body : OperatorEntryBody
  request_idempotency_key : Option String
  request_digest : Option String
  deriving DecidableEq, Repr

structure OperatorDb where
  conversations : Table ConversationId OperatorConversation
  entries : Table EntryId OperatorConversationEntry

/-- `OperatorTurnClaim`. A duplicate has no turn. -/
structure OperatorTurnClaim where
  conversation_id : ConversationId
  turn_id : Option TurnId
  request : Option OperatorTurnRequest
  active_duplicate_sequence : Option Nat
  deriving DecidableEq, Repr

/-- The identities that a completed turn draws: its entry, its questions and their options. -/
structure AssistantIds where
  entry_id : EntryId
  question_id : Nat → String
  option_id : Nat → Nat → String

def GENERIC_INTERRUPTION_EXPLANATION : String :=
  "The Operator turn was interrupted before Oh My Subagents could confirm a response."

def GENERIC_INTERRUPTION_NEXT_STEP : String :=
  "Review current product truth, then send a new message if it is still needed."

def THREAD_INTERRUPTION_EXPLANATION : String :=
  "This conversation can no longer continue because its provider thread is unavailable."

def THREAD_INTERRUPTION_NEXT_STEP : String := "Start a new Operator conversation."

/-- `uq_operator_conversation_entries_order` and `uq_operator_conversation_entries_request`. -/
def OperatorConversationEntry.conflicts (entry other : OperatorConversationEntry) : Bool :=
  entry.conversation_id == other.conversation_id &&
    (entry.sequence == other.sequence ||
      (entry.request_idempotency_key.isSome && entry.request_idempotency_key == other.request_idempotency_key))

def OperatorDb.add_entry (db : OperatorDb) (entry_id : EntryId) (entry : OperatorConversationEntry) :
    Except OperatorError OperatorDb :=
  match db.entries.insertUnique OperatorConversationEntry.conflicts entry_id entry with
  | some entries => .ok { db with entries := entries }
  | none => .error .integrity_error

/-- `build_assistant_entry`. -/
def build_assistant_entry (conversation_id : ConversationId) (sequence : Nat) (outcome : OperatorTurnOutcome)
    (ids : AssistantIds) : OperatorConversationEntry where
  conversation_id := conversation_id
  sequence := sequence
  body :=
    match outcome.result with
    | .message text => .assistant_message text
    | .ask_user explanation questions =>
      .assistant_question_set explanation (questions.mapIdx fun i question =>
        { id := ids.question_id i
          header := question.header
          question := question.question
          allow_skip := question.allow_skip
          options := question.options.mapIdx fun j option =>
            { id := ids.option_id i j, label := option.label, description := option.description } })
  request_idempotency_key := none
  request_digest := none

/-- `build_interruption_entry`. -/
def build_interruption_entry (conversation_id : ConversationId) (sequence : Nat) (is_thread_unavailable : Bool)
    (diagnostic_category : DiagnosticCategory) : OperatorConversationEntry where
  conversation_id := conversation_id
  sequence := sequence
  body := .turn_interrupted
    (if is_thread_unavailable then THREAD_INTERRUPTION_EXPLANATION else GENERIC_INTERRUPTION_EXPLANATION)
    (if is_thread_unavailable then THREAD_INTERRUPTION_NEXT_STEP else GENERIC_INTERRUPTION_NEXT_STEP)
    diagnostic_category
  request_idempotency_key := none
  request_digest := none

/-- `max(sequence)` of a conversation. -/
def latest_sequence (entries : Table EntryId OperatorConversationEntry) (conversation_id : ConversationId) :
    Option Nat :=
  ((entries.select fun _ entry => entry.conversation_id == conversation_id).map (·.2.sequence)).max?

/-- `_next_entry_sequence`. -/
def next_entry_sequence (entries : Table EntryId OperatorConversationEntry) (conversation_id : ConversationId) : Nat :=
  (latest_sequence entries conversation_id).getD 0 + 1

/-- The entry that a request with this key made in the conversation. -/
def read_entry_by_key (db : OperatorDb) (conversation_id : ConversationId) (idempotency_key : String) :
    Option OperatorConversationEntry :=
  ((db.entries.select fun _ entry =>
    entry.conversation_id == conversation_id && entry.request_idempotency_key == some idempotency_key).head?).map (·.2)

/-- `_claim_conversation`. -/
def claim_conversation (db : OperatorDb) (conversation_id : ConversationId) (idempotency_key : String)
    (allowed_states : List OperatorConversationState) (turn_id : TurnId) : Option (OperatorConversation × OperatorDb) :=
  match db.conversations.get? conversation_id with
  | none => none
  | some row =>
    if row.active_turn_id.isNone && allowed_states.contains row.state &&
        (read_entry_by_key db conversation_id idempotency_key).isNone then
      let claimed := { row with state := .running, active_turn_id := some turn_id }
      some (claimed, { db with conversations := db.conversations.set conversation_id claimed })
    else none

/-- `_return_duplicate_or_raise_conflict`. -/
def return_duplicate_or_raise_conflict (db : OperatorDb) (conversation_id : ConversationId) (idempotency_key : String)
    (request_digest : String) : Except OperatorError OperatorTurnClaim :=
  match read_entry_by_key db conversation_id idempotency_key with
  | some existing =>
    if existing.request_digest ≠ some request_digest then .error .idempotency_conflict
    else .ok
      { conversation_id := conversation_id
        turn_id := none
        request := none
        active_duplicate_sequence :=
          if (db.conversations.get? conversation_id).map (·.state) = some .running ∧
              latest_sequence db.entries conversation_id = some existing.sequence then some existing.sequence
          else none }
  | none =>
    match db.conversations.get? conversation_id with
    | none => .error .conversation_not_found
    | some row => .error (.conversation_conflict row.state)

/-- The question set with the highest sequence. -/
def latest_question_set (db : OperatorDb) (conversation_id : ConversationId) :
    Option (EntryId × OperatorConversationEntry) :=
  (db.entries.select fun _ entry => entry.conversation_id == conversation_id &&
    match entry.body with
    | .assistant_question_set _ _ => true
    | _ => false).argmax (·.2.sequence)

/-- `_read_question_set_for_answer`. -/
def read_question_set_for_answer (db : OperatorDb) (conversation_id : ConversationId) (question_set_id : EntryId) :
    Except OperatorError OperatorAssistantQuestionSetEntry :=
  match latest_question_set db conversation_id with
  | some (entry_id, { body := .assistant_question_set explanation questions, .. }) =>
    if entry_id = question_set_id then .ok ⟨entry_id, explanation, questions⟩ else .error .question_set_not_found
  | _ => .error .question_set_not_found

/-- One answer against its question. -/
def resolve_answer (question : OperatorQuestion) (submitted : OperatorQuestionAnswer) :
    Except OperatorError OperatorAnsweredQuestion :=
  match submitted.answer with
  | .option option_id =>
    match question.options.find? (·.id == option_id) with
    | none => .error (.answer_validation "an option answer must name one current controller-issued option")
    | some option => .ok ⟨question.question, .option option.label⟩
  | .custom text => .ok ⟨question.question, .custom text⟩
  | .skip =>
    if question.allow_skip then .ok ⟨question.question, .skip⟩
    else .error (.answer_validation "Skip is legal only when the current question allows it")

/-- `_validate_and_resolve_answers`. -/
def validate_and_resolve_answers (question_set : OperatorAssistantQuestionSetEntry)
    (request : OperatorQuestionAnswersRequest) : Except OperatorError (List OperatorAnsweredQuestion) :=
  if request.answers.map (·.question_id) ≠ question_set.questions.map (·.id) then
    .error (.answer_validation "answers must contain each current question exactly once in question order")
  else (question_set.questions.zip request.answers).mapM fun pair => resolve_answer pair.1 pair.2

/-- The claim of a turn that was not submitted before. -/
def OperatorTurnClaim.accepted (conversation_id : ConversationId) (turn_id : TurnId) (row : OperatorConversation)
    (input : OperatorTurnInput) : OperatorTurnClaim where
  conversation_id := conversation_id
  turn_id := some turn_id
  request := some
    { provider := row.provider
      model := row.model
      effort := row.effort
      provider_thread_id := row.provider_thread_id
      input := input }
  active_duplicate_sequence := none

def claim_operator_message_turn (sha256 : List Char → String) (db : OperatorDb) (conversation_id : ConversationId)
    (request : OperatorMessageRequest) (idempotency_key : String) (turn_id : TurnId) (entry_id : EntryId) :
    Except OperatorError (OperatorTurnClaim × OperatorDb) :=
  let request_digest := digest_request sha256 (UserContent.message request.text).payload
  match claim_conversation db conversation_id idempotency_key [.ready, .interrupted] turn_id with
  | none => do
    let claim ← return_duplicate_or_raise_conflict db conversation_id idempotency_key request_digest
    return (claim, db)
  | some (row, claimed) => do
    let added ← claimed.add_entry entry_id
      { conversation_id := conversation_id
        sequence := next_entry_sequence claimed.entries conversation_id
        body := .user_message request.text
        request_idempotency_key := some idempotency_key
        request_digest := some request_digest }
    return (.accepted conversation_id turn_id row (.message request.text), added)

def claim_operator_answer_turn (sha256 : List Char → String) (db : OperatorDb) (conversation_id : ConversationId)
    (question_set_id : EntryId) (request : OperatorQuestionAnswersRequest) (idempotency_key : String)
    (turn_id : TurnId) (entry_id : EntryId) : Except OperatorError (OperatorTurnClaim × OperatorDb) :=
  let request_digest := digest_request sha256 (UserContent.question_answers question_set_id request.answers).payload
  match claim_conversation db conversation_id idempotency_key [.awaiting_answer] turn_id with
  | none => do
    let claim ← return_duplicate_or_raise_conflict db conversation_id idempotency_key request_digest
    return (claim, db)
  | some (row, claimed) => do
    let question_set ← read_question_set_for_answer claimed conversation_id question_set_id
    let resolved_answers ← validate_and_resolve_answers question_set request
    let added ← claimed.add_entry entry_id
      { conversation_id := conversation_id
        sequence := next_entry_sequence claimed.entries conversation_id
        body := .user_question_answers question_set_id request.answers
        request_idempotency_key := some idempotency_key
        request_digest := some request_digest }
    return (.accepted conversation_id turn_id row (.question_answers resolved_answers), added)

/-- The conditional update that ends a turn, and the entry that closes it. -/
def end_matching_turn (db : OperatorDb) (conversation_id : ConversationId) (turn_id : TurnId)
    (values : OperatorConversation → OperatorConversation) (entry_id : EntryId)
    (entry : Nat → OperatorConversationEntry) : Except OperatorError (Bool × OperatorDb) :=
  match db.conversations.updateWhere conversation_id
      (fun row => row.state == .running && row.active_turn_id == some turn_id) values with
  | none => .ok (false, db)
  | some conversations => do
    let ended : OperatorDb := { db with conversations := conversations }
    let added ← ended.add_entry entry_id (entry (next_entry_sequence ended.entries conversation_id))
    return (true, added)

def complete_operator_turn (db : OperatorDb) (claim : OperatorTurnClaim) (outcome : OperatorTurnOutcome)
    (ids : AssistantIds) : Except OperatorError (Bool × OperatorDb) :=
  match claim.turn_id with
  | none => .ok (false, db)
  | some turn_id =>
    let target_state :=
      match outcome.result with
      | .message _ => OperatorConversationState.ready
      | .ask_user _ _ => OperatorConversationState.awaiting_answer
    end_matching_turn db claim.conversation_id turn_id
      (fun row => { row with
        provider_thread_id := some outcome.provider_thread_id, state := target_state, active_turn_id := none })
      ids.entry_id (fun sequence => build_assistant_entry claim.conversation_id sequence outcome ids)

/-- How a turn is interrupted. -/
structure Interruption where
  is_thread_unavailable : Bool
  diagnostic_category : DiagnosticCategory
  provider_thread_id : Option String
  deriving DecidableEq, Repr

/-- `interrupt_operator_turn` with `_interrupt_matching_turn`. -/
def interrupt_operator_turn (db : OperatorDb) (claim : OperatorTurnClaim) (interruption : Interruption)
    (entry_id : EntryId) : Except OperatorError (Bool × OperatorDb) :=
  match claim.turn_id with
  | none => .ok (false, db)
  | some turn_id =>
    let target_state :=
      if interruption.is_thread_unavailable then OperatorConversationState.closed else .interrupted
    end_matching_turn db claim.conversation_id turn_id
      (fun row => { row with
        state := target_state
        active_turn_id := none
        provider_thread_id := interruption.provider_thread_id <|> row.provider_thread_id })
      entry_id (fun sequence => build_interruption_entry claim.conversation_id sequence
        interruption.is_thread_unavailable interruption.diagnostic_category)

/-- A conversation that startup repair finds running. -/
def OperatorConversation.is_stranded (row : OperatorConversation) : Bool :=
  row.state == .running && row.active_turn_id.isSome

def repair_stranded_operator_turns (db : OperatorDb) (entry_id : ConversationId → EntryId) :
    Except OperatorError (Nat × OperatorDb) := do
  let stranded_ids := (db.conversations.select fun _ row => row.is_stranded).map (·.1)
  let repaired : OperatorDb := { db with
    conversations := db.conversations.mapRows fun _ row =>
      if row.is_stranded then { row with state := .interrupted, active_turn_id := none } else row }
  let added ← stranded_ids.foldlM (fun db conversation_id =>
    db.add_entry (entry_id conversation_id) (build_interruption_entry conversation_id
      (next_entry_sequence db.entries conversation_id) false .startup_repair)) repaired
  return (stranded_ids.length, added)

/-- `create_operator_conversation`: a key that was used before names the conversation it made. -/
def create_operator_conversation (db : OperatorDb) (conversation_id : ConversationId)
    (idempotency_key provider : String) (model effort : Option String) :
    Except OperatorError (ConversationId × OperatorDb) :=
  match db.conversations.insertUnique (fun row other => row.create_idempotency_key == other.create_idempotency_key)
      conversation_id
      { provider := provider, model := model, effort := effort, provider_thread_id := none, state := .ready
        active_turn_id := none, create_idempotency_key := idempotency_key } with
  | some conversations => .ok (conversation_id, { db with conversations := conversations })
  | none =>
    match (db.conversations.select fun _ row => row.create_idempotency_key == idempotency_key).head? with
    | some existing => .ok (existing.1, db)
    | none => .error .integrity_error

end Operator

end OhMySubagents
