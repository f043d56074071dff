import OhMySubagents.Json.Serialization
import OhMySubagents.Text.ExactText

namespace OhMySubagents

namespace Operator

abbrev ConversationId := String
abbrev TurnId := String
abbrev EntryId := String

inductive OperatorConversationState
  | ready | running | awaiting_answer | interrupted | closed
  deriving DecidableEq, Repr

structure OperatorMessageRequest where
  text : String
  deriving DecidableEq, Repr

inductive OperatorAnswerValue
  | option (option_id : String)
  | custom (text : String)
  | skip
  deriving DecidableEq, Repr

structure OperatorQuestionAnswer where
  question_id : String
  answer : OperatorAnswerValue
  deriving DecidableEq, Repr

structure OperatorQuestionAnswersRequest where
  answers : List OperatorQuestionAnswer
  deriving DecidableEq, Repr

structure OperatorQuestionOption where
  id : String
  label : String
  description : String
  deriving DecidableEq, Repr

structure OperatorQuestion where
  id : String
  header : String
  question : String
  allow_skip : Bool
  options : List OperatorQuestionOption
  deriving DecidableEq, Repr

/-- The question set that answers refer to. -/
structure OperatorAssistantQuestionSetEntry where
  id : EntryId
  explanation : Option String
  questions : List OperatorQuestion
  deriving DecidableEq, Repr

structure OperatorProviderQuestionOption where
  label : String
  description : String
  deriving DecidableEq, Repr

structure OperatorProviderQuestion where
  header : String
  question : String
  allow_skip : Bool
  options : List OperatorProviderQuestionOption
  deriving DecidableEq, Repr

inductive OperatorProviderResult
  | message (text : String)
  | ask_user (explanation : Option String) (questions : List OperatorProviderQuestion)
  deriving DecidableEq, Repr

structure OperatorTurnOutcome where
  provider_thread_id : String
  result : OperatorProviderResult
  deriving DecidableEq, Repr

inductive OperatorAcceptedAnswer
  | option (label : String)
  | custom (text : String)
  | skip
  deriving DecidableEq, Repr

structure OperatorAnsweredQuestion where
  question : String
  answer : OperatorAcceptedAnswer
  deriving DecidableEq, Repr

inductive OperatorTurnInput
  | message (text : String)
  | question_answers (answers : List OperatorAnsweredQuestion)
  deriving DecidableEq, Repr

structure OperatorTurnRequest where
  provider : String
  model : Option String
  effort : Option String
  provider_thread_id : Option String
  input : OperatorTurnInput
  deriving DecidableEq, Repr

/-- The errors of a submission that is not accepted. -/
inductive OperatorError
  | conversation_not_found
  | conversation_conflict (state : OperatorConversationState)
  | idempotency_conflict
  | question_set_not_found
  | answer_validation (message : String)
  | integrity_error
  deriving DecidableEq, Repr

/-- `OperatorIdempotencyKeyValidationError`. -/
inductive IdempotencyKeyError
  | blank
  | exceeds_limit
  deriving DecidableEq, Repr

def MAX_IDEMPOTENCY_KEY_CHARACTERS : Nat := 200

def normalize_idempotency_key (value : String) : Except IdempotencyKeyError String :=
  let normalized := value.strip_space
  if normalized.isEmpty then .error .blank
  else if MAX_IDEMPOTENCY_KEY_CHARACTERS < normalized.length then .error .exceeds_limit
  else .ok normalized

/-- What a user submits, in its normalized form. -/
inductive UserContent
  | message (text : String)
  | question_answers (question_set_id : String) (answers : List OperatorQuestionAnswer)
  deriving DecidableEq, Repr

/-- `model_dump` of an answer. -/
def OperatorAnswerValue.model_dump : OperatorAnswerValue → Json
  | option option_id => .object [("kind", .string "option"), ("option_id", .string option_id)]
  | custom text => .object [("kind", .string "custom"), ("text", .string text)]
  | skip => .object [("kind", .string "skip")]

def OperatorQuestionAnswer.model_dump (answer : OperatorQuestionAnswer) : Json :=
  .object [("question_id", .string answer.question_id), ("answer", answer.answer.model_dump)]

/-- The payload whose digest stands for a request. -/
def UserContent.payload : UserContent → Json
  | message text => .object [("kind", .string "message"), ("text", .string text)]
  | question_answers question_set_id answers =>
    .object [("kind", .string "question_answers"), ("question_set_id", .string question_set_id),
      ("answers", .array (answers.map OperatorQuestionAnswer.model_dump))]

/-- The text that the digest of a request is taken of. -/
def serialized_request (payload : Json) : List Char := payload.sort_keys.dumps

/-- `_digest_request`, over a function that gives the digest of the UTF-8 form of a text. -/
def digest_request (sha256 : List Char → String) (payload : Json) : String := sha256 (serialized_request payload)

theorem sort_keys_answer (answer : OperatorAnswerValue) : answer.model_dump.sort_keys = answer.model_dump := by
  have hoption : "kind" ≤ "option_id" := by decide +kernel
  have htext : "kind" ≤ "text" := by decide +kernel
  cases answer <;>
    simp [OperatorAnswerValue.model_dump, Json.sort_keys, Json.sort_members, hoption, htext]

theorem sort_keys_question_answer (answer : OperatorQuestionAnswer) : answer.model_dump.sort_keys =
    .object [("answer", answer.answer.model_dump), ("question_id", .string answer.question_id)] := by
  have horder : ¬ "question_id" ≤ "answer" := by decide +kernel
  simp [OperatorQuestionAnswer.model_dump, Json.sort_keys, Json.sort_members, List.orderedInsert, horder,
    sort_keys_answer]

theorem OperatorAnswerValue.model_dump_injective : Function.Injective OperatorAnswerValue.model_dump := by
  intro a b h
  cases a <;> cases b <;> simp_all [OperatorAnswerValue.model_dump]

theorem sort_items_question_answers (answers : List OperatorQuestionAnswer) :
    Json.sort_items (answers.map OperatorQuestionAnswer.model_dump) = answers.map fun answer =>
      .object [("answer", answer.answer.model_dump), ("question_id", .string answer.question_id)] := by
  induction answers with
  | nil => rfl
  | cons answer answers ih => rw [List.map_cons, Json.sort_items, ih, sort_keys_question_answer, List.map_cons]

theorem sort_keys_message (text : String) : (UserContent.message text).payload.sort_keys =
    .object [("kind", .string "message"), ("text", .string text)] := by
  have horder : "kind" ≤ "text" := by decide +kernel
  simp [UserContent.payload, Json.sort_keys, Json.sort_members, horder]

theorem sort_keys_question_answers (question_set_id : String) (answers : List OperatorQuestionAnswer) :
    (UserContent.question_answers question_set_id answers).payload.sort_keys =
      .object [("answers", .array (answers.map fun answer =>
        .object [("answer", answer.answer.model_dump), ("question_id", .string answer.question_id)])),
        ("kind", .string "question_answers"), ("question_set_id", .string question_set_id)] := by
  have hset : ¬ "question_set_id" ≤ "answers" := by decide +kernel
  have hkind : ¬ "kind" ≤ "answers" := by decide +kernel
  have horder : "kind" ≤ "question_set_id" := by decide +kernel
  simp [UserContent.payload, Json.sort_keys, Json.sort_members, List.orderedInsert, hset, hkind, horder,
    sort_items_question_answers]

/-- Different contents have different texts, so that only a collision gives them one digest. -/
theorem serialized_request_injective {content content' : UserContent}
    (h : serialized_request content.payload = serialized_request content'.payload) : content = content' := by
  have hsorted := Json.dumps_injective h
  cases content <;> cases content'
  · rw [sort_keys_message, sort_keys_message] at hsorted
    simpa using hsorted
  · rw [sort_keys_message, sort_keys_question_answers] at hsorted
    simp at hsorted
  · rw [sort_keys_message, sort_keys_question_answers] at hsorted
    simp at hsorted
  · next question_set_id answers question_set_id' answers' =>
    rw [sort_keys_question_answers, sort_keys_question_answers] at hsorted
    simp only [Json.object.injEq, List.cons.injEq, Prod.mk.injEq, Json.array.injEq, Json.string.injEq, true_and,
      and_true] at hsorted
    obtain ⟨hanswers, rfl⟩ := hsorted
    rw [List.map_inj_right] at hanswers
    · rw [hanswers]
    · intro a b hab
      simp only [Json.object.injEq, List.cons.injEq, Prod.mk.injEq, Json.string.injEq, true_and, and_true] at hab
      obtain ⟨question_id, value⟩ := a
      obtain ⟨question_id', value'⟩ := b
      obtain ⟨hvalue, rfl⟩ := hab
      obtain rfl := OperatorAnswerValue.model_dump_injective hvalue
      rfl

end Operator

end OhMySubagents
