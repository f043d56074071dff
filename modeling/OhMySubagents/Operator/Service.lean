import OhMySubagents.Operator.Persistence
import OhMySubagents.Relational.Runs

open Relational

namespace OhMySubagents

namespace Operator

/-- A request that a handler serves, with its normalized key. -/
inductive Submission
  | message (conversation_id : ConversationId) (request : OperatorMessageRequest) (idempotency_key : String)
  | question_answers (conversation_id : ConversationId) (question_set_id : EntryId)
      (request : OperatorQuestionAnswersRequest) (idempotency_key : String)
  deriving DecidableEq, Repr

def Submission.idempotency_key : Submission → String
  | message _ _ idempotency_key => idempotency_key
  | question_answers _ _ _ idempotency_key => idempotency_key

def Submission.set_idempotency_key (submission : Submission) (idempotency_key : String) : Submission :=
  match submission with
  | message conversation_id request _ => .message conversation_id request idempotency_key
  | question_answers conversation_id question_set_id request _ =>
    .question_answers conversation_id question_set_id request idempotency_key

/-- The admission of a submission. -/
def Submission.admission (sha256 : List Char → String) (db : OperatorDb) (turn_id : TurnId) (entry_id : EntryId) :
    Submission → Except OperatorError (OperatorTurnClaim × OperatorDb)
  | message conversation_id request idempotency_key =>
    claim_operator_message_turn sha256 db conversation_id request idempotency_key turn_id entry_id
  | question_answers conversation_id question_set_id request idempotency_key =>
    claim_operator_answer_turn sha256 db conversation_id question_set_id request idempotency_key turn_id entry_id

/-- What a handler awaits. Its admission and a drained interruption run in tasks of their own, which a cancellation
    of the request does not reach; every other interruption is awaited by the request itself. -/
inductive HandlerPhase
  | admitting (is_cancelled : Bool)
  | waiting (claim : OperatorTurnClaim)
  | executing (claim : OperatorTurnClaim)
  | completing (claim : OperatorTurnClaim) (outcome : OperatorTurnOutcome)
  | interrupting (claim : OperatorTurnClaim) (interruption : Interruption) (is_drained : Bool)
  | reading (claim : OperatorTurnClaim)
  | ended (claim : Option OperatorTurnClaim)
  deriving DecidableEq, Repr

/-- How `execute_turn` ends when it is not cancelled. -/
inductive ProviderResult
  | returned (outcome : OperatorTurnOutcome)
  | thread_unavailable
  | failed
  deriving DecidableEq, Repr

/-- What comes of an await: the task behind it ends, it raises, or the request is cancelled. A transaction can be
    cancelled before its commit took effect, or after. -/
inductive HandlerEvent
  | admitted (turn_id : TurnId) (entry_id : EntryId)
  | executed (result : ProviderResult)
  | committed (ids : AssistantIds)
  | failed
  | cancelled
  | cancelled_after_commit (ids : AssistantIds)
  | returned
  | raised

/-- A call of `execute_turn`. -/
structure ProviderExecution where
  conversation_id : ConversationId
  idempotency_key : String
  turn_id : Option TurnId
  deriving DecidableEq, Repr

/-- `validate_provider_thread_continuity`, which answers a changed thread with an exception. -/
def validate_provider_thread_continuity (claim : OperatorTurnClaim) (outcome : OperatorTurnOutcome) : Bool :=
  match claim.request with
  | none => false
  | some request =>
    match request.provider_thread_id with
    | none => true
    | some current_thread_id => outcome.provider_thread_id == current_thread_id

/-- The first await of `_run_claimed_turn`. A claim without its provider request is a programming error. -/
def run_claimed_turn (claim : OperatorTurnClaim) (idempotency_key : String) : HandlerPhase × List ProviderExecution :=
  if claim.turn_id.isNone then (.waiting claim, [])
  else
    match claim.request with
    | none => (.ended (some claim), [])
    | some _ => (.executing claim, [⟨claim.conversation_id, idempotency_key, claim.turn_id⟩])

/-- `_interrupt_during_cancellation`. -/
def interrupt_during_cancellation (claim : OperatorTurnClaim) (diagnostic_category : DiagnosticCategory)
    (provider_thread_id : Option String) : HandlerPhase :=
  .interrupting claim ⟨false, diagnostic_category, provider_thread_id⟩ true

/-- A handler goes on with what came of its await. The commits that are attempted and not cancelled succeed, so an
    interruption cannot fail; a completion can, before its commit. -/
def HandlerPhase.resume (sha256 : List Char → String) (db : OperatorDb) (submission : Submission) :
    HandlerPhase → HandlerEvent → Option (HandlerPhase × OperatorDb × List ProviderExecution)
  | admitting is_cancelled, .admitted turn_id entry_id =>
    match submission.admission sha256 db turn_id entry_id with
    | .error _ => some (.ended none, db, [])
    | .ok (claim, claimed) =>
      if is_cancelled then
        if claim.turn_id.isNone then some (.ended (some claim), claimed, [])
        else some (interrupt_during_cancellation claim .admission_cancelled none, claimed, [])
      else
        let (phase, executions) := run_claimed_turn claim submission.idempotency_key
        some (phase, claimed, executions)
  | admitting _, .failed => some (.ended none, db, [])
  | admitting _, .cancelled => some (.admitting true, db, [])
  | waiting claim, .returned => some (.reading claim, db, [])
  | waiting claim, .raised => some (.ended (some claim), db, [])
  | waiting claim, .cancelled => some (.ended (some claim), db, [])
  | executing claim, .executed (.returned outcome) =>
    if validate_provider_thread_continuity claim outcome then some (.completing claim outcome, db, [])
    else some (.interrupting claim ⟨false, .thread_identity_changed, none⟩ false, db, [])
  | executing claim, .executed .thread_unavailable =>
    some (.interrupting claim ⟨true, .provider_thread_unavailable, none⟩ false, db, [])
  | executing claim, .executed .failed => some (.interrupting claim ⟨false, .provider_failure, none⟩ false, db, [])
  | executing claim, .cancelled => some (interrupt_during_cancellation claim .turn_cancelled none, db, [])
  | completing claim outcome, .committed ids =>
    match complete_operator_turn db claim outcome ids with
    | .ok (_, completed) => some (.reading claim, completed, [])
    | .error _ => none
  | completing claim outcome, .failed =>
    some (.interrupting claim ⟨false, .completion_failed, some outcome.provider_thread_id⟩ false, db, [])
  | completing claim outcome, .cancelled =>
    some (interrupt_during_cancellation claim .completion_cancelled (some outcome.provider_thread_id), db, [])
  | completing claim outcome, .cancelled_after_commit ids =>
    match complete_operator_turn db claim outcome ids with
    | .ok (_, completed) => some
      (interrupt_during_cancellation claim .completion_cancelled (some outcome.provider_thread_id), completed, [])
    | .error _ => none
  | interrupting claim interruption is_drained, .committed ids =>
    match interrupt_operator_turn db claim interruption ids.entry_id with
    | .ok (_, interrupted) => some (if is_drained then .ended (some claim) else .reading claim, interrupted, [])
    | .error _ => none
  | interrupting claim interruption is_drained, .cancelled =>
    -- `_drain_task` goes on waiting; a direct await ends here, with nothing committed
    some (if is_drained then .interrupting claim interruption true else .ended (some claim), db, [])
  | interrupting claim interruption _, .cancelled_after_commit ids =>
    match interrupt_operator_turn db claim interruption ids.entry_id with
    | .ok (_, interrupted) => some (.ended (some claim), interrupted, [])
    | .error _ => none
  | reading claim, .returned => some (.ended (some claim), db, [])
  | reading claim, .raised => some (.ended (some claim), db, [])
  | reading claim, .cancelled => some (.ended (some claim), db, [])
  | _, _ => none

structure Handler where
  submission : Submission
  phase : HandlerPhase
  deriving DecidableEq, Repr

/-- The claim that a handler has. -/
def HandlerPhase.claim : HandlerPhase → Option OperatorTurnClaim
  | admitting _ => none
  | waiting claim => some claim
  | executing claim => some claim
  | completing claim _ => some claim
  | interrupting claim _ _ => some claim
  | reading claim => some claim
  | ended claim => claim

/-- The claim of a handler that still has its turn to end. -/
def HandlerPhase.pending_claim : HandlerPhase → Option OperatorTurnClaim
  | executing claim => some claim
  | completing claim _ => some claim
  | interrupting claim _ _ => some claim
  | _ => none

/-- The database, the handlers of one process under their numbers, and the provider executions so far. -/
structure OperatorState where
  db : OperatorDb
  handlers : Table Nat Handler
  executions : List ProviderExecution

inductive OperatorEvent
  | create (conversation_id : ConversationId) (idempotency_key provider : String) (model effort : Option String)
  | submit (handler : Nat) (submission : Submission)
  | handle (handler : Nat) (event : HandlerEvent)
  | repair (entry_id : ConversationId → EntryId)

/-- `uuid4` never draws the turn of another handler. -/
def OperatorState.draws (s : OperatorState) : HandlerEvent → Bool
  | .admitted turn_id _ =>
    !s.handlers.any fun _ handler => (handler.phase.claim.bind (·.turn_id)) == some turn_id
  | _ => true

/-- One event of the service. A transaction that fails changes nothing. -/
def OperatorState.step (sha256 : List Char → String) (s : OperatorState) : OperatorEvent → Option OperatorState
  | .create conversation_id idempotency_key provider model effort =>
    match normalize_idempotency_key idempotency_key with
    | .error _ => none
    | .ok normalized_key =>
      match create_operator_conversation s.db conversation_id normalized_key provider model effort with
      | .error _ => none
      | .ok (_, created) => some { s with db := created }
  | .submit number submission =>
    match normalize_idempotency_key submission.idempotency_key with
    | .error _ => none
    | .ok normalized_key =>
      if (s.handlers.get? number).isSome then none
      else some { s with
        handlers := s.handlers.set number ⟨submission.set_idempotency_key normalized_key, .admitting false⟩ }
  | .handle number event =>
    match s.handlers.get? number with
    | none => none
    | some handler =>
      if s.draws event then
        match handler.phase.resume sha256 s.db handler.submission event with
        | none => none
        | some (phase, db, executions) => some
          { db := db
            handlers := s.handlers.set number { handler with phase := phase }
            executions := executions ++ s.executions }
      else none
  | .repair entry_id =>
    match repair_stranded_operator_turns s.db entry_id with
    | .error _ => none
    | .ok (_, repaired) => some { s with db := repaired }

/-- Every interleaving of the handlers, of new conversations and of startup repair, from an empty database. -/
def service (sha256 : List Char → String) : Transactional OperatorState OperatorEvent where
  start s := s = ⟨⟨∅, ∅⟩, ∅, []⟩
  reads _ := []
  commit event s s' := s.step sha256 event = some s'

/-- Events one after the other. -/
def OperatorState.run (sha256 : List Char → String) (s : OperatorState) (events : List OperatorEvent) :
    Option OperatorState :=
  events.foldlM (OperatorState.step sha256) s

theorem reachable_run {sha256 : List Char → String} {events : List OperatorEvent} {s s' : OperatorState}
    (h : (service sha256).Reachable s) (hrun : s.run sha256 events = some s') : (service sha256).Reachable s' := by
  induction events generalizing s with
  | nil =>
    cases hrun
    exact h
  | cons event events ih =>
    rw [OperatorState.run, List.foldlM_cons, Option.bind_eq_bind, Option.bind_eq_some_iff] at hrun
    obtain ⟨middle, hstep, hrest⟩ := hrun
    exact ih (h.step rfl hstep) hrest

end Operator

end OhMySubagents
