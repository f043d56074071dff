import OhMySubagents.Operator.Repair
import OhMySubagents.Operator.Service

open Relational

namespace OhMySubagents

namespace Operator

section

variable {sha256 : List Char → String} {db db' : OperatorDb} {submission : Submission} {phase phase' : HandlerPhase}
  {event : HandlerEvent} {executions : List ProviderExecution} {claim : OperatorTurnClaim} {turn_id : TurnId}
  {entry_id : EntryId}

def Submission.conversation_id : Submission → ConversationId
  | message conversation_id _ _ => conversation_id
  | question_answers conversation_id _ _ _ => conversation_id

/-- What the user says with a submission. -/
def Submission.content : Submission → UserContent
  | message _ request _ => .message request.text
  | question_answers _ question_set_id request _ => .question_answers question_set_id request.answers

/-- The states in which a conversation takes a submission. -/
def Submission.allowed : Submission → List OperatorConversationState
  | message _ _ _ => [.ready, .interrupted]
  | question_answers _ _ _ _ => [.awaiting_answer]

theorem admission_success (h : submission.admission sha256 db turn_id entry_id = .ok (claim, db')) :
    ∃ body : OperatorEntryBody, body.content = some submission.content ∧
      TurnClaimed db submission.conversation_id submission.idempotency_key
        (digest_request sha256 submission.content.payload) body submission.allowed turn_id entry_id claim db' := by
  cases submission with
  | message conversation_id request idempotency_key => exact ⟨_, rfl, claim_operator_message_turn_success h⟩
  | question_answers conversation_id question_set_id request idempotency_key =>
    exact ⟨_, rfl, (claim_operator_answer_turn_success h).1⟩

theorem running_notMem_allowed : .running ∉ submission.allowed := by
  cases submission <;> simp [Submission.allowed]

/-- Everything that a step of a handler can do. -/
inductive Resumed (sha256 : List Char → String) (db : OperatorDb) (submission : Submission) (event : HandlerEvent)
    (phase phase' : HandlerPhase) (db' : OperatorDb) (executions : List ProviderExecution) : Prop
  | admitted (turn_id : TurnId) (entry_id : EntryId) (claim : OperatorTurnClaim) (body : OperatorEntryBody)
      (event : event = .admitted turn_id entry_id) (was : phase.claim = none ∧ phase.pending_claim = none)
      (content : body.content = some submission.content)
      (claimed : TurnClaimed db submission.conversation_id submission.idempotency_key
        (digest_request sha256 submission.content.payload) body submission.allowed turn_id entry_id claim db')
      (has : phase'.claim = some claim) (pending : claim.turn_id ≠ none → phase'.pending_claim = some claim)
      (executed : executions = [] ∨ (claim.turn_id ≠ none ∧
        executions = [⟨submission.conversation_id, submission.idempotency_key, claim.turn_id⟩]))
  | moved (has : phase'.claim = phase.claim) (pending : phase'.pending_claim = phase.pending_claim)
      (unchanged : db' = db) (executed : executions = [])
  | settled (claim : OperatorTurnClaim) (was : phase.pending_claim = some claim) (has : phase'.claim = some claim)
      (done : (db' = db ∧ ∀ turn_id, claim.turn_id = some turn_id → Inactive db claim.conversation_id turn_id) ∨
        ∃ turn_id, claim.turn_id = some turn_id ∧ TurnEnded db claim.conversation_id turn_id db')
      (executed : executions = [])
  | cut (claim : OperatorTurnClaim) (interruption : Interruption) (event : event = .cancelled)
      (was : phase = .interrupting claim interruption false) (is : phase' = .ended (some claim))
      (unchanged : db' = db) (executed : executions = [])

theorem resume_cases (h : phase.resume sha256 db submission event = some (phase', db', executions)) :
    Resumed sha256 db submission event phase phase' db' executions := by
  unfold HandlerPhase.resume at h
  split at h
  · next is_cancelled turn_id entry_id =>
    split at h
    · cases h
      exact .moved rfl rfl rfl rfl
    · next claim claimed hadmission =>
      obtain ⟨body, hcontent, hclaimed⟩ := admission_success hadmission
      have hcases : claim.turn_id = none ∨ ∃ row input,
          claim = .accepted submission.conversation_id turn_id row input := by
        cases hclaimed with
        | duplicate _ _ _ turn _ => exact .inl turn
        | accepted row input _ _ _ claim _ => exact .inr ⟨row, input, claim⟩
      split at h
      · split at h
        · next hnone =>
          cases h
          rw [Option.isNone_iff_eq_none] at hnone
          exact .admitted turn_id entry_id claim body rfl ⟨rfl, rfl⟩ hcontent hclaimed rfl
            (fun hne => absurd hnone hne) (.inl rfl)
        · cases h
          exact .admitted turn_id entry_id claim body rfl ⟨rfl, rfl⟩ hcontent hclaimed rfl (fun _ => rfl) (.inl rfl)
      · rcases hcases with hnone | ⟨row, input, rfl⟩
        · simp only [run_claimed_turn, hnone, Option.isNone_none, if_true] at h
          cases h
          exact .admitted turn_id entry_id claim body rfl ⟨rfl, rfl⟩ hcontent hclaimed rfl
            (fun hne => absurd hnone hne) (.inl rfl)
        · cases h
          exact .admitted turn_id entry_id _ body rfl ⟨rfl, rfl⟩ hcontent hclaimed rfl (fun _ => rfl)
            (.inr ⟨by simp [OperatorTurnClaim.accepted], rfl⟩)
  · cases h
    exact .moved rfl rfl rfl rfl
  · cases h
    exact .moved rfl rfl rfl rfl
  · cases h
    exact .moved rfl rfl rfl rfl
  · cases h
    exact .moved rfl rfl rfl rfl
  · cases h
    exact .moved rfl rfl rfl rfl
  · split at h <;> cases h <;> exact .moved rfl rfl rfl rfl
  · cases h
    exact .moved rfl rfl rfl rfl
  · cases h
    exact .moved rfl rfl rfl rfl
  · cases h
    exact .moved rfl rfl rfl rfl
  · split at h
    · next hcomplete =>
      cases h
      exact .settled _ rfl rfl (complete_operator_turn_success hcomplete) rfl
    · cases h
  · cases h
    exact .moved rfl rfl rfl rfl
  · cases h
    exact .moved rfl rfl rfl rfl
  · split at h
    · next hcomplete =>
      cases h
      exact .settled _ rfl rfl (complete_operator_turn_success hcomplete) rfl
    · cases h
  · next is_drained _ =>
    split at h
    · next hinterrupt =>
      cases h
      refine .settled _ rfl ?_ (interrupt_operator_turn_success hinterrupt) rfl
      cases is_drained <;> rfl
    · cases h
  · next claim interruption is_drained =>
    cases h
    cases is_drained with
    | true => exact .moved rfl rfl rfl rfl
    | false => exact .cut claim interruption rfl rfl rfl rfl rfl
  · split at h
    · next hinterrupt =>
      cases h
      exact .settled _ rfl rfl (interrupt_operator_turn_success hinterrupt) rfl
    · cases h
  · cases h
    exact .moved rfl rfl rfl rfl
  · cases h
    exact .moved rfl rfl rfl rfl
  · cases h
    exact .moved rfl rfl rfl rfl
  · cases h

end

variable {sha256 : List Char → String} {db db' : OperatorDb} {submission : Submission} {phase phase' : HandlerPhase}
  {event : HandlerEvent} {executions : List ProviderExecution} {s s' : OperatorState} {turn_id : TurnId}
  {entry_id : EntryId}

/-- What one step of a handler does to the records: nothing, a claim, or the end of a turn. -/
theorem Resumed.sound (h : Resumed sha256 db submission event phase phase' db' executions)
    (hsound : DbSound sha256 db) : DbSound sha256 db' := by
  cases h with
  | admitted _ _ claim body _ _ content claimed => exact claimed.sound hsound content running_notMem_allowed
  | moved _ _ unchanged => rwa [unchanged]
  | settled claim _ _ done =>
    rcases done with ⟨rfl, -⟩ | ⟨turn_id, -, hended⟩
    · exact hsound
    · exact hended.sound hsound
  | cut _ _ _ _ _ unchanged => rwa [unchanged]

theorem EntryAdded.kept {conversation_id : ConversationId} {row row' : OperatorConversation}
    {entry found : OperatorConversationEntry} {found_id : EntryId}
    (hadded : EntryAdded db conversation_id row row' entry_id entry db')
    (hget : db.entries.get? found_id = some found) : db'.entries.get? found_id = some found := by
  rw [hadded.entries, Table.get?_set_ne _ fun heq => ?_]
  · exact hget
  · rw [heq, hadded.free] at hget
    cases hget

/-- No step takes an entry away. -/
theorem Resumed.kept (h : Resumed sha256 db submission event phase phase' db' executions) {found_id : EntryId}
    {found : OperatorConversationEntry} (hget : db.entries.get? found_id = some found) :
    db'.entries.get? found_id = some found := by
  cases h with
  | admitted _ _ claim body _ _ content claimed =>
    cases claimed with
    | duplicate _ _ _ _ unchanged => rwa [unchanged]
    | accepted _ _ _ _ _ _ added => exact added.kept hget
  | moved _ _ unchanged => rwa [unchanged]
  | settled claim _ _ done =>
    rcases done with ⟨rfl, -⟩ | ⟨turn_id, -, row, row', entry_id, entry, hadded, -⟩
    · exact hget
    · exact hadded.kept hget
  | cut _ _ _ _ _ unchanged => rwa [unchanged]

/-- The records are sound, and every call of the provider belongs to the one entry with its key. -/
structure ServiceSound (sha256 : List Char → String) (s : OperatorState) : Prop where
  db : DbSound sha256 s.db
  executed : ∀ execution ∈ s.executions, ∃ entry_id entry, s.db.entries.get? entry_id = some entry ∧
    entry.conversation_id = execution.conversation_id ∧
    entry.request_idempotency_key = some execution.idempotency_key
  once : (s.executions.map fun execution => (execution.conversation_id, execution.idempotency_key)).Nodup

/-- A handler's step. -/
theorem ServiceSound.resume {handlers : Table Nat Handler}
    (h : Resumed sha256 s.db submission event phase phase' db' executions) (hsound : ServiceSound sha256 s) :
    ServiceSound sha256 ⟨db', handlers, executions ++ s.executions⟩ := by
  have hold : ∀ execution ∈ s.executions, ∃ entry_id entry, db'.entries.get? entry_id = some entry ∧
      entry.conversation_id = execution.conversation_id ∧
      entry.request_idempotency_key = some execution.idempotency_key := by
    intro execution hmem
    obtain ⟨entry_id, entry, hget, hentry⟩ := hsound.executed execution hmem
    exact ⟨entry_id, entry, h.kept hget, hentry⟩
  have hnone : executions = [] → ServiceSound sha256 ⟨db', handlers, executions ++ s.executions⟩ := by
    rintro rfl
    exact ⟨h.sound hsound.db, hold, hsound.once⟩
  cases h with
  | admitted turn_id entry_id claim body _ _ content claimed _ _ executed =>
    rcases executed with rfl | ⟨hturn, rfl⟩
    · exact hnone rfl
    · cases claimed with
      | duplicate _ _ _ turn _ => exact absurd turn hturn
      | accepted row input state inactive unused claim added =>
        have hentry := congrArg (Table.get? · entry_id) added.entries
        simp only [Table.get?_set_self] at hentry
        refine ⟨TurnClaimed.sound (.accepted row input state inactive unused claim added) hsound.db content
          running_notMem_allowed, fun execution hmem => ?_, ?_⟩
        · rcases List.mem_cons.mp hmem with rfl | hmem
          · exact ⟨entry_id, _, hentry, rfl, rfl⟩
          · exact hold execution hmem
        · rw [List.cons_append, List.nil_append, List.map_cons, List.nodup_cons]
          refine ⟨fun hmem => ?_, hsound.once⟩
          obtain ⟨execution, hexecution, heq⟩ := List.mem_map.mp hmem
          rw [Prod.mk.injEq] at heq
          obtain ⟨found_id, found, hget, hconversation, hkey⟩ := hsound.executed execution hexecution
          exact read_entry_by_key_eq_none.mp unused found_id found hget (hconversation.trans heq.1)
            (hkey.trans (congrArg some heq.2))
  | moved _ _ _ executed => exact hnone executed
  | settled _ _ _ _ executed => exact hnone executed
  | cut _ _ _ _ _ _ executed => exact hnone executed

theorem ServiceSound.step {operator_event : OperatorEvent} (hsound : ServiceSound sha256 s)
    (h : s.step sha256 operator_event = some s') : ServiceSound sha256 s' := by
  cases operator_event with
  | create conversation_id idempotency_key provider model effort =>
    rw [OperatorState.step] at h
    split at h
    · cases h
    · split at h
      · cases h
      · next hcreate =>
        cases h
        rcases create_operator_conversation_sound hsound.db hcreate with rfl | ⟨hdb, hentries, -⟩
        · exact hsound
        · exact ⟨hdb, by simpa only [hentries] using hsound.executed, hsound.once⟩
  | submit number submission =>
    rw [OperatorState.step] at h
    split at h
    · cases h
    · split at h
      · cases h
      · cases h
        exact ⟨hsound.db, hsound.executed, hsound.once⟩
  | handle number event =>
    rw [OperatorState.step] at h
    split at h
    · cases h
    · split at h
      · split at h
        · cases h
        · next hresume =>
          cases h
          exact hsound.resume (resume_cases hresume)
      · cases h
  | repair entry_id =>
    rw [OperatorState.step] at h
    split at h
    · cases h
    · next hrepair =>
      cases h
      obtain ⟨-, stranded, -, middle, hmiddle, hrepaired⟩ := repair_stranded_operator_turns_success hrepair
      refine ⟨repair_stranded_operator_turns_sound hsound.db hrepair, fun execution hmem => ?_, hsound.once⟩
      obtain ⟨found_id, found, hget, hentry⟩ := hsound.executed execution hmem
      exact ⟨found_id, found, hrepaired.kept found_id found (by rwa [hmiddle]), hentry⟩

/-- Every state that the service reaches is sound. -/
theorem service_sound (h : (service sha256).Reachable s) : ServiceSound sha256 s := by
  refine h.invariant ?_ fun event s s' hsound hcommit => hsound.step hcommit
  rintro s rfl
  refine ⟨⟨fun entry_id entry hget => ?_, fun conversation_id row hget => ?_, fun entry_id entry hget => ?_,
    fun entry_id entry _ _ _ hget => ?_⟩, fun execution hmem => ?_, List.nodup_nil⟩
  all_goals first | cases hmem | cases hget

end Operator

end OhMySubagents
