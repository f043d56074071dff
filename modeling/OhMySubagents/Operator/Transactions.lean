import OhMySubagents.Operator.History

open Relational

namespace OhMySubagents

namespace Operator

variable {db db' : OperatorDb} {conversation_id : ConversationId} {turn_id : TurnId} {entry_id : EntryId}
  {entry : OperatorConversationEntry} {idempotency_key digest : String} {sha256 : List Char → String}
  {claim : OperatorTurnClaim} {row : OperatorConversation}

/-- One row moves on and one entry goes behind the last of its conversation. -/
structure EntryAdded (db : OperatorDb) (conversation_id : ConversationId) (row row' : OperatorConversation)
    (entry_id : EntryId) (entry : OperatorConversationEntry) (db' : OperatorDb) : Prop where
  found : db.conversations.get? conversation_id = some row
  conversations : db'.conversations = db.conversations.set conversation_id row'
  entries : db'.entries = db.entries.set entry_id entry
  free : db.entries.get? entry_id = none
  conversation : entry.conversation_id = conversation_id
  sequence : entry.sequence = next_entry_sequence db.entries conversation_id

theorem add_entry_ok (h : db.add_entry entry_id entry = .ok db') :
    db'.conversations = db.conversations ∧ db'.entries = db.entries.set entry_id entry ∧
      db.entries.get? entry_id = none := by
  unfold OperatorDb.add_entry at h
  cases hinsert : db.entries.insertUnique OperatorConversationEntry.conflicts entry_id entry with
  | none =>
    rw [hinsert] at h
    cases h
  | some entries =>
    rw [hinsert] at h
    cases h
    obtain ⟨-, hfree, rfl⟩ := Table.insertUnique_eq_some.mp hinsert
    exact ⟨rfl, rfl, hfree⟩

theorem read_entry_by_key_eq_none : read_entry_by_key db conversation_id idempotency_key = none ↔
    ∀ entry_id entry, db.entries.get? entry_id = some entry → entry.conversation_id = conversation_id →
      entry.request_idempotency_key ≠ some idempotency_key := by
  unfold read_entry_by_key
  rw [Option.map_eq_none_iff, List.head?_eq_none_iff, List.eq_nil_iff_forall_not_mem]
  constructor
  · intro h entry_id entry hget hconversation hkey
    exact h (entry_id, entry) (Table.mem_select_iff.mpr ⟨hget, by simp [hconversation, hkey]⟩)
  · rintro h ⟨entry_id, entry⟩ hmem
    obtain ⟨hget, hentry⟩ := Table.mem_select_iff.mp hmem
    rw [Bool.and_eq_true, beq_iff_eq, beq_iff_eq] at hentry
    exact h entry_id entry hget hentry.1 hentry.2

theorem read_entry_by_key_eq_some (h : read_entry_by_key db conversation_id idempotency_key = some entry) :
    ∃ entry_id, db.entries.get? entry_id = some entry ∧ entry.conversation_id = conversation_id ∧
      entry.request_idempotency_key = some idempotency_key := by
  unfold read_entry_by_key at h
  obtain ⟨⟨entry_id, found⟩, hhead, rfl⟩ := Option.map_eq_some_iff.mp h
  obtain ⟨hget, hentry⟩ := Table.mem_select_iff.mp (List.mem_of_head? hhead)
  rw [Bool.and_eq_true, beq_iff_eq, beq_iff_eq] at hentry
  exact ⟨entry_id, hget, hentry⟩

theorem claim_conversation_eq_some {allowed : List OperatorConversationState} {claimed : OperatorConversation}
    (h : claim_conversation db conversation_id idempotency_key allowed turn_id = some (claimed, db')) :
    ∃ row, db.conversations.get? conversation_id = some row ∧ row.active_turn_id = none ∧ row.state ∈ allowed ∧
      read_entry_by_key db conversation_id idempotency_key = none ∧
      claimed = { row with state := .running, active_turn_id := some turn_id } ∧
      db' = { db with conversations := db.conversations.set conversation_id claimed } := by
  unfold claim_conversation at h
  split at h
  · cases h
  · next row hrow =>
    split at h
    · next hfree =>
      simp only [Bool.and_eq_true, Option.isNone_iff_eq_none, List.contains_iff_mem] at hfree
      cases h
      exact ⟨row, hrow, hfree.1.1, hfree.1.2, hfree.2, rfl, rfl⟩
    · cases h

/-- A submission is recognised as one that was accepted before, or it takes the conversation: then its key is new,
    and its entry and its turn are the conversation's next. -/
inductive TurnClaimed (db : OperatorDb) (conversation_id : ConversationId) (idempotency_key digest : String)
    (body : OperatorEntryBody) (allowed : List OperatorConversationState) (turn_id : TurnId) (entry_id : EntryId)
    (claim : OperatorTurnClaim) (db' : OperatorDb) : Prop
  | duplicate (existing : OperatorConversationEntry)
      (found : read_entry_by_key db conversation_id idempotency_key = some existing)
      (same : existing.request_digest = some digest) (turn : claim.turn_id = none) (unchanged : db' = db)
  | accepted (row : OperatorConversation) (input : OperatorTurnInput) (state : row.state ∈ allowed)
      (inactive : row.active_turn_id = none) (unused : read_entry_by_key db conversation_id idempotency_key = none)
      (claim : claim = .accepted conversation_id turn_id row input)
      (added : EntryAdded db conversation_id row { row with state := .running, active_turn_id := some turn_id } entry_id
        { conversation_id := conversation_id
          sequence := next_entry_sequence db.entries conversation_id
          body := body
          request_idempotency_key := some idempotency_key
          request_digest := some digest } db')

theorem return_duplicate_ok
    (h : return_duplicate_or_raise_conflict db conversation_id idempotency_key digest = .ok claim) :
    ∃ existing, read_entry_by_key db conversation_id idempotency_key = some existing ∧
      existing.request_digest = some digest ∧ claim.turn_id = none := by
  unfold return_duplicate_or_raise_conflict at h
  split at h
  · next existing hexisting =>
    split at h
    · cases h
    · next hsame =>
      cases h
      exact ⟨existing, hexisting, not_not.mp hsame, rfl⟩
  · split at h <;> cases h

theorem claim_operator_message_turn_success {request : OperatorMessageRequest}
    (h : claim_operator_message_turn sha256 db conversation_id request idempotency_key turn_id entry_id =
      .ok (claim, db')) :
    TurnClaimed db conversation_id idempotency_key (digest_request sha256 (UserContent.message request.text).payload)
      (.user_message request.text) [.ready, .interrupted] turn_id entry_id claim db' := by
  unfold claim_operator_message_turn at h
  dsimp only at h
  split at h
  · obtain ⟨duplicate, hduplicate, h⟩ := bind_eq_ok_iff.mp h
    cases h
    obtain ⟨existing, hfound, hsame, hturn⟩ := return_duplicate_ok hduplicate
    exact .duplicate existing hfound hsame hturn rfl
  · next claimed middle hclaim =>
    obtain ⟨added, hadded, h⟩ := bind_eq_ok_iff.mp h
    cases h
    obtain ⟨row, hrow, hinactive, hstate, hunused, rfl, rfl⟩ := claim_conversation_eq_some hclaim
    obtain ⟨hconversations, hentries, hfree⟩ := add_entry_ok hadded
    exact .accepted row _ hstate hinactive hunused rfl ⟨hrow, hconversations, hentries, hfree, rfl, rfl⟩

theorem read_question_set_for_answer_ok {question_set_id : EntryId} {question_set : OperatorAssistantQuestionSetEntry}
    (h : read_question_set_for_answer db conversation_id question_set_id = .ok question_set) :
    ∃ latest, latest_question_set db conversation_id = some (question_set_id, latest) ∧
      latest.body = .assistant_question_set question_set.explanation question_set.questions := by
  unfold read_question_set_for_answer at h
  split at h
  · next hlatest =>
    split at h
    · next heq =>
      subst heq
      cases h
      exact ⟨_, hlatest, rfl⟩
    · cases h
  · cases h

theorem claim_operator_answer_turn_success {question_set_id : EntryId} {request : OperatorQuestionAnswersRequest}
    (h : claim_operator_answer_turn sha256 db conversation_id question_set_id request idempotency_key turn_id entry_id =
      .ok (claim, db')) :
    TurnClaimed db conversation_id idempotency_key
      (digest_request sha256 (UserContent.question_answers question_set_id request.answers).payload)
      (.user_question_answers question_set_id request.answers) [.awaiting_answer] turn_id entry_id claim db' ∧
      (claim.turn_id ≠ none → ∃ latest, latest_question_set db conversation_id = some (question_set_id, latest)) := by
  unfold claim_operator_answer_turn at h
  dsimp only at h
  split at h
  · obtain ⟨duplicate, hduplicate, h⟩ := bind_eq_ok_iff.mp h
    cases h
    obtain ⟨existing, hfound, hsame, hturn⟩ := return_duplicate_ok hduplicate
    exact ⟨.duplicate existing hfound hsame hturn rfl, fun hne => absurd hturn hne⟩
  · next claimed middle hclaim =>
    obtain ⟨question_set, hquestion_set, h⟩ := bind_eq_ok_iff.mp h
    obtain ⟨resolved_answers, -, h⟩ := bind_eq_ok_iff.mp h
    obtain ⟨added, hadded, h⟩ := bind_eq_ok_iff.mp h
    cases h
    obtain ⟨row, hrow, hinactive, hstate, hunused, rfl, rfl⟩ := claim_conversation_eq_some hclaim
    obtain ⟨hconversations, hentries, hfree⟩ := add_entry_ok hadded
    obtain ⟨latest, hlatest, -⟩ := read_question_set_for_answer_ok hquestion_set
    exact ⟨.accepted row _ hstate hinactive hunused rfl ⟨hrow, hconversations, hentries, hfree, rfl, rfl⟩,
      fun _ => ⟨latest, hlatest⟩⟩

/-- The conversation is not running this turn. -/
def Inactive (db : OperatorDb) (conversation_id : ConversationId) (turn_id : TurnId) : Prop :=
  ∀ row, db.conversations.get? conversation_id = some row →
    ¬ (row.state = .running ∧ row.active_turn_id = some turn_id)

/-- Whoever ends a turn finds it active, or changes nothing. -/
theorem end_matching_turn_success {values : OperatorConversation → OperatorConversation}
    {build : Nat → OperatorConversationEntry} {matched : Bool}
    (h : end_matching_turn db conversation_id turn_id values entry_id build = .ok (matched, db'))
    (hbuild : ∀ sequence, (build sequence).conversation_id = conversation_id ∧ (build sequence).sequence = sequence) :
    (matched = false ∧ db' = db ∧ Inactive db conversation_id turn_id) ∨
      (matched = true ∧ ∃ row, row.state = .running ∧ row.active_turn_id = some turn_id ∧
        EntryAdded db conversation_id row (values row) entry_id
          (build (next_entry_sequence db.entries conversation_id)) db') := by
  unfold end_matching_turn at h
  split at h
  · next hupdate =>
    cases h
    refine .inl ⟨rfl, rfl, fun row hrow hactive => ?_⟩
    rw [Table.updateWhere_eq_some.mpr ⟨row, hrow, by simp [hactive], rfl⟩] at hupdate
    cases hupdate
  · next conversations hupdate =>
    obtain ⟨added, hadded, h⟩ := bind_eq_ok_iff.mp h
    cases h
    obtain ⟨row, hrow, hmatch, rfl⟩ := Table.updateWhere_eq_some.mp hupdate
    rw [Bool.and_eq_true, beq_iff_eq, beq_iff_eq] at hmatch
    obtain ⟨hconversations, hentries, hfree⟩ := add_entry_ok hadded
    exact .inr ⟨rfl, row, hmatch.1, hmatch.2, hrow, hconversations, hentries, hfree, (hbuild _).1, (hbuild _).2⟩

/-- A turn that is not active cannot be ended. -/
theorem end_matching_turn_late {values : OperatorConversation → OperatorConversation}
    {build : Nat → OperatorConversationEntry}
    (hlate : Inactive db conversation_id turn_id) :
    end_matching_turn db conversation_id turn_id values entry_id build = .ok (false, db) := by
  unfold end_matching_turn
  split
  · rfl
  · next hupdate =>
    obtain ⟨row, hrow, hmatch, -⟩ := Table.updateWhere_eq_some.mp hupdate
    rw [Bool.and_eq_true, beq_iff_eq, beq_iff_eq] at hmatch
    exact absurd hmatch (hlate row hrow)

/-- The state that a closing entry leaves the conversation in. -/
def OperatorEntryBody.closing_state : OperatorEntryBody → Option OperatorConversationState
  | user_message _ => none
  | user_question_answers _ _ => none
  | assistant_message _ => some .ready
  | assistant_question_set _ _ => some .awaiting_answer
  | turn_interrupted explanation _ _ =>
    some (if explanation = THREAD_INTERRUPTION_EXPLANATION then .closed else .interrupted)

theorem closing_state_eq_none_iff {body : OperatorEntryBody} : body.closing_state = none ↔ body.is_user = true := by
  cases body <;> simp [OperatorEntryBody.closing_state, OperatorEntryBody.is_user]

theorem closing_state_ne_running {body : OperatorEntryBody} : body.closing_state ≠ some .running := by
  cases body <;> simp [OperatorEntryBody.closing_state]
  split <;> simp

theorem build_interruption_entry_closing_state (sequence : Nat) (is_thread_unavailable : Bool)
    (diagnostic_category : DiagnosticCategory) :
    (build_interruption_entry conversation_id sequence is_thread_unavailable diagnostic_category).body.closing_state =
      some (if is_thread_unavailable then .closed else .interrupted) := by
  have hne : GENERIC_INTERRUPTION_EXPLANATION ≠ THREAD_INTERRUPTION_EXPLANATION := by decide +kernel
  cases is_thread_unavailable <;> simp [build_interruption_entry, OperatorEntryBody.closing_state, hne]

/-- An active turn ends: its closing entry says which state the conversation is in. -/
def TurnEnded (db : OperatorDb) (conversation_id : ConversationId) (turn_id : TurnId) (db' : OperatorDb) : Prop :=
  ∃ row row' entry_id entry, EntryAdded db conversation_id row row' entry_id entry db' ∧
    row.state = .running ∧ row.active_turn_id = some turn_id ∧ row'.active_turn_id = none ∧
    entry.body.closing_state = some row'.state ∧ entry.request_idempotency_key = none ∧ entry.request_digest = none

theorem complete_operator_turn_success {outcome : OperatorTurnOutcome} {ids : AssistantIds} {matched : Bool}
    (h : complete_operator_turn db claim outcome ids = .ok (matched, db')) :
    (db' = db ∧ ∀ turn_id, claim.turn_id = some turn_id → Inactive db claim.conversation_id turn_id) ∨
      ∃ turn_id, claim.turn_id = some turn_id ∧ TurnEnded db claim.conversation_id turn_id db' := by
  unfold complete_operator_turn at h
  split at h
  · next hnone =>
    cases h
    exact .inl ⟨rfl, fun turn_id hturn => by rw [hnone] at hturn; cases hturn⟩
  · next turn_id hturn =>
    rcases end_matching_turn_success h (fun sequence => ⟨rfl, rfl⟩) with
      ⟨-, heq, hlate⟩ | ⟨-, row, hstate, hactive, hadded⟩
    · exact .inl ⟨heq, fun other hother => Option.some.inj (hturn.symm.trans hother) ▸ hlate⟩
    · refine .inr ⟨turn_id, hturn, row, _, _, _, hadded, hstate, hactive, rfl, ?_, rfl, rfl⟩
      unfold build_assistant_entry
      dsimp only
      cases outcome.result <;> rfl

theorem interrupt_operator_turn_success {interruption : Interruption} {matched : Bool}
    (h : interrupt_operator_turn db claim interruption entry_id = .ok (matched, db')) :
    (db' = db ∧ ∀ turn_id, claim.turn_id = some turn_id → Inactive db claim.conversation_id turn_id) ∨
      ∃ turn_id, claim.turn_id = some turn_id ∧ TurnEnded db claim.conversation_id turn_id db' := by
  unfold interrupt_operator_turn at h
  split at h
  · next hnone =>
    cases h
    exact .inl ⟨rfl, fun turn_id hturn => by rw [hnone] at hturn; cases hturn⟩
  · next turn_id hturn =>
    rcases end_matching_turn_success h (fun sequence => ⟨rfl, rfl⟩) with
      ⟨-, heq, hlate⟩ | ⟨-, row, hstate, hactive, hadded⟩
    · exact .inl ⟨heq, fun other hother => Option.some.inj (hturn.symm.trans hother) ▸ hlate⟩
    · exact .inr ⟨turn_id, hturn, row, _, _, _, hadded, hstate, hactive, rfl,
        build_interruption_entry_closing_state _ _ _, rfl, rfl⟩

end Operator

end OhMySubagents
