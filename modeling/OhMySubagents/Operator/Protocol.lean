import OhMySubagents.Operator.Conversations

open Relational

namespace OhMySubagents

namespace Operator

variable {sha256 : List Char → String} {db db' : OperatorDb} {submission : Submission} {turn_id : TurnId}
  {entry_id : EntryId} {entry : OperatorConversationEntry} {claim : OperatorTurnClaim} {s : OperatorState}
  {conversation_id : ConversationId} {row : OperatorConversation} {n k : Nat}

/-- A key that an entry of the conversation has finds that entry. -/
theorem DbSound.read_entry_by_key (hsound : DbSound sha256 db) (hget : db.entries.get? entry_id = some entry)
    {idempotency_key : String} (hkey : entry.request_idempotency_key = some idempotency_key) :
    read_entry_by_key db entry.conversation_id idempotency_key = some entry := by
  cases hread : Operator.read_entry_by_key db entry.conversation_id idempotency_key with
  | none => exact absurd hkey (read_entry_by_key_eq_none.mp hread entry_id entry hget rfl)
  | some found =>
    obtain ⟨found_id, hfound, hconversation, hfound_key⟩ := read_entry_by_key_eq_some hread
    obtain rfl := hsound.keys found_id found entry_id entry _ hfound hget hconversation hfound_key hkey
    rw [hget] at hfound
    exact hfound.symm

/-- A submission under a used key comes down to the comparison of digests. -/
theorem admission_of_used_key
    (hused : read_entry_by_key db submission.conversation_id submission.idempotency_key = some entry) :
    submission.admission sha256 db turn_id entry_id = (return_duplicate_or_raise_conflict db
      submission.conversation_id submission.idempotency_key (digest_request sha256 submission.content.payload)).map
        fun claim => (claim, db) := by
  have hclaim : ∀ allowed, claim_conversation db submission.conversation_id submission.idempotency_key allowed turn_id =
      none := by
    intro allowed
    unfold claim_conversation
    split
    · rfl
    · rw [hused]
      simp
  cases submission with
  | message conversation_id request idempotency_key =>
    simp only [Submission.conversation_id, Submission.idempotency_key] at hclaim
    simp only [Submission.admission, claim_operator_message_turn, hclaim]
    rfl
  | question_answers conversation_id question_set_id request idempotency_key =>
    simp only [Submission.conversation_id, Submission.idempotency_key] at hclaim
    simp only [Submission.admission, claim_operator_answer_turn, hclaim]
    rfl

/-- The content of the entry that a key has. -/
theorem EntryKeyed.content (h : EntryKeyed sha256 entry) {idempotency_key : String}
    (hkey : entry.request_idempotency_key = some idempotency_key) :
    ∃ content, entry.body.content = some content ∧
      entry.request_digest = some (digest_request sha256 content.payload) := by
  have huser : entry.body.is_user = true := by rw [← h.key, hkey, Option.isSome_some]
  have hcontent : ∃ content, entry.body.content = some content := by
    cases hbody : entry.body <;> rw [hbody] at huser
    · exact ⟨_, rfl⟩
    · exact ⟨_, rfl⟩
    all_goals cases huser
  obtain ⟨content, hcontent⟩ := hcontent
  exact ⟨content, hcontent, by rw [h.digest, hcontent, Option.map_some]⟩

/-- What comes of a submission under a key that an entry with some content has. -/
structure KeyReused (sha256 : List Char → String) (db : OperatorDb) (submission : Submission) (content : UserContent) :
    Prop where
  /-- With the same content it is a duplicate, which has no effect. -/
  duplicate : content = submission.content → ∀ turn_id new_id, ∃ claim : OperatorTurnClaim, claim.turn_id = none ∧
    submission.admission sha256 db turn_id new_id = .ok (claim, db)
  /-- With another digest it is a conflict. -/
  conflict : digest_request sha256 content.payload ≠ digest_request sha256 submission.content.payload →
    ∀ turn_id new_id, submission.admission sha256 db turn_id new_id = .error .idempotency_conflict
  /-- Another content has another text, and has the same digest only if SHA-256 has one for both texts. -/
  collision : content ≠ submission.content →
    serialized_request content.payload ≠ serialized_request submission.content.payload

theorem admission_reuse (hsound : DbSound sha256 db) (hget : db.entries.get? entry_id = some entry)
    (hconversation : entry.conversation_id = submission.conversation_id)
    (hkey : entry.request_idempotency_key = some submission.idempotency_key) :
    ∃ content, entry.body.content = some content ∧ KeyReused sha256 db submission content := by
  have hread := hsound.read_entry_by_key hget hkey
  rw [hconversation] at hread
  obtain ⟨content, hcontent, hdigest⟩ := (hsound.keyed entry_id entry hget).content hkey
  refine ⟨content, hcontent, fun hsame turn_id new_id => ?_, fun hother turn_id new_id => ?_,
    fun hother hequal => hother (serialized_request_injective hequal)⟩
  · rw [admission_of_used_key hread, return_duplicate_or_raise_conflict, hread]
    dsimp only
    rw [if_neg (not_not_intro (hsame ▸ hdigest))]
    exact ⟨_, rfl, rfl⟩
  · rw [admission_of_used_key hread, return_duplicate_or_raise_conflict, hread]
    dsimp only
    rw [if_pos fun hequal => hother (Option.some.inj (hdigest ▸ hequal))]
    rfl

/-- Answers are taken for the question set that the conversation waits on, its last entry. -/
theorem answers_accepted (hsound : DbSound sha256 db) {question_set_id new_id : EntryId}
    {request : OperatorQuestionAnswersRequest} {idempotency_key : String}
    (h : claim_operator_answer_turn sha256 db conversation_id question_set_id request idempotency_key turn_id new_id =
      .ok (claim, db')) (hturn : claim.turn_id ≠ none) :
    ∃ row n entry, db.conversations.get? conversation_id = some row ∧ row.state = .awaiting_answer ∧
      Coherent db.entries conversation_id row n ∧ EntryAt db.entries conversation_id n question_set_id entry := by
  obtain ⟨hclaimed, hlatest⟩ := claim_operator_answer_turn_success h
  obtain ⟨latest, hlatest⟩ := hlatest hturn
  cases hclaimed with
  | duplicate _ _ _ turn _ => exact absurd turn hturn
  | accepted row input state inactive unused claim added =>
    obtain ⟨n, hcoherent⟩ := hsound.coherent conversation_id row added.found
    have hstate : row.state = .awaiting_answer := List.mem_singleton.mp state
    have heven : n % 2 = 0 := by
      have hnot : ¬ n % 2 = 1 := fun hodd => by
        rw [hcoherent.running.mpr hodd] at hstate
        cases hstate
      omega
    have hpos : 1 ≤ n := Nat.one_le_iff_ne_zero.mpr fun hzero => by
      rw [hcoherent.unused hzero] at hstate
      cases hstate
    obtain ⟨last_id, last, hat⟩ := hcoherent.history.filled n hpos (Nat.le_refl n)
    have hclosing := hcoherent.closing last_id last heven hat
    have hmem := List.argmax_mem hlatest
    obtain ⟨hlatest_get, hlatest_set⟩ := Table.mem_select_iff.mp hmem
    rw [Bool.and_eq_true, beq_iff_eq] at hlatest_set
    have hlatest_at : EntryAt db.entries conversation_id latest.sequence question_set_id latest :=
      ⟨hlatest_get, hlatest_set.1, rfl⟩
    -- the last entry is a question set itself, so no question set comes later
    have hlast : last.sequence ≤ latest.sequence := by
      refine List.le_of_mem_argmax (f := fun found : EntryId × OperatorConversationEntry => found.2.sequence)
        (a := (last_id, last)) (Table.mem_select_iff.mpr ⟨hat.1, ?_⟩) hlatest
      rw [hstate] at hclosing
      cases hbody : last.body with
      | assistant_question_set explanation questions => simp [hat.2.1]
      | turn_interrupted explanation next_step diagnostic_category =>
        rw [hbody, OperatorEntryBody.closing_state] at hclosing
        split at hclosing <;> cases hclosing
      | user_message text => rw [hbody] at hclosing; cases hclosing
      | user_question_answers question_set_id answers => rw [hbody] at hclosing; cases hclosing
      | assistant_message text => rw [hbody] at hclosing; cases hclosing
    have heq : latest.sequence = n := by
      have hle := (hcoherent.history.bounded _ _ _ hlatest_at).2
      rw [hat.2.2] at hlast
      exact Nat.le_antisymm hle hlast
    exact ⟨row, n, latest, added.found, hstate, hcoherent, heq ▸ hlatest_at⟩

/-- Whoever is late changes nothing. -/
theorem late_completion (hlate : ∀ turn_id, claim.turn_id = some turn_id → Inactive db claim.conversation_id turn_id)
    (outcome : OperatorTurnOutcome) (ids : AssistantIds) :
    complete_operator_turn db claim outcome ids = .ok (false, db) := by
  unfold complete_operator_turn
  split
  · rfl
  · next turn_id hturn => exact end_matching_turn_late (hlate turn_id hturn)

theorem late_interruption (hlate : ∀ turn_id, claim.turn_id = some turn_id → Inactive db claim.conversation_id turn_id)
    (interruption : Interruption) (entry_id : EntryId) :
    interrupt_operator_turn db claim interruption entry_id = .ok (false, db) := by
  unfold interrupt_operator_turn
  split
  · rfl
  · next turn_id hturn => exact end_matching_turn_late (hlate turn_id hturn)

/-- A user entry is the last one, while its turn is active, or the next entry closes it and leaves the rest to the
    next user entry. -/
theorem Coherent.followed (h : Coherent db.entries conversation_id row n)
    (hat : EntryAt db.entries conversation_id k entry_id entry) (huser : entry.body.is_user = true) :
    (k = n ∧ row.state = .running) ∨ ∃ closing_id closing,
      EntryAt db.entries conversation_id (k + 1) closing_id closing ∧ closing.body.closing_state ≠ none ∧
      ∀ later_id later, EntryAt db.entries conversation_id (k + 2) later_id later → later.body.is_user = true := by
  have hodd := (h.history.alternating k entry_id entry hat).mp huser
  obtain ⟨-, hle⟩ := h.history.bounded k entry_id entry hat
  rcases Nat.eq_or_lt_of_le hle with rfl | hlt
  · exact .inl ⟨rfl, h.running.mpr hodd⟩
  · obtain ⟨closing_id, closing, hclosing⟩ := h.history.filled (k + 1) (Nat.le_add_left 1 k) hlt
    refine .inr ⟨closing_id, closing, hclosing, fun hnone => ?_, fun later_id later hlater => ?_⟩
    · have hparity := (h.history.alternating (k + 1) closing_id closing hclosing).mp
        (closing_state_eq_none_iff.mp hnone)
      omega
    · exact (h.history.alternating (k + 2) later_id later hlater).mpr (by omega)

/-- What holds of the Operator's conversations at any time. -/
structure ConversationProtocol (sha256 : List Char → String) (s : OperatorState) : Prop where
  /-- Entries are numbered without gaps, users and closing entries take turns, the conversation runs as long as a
      turn is active, which is while a user has the last word, and its last closing entry says where it stands. -/
  coherent : ∀ conversation_id row, s.db.conversations.get? conversation_id = some row →
    ∃ n, Coherent s.db.entries conversation_id row n ∧
      ∀ k entry_id entry, EntryAt s.db.entries conversation_id k entry_id entry → entry.body.is_user = true →
        (k = n ∧ row.state = .running) ∨
          ∃ closing_id closing, EntryAt s.db.entries conversation_id (k + 1) closing_id closing ∧
            closing.body.closing_state ≠ none ∧ ∀ later_id later,
              EntryAt s.db.entries conversation_id (k + 2) later_id later → later.body.is_user = true
  /-- A key has one entry. -/
  keys : ∀ entry_id entry entry_id' entry' key, s.db.entries.get? entry_id = some entry →
    s.db.entries.get? entry_id' = some entry' → entry.conversation_id = entry'.conversation_id →
    entry.request_idempotency_key = some key → entry'.request_idempotency_key = some key → entry_id = entry_id'
  /-- A key has one provider execution, and that only if it has an entry. -/
  executed : ∀ execution ∈ s.executions, ∃ entry_id entry, s.db.entries.get? entry_id = some entry ∧
    entry.conversation_id = execution.conversation_id ∧
    entry.request_idempotency_key = some execution.idempotency_key
  once : (s.executions.map fun execution => (execution.conversation_id, execution.idempotency_key)).Nodup
  /-- A key that is used again is recognised by the digest of its content, and never has an effect. -/
  reused : ∀ (submission : Submission) entry_id entry, s.db.entries.get? entry_id = some entry →
    entry.conversation_id = submission.conversation_id →
    entry.request_idempotency_key = some submission.idempotency_key →
    ∃ content, entry.body.content = some content ∧ KeyReused sha256 s.db submission content
  /-- Answers are taken while the conversation waits for them, and only for its latest question set. -/
  answered : ∀ conversation_id question_set_id request idempotency_key turn_id new_id (claim : OperatorTurnClaim) db',
    claim_operator_answer_turn sha256 s.db conversation_id question_set_id request idempotency_key turn_id new_id =
      .ok (claim, db') → claim.turn_id ≠ none →
    ∃ row n entry, s.db.conversations.get? conversation_id = some row ∧ row.state = .awaiting_answer ∧
      Coherent s.db.entries conversation_id row n ∧ EntryAt s.db.entries conversation_id n question_set_id entry
  /-- A turn that is not active any more is neither completed nor interrupted. -/
  late : ∀ claim : OperatorTurnClaim,
    (∀ turn_id, claim.turn_id = some turn_id → Inactive s.db claim.conversation_id turn_id) →
    (∀ outcome ids, complete_operator_turn s.db claim outcome ids = .ok (false, s.db)) ∧
      ∀ interruption entry_id, interrupt_operator_turn s.db claim interruption entry_id = .ok (false, s.db)

/-- **The conversation protocol holds in every state of the service**, whatever the order of submissions, provider
    outcomes, cancellations, late completions and repairs. -/
theorem conversation_protocol (h : (service sha256).Reachable s) : ConversationProtocol sha256 s := by
  have hsound := service_sound h
  refine ⟨fun conversation_id row hrow => ?_, hsound.db.keys, hsound.executed, hsound.once,
    fun submission entry_id entry hget hconversation hkey => admission_reuse hsound.db hget hconversation hkey,
    fun conversation_id question_set_id request idempotency_key turn_id new_id claim db' hclaim hturn =>
      answers_accepted hsound.db hclaim hturn,
    fun claim hlate => ⟨late_completion hlate, late_interruption hlate⟩⟩
  obtain ⟨n, hcoherent⟩ := hsound.db.coherent conversation_id row hrow
  exact ⟨n, hcoherent, fun k entry_id entry hat huser => hcoherent.followed hat huser⟩

/-- The digests of the three requests below. -/
def asked_sha256 (text : List Char) : String :=
  if text = "\x7b\x22kind\x22:\x22message\x22,\x22text\x22:\x22hello\x22\x7d".toList then
    "f904956c2a11e31441b12da7e9e754bdecc3691ac8e310bd816ede783d51589d"
  else if text = "\x7b\x22kind\x22:\x22message\x22,\x22text\x22:\x22goodbye\x22\x7d".toList then
    "f3c2272352df58f506475039fc042bf6849101124e658b9af2231d241a2c6aa1"
  else "d5e5cdc7781b59b2becce1132bb5a16306cd45c259bb16bbb2b0e47ce8ea9352"

/-- A message that the Operator answers with a question, another message under its key, and the user's answer. -/
def asked_and_answered : List OperatorEvent :=
  [.create "c" "new" "codex" none none,
    .submit 0 (.message "c" ⟨"hello"⟩ " first "),
    .handle 0 (.admitted "turn-0" "entry-0"),
    .handle 0 (.executed (.returned ⟨"thread", .ask_user none [⟨"Pick", "Which one?", true, []⟩]⟩)),
    .handle 0 (.committed ⟨"questions", fun i => toString i, fun i _ => toString i⟩),
    .submit 1 (.message "c" ⟨"goodbye"⟩ "first"),
    .handle 1 (.admitted "turn-1" "entry-1"),
    .submit 2 (.question_answers "c" "questions" ⟨[⟨"0", .skip⟩]⟩ "second"),
    .handle 2 (.admitted "turn-2" "entry-2"),
    .handle 2 (.executed .failed),
    .handle 2 (.committed ⟨"interrupted", fun i => toString i, fun i _ => toString i⟩)]

/-- Three submissions, of which one is a conflict, two executions, and a conversation that was interrupted. -/
theorem conversation_protocol_asked_and_answered :
    ∃ s, (OperatorState.run asked_sha256 ⟨⟨∅, ∅⟩, ∅, []⟩ asked_and_answered) = some s ∧ s.executions.length = 2 ∧
      (s.db.conversations.get? "c").map (·.state) = some .interrupted ∧
      (s.handlers.get? 1).map (·.phase) = some (.ended none) ∧ ConversationProtocol asked_sha256 s := by
  have hrun : ((OperatorState.run asked_sha256 ⟨⟨∅, ∅⟩, ∅, []⟩ asked_and_answered).map fun s =>
      (s.executions.length, (s.db.conversations.get? "c").map (·.state), (s.handlers.get? 1).map (·.phase))) =
        some (2, some .interrupted, some (.ended none)) := by
    decide +kernel
  obtain ⟨s, hs, hfacts⟩ := Option.map_eq_some_iff.mp hrun
  rw [Prod.mk.injEq, Prod.mk.injEq] at hfacts
  have hstart : (service asked_sha256).Reachable ⟨⟨∅, ∅⟩, ∅, []⟩ := ⟨[], .start rfl⟩
  exact ⟨s, hs, hfacts.1, hfacts.2.1, hfacts.2.2, conversation_protocol (reachable_run hstart hs)⟩

end Operator

end OhMySubagents
