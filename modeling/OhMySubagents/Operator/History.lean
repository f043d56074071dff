import OhMySubagents.Operator.Persistence

open Relational

namespace OhMySubagents

namespace Operator

abbrev Entries := Table EntryId OperatorConversationEntry

variable {entries entries' : Entries} {conversation_id other : ConversationId} {entry_id : EntryId}
  {entry : OperatorConversationEntry} {n k : Nat}

/-- The entry with a sequence number in a conversation. -/
def EntryAt (entries : Entries) (conversation_id : ConversationId) (k : Nat) (entry_id : EntryId)
    (entry : OperatorConversationEntry) : Prop :=
  entries.get? entry_id = some entry ∧ entry.conversation_id = conversation_id ∧ entry.sequence = k

/-- Users make messages and answers. -/
def OperatorEntryBody.is_user : OperatorEntryBody → Bool
  | user_message _ => true
  | user_question_answers _ _ => true
  | _ => false

/-- The entries of a conversation are numbered from one to `n`, each number once; users and closing entries take
    turns. -/
structure History (entries : Entries) (conversation_id : ConversationId) (n : Nat) : Prop where
  bounded : ∀ k entry_id entry, EntryAt entries conversation_id k entry_id entry → 1 ≤ k ∧ k ≤ n
  filled : ∀ k, 1 ≤ k → k ≤ n → ∃ entry_id entry, EntryAt entries conversation_id k entry_id entry
  unique : ∀ k entry_id entry entry_id' entry', EntryAt entries conversation_id k entry_id entry →
    EntryAt entries conversation_id k entry_id' entry' → entry_id = entry_id' ∧ entry = entry'
  alternating : ∀ k entry_id entry, EntryAt entries conversation_id k entry_id entry →
    (entry.body.is_user = true ↔ k % 2 = 1)

/-- A conversation without entries. -/
theorem History.empty
    (h : ∀ entry_id entry, entries.get? entry_id = some entry → entry.conversation_id ≠ conversation_id) :
    History entries conversation_id 0 := by
  have hnone : ∀ k entry_id entry, ¬ EntryAt entries conversation_id k entry_id entry :=
    fun k entry_id entry hat => h entry_id entry hat.1 hat.2.1
  exact ⟨fun k entry_id entry hat => (hnone _ _ _ hat).elim, fun k hpos hle => by omega,
    fun k entry_id entry _ _ hat => (hnone _ _ _ hat).elim, fun k entry_id entry hat => (hnone _ _ _ hat).elim⟩

/-- The next entry goes behind the last. -/
theorem History.next_entry_sequence (h : History entries conversation_id n) :
    next_entry_sequence entries conversation_id = n + 1 := by
  have hmem : ∀ k, k ∈ (entries.select fun _ entry => entry.conversation_id == conversation_id).map (·.2.sequence) ↔
      ∃ entry_id entry, EntryAt entries conversation_id k entry_id entry := by
    intro k
    simp only [List.mem_map, Prod.exists, Table.mem_select_iff, beq_iff_eq, EntryAt]
    constructor
    · rintro ⟨entry_id, entry, ⟨hget, hconversation⟩, hk⟩
      exact ⟨entry_id, entry, hget, hconversation, hk⟩
    · rintro ⟨entry_id, entry, hget, hconversation, hk⟩
      exact ⟨entry_id, entry, ⟨hget, hconversation⟩, hk⟩
  unfold Operator.next_entry_sequence latest_sequence
  rw [Nat.add_right_cancel_iff]
  cases hmax : List.max?
    ((entries.select fun _ entry => entry.conversation_id == conversation_id).map (·.2.sequence)) with
  | none =>
    rw [List.max?_eq_none_iff] at hmax
    cases n with
    | zero => rfl
    | succ n =>
      obtain ⟨entry_id, entry, hat⟩ := h.filled (n + 1) (Nat.le_add_left 1 n) (Nat.le_refl _)
      have hin := (hmem (n + 1)).mpr ⟨entry_id, entry, hat⟩
      rw [hmax] at hin
      cases hin
  | some latest =>
    rw [List.max?_eq_some_iff] at hmax
    obtain ⟨entry_id, entry, hat⟩ := (hmem latest).mp hmax.1
    obtain ⟨hpos, hle⟩ := h.bounded latest entry_id entry hat
    obtain ⟨entry_id, entry, hat⟩ := h.filled n (Nat.le_trans hpos hle) (Nat.le_refl _)
    exact Nat.le_antisymm hle (hmax.2 n ((hmem n).mpr ⟨entry_id, entry, hat⟩))

/-- What is at a place once an entry was added. -/
theorem entryAt_set (hfree : entries.get? entry_id = none) {found : EntryId} {at_found : OperatorConversationEntry} :
    EntryAt (entries.set entry_id entry) conversation_id k found at_found ↔
      EntryAt entries conversation_id k found at_found ∨
        (found = entry_id ∧ at_found = entry ∧ entry.conversation_id = conversation_id ∧ entry.sequence = k) := by
  unfold EntryAt
  rw [Table.get?_set]
  split
  · next heq =>
    subst heq
    rw [hfree, Option.some.injEq]
    constructor
    · rintro ⟨rfl, hconversation, hk⟩
      exact .inr ⟨rfl, rfl, hconversation, hk⟩
    · rintro (⟨hnone, -⟩ | ⟨-, rfl, hconversation, hk⟩)
      · cases hnone
      · exact ⟨rfl, hconversation, hk⟩
  · next hne =>
    constructor
    · exact .inl
    · rintro (hat | ⟨heq, -⟩)
      · exact hat
      · exact absurd heq hne

/-- An entry that goes behind the last. -/
theorem History.add (h : History entries conversation_id n) (hfree : entries.get? entry_id = none)
    (hconversation : entry.conversation_id = conversation_id) (hsequence : entry.sequence = n + 1)
    (hbody : entry.body.is_user = true ↔ (n + 1) % 2 = 1) :
    History (entries.set entry_id entry) conversation_id (n + 1) := by
  refine ⟨fun k found at_found hat => ?_, fun k hpos hle => ?_, fun k found at_found found' at_found' hat hat' => ?_,
    fun k found at_found hat => ?_⟩
  · rcases (entryAt_set hfree).mp hat with hold | ⟨-, -, -, hk⟩
    · obtain ⟨hpos, hle⟩ := h.bounded k found at_found hold
      exact ⟨hpos, Nat.le_succ_of_le hle⟩
    · omega
  · rcases Nat.lt_or_ge n k with hlt | hle'
    · exact ⟨entry_id, entry, (entryAt_set hfree).mpr (.inr ⟨rfl, rfl, hconversation, by omega⟩)⟩
    · obtain ⟨found, at_found, hat⟩ := h.filled k hpos hle'
      exact ⟨found, at_found, (entryAt_set hfree).mpr (.inl hat)⟩
  · rcases (entryAt_set hfree).mp hat with hold | ⟨rfl, rfl, -, hk⟩ <;>
      rcases (entryAt_set hfree).mp hat' with hold' | ⟨rfl, rfl, -, hk'⟩
    · exact h.unique k _ _ _ _ hold hold'
    · have hle := (h.bounded k _ _ hold).2
      omega
    · have hle := (h.bounded k _ _ hold').2
      omega
    · exact ⟨rfl, rfl⟩
  · rcases (entryAt_set hfree).mp hat with hold | ⟨-, rfl, -, hk⟩
    · exact h.alternating k found at_found hold
    · rw [hbody, ← hsequence, hk]

/-- The other conversations do not see it. -/
theorem entryAt_set_other (hfree : entries.get? entry_id = none) (hother : entry.conversation_id ≠ other)
    {found : EntryId} {at_found : OperatorConversationEntry} :
    EntryAt (entries.set entry_id entry) other k found at_found ↔ EntryAt entries other k found at_found := by
  rw [entryAt_set hfree]
  constructor
  · rintro (hat | ⟨-, -, heq, -⟩)
    · exact hat
    · exact absurd heq hother
  · exact .inl

theorem History.congr (h : History entries conversation_id n)
    (hsame : ∀ k entry_id entry, EntryAt entries' conversation_id k entry_id entry ↔
      EntryAt entries conversation_id k entry_id entry) : History entries' conversation_id n := by
  refine ⟨fun k entry_id entry hat => h.bounded k entry_id entry ((hsame _ _ _).mp hat), fun k hpos hle => ?_,
    fun k entry_id entry entry_id' entry' hat hat' =>
      h.unique k _ _ _ _ ((hsame _ _ _).mp hat) ((hsame _ _ _).mp hat'),
    fun k entry_id entry hat => h.alternating k entry_id entry ((hsame _ _ _).mp hat)⟩
  obtain ⟨entry_id, entry, hat⟩ := h.filled k hpos hle
  exact ⟨entry_id, entry, (hsame _ _ _).mpr hat⟩

end Operator

end OhMySubagents
