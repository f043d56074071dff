import OhMySubagents.Operator.Transactions

open Relational

namespace OhMySubagents

namespace Operator

section

variable {db db' : OperatorDb} {conversation_id : ConversationId} {turn_id : TurnId} {entry_id : EntryId}
  {entry : OperatorConversationEntry} {idempotency_key : String} {sha256 : List Char → String}
  {claim : OperatorTurnClaim} {row row' : OperatorConversation} {entries : Entries} {n : Nat}

/-- The row of a conversation fits its entries: a turn is active as long as a user had the last word, and otherwise
    the last entry says which state it left behind. -/
structure Coherent (entries : Entries) (conversation_id : ConversationId) (row : OperatorConversation) (n : Nat) :
    Prop where
  history : History entries conversation_id n
  active : row.state = .running ↔ row.active_turn_id.isSome = true
  running : row.state = .running ↔ n % 2 = 1
  unused : n = 0 → row.state = .ready
  closing : ∀ entry_id entry, n % 2 = 0 → EntryAt entries conversation_id n entry_id entry →
    entry.body.closing_state = some row.state

/-- What a user said in an entry. -/
def OperatorEntryBody.content : OperatorEntryBody → Option UserContent
  | user_message text => some (.message text)
  | user_question_answers question_set_id answers => some (.question_answers question_set_id answers)
  | _ => none

/-- User entries, and they alone, carry the key of their request and the digest of its content. -/
structure EntryKeyed (sha256 : List Char → String) (entry : OperatorConversationEntry) : Prop where
  digest : entry.request_digest = entry.body.content.map fun content => digest_request sha256 content.payload
  key : entry.request_idempotency_key.isSome = entry.body.is_user

structure DbSound (sha256 : List Char → String) (db : OperatorDb) : Prop where
  owned : ∀ entry_id entry, db.entries.get? entry_id = some entry →
    (db.conversations.get? entry.conversation_id).isSome = true
  coherent : ∀ conversation_id row, db.conversations.get? conversation_id = some row →
    ∃ n, Coherent db.entries conversation_id row n
  keyed : ∀ entry_id entry, db.entries.get? entry_id = some entry → EntryKeyed sha256 entry
  keys : ∀ entry_id entry entry_id' entry' key, db.entries.get? entry_id = some entry →
    db.entries.get? entry_id' = some entry' → entry.conversation_id = entry'.conversation_id →
    entry.request_idempotency_key = some key → entry'.request_idempotency_key = some key → entry_id = entry_id'

theorem Coherent.congr {entries' : Entries} (h : Coherent entries conversation_id row n)
    (hsame : ∀ k entry_id entry, EntryAt entries' conversation_id k entry_id entry ↔
      EntryAt entries conversation_id k entry_id entry) : Coherent entries' conversation_id row n :=
  ⟨h.history.congr hsame, h.active, h.running, h.unused,
    fun entry_id entry heven hat => h.closing entry_id entry heven ((hsame _ _ _).mp hat)⟩

/-- What one more entry must be like, after `n` of them, for the conversation to stay coherent. -/
structure FitsNext (row' : OperatorConversation) (entry : OperatorConversationEntry) (n : Nat) : Prop where
  user : entry.body.is_user = true ↔ (n + 1) % 2 = 1
  active : row'.state = .running ↔ row'.active_turn_id.isSome = true
  running : row'.state = .running ↔ (n + 1) % 2 = 1
  closing : (n + 1) % 2 = 0 → entry.body.closing_state = some row'.state

theorem EntryAdded.coherent (hadded : EntryAdded db conversation_id row row' entry_id entry db')
    (hcoherent : Coherent db.entries conversation_id row n) (hfits : FitsNext row' entry n) :
    Coherent db'.entries conversation_id row' (n + 1) := by
  have hsequence : entry.sequence = n + 1 := by rw [hadded.sequence, hcoherent.history.next_entry_sequence]
  rw [hadded.entries]
  refine ⟨hcoherent.history.add hadded.free hadded.conversation hsequence hfits.user, hfits.active, hfits.running,
    fun hzero => by omega, fun found at_found heven hat => ?_⟩
  rcases (entryAt_set hadded.free).mp hat with hold | ⟨-, rfl, -, -⟩
  · have hle := (hcoherent.history.bounded _ _ _ hold).2
    omega
  · exact hfits.closing heven

/-- A transaction that adds one fitting entry keeps the records sound. -/
theorem EntryAdded.sound (hadded : EntryAdded db conversation_id row row' entry_id entry db')
    (hsound : DbSound sha256 db) (hkeyed : EntryKeyed sha256 entry)
    (hunused : ∀ key, entry.request_idempotency_key = some key → read_entry_by_key db conversation_id key = none)
    (hfits : ∀ n, Coherent db.entries conversation_id row n → FitsNext row' entry n) : DbSound sha256 db' := by
  have hget : ∀ found at_found, db'.entries.get? found = some at_found →
      db.entries.get? found = some at_found ∨ (found = entry_id ∧ at_found = entry) := by
    intro found at_found hfound
    rw [hadded.entries, Table.get?_set] at hfound
    split at hfound
    · next heq => exact .inr ⟨heq, (Option.some.inj hfound).symm⟩
    · exact .inl hfound
  refine ⟨fun found at_found hfound => ?_, fun other other_row hother => ?_, fun found at_found hfound => ?_,
    fun found at_found found' at_found' key hfound hfound' hsame hkey hkey' => ?_⟩
  · rw [hadded.conversations, Table.get?_set]
    split
    · rfl
    · next hne =>
      rcases hget found at_found hfound with hold | ⟨-, rfl⟩
      · exact hsound.owned found at_found hold
      · exact absurd hadded.conversation hne
  · rw [hadded.conversations, Table.get?_set] at hother
    split at hother
    · next heq =>
      subst heq
      obtain rfl := Option.some.inj hother
      obtain ⟨n, hcoherent⟩ := hsound.coherent _ _ hadded.found
      exact ⟨n + 1, hadded.coherent hcoherent (hfits n hcoherent)⟩
    · next hne =>
      obtain ⟨n, hcoherent⟩ := hsound.coherent _ _ hother
      refine ⟨n, hcoherent.congr fun k found at_found => ?_⟩
      rw [hadded.entries]
      exact entryAt_set_other hadded.free (by rw [hadded.conversation]; exact Ne.symm hne)
  · rcases hget found at_found hfound with hold | ⟨-, rfl⟩
    · exact hsound.keyed found at_found hold
    · exact hkeyed
  · rcases hget found at_found hfound with hold | ⟨rfl, rfl⟩ <;>
      rcases hget found' at_found' hfound' with hold' | ⟨rfl, rfl⟩
    · exact hsound.keys _ _ _ _ key hold hold' hsame hkey hkey'
    · exact absurd hkey (read_entry_by_key_eq_none.mp (hunused key hkey') _ _ hold (hsame.trans hadded.conversation))
    · exact absurd hkey' (read_entry_by_key_eq_none.mp (hunused key hkey) _ _ hold'
        (hsame.symm.trans hadded.conversation))
    · rfl

/-- A claim keeps the records sound. -/
theorem TurnClaimed.sound {body : OperatorEntryBody} {content : UserContent}
    {allowed : List OperatorConversationState} (h : TurnClaimed db conversation_id idempotency_key
      (digest_request sha256 content.payload) body allowed turn_id entry_id claim db')
    (hsound : DbSound sha256 db) (hcontent : body.content = some content) (hallowed : .running ∉ allowed) :
    DbSound sha256 db' := by
  have huser : body.is_user = true := by cases body <;> first | rfl | cases hcontent
  cases h with
  | duplicate existing found same turn unchanged => rwa [unchanged]
  | accepted row input state inactive unused claim added =>
    refine added.sound hsound ⟨by simp [hcontent], by simp [huser]⟩ (fun key hkey => ?_) fun n hcoherent => ?_
    · obtain rfl := Option.some.inj hkey
      exact unused
    · have heven : ¬ n % 2 = 1 := fun hodd => hallowed ((hcoherent.running.mpr hodd) ▸ state)
      have hodd : (n + 1) % 2 = 1 := by omega
      exact ⟨by simp [huser, hodd], by simp, by simp [hodd], fun hzero => by omega⟩

/-- The end of a turn keeps the records sound. -/
theorem TurnEnded.sound (h : TurnEnded db conversation_id turn_id db') (hsound : DbSound sha256 db) :
    DbSound sha256 db' := by
  obtain ⟨row, row', entry_id, entry, hadded, hstate, hactive, hended, hclosing, hkey, hdigest⟩ := h
  have huser : entry.body.is_user = false := by
    rw [Bool.eq_false_iff, ne_eq, ← closing_state_eq_none_iff, hclosing]
    simp
  have hcontent : entry.body.content = none := by
    cases hbody : entry.body <;> simp_all [OperatorEntryBody.content, OperatorEntryBody.is_user]
  refine hadded.sound hsound ⟨by simp [hcontent, hdigest], by simp [hkey, huser]⟩ (fun key hsome => ?_)
    fun n hcoherent => ?_
  · rw [hkey] at hsome
    cases hsome
  · have hodd := hcoherent.running.mp hstate
    have heven : ¬ (n + 1) % 2 = 1 := by omega
    have hrunning : row'.state ≠ .running := by
      intro hrunning
      rw [hrunning] at hclosing
      exact closing_state_ne_running hclosing
    exact ⟨by simp [huser, heven], by simp [hrunning, hended], by simp [hrunning, heven], fun _ => hclosing⟩

end

variable {db db' : OperatorDb} {sha256 : List Char → String} {ids : ConversationId → EntryId}
  {conversations : List ConversationId}

/-- The entry that startup repair writes. -/
abbrev repair_entry (conversation_id : ConversationId) (sequence : Nat) : OperatorConversationEntry :=
  build_interruption_entry conversation_id sequence false .startup_repair

/-- The entries of startup repair: one behind the last of every conversation it closes, and no others. -/
structure EntriesRepaired (conversations : List ConversationId) (db db' : OperatorDb) : Prop where
  rows : db'.conversations = db.conversations
  kept : ∀ entry_id entry, db.entries.get? entry_id = some entry → db'.entries.get? entry_id = some entry
  new : ∀ entry_id entry, db'.entries.get? entry_id = some entry → db.entries.get? entry_id = some entry ∨
    ∃ conversation_id ∈ conversations, ∃ sequence, entry = repair_entry conversation_id sequence
  others : ∀ conversation_id, conversation_id ∉ conversations → ∀ k entry_id entry,
    EntryAt db'.entries conversation_id k entry_id entry ↔ EntryAt db.entries conversation_id k entry_id entry
  closed : ∀ conversation_id ∈ conversations, ∀ n, History db.entries conversation_id n → n % 2 = 1 →
    History db'.entries conversation_id (n + 1) ∧ ∀ entry_id entry,
      EntryAt db'.entries conversation_id (n + 1) entry_id entry → entry = repair_entry conversation_id (n + 1)

theorem repair_entries (hnodup : conversations.Nodup)
    (h : conversations.foldlM (fun (db : OperatorDb) conversation_id => db.add_entry (ids conversation_id)
      (repair_entry conversation_id (next_entry_sequence db.entries conversation_id))) db = .ok db') :
    EntriesRepaired conversations db db' := by
  induction conversations generalizing db with
  | nil =>
    cases h
    exact ⟨rfl, fun _ _ hget => hget, fun _ _ hget => .inl hget, fun _ _ _ _ _ => Iff.rfl, fun _ hmem => by cases hmem⟩
  | cons first conversations ih =>
    rw [List.nodup_cons] at hnodup
    rw [List.foldlM_cons] at h
    obtain ⟨middle, hadd, hrest⟩ := bind_eq_ok_iff.mp h
    obtain ⟨hrows, hentries, hfree⟩ := add_entry_ok hadd
    have hrepaired := ih hnodup.2 hrest
    have hother : ∀ conversation_id, conversation_id ≠ first → ∀ k entry_id entry,
        EntryAt middle.entries conversation_id k entry_id entry ↔
          EntryAt db.entries conversation_id k entry_id entry := by
      intro conversation_id hne k entry_id entry
      rw [hentries]
      exact entryAt_set_other hfree (Ne.symm hne)
    refine ⟨hrepaired.rows.trans hrows, fun entry_id entry hget => hrepaired.kept entry_id entry ?_,
      fun entry_id entry hget => ?_, fun conversation_id hnot k entry_id entry => ?_,
      fun conversation_id hmem n hhistory hodd => ?_⟩
    · rw [hentries, Table.get?_set_ne _ (fun heq => ?_)]
      · exact hget
      · rw [heq, hfree] at hget
        cases hget
    · rcases hrepaired.new entry_id entry hget with hmiddle | ⟨conversation_id, hmem, hentry⟩
      · rw [hentries, Table.get?_set] at hmiddle
        split at hmiddle
        · exact .inr ⟨first, List.mem_cons_self, _, (Option.some.inj hmiddle).symm⟩
        · exact .inl hmiddle
      · exact .inr ⟨conversation_id, List.mem_cons_of_mem _ hmem, hentry⟩
    · rw [List.mem_cons, not_or] at hnot
      rw [hrepaired.others conversation_id hnot.2, hother conversation_id hnot.1]
    · rcases List.mem_cons.mp hmem with rfl | hmem
      · have hsame := hrepaired.others conversation_id hnodup.1
        have hadded : History middle.entries conversation_id (n + 1) := by
          rw [hentries]
          refine hhistory.add hfree rfl hhistory.next_entry_sequence ?_
          constructor
          · intro huser
            cases huser
          · omega
        refine ⟨hadded.congr hsame, fun entry_id entry hat => ?_⟩
        rw [hsame, hentries, entryAt_set hfree] at hat
        rcases hat with hold | ⟨-, rfl, -⟩
        · have hle := (hhistory.bounded _ _ _ hold).2
          omega
        · rw [hhistory.next_entry_sequence]
      · have hne : conversation_id ≠ first := fun heq => hnodup.1 (heq ▸ hmem)
        exact hrepaired.closed conversation_id hmem n (hhistory.congr (hother conversation_id hne)) hodd

/-- What startup repair does to a row. -/
def OperatorConversation.repaired (row : OperatorConversation) : OperatorConversation :=
  if row.is_stranded then { row with state := .interrupted, active_turn_id := none } else row

theorem repair_stranded_operator_turns_success {count : Nat}
    (h : repair_stranded_operator_turns db ids = .ok (count, db')) :
    (∀ conversation_id, db'.conversations.get? conversation_id =
      (db.conversations.get? conversation_id).map OperatorConversation.repaired) ∧
    ∃ stranded, (∀ conversation_id, conversation_id ∈ stranded ↔
        ∃ row, db.conversations.get? conversation_id = some row ∧ row.is_stranded = true) ∧
      ∃ middle, middle.entries = db.entries ∧ EntriesRepaired stranded middle db' := by
  unfold repair_stranded_operator_turns at h
  obtain ⟨added, hadded, h⟩ := bind_eq_ok_iff.mp h
  cases h
  have hrepaired := repair_entries (Table.select_keys_nodup _ _) hadded
  refine ⟨fun conversation_id => ?_, _, fun conversation_id => ?_, _, ?_, hrepaired⟩
  · rw [hrepaired.rows]
    exact Table.get?_mapRows _ _ _
  · rw [List.mem_map]
    constructor
    · rintro ⟨⟨found, row⟩, hmem, rfl⟩
      exact ⟨row, Table.mem_select_iff.mp hmem⟩
    · rintro ⟨row, hrow⟩
      exact ⟨(conversation_id, row), Table.mem_select_iff.mpr hrow, rfl⟩
  · rfl

theorem repair_stranded_operator_turns_sound {count : Nat} (hsound : DbSound sha256 db)
    (h : repair_stranded_operator_turns db ids = .ok (count, db')) : DbSound sha256 db' := by
  obtain ⟨hrows, stranded, hstranded, middle, hmiddle, hrepaired⟩ := repair_stranded_operator_turns_success h
  have hnew := hrepaired.new
  rw [hmiddle] at hnew
  refine ⟨fun entry_id entry hget => ?_, fun conversation_id row' hrow' => ?_, fun entry_id entry hget => ?_,
    fun entry_id entry entry_id' entry' key hget hget' hsame hkey hkey' => ?_⟩
  · rw [hrows, Option.isSome_map]
    rcases hnew entry_id entry hget with hold | ⟨conversation_id, hmem, sequence, rfl⟩
    · exact hsound.owned entry_id entry hold
    · obtain ⟨row, hrow, -⟩ := (hstranded conversation_id).mp hmem
      exact Option.isSome_iff_exists.mpr ⟨row, hrow⟩
  · rw [hrows] at hrow'
    obtain ⟨row, hrow, rfl⟩ := Option.map_eq_some_iff.mp hrow'
    obtain ⟨n, hcoherent⟩ := hsound.coherent conversation_id row hrow
    unfold OperatorConversation.repaired
    split
    · next hrunning =>
      have hstate : row.state = .running := by
        rw [OperatorConversation.is_stranded, Bool.and_eq_true, beq_iff_eq] at hrunning
        exact hrunning.1
      have hodd := hcoherent.running.mp hstate
      have heven : ¬ (n + 1) % 2 = 1 := by omega
      obtain ⟨hhistory, hlast⟩ := hrepaired.closed conversation_id
        ((hstranded conversation_id).mpr ⟨row, hrow, hrunning⟩) n (hmiddle ▸ hcoherent.history) hodd
      refine ⟨n + 1, hhistory, by simp, by simp [heven], fun hzero => by omega, fun entry_id entry _ hat => ?_⟩
      rw [hlast entry_id entry hat]
      exact build_interruption_entry_closing_state _ _ _
    · next hnot =>
      have hmem : conversation_id ∉ stranded := by
        intro hmem
        obtain ⟨found, hfound, hrunning⟩ := (hstranded conversation_id).mp hmem
        obtain rfl := Option.some.inj (hrow.symm.trans hfound)
        exact hnot hrunning
      refine ⟨n, hcoherent.congr ?_⟩
      rw [← hmiddle]
      exact hrepaired.others conversation_id hmem
  · rcases hnew entry_id entry hget with hold | ⟨conversation_id, -, sequence, rfl⟩
    · exact hsound.keyed entry_id entry hold
    · exact ⟨rfl, rfl⟩
  · rcases hnew entry_id entry hget with hold | ⟨conversation_id, -, sequence, rfl⟩
    · rcases hnew entry_id' entry' hget' with hold' | ⟨conversation_id', -, sequence', rfl⟩
      · exact hsound.keys _ _ _ _ key hold hold' hsame hkey hkey'
      · cases hkey'
    · cases hkey

theorem create_operator_conversation_sound {conversation_id created : ConversationId}
    {idempotency_key provider : String} {model effort : Option String} (hsound : DbSound sha256 db)
    (h : create_operator_conversation db conversation_id idempotency_key provider model effort = .ok (created, db')) :
    db' = db ∨ (DbSound sha256 db' ∧ db'.entries = db.entries ∧ db.conversations.get? conversation_id = none ∧
      ∃ row : OperatorConversation, row.active_turn_id = none ∧
        db'.conversations = db.conversations.set conversation_id row) := by
  unfold create_operator_conversation at h
  split at h
  · next conversations hinsert =>
    cases h
    obtain ⟨-, hfree, rfl⟩ := Table.insertUnique_eq_some.mp hinsert
    refine .inr ⟨⟨fun entry_id entry hget => ?_, fun found row hrow => ?_, hsound.keyed, hsound.keys⟩, rfl, hfree,
      _, rfl, rfl⟩
    · rw [Table.get?_set]
      split
      · rfl
      · exact hsound.owned entry_id entry hget
    · rw [Table.get?_set] at hrow
      split at hrow
      · next heq =>
        subst heq
        obtain rfl := Option.some.inj hrow
        have hempty : History db.entries found 0 := .empty fun entry_id entry hget heq => by
          have howned := hsound.owned entry_id entry hget
          rw [heq, hfree] at howned
          cases howned
        refine ⟨0, hempty, by simp, by simp, fun _ => rfl, fun entry_id entry _ hat => ?_⟩
        have hpos := (hempty.bounded _ _ _ hat).1
        omega
      · exact hsound.coherent found row hrow
  · split at h
    · cases h
      exact .inl rfl
    · cases h

end Operator

end OhMySubagents
