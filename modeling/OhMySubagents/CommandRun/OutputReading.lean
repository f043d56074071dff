import Mathlib.Algebra.GroupWithZero.Nat
import OhMySubagents.CommandRun.OutputPages

namespace OhMySubagents

/-- Read pages of a file from an offset on, following `next_offset` until it is absent. Each read has a byte limit of
    its own; the result is `none` when the reads do not suffice. -/
def follow_next_offset (source : CommandRunLogSource) (file : List UInt8) (limits : Nat → Nat) :
    (reads index offset : Nat) → Option (List CommandRunLogReadResponse)
  | 0, _, _ => none
  | reads + 1, index, offset =>
    let page := command_log_response source file offset (limits index) true
    match page.next_offset with
    | none => some [page]
    | some next => (follow_next_offset source file limits reads (index + 1) next).map (page :: ·)

variable {source : CommandRunLogSource} {file : List UInt8} {limits : Nat → Nat} {offset byte_limit : Nat}

/-- What one read inside the file returns. -/
structure PageSpec (file : List UInt8) (offset byte_limit : Nat) (page : CommandRunLogReadResponse) : Prop where
  offset_eq : page.offset = offset
  bounded : page.bytes_read ≤ byte_limit + 3
  inside : offset + page.bytes_read ≤ file.length
  advances : offset < file.length → 1 ≤ page.bytes_read
  next_offset : page.next_offset =
    if offset + page.bytes_read < file.length then some (offset + page.bytes_read) else none
  text : Utf8.decode (file.drop offset) = page.content ++ Utf8.decode (file.drop (offset + page.bytes_read))

theorem decode_utf8_page_nil (is_end_of_file : Bool) : decode_utf8_page [] byte_limit is_end_of_file = ([], 0) := by
  simp [decode_utf8_page]

theorem command_log_response_spec (hoffset : offset ≤ file.length) (hlimit : 1 ≤ byte_limit) :
    PageSpec file offset byte_limit (command_log_response source file offset byte_limit true) := by
  have hselected : min offset file.length = offset := Nat.min_eq_left hoffset
  simp only [command_log_response, read_workspace_regular_file_range, hselected, if_true]
  generalize hpage : decode_utf8_page ((file.drop offset).take (byte_limit + 3)) byte_limit
    (decide (file.length ≤ offset + ((file.drop offset).take (byte_limit + 3)).length)) = page
  obtain ⟨content, consumed⟩ := page
  have hlength : ((file.drop offset).take (byte_limit + 3)).length = min (byte_limit + 3) (file.length - offset) := by
    rw [List.length_take, List.length_drop]
  cases Nat.eq_or_lt_of_le hoffset with
  | inl hend =>
    have hdrop : file.drop offset = [] := List.drop_eq_nil_iff.mpr (Nat.le_of_eq hend.symm)
    rw [hdrop, List.take_nil, decode_utf8_page_nil] at hpage
    cases hpage
    exact ⟨rfl, Nat.zero_le _, hoffset, fun hlt => absurd hend (Nat.ne_of_lt hlt), rfl, rfl⟩
  | inr hlt =>
    have hpayload : (file.drop offset).take (byte_limit + 3) ≠ [] := by
      rw [← List.length_pos_iff, hlength]
      omega
    obtain ⟨hpos, hle, htext⟩ := decode_utf8_page_spec hpayload hlimit (by rw [decide_eq_true_iff]; omega) hpage
    refine ⟨rfl, ?_, ?_, fun _ => hpos, rfl, ?_⟩
    · exact Nat.le_trans hle (by rw [hlength]; exact Nat.min_le_left _ _)
    · have hinside := Nat.le_trans hle (Nat.le_trans (Nat.le_of_eq hlength) (Nat.min_le_right _ _))
      exact Nat.add_le_of_le_sub' hoffset hinside
    · -- what follows the payload in the file
      have hdecode := htext ((file.drop offset).drop (byte_limit + 3)) fun hfinal => ?_
      · rw [List.take_append_drop] at hdecode
        rw [hdecode, ← List.drop_append_of_le_length hle, List.take_append_drop, List.drop_drop]
      · rw [decide_eq_true_iff, hlength] at hfinal
        rw [List.drop_eq_nil_iff, List.length_drop]
        omega

/-- The pages of a file from an offset on: they tile it, each but the last advances, and their texts make up the text
    of what was left. -/
structure PagesFrom (file : List UInt8) (limits : Nat → Nat) (index offset : Nat)
    (pages : List CommandRunLogReadResponse) : Prop where
  starts : ∀ i page, pages[i]? = some page → page.offset = offset + ((pages.take i).map (·.bytes_read)).sum
  total : offset + (pages.map (·.bytes_read)).sum = file.length
  advances : ∀ i page next, pages[i]? = some page → page.next_offset = some next →
    next = page.offset + page.bytes_read ∧ 1 ≤ page.bytes_read ∧ page.bytes_read ≤ limits (index + i) + 3
  last : ∀ i page, pages[i]? = some page → (page.next_offset = none ↔ i + 1 = pages.length)
  text : pages.flatMap (·.content) = Utf8.decode (file.drop offset)

theorem PagesFrom.single {index : Nat} {page : CommandRunLogReadResponse}
    (hpage : PageSpec file offset (limits index) page) (hnext : page.next_offset = none) :
    PagesFrom file limits index offset [page] := by
  have hend : offset + page.bytes_read = file.length := by
    rw [hpage.next_offset] at hnext
    split at hnext
    · cases hnext
    · next hge => exact Nat.le_antisymm hpage.inside (Nat.le_of_not_lt hge)
  refine ⟨fun i other hget => ?_, by simpa using hend, fun i other next hget hother => ?_, fun i other hget => ?_, ?_⟩
  all_goals try obtain ⟨rfl, rfl⟩ : i = 0 ∧ page = other := by cases i <;> simp_all
  · simpa using hpage.offset_eq
  · rw [hnext] at hother
    cases hother
  · simp [hnext]
  · rw [hpage.text, hend, List.drop_length]
    simp [Utf8.decode, Utf8.decode_from]

theorem PagesFrom.cons {index next : Nat} {page : CommandRunLogReadResponse} {pages : List CommandRunLogReadResponse}
    (hpage : PageSpec file offset (limits index) page) (hnext : page.next_offset = some next)
    (hpages : PagesFrom file limits (index + 1) next pages) : PagesFrom file limits index offset (page :: pages) := by
  have hspec := hpage.next_offset
  rw [hnext] at hspec
  split at hspec
  · next hlt =>
    obtain rfl := Option.some.inj hspec
    refine ⟨fun i other hget => ?_, ?_, fun i other next hget hother => ?_, fun i other hget => ?_, ?_⟩
    · cases i with
      | zero =>
        obtain rfl : page = other := Option.some.inj hget
        simpa using hpage.offset_eq
      | succ i =>
        rw [hpages.starts i other hget, List.take_succ_cons, List.map_cons, List.sum_cons, Nat.add_assoc]
    · rw [← hpages.total, List.map_cons, List.sum_cons, Nat.add_assoc]
    · cases i with
      | zero =>
        obtain rfl : page = other := Option.some.inj hget
        obtain rfl := Option.some.inj (hnext.symm.trans hother)
        exact ⟨by rw [hpage.offset_eq], hpage.advances (by omega), hpage.bounded⟩
      | succ i =>
        have hadvances := hpages.advances i other next hget hother
        rwa [Nat.add_assoc, Nat.add_comm 1 i] at hadvances
    · cases i with
      | zero =>
        obtain rfl : page = other := Option.some.inj hget
        have hne : pages ≠ [] := by
          rintro rfl
          have htotal := hpages.total
          simp only [List.map_nil, List.sum_nil] at htotal
          omega
        simp [hnext, hne]
      | succ i => rw [hpages.last i other hget, List.length_cons, Nat.add_right_cancel_iff]
    · rw [hpage.text, List.flatMap_cons, hpages.text]
  · cases hspec

/-- As many reads as bytes are left, and one, suffice. -/
theorem follow_next_offset_reads (hlimits : ∀ k, 1 ≤ limits k) {index : Nat} (hoffset : offset ≤ file.length) :
    ∃ pages, PagesFrom file limits index offset pages ∧ ∀ reads, file.length - offset < reads →
      follow_next_offset source file limits reads index offset = some pages := by
  induction hleft : file.length - offset using Nat.strongRecOn generalizing index offset with
  | _ left ih =>
    have hpage := @command_log_response_spec source file offset _ hoffset (hlimits index)
    cases hnext : (command_log_response source file offset (limits index) true).next_offset with
    | none =>
      refine ⟨_, .single hpage hnext, fun reads hreads => ?_⟩
      obtain ⟨reads, rfl⟩ := Nat.exists_eq_succ_of_ne_zero (Nat.ne_of_gt (Nat.zero_lt_of_lt hreads))
      rw [follow_next_offset, hnext]
    | some next =>
      have hspec := hpage.next_offset
      rw [hnext] at hspec
      split at hspec
      · next hlt =>
        obtain hnext_eq := Option.some.inj hspec
        have hpos := hpage.advances (by omega)
        obtain ⟨pages, hpages, hfollow⟩ := @ih (file.length - next) (by omega) next (index + 1) (by omega) rfl
        refine ⟨_, .cons hpage hnext hpages, fun reads hreads => ?_⟩
        obtain ⟨reads, rfl⟩ := Nat.exists_eq_succ_of_ne_zero (Nat.ne_of_gt (Nat.zero_lt_of_lt hreads))
        rw [follow_next_offset, hnext]
        simp only [hfollow reads (by omega), Option.map_some]
      · cases hspec

/-- An accepted byte limit gives the page of the file. -/
theorem read_command_run_log_page (hlimit : 1 ≤ byte_limit) (hmax : byte_limit ≤ MAX_COMMAND_LOG_READ_BYTES) :
    read_command_run_log (some source) (.regular file) offset byte_limit true =
      .ok (command_log_response source file offset byte_limit true) := by
  rw [read_command_run_log, if_neg (not_not_intro ⟨hlimit, hmax⟩)]

/-- **Paging a log reassembles it.** For a file of any bytes and any byte limits of at least one, the reads end; the
    ranges they consumed tile the file, every page with a `next_offset` consumed between one byte and its limit plus
    three, and the texts of the pages make up the text of the whole file. -/
theorem command_log_reassembled (source : CommandRunLogSource) (file : List UInt8) (limits : Nat → Nat)
    (hlimits : ∀ k, 1 ≤ limits k) :
    (∃ pages, (∀ reads, file.length < reads → follow_next_offset source file limits reads 0 0 = some pages) ∧
      PagesFrom file limits 0 0 pages ∧ pages.flatMap (·.content) = Utf8.decode file) ∧
    ∀ k offset, limits k ≤ MAX_COMMAND_LOG_READ_BYTES →
      read_command_run_log (some source) (.regular file) offset (limits k) true =
        .ok (command_log_response source file offset (limits k) true) := by
  refine ⟨?_, fun k offset hmax => read_command_run_log_page (hlimits k) hmax⟩
  obtain ⟨pages, hpages, hfollow⟩ := @follow_next_offset_reads source file limits 0 hlimits 0
    (Nat.zero_le file.length)
  exact ⟨pages, hfollow, hpages, hpages.text⟩

/-- A euro sign and a broken emoji, read one byte at a time. -/
theorem command_log_reassembled_bytewise :
    ∃ pages, (∀ reads, 6 < reads → follow_next_offset ⟨"run.log", .succeeded, 6, true⟩
        [0xE2, 0x82, 0xAC, 0xF0, 0x9F, 0x98] (fun _ => 1) reads 0 0 = some pages) ∧
      PagesFrom [0xE2, 0x82, 0xAC, 0xF0, 0x9F, 0x98] (fun _ => 1) 0 0 pages ∧
      pages.flatMap (·.content) = ['€', Utf8.replacement] := by
  have hdecode : Utf8.decode [0xE2, 0x82, 0xAC, 0xF0, 0x9F, 0x98] = ['€', Utf8.replacement] := by decide
  rw [← hdecode]
  exact (command_log_reassembled ⟨"run.log", .succeeded, 6, true⟩ [0xE2, 0x82, 0xAC, 0xF0, 0x9F, 0x98] (fun _ => 1)
    fun _ => Nat.le_refl 1).1

end OhMySubagents
