import Mathlib.Data.List.Basic
import Mathlib.Tactic.Common

namespace Utf8

/-- The byte ranges that may follow a leading byte, or `none` when no sequence starts with it. -/
def tails (lead : UInt8) : Option (List (UInt8 × UInt8)) :=
  if lead < 0x80 then some []
  else if lead < 0xC2 then none
  else if lead < 0xE0 then some [(0x80, 0xBF)]
  else if lead = 0xE0 then some [(0xA0, 0xBF), (0x80, 0xBF)]
  else if lead = 0xED then some [(0x80, 0x9F), (0x80, 0xBF)]
  else if lead < 0xF0 then some [(0x80, 0xBF), (0x80, 0xBF)]
  else if lead = 0xF0 then some [(0x90, 0xBF), (0x80, 0xBF), (0x80, 0xBF)]
  else if lead < 0xF4 then some [(0x80, 0xBF), (0x80, 0xBF), (0x80, 0xBF)]
  else if lead = 0xF4 then some [(0x80, 0x8F), (0x80, 0xBF), (0x80, 0xBF)]
  else none

/-- The bytes that match the ranges from the front, and whether every range was matched, one was missed, or the bytes
    ran out. -/
inductive Matched
  | all
  | missed (matched : Nat)
  | short
  deriving DecidableEq, Repr

def matches_tails : List (UInt8 × UInt8) → List UInt8 → Matched
  | [], _ => .all
  | _ :: _, [] => .short
  | (low, high) :: ranges, byte :: bytes =>
    if low ≤ byte && byte ≤ high then
      match matches_tails ranges bytes with
      | .missed matched => .missed (matched + 1)
      | other => other
    else .missed 0

/-- What stands at the front of a byte string: a character of some size, the maximal part of a malformed one, or a
    sequence that breaks off. -/
inductive Front
  | character (char : Char) (size : Nat)
  | malformed (size : Nat)
  | truncated
  deriving DecidableEq, Repr

/-- The scalar value of a well-formed sequence, from the payload bits of its leading byte on. -/
def scalar (lead : UInt8) (following : List UInt8) : Nat :=
  following.foldl (fun value byte => value * 64 + byte.toNat % 64)
    (match following.length with
      | 0 => lead.toNat
      | 1 => lead.toNat % 32
      | 2 => lead.toNat % 16
      | _ => lead.toNat % 8)

def front (lead : UInt8) (bytes : List UInt8) : Front :=
  match tails lead with
  | none => .malformed 1
  | some ranges =>
    match matches_tails ranges bytes with
    | .all => .character (Char.ofNat (scalar lead (bytes.take ranges.length))) (ranges.length + 1)
    | .missed matched => .malformed (matched + 1)
    | .short => .truncated

def replacement : Char := '\uFFFD'

/-- A surrogate that breaks off after two bytes is kept back while more bytes may come, though it is malformed. -/
def truncated_surrogate : UInt8 → List UInt8 → Bool
  | lead, [byte] => lead == 0xED && 0xA0 ≤ byte && byte ≤ 0xBF
  | _, _ => false

/-- Decode bytes, of which the first `skipped` belong to what was decoded before, with a replacement character for
    every malformed part. The second component is what is kept back for want of more bytes; nothing is at the end. -/
def decode_from (final : Bool) : Nat → List UInt8 → List Char × List UInt8
  | _, [] => ([], [])
  | skipped + 1, _ :: bytes => decode_from final skipped bytes
  | 0, lead :: bytes =>
    if !final && truncated_surrogate lead bytes then ([], lead :: bytes)
    else
      match front lead bytes with
      | .character char size =>
        let (text, kept) := decode_from final (size - 1) bytes
        (char :: text, kept)
      | .malformed size =>
        let (text, kept) := decode_from final (size - 1) bytes
        (replacement :: text, kept)
      | .truncated => if final then ([replacement], []) else ([], lead :: bytes)

/-- The text of a complete byte string. -/
def decode (bytes : List UInt8) : List Char := (decode_from true 0 bytes).1

example : decode [0x61, 0xE2, 0x82, 0xAC, 0xF0, 0x9F, 0x98] = ['a', '€', replacement] := by decide
example : decode_from false 0 [0x61, 0xED, 0xA0] = (['a'], [0xED, 0xA0]) := by decide
example : decode [0xED, 0xA0, 0x80] = [replacement, replacement, replacement] := by decide

variable {ranges : List (UInt8 × UInt8)} {lead : UInt8} {bytes kept more : List UInt8} {text : List Char}
  {skipped matched size : Nat} {final : Bool}

theorem matches_tails_append (h : matches_tails ranges bytes ≠ .short) (more : List UInt8) :
    matches_tails ranges (bytes ++ more) = matches_tails ranges bytes := by
  induction ranges generalizing bytes with
  | nil => rfl
  | cons range ranges ih =>
    cases bytes with
    | nil => exact (h rfl).elim
    | cons byte bytes =>
      obtain ⟨low, high⟩ := range
      simp only [List.cons_append, matches_tails] at h ⊢
      split
      · next hrange =>
        rw [ih fun hshort => ?_]
        rw [hrange, hshort] at h
        exact h rfl
      · rfl

theorem length_of_all (h : matches_tails ranges bytes = .all) : ranges.length ≤ bytes.length := by
  induction ranges generalizing bytes with
  | nil => exact Nat.zero_le _
  | cons range ranges ih =>
    cases bytes with
    | nil => cases h
    | cons byte bytes =>
      obtain ⟨low, high⟩ := range
      simp only [matches_tails] at h
      split at h
      · split at h
        · cases h
        · exact Nat.succ_le_succ (ih h)
      · cases h

theorem length_of_missed (h : matches_tails ranges bytes = .missed matched) : matched < bytes.length := by
  induction ranges generalizing bytes matched with
  | nil => cases h
  | cons range ranges ih =>
    cases bytes with
    | nil => cases h
    | cons byte bytes =>
      obtain ⟨low, high⟩ := range
      simp only [matches_tails] at h
      split at h
      · split at h
        · next hmissed =>
          cases h
          exact Nat.succ_lt_succ (ih hmissed)
        · next hother => exact (hother _ h).elim
      · cases h
        exact Nat.zero_lt_succ _

theorem length_of_short (h : matches_tails ranges bytes = .short) : bytes.length < ranges.length := by
  induction ranges generalizing bytes with
  | nil => cases h
  | cons range ranges ih =>
    cases bytes with
    | nil => exact Nat.zero_lt_succ _
    | cons byte bytes =>
      obtain ⟨low, high⟩ := range
      simp only [matches_tails] at h
      split at h
      · split at h
        · cases h
        · exact Nat.succ_lt_succ (ih h)
      · cases h

theorem length_tails (h : tails lead = some ranges) : ranges.length ≤ 3 := by
  unfold tails at h
  repeat' split at h
  all_goals cases h
  all_goals decide

/-- What stands at the front does not change with what comes behind it, unless it breaks off. -/
theorem front_append (h : front lead bytes ≠ .truncated) (more : List UInt8) :
    front lead (bytes ++ more) = front lead bytes := by
  unfold front at h ⊢
  cases htails : tails lead with
  | none => rfl
  | some ranges =>
    simp only [htails] at h ⊢
    cases hmatched : matches_tails ranges bytes with
    | all =>
      rw [matches_tails_append (by simp [hmatched]), hmatched]
      simp only [List.take_append_of_le_length (length_of_all hmatched)]
    | missed matched => rw [matches_tails_append (by simp [hmatched]), hmatched]
    | short =>
      rw [hmatched] at h
      exact (h rfl).elim

theorem length_of_character {char : Char} (h : front lead bytes = .character char size) :
    1 ≤ size ∧ size - 1 ≤ bytes.length := by
  unfold front at h
  split at h
  · cases h
  · split at h
    · next hall =>
      cases h
      exact ⟨Nat.le_add_left 1 _, length_of_all hall⟩
    · cases h
    · cases h

theorem length_of_malformed (h : front lead bytes = .malformed size) : 1 ≤ size ∧ size - 1 ≤ bytes.length := by
  unfold front at h
  split at h
  · cases h
    exact ⟨Nat.le_refl 1, Nat.zero_le _⟩
  · split at h
    · cases h
    · next hmissed =>
      cases h
      exact ⟨Nat.le_add_left 1 _, Nat.le_of_lt (length_of_missed hmissed)⟩
    · cases h

theorem length_of_truncated (h : front lead bytes = .truncated) : bytes.length < 3 := by
  unfold front at h
  split at h
  · cases h
  · next htails =>
    split at h
    · cases h
    · cases h
    · next hshort => exact Nat.lt_of_lt_of_le (length_of_short hshort) (length_tails htails)

theorem length_of_truncated_surrogate (h : truncated_surrogate lead bytes = true) : bytes.length = 1 := by
  unfold truncated_surrogate at h
  split at h
  · rfl
  · cases h

/-- What is not held back does not become so by what comes behind it. -/
theorem truncated_surrogate_append (h : truncated_surrogate lead bytes = false) (hfront : front lead bytes ≠ .truncated)
    (more : List UInt8) : truncated_surrogate lead (bytes ++ more) = false := by
  match bytes, more with
  | [], [] => rfl
  | [], [byte] =>
    have hlead : lead ≠ 0xED := by
      rintro rfl
      exact hfront (by decide)
    simp [truncated_surrogate, hlead]
  | [], _ :: _ :: _ => rfl
  | [byte], [] => exact h
  | [_], _ :: _ => rfl
  | _ :: _ :: _, _ => rfl

/-- What is kept back is the end of what was read, and at most three bytes; at the end of the input nothing is. -/
theorem decode_from_kept (hskipped : skipped ≤ bytes.length) (h : decode_from final skipped bytes = (text, kept)) :
    kept <:+ bytes ∧ kept.length ≤ 3 ∧ (final = true → kept = []) := by
  induction bytes generalizing skipped text with
  | nil =>
    cases h
    exact ⟨List.suffix_rfl, Nat.zero_le _, fun _ => rfl⟩
  | cons lead bytes ih =>
    cases skipped with
    | succ skipped =>
      obtain ⟨hsuffix, hrest⟩ := ih (Nat.le_of_succ_le_succ hskipped) h
      exact ⟨hsuffix.trans (List.suffix_cons _ _), hrest⟩
    | zero =>
      rw [decode_from] at h
      split at h
      · next hheld =>
        cases h
        rw [Bool.and_eq_true, Bool.not_eq_true'] at hheld
        refine ⟨List.suffix_rfl, ?_, by simp [hheld.1]⟩
        rw [List.length_cons, length_of_truncated_surrogate hheld.2]
        decide
      · split at h
        · next hfront =>
          cases h
          obtain ⟨hsuffix, hrest⟩ := ih (length_of_character hfront).2 rfl
          exact ⟨hsuffix.trans (List.suffix_cons _ _), hrest⟩
        · next hfront =>
          cases h
          obtain ⟨hsuffix, hrest⟩ := ih (length_of_malformed hfront).2 rfl
          exact ⟨hsuffix.trans (List.suffix_cons _ _), hrest⟩
        · next hfront =>
          split at h
          · cases h
            exact ⟨List.nil_suffix, Nat.zero_le _, fun _ => rfl⟩
          · next hopen =>
            cases h
            exact ⟨List.suffix_rfl, length_of_truncated hfront, fun hfinal => (hopen hfinal).elim⟩

/-- Decoding goes on where it stopped: from what was kept back, followed by what comes later. -/
theorem decode_from_append (hskipped : skipped ≤ bytes.length) (h : decode_from false skipped bytes = (text, kept))
    (final : Bool) (more : List UInt8) : decode_from final skipped (bytes ++ more) =
      (text ++ (decode_from final 0 (kept ++ more)).1, (decode_from final 0 (kept ++ more)).2) := by
  induction bytes generalizing skipped text with
  | nil =>
    cases h
    obtain rfl := Nat.le_zero.mp hskipped
    rfl
  | cons lead bytes ih =>
    cases skipped with
    | succ skipped => exact ih (Nat.le_of_succ_le_succ hskipped) h
    | zero =>
      rw [decode_from] at h
      split at h
      · cases h
        rfl
      · next hheld =>
        simp only [Bool.not_false, Bool.true_and, Bool.not_eq_true] at hheld
        split at h
        · next char size hfront =>
          cases h
          have htail := ih (length_of_character hfront).2 rfl
          rw [List.cons_append, decode_from, truncated_surrogate_append hheld (by simp [hfront]), Bool.and_false,
            front_append (by simp [hfront]), hfront]
          simp only [Bool.false_eq_true, if_false, htail, List.cons_append]
        · next size hfront =>
          cases h
          have htail := ih (length_of_malformed hfront).2 rfl
          rw [List.cons_append, decode_from, truncated_surrogate_append hheld (by simp [hfront]), Bool.and_false,
            front_append (by simp [hfront]), hfront]
          simp only [Bool.false_eq_true, if_false, htail, List.cons_append]
        · simp only [Bool.false_eq_true, if_false] at h
          cases h
          rfl

/-- Decode bytes, of which the first `skipped` belong to what was decoded before, or fail at a malformed part. -/
def decode_strict_from : Nat → List UInt8 → Option (List Char)
  | _, [] => some []
  | skipped + 1, _ :: bytes => decode_strict_from skipped bytes
  | 0, lead :: bytes =>
    match front lead bytes with
    | .character char size => (char :: ·) <$> decode_strict_from (size - 1) bytes
    | _ => none

/-- The text of a byte string that is well formed. -/
def decode_strict (bytes : List UInt8) : Option (List Char) := decode_strict_from 0 bytes

theorem decode_strict_ascii {chars : List Char} (h : ∀ c ∈ chars, c.toNat < 0x80) :
    decode_strict (chars.map fun c => UInt8.ofNat c.toNat) = some chars := by
  induction chars with
  | nil => rfl
  | cons c chars ih =>
    obtain ⟨hc, hchars⟩ := List.forall_mem_cons.mp h
    have hlead : (UInt8.ofNat c.toNat).toNat = c.toNat := UInt8.toNat_ofNat_of_lt' (Nat.lt_trans hc (by decide))
    have htails : tails (UInt8.ofNat c.toNat) = some [] := by
      unfold tails
      rw [if_pos]
      rw [UInt8.lt_iff_toNat_lt, hlead]
      exact hc
    have hfront : front (UInt8.ofNat c.toNat) (chars.map fun c => UInt8.ofNat c.toNat) = .character c 1 := by
      unfold front
      rw [htails]
      simp only [matches_tails, List.length_nil, List.take_zero, scalar, List.foldl_nil, hlead, Char.ofNat_toNat]
    rw [decode_strict, List.map_cons, decode_strict_from, hfront]
    exact congrArg (Option.map (c :: ·)) (ih hchars)

end Utf8
