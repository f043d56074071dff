import Mathlib.Data.List.Basic
import Mathlib.Tactic.Common
import Mathlib.Tactic.IntervalCases

namespace Base64

/-- A digit of the URL-safe alphabet, as a code point. -/
def digit_point (digit : Nat) : Nat :=
  if digit < 26 then 0x41 + digit
  else if digit < 52 then 0x61 + (digit - 26)
  else if digit < 62 then 0x30 + (digit - 52)
  else if digit = 62 then 0x2D
  else 0x5F

/-- The digit that a code point stands for in the URL-safe alphabet or in the plain one. -/
def digit_of (point : Nat) : Option Nat :=
  if 0x41 ≤ point ∧ point ≤ 0x5A then some (point - 0x41)
  else if 0x61 ≤ point ∧ point ≤ 0x7A then some (point - 0x61 + 26)
  else if 0x30 ≤ point ∧ point ≤ 0x39 then some (point - 0x30 + 52)
  else if point = 0x2D ∨ point = 0x2B then some 62
  else if point = 0x5F ∨ point = 0x2F then some 63
  else none

/-- `urlsafe_b64encode`, stripped of the padding at its end. -/
def urlsafe_b64encode : List UInt8 → List Nat
  | [] => []
  | [a] => [digit_point (a.toNat / 4), digit_point (a.toNat % 4 * 16)]
  | [a, b] => [digit_point (a.toNat / 4), digit_point (a.toNat % 4 * 16 + b.toNat / 16), digit_point (b.toNat % 16 * 4)]
  | a :: b :: c :: bytes =>
    digit_point (a.toNat / 4) :: digit_point (a.toNat % 4 * 16 + b.toNat / 16) ::
      digit_point (b.toNat % 16 * 4 + c.toNat / 64) :: digit_point (c.toNat % 64) :: urlsafe_b64encode bytes

/-- The padding that a text of digits wants. -/
def padding (text : List Nat) : List Nat := List.replicate ((4 - text.length % 4) % 4) 0x3D

/-- `a2b_base64` from within a group of four digits: `quad_pos` of them are read, `leftchar` is what is left of the last
    one, and `pads` padding characters were seen since. Other characters are skipped, and padding that completes a group
    ends the text. -/
def a2b_base64 (quad_pos leftchar pads : Nat) : List Nat → Option (List UInt8)
  | [] => if quad_pos = 0 then some [] else none
  | point :: text =>
    if point = 0x3D then
      if 2 ≤ quad_pos then
        if 4 ≤ quad_pos + (pads + 1) then some [] else a2b_base64 quad_pos leftchar (pads + 1) text
      else a2b_base64 quad_pos leftchar pads text
    else
      match digit_of point with
      | none => a2b_base64 quad_pos leftchar pads text
      | some digit =>
        match quad_pos with
        | 0 => a2b_base64 1 digit 0 text
        | 1 => (UInt8.ofNat (leftchar * 4 + digit / 16) :: ·) <$> a2b_base64 2 (digit % 16) 0 text
        | 2 => (UInt8.ofNat (leftchar * 16 + digit / 4) :: ·) <$> a2b_base64 3 (digit % 4) 0 text
        | _ => (UInt8.ofNat (leftchar * 64 + digit) :: ·) <$> a2b_base64 0 0 0 text

/-- `urlsafe_b64decode` of a text; it fails for characters beyond ASCII and for a group that breaks off. -/
def urlsafe_b64decode (text : List Nat) : Option (List UInt8) :=
  if text.all (· < 0x80) then a2b_base64 0 0 0 text else none

section RoundTrip

variable {digit quad_pos leftchar pads : Nat} {text : List Nat}

theorem digit_of_digit_point (h : digit < 64) : digit_of (digit_point digit) = some digit ∧
    digit_point digit ≠ 0x3D ∧ digit_point digit < 0x80 := by
  revert digit
  decide

theorem a2b_first (h : digit < 64) :
    a2b_base64 0 leftchar pads (digit_point digit :: text) = a2b_base64 1 digit 0 text := by
  obtain ⟨hdigit, hpad, -⟩ := digit_of_digit_point h
  rw [a2b_base64, if_neg hpad, hdigit]
  rfl

theorem a2b_second (h : digit < 64) {byte : UInt8} (hbyte : leftchar * 4 + digit / 16 = byte.toNat) :
    a2b_base64 1 leftchar pads (digit_point digit :: text) = (byte :: ·) <$> a2b_base64 2 (digit % 16) 0 text := by
  obtain ⟨hdigit, hpad, -⟩ := digit_of_digit_point h
  rw [a2b_base64, if_neg hpad, hdigit]
  dsimp only
  rw [hbyte, UInt8.ofNat_toNat]
  rfl

theorem a2b_third (h : digit < 64) {byte : UInt8} (hbyte : leftchar * 16 + digit / 4 = byte.toNat) :
    a2b_base64 2 leftchar pads (digit_point digit :: text) = (byte :: ·) <$> a2b_base64 3 (digit % 4) 0 text := by
  obtain ⟨hdigit, hpad, -⟩ := digit_of_digit_point h
  rw [a2b_base64, if_neg hpad, hdigit]
  dsimp only
  rw [hbyte, UInt8.ofNat_toNat]
  rfl

theorem a2b_fourth (h : digit < 64) {byte : UInt8} (hbyte : leftchar * 64 + digit = byte.toNat) :
    a2b_base64 3 leftchar pads (digit_point digit :: text) = (byte :: ·) <$> a2b_base64 0 0 0 text := by
  obtain ⟨hdigit, hpad, -⟩ := digit_of_digit_point h
  rw [a2b_base64, if_neg hpad, hdigit]
  dsimp only
  rw [hbyte, UInt8.ofNat_toNat]
  rfl

theorem urlsafe_b64encode_ascii (bytes : List UInt8) : ∀ point ∈ urlsafe_b64encode bytes, point < 0x80 := by
  have hascii : ∀ digit, digit < 64 → digit_point digit < 0x80 := fun digit h => (digit_of_digit_point h).2.2
  fun_induction urlsafe_b64encode bytes with
  | case1 => nofun
  | case2 a =>
    have := a.toNat_lt
    simp only [List.forall_mem_cons]
    exact ⟨hascii _ (by omega), hascii _ (by omega), nofun⟩
  | case3 a b =>
    have := a.toNat_lt
    have := b.toNat_lt
    simp only [List.forall_mem_cons]
    exact ⟨hascii _ (by omega), hascii _ (by omega), hascii _ (by omega), nofun⟩
  | case4 a b c bytes ih =>
    have := a.toNat_lt
    have := b.toNat_lt
    have := c.toNat_lt
    simp only [List.forall_mem_cons]
    exact ⟨hascii _ (by omega), hascii _ (by omega), hascii _ (by omega), hascii _ (by omega), ih⟩

/-- What was encoded is read with the padding that was stripped. -/
theorem a2b_urlsafe_b64encode (bytes : List UInt8) :
    a2b_base64 0 0 0 (urlsafe_b64encode bytes ++ padding (urlsafe_b64encode bytes)) = some bytes := by
  fun_induction urlsafe_b64encode bytes with
  | case1 => rfl
  | case2 a =>
    have ha := a.toNat_lt
    simp only [List.cons_append, List.nil_append]
    rw [a2b_first (by omega), @a2b_second _ _ _ _ (by omega) a (by omega)]
    rfl
  | case3 a b =>
    have ha := a.toNat_lt
    have hb := b.toNat_lt
    simp only [List.cons_append, List.nil_append]
    rw [a2b_first (by omega), @a2b_second _ _ _ _ (by omega) a (by omega), @a2b_third _ _ _ _ (by omega) b (by omega)]
    rfl
  | case4 a b c bytes ih =>
    have ha := a.toNat_lt
    have hb := b.toNat_lt
    have hc := c.toNat_lt
    have hpadding : ∀ w x y z (text : List Nat), padding (w :: x :: y :: z :: text) = padding text := by
      intro w x y z text
      rw [padding, padding]
      simp only [List.length_cons]
      congr 2
      omega
    simp only [List.cons_append, hpadding]
    rw [a2b_first (by omega), @a2b_second _ _ _ _ (by omega) a (by omega), @a2b_third _ _ _ _ (by omega) b (by omega),
      @a2b_fourth _ _ _ _ (by omega) c (by omega), ih]
    rfl

theorem urlsafe_b64decode_encode (bytes : List UInt8) :
    urlsafe_b64decode (urlsafe_b64encode bytes ++ padding (urlsafe_b64encode bytes)) = some bytes := by
  rw [urlsafe_b64decode, if_pos, a2b_urlsafe_b64encode]
  simp only [List.all_append, Bool.and_eq_true, List.all_eq_true, decide_eq_true_eq]
  refine ⟨urlsafe_b64encode_ascii bytes, fun point hpoint => ?_⟩
  rw [List.eq_of_mem_replicate hpoint]
  decide

end RoundTrip

end Base64
