import Mathlib.Algebra.Group.Nat.Defs
import Mathlib.Data.List.TakeWhile
import Mathlib.Tactic.Common
import OhMySubagents.Errors

/-- A text as the interpreter holds it: code points, lone surrogates among them. -/
abbrev CodePoints := List Nat

/-- A key of a dictionary. Keys that are no texts are not told apart. -/
inductive LoadedKey
  | text (points : CodePoints)
  | other
  deriving DecidableEq, Repr

/-- A number written with a fraction or an exponent: its digits, and the power of ten that they are multiplied by. -/
structure Decimal where
  negative : Bool
  digits : Nat
  scale : Int
  deriving DecidableEq, Repr

/-- A value that a loader returns. A float is what a decimal is rounded to, or not finite; a value of no JSON type is
    `other`. The pairs of an object stand in their order, and keys may repeat until the pairs become a dictionary. -/
inductive Loaded
  | null
  | bool (value : Bool)
  | int (value : Int)
  | float (value : Option Decimal)
  | string (points : CodePoints)
  | array (items : List Loaded)
  | object (pairs : List (LoadedKey × Loaded))
  | other

open OhMySubagents

namespace Json

/-- How `json.loads` fails: with `JSONDecodeError`, `RecursionError`, the `ValueError` of `int`, or with what
    `parse_constant` makes of a constant that is no JSON. -/
inductive LoadFailure
  | decode_error
  | recursion_error
  | value_error
  | constant (name : String)
  deriving DecidableEq, Repr

/-- The number of digits from which on `int` refuses a text. -/
def int_max_str_digits : Nat := 4300

def is_whitespace (c : Char) : Bool := c == ' ' || c == '\t' || c == '\n' || c == '\r'

def skip_whitespace (text : List Char) : List Char := text.dropWhile is_whitespace

def hex_value (c : Char) : Option Nat :=
  if '0' ≤ c ∧ c ≤ '9' then some (c.toNat - 0x30)
  else if 'a' ≤ c ∧ c ≤ 'f' then some (c.toNat - 0x57)
  else if 'A' ≤ c ∧ c ≤ 'F' then some (c.toNat - 0x37)
  else none

/-- The code unit that four hexadecimal digits stand for. -/
def unescape_unit (a b c d : Char) : Option Nat := do
  return (((← hex_value a) * 16 + (← hex_value b)) * 16 + (← hex_value c)) * 16 + (← hex_value d)

def escaped_point (c : Char) : Option Nat :=
  if c = '\x22' ∨ c = '\x5c' ∨ c = '/' then some c.toNat
  else if c = 'b' then some 0x08
  else if c = 'f' then some 0x0c
  else if c = 'n' then some 0x0a
  else if c = 'r' then some 0x0d
  else if c = 't' then some 0x09
  else none

/-- A string literal behind its opening quote, with every `\u` escape as one code unit. -/
def scan_string : List Char → Option (CodePoints × List Char)
  | [] => none
  | '\x22' :: text => some ([], text)
  | '\x5c' :: 'u' :: a :: b :: c :: d :: text => do
    let unit ← unescape_unit a b c d
    let (points, rest) ← scan_string text
    return (unit :: points, rest)
  | '\x5c' :: c :: text => do
    let point ← escaped_point c
    let (points, rest) ← scan_string text
    return (point :: points, rest)
  | c :: text =>
    if c.toNat ≤ 0x1f then none
    else do
      let (points, rest) ← scan_string text
      return (c.toNat :: points, rest)

def is_high_surrogate (point : Nat) : Bool := 0xD800 ≤ point && point ≤ 0xDBFF

def is_low_surrogate (point : Nat) : Bool := 0xDC00 ≤ point && point ≤ 0xDFFF

/-- Every high surrogate with a low one behind it becomes one code point. -/
def join_surrogates : CodePoints → CodePoints
  | high :: low :: points =>
    if is_high_surrogate high && is_low_surrogate low then
      (0x10000 + (high - 0xD800) * 0x400 + (low - 0xDC00)) :: join_surrogates points
    else high :: join_surrogates (low :: points)
  | points => points

structure Number where
  negative : Bool
  whole : List Char
  fraction : List Char
  exponent : Option (Bool × List Char)

def scan_sign (text : List Char) : Bool × List Char :=
  match text with
  | '-' :: rest => (true, rest)
  | text => (false, text)

def scan_whole (text : List Char) : Option (List Char × List Char) :=
  match text with
  | '0' :: rest => some (['0'], rest)
  | text => if (text.takeWhile Char.isDigit).isEmpty then none
    else some (text.takeWhile Char.isDigit, text.dropWhile Char.isDigit)

def scan_fraction (text : List Char) : List Char × List Char :=
  match text with
  | '.' :: rest =>
    if (rest.takeWhile Char.isDigit).isEmpty then ([], text)
    else (rest.takeWhile Char.isDigit, rest.dropWhile Char.isDigit)
  | text => ([], text)

def scan_exponent_sign (text : List Char) : Bool × List Char :=
  match text with
  | '+' :: rest => (false, rest)
  | text => scan_sign text

def scan_exponent (text : List Char) : Option (Bool × List Char) × List Char :=
  match text with
  | e :: rest =>
    let (negative, digits) := scan_exponent_sign rest
    if (e = 'e' ∨ e = 'E') ∧ digits.takeWhile Char.isDigit ≠ [] then
      (some (negative, digits.takeWhile Char.isDigit), digits.dropWhile Char.isDigit)
    else (none, text)
  | [] => (none, [])

/-- `-?(0|[1-9][0-9]*)(\.[0-9]+)?([eE][-+]?[0-9]+)?`. -/
def match_number (text : List Char) : Option (Number × List Char) := do
  let (whole, rest) ← scan_whole (scan_sign text).2
  let (fraction, rest) := scan_fraction rest
  let (exponent, rest) := scan_exponent rest
  return ({ negative := (scan_sign text).1, whole, fraction, exponent }, rest)

def digits_value (digits : List Char) : Nat := Nat.ofDigitChars 10 digits 0

end Json

namespace Decimal

/-- Whether the decimal is rounded to a finite double: it is nearer to one than to `2 ^ 1024`. -/
def is_finite (value : Decimal) : Bool :=
  value.digits * 10 ^ value.scale.toNat < (2 ^ 1024 - 2 ^ 970) * 10 ^ (-value.scale).toNat

/-- Whether the decimal is rounded to a power of two, whose neighbours are half as far below it as above. -/
def rounds_to (value : Decimal) (power : Nat) : Bool :=
  !value.negative &&
    power * (2 ^ 54 - 1) * 10 ^ (-value.scale).toNat ≤ value.digits * 10 ^ value.scale.toNat * 2 ^ 54 &&
    value.digits * 10 ^ value.scale.toNat * 2 ^ 53 ≤ power * (2 ^ 53 + 1) * 10 ^ (-value.scale).toNat

end Decimal

namespace Json

namespace Number

def is_float (number : Number) : Bool := !number.fraction.isEmpty || number.exponent.isSome

/-- The power of ten by which all the digits are multiplied. -/
def scale (number : Number) : Int :=
  (match number.exponent with
    | none => 0
    | some (negative, digits) => if negative then -(digits_value digits : Int) else digits_value digits) -
    number.fraction.length

def decimal (number : Number) : Decimal where
  negative := number.negative
  digits := digits_value (number.whole ++ number.fraction)
  scale := number.scale

/-- `float` of a number with a fraction or an exponent, and `int` of any other. -/
def value (number : Number) : Except LoadFailure Loaded :=
  if number.is_float then .ok (.float (if number.decimal.is_finite then some number.decimal else none))
  else if int_max_str_digits < number.whole.length then .error .value_error
  else .ok (.int (if number.negative then -(digits_value number.whole : Int) else digits_value number.whole))

end Number

section Scanning

variable (parse_constant : String → Except LoadFailure Loaded)

/-- A value that is no string, array or object. -/
def scan_scalar (text : List Char) : Except LoadFailure (Loaded × List Char) :=
  match text with
  | 'n' :: 'u' :: 'l' :: 'l' :: rest => .ok (.null, rest)
  | 't' :: 'r' :: 'u' :: 'e' :: rest => .ok (.bool true, rest)
  | 'f' :: 'a' :: 'l' :: 's' :: 'e' :: rest => .ok (.bool false, rest)
  | 'N' :: 'a' :: 'N' :: rest => do return (← parse_constant "NaN", rest)
  | 'I' :: 'n' :: 'f' :: 'i' :: 'n' :: 'i' :: 't' :: 'y' :: rest => do return (← parse_constant "Infinity", rest)
  | '-' :: 'I' :: 'n' :: 'f' :: 'i' :: 'n' :: 'i' :: 't' :: 'y' :: rest => do
    return (← parse_constant "-Infinity", rest)
  | text =>
    match match_number text with
    | none => .error .decode_error
    | some (number, rest) => do return (← number.value, rest)

/-- What stands behind a value in an array or an object. -/
inductive Delimiter
  | next (text : List Char)
  | closed (text : List Char)
  | missing

def scan_delimiter (close : Char) (text : List Char) : Delimiter :=
  match skip_whitespace text with
  | [] => .missing
  | c :: rest => if c = ',' then .next (skip_whitespace rest) else if c = close then .closed rest else .missing

/-- A key with the colon behind it. -/
def scan_key (text : List Char) : Option (CodePoints × List Char) :=
  match text with
  | '\x22' :: text => do
    let (points, rest) ← scan_string text
    match skip_whitespace rest with
    | ':' :: rest => some (join_surrogates points, skip_whitespace rest)
    | _ => none
  | _ => none

mutual

/-- A value at the front of a text, with the text behind it; `limit` is how deep arrays and objects may nest before
    the recursion limit is hit, and `fuel` bounds the calls. -/
def scan_once (fuel limit : Nat) (text : List Char) : Except LoadFailure (Loaded × List Char) :=
  match fuel with
  | 0 => .error .decode_error
  | fuel + 1 =>
    match text with
    | [] => .error .decode_error
    | c :: rest =>
      if c = '\x22' then
        match scan_string rest with
        | none => .error .decode_error
        | some (points, rest) => .ok (.string (join_surrogates points), rest)
      else if c = '[' then
        if limit = 0 then .error .recursion_error
        else if (skip_whitespace rest).head? = some ']' then .ok (.array [], (skip_whitespace rest).tail)
        else do
          let (items, rest) ← scan_items fuel (limit - 1) (skip_whitespace rest)
          return (.array items, rest)
      else if c = '\x7b' then
        if limit = 0 then .error .recursion_error
        else if (skip_whitespace rest).head? = some '\x7d' then .ok (.object [], (skip_whitespace rest).tail)
        else do
          let (pairs, rest) ← scan_pairs fuel (limit - 1) (skip_whitespace rest)
          return (.object pairs, rest)
      else scan_scalar parse_constant (c :: rest)

def scan_items (fuel limit : Nat) (text : List Char) : Except LoadFailure (List Loaded × List Char) :=
  match fuel with
  | 0 => .error .decode_error
  | fuel + 1 => do
    let (item, rest) ← scan_once fuel limit text
    match scan_delimiter ']' rest with
    | .missing => .error .decode_error
    | .closed rest => return ([item], rest)
    | .next rest =>
      let (items, rest) ← scan_items fuel limit rest
      return (item :: items, rest)

def scan_pairs (fuel limit : Nat) (text : List Char) : Except LoadFailure (List (LoadedKey × Loaded) × List Char) :=
  match fuel with
  | 0 => .error .decode_error
  | fuel + 1 =>
    match scan_key text with
    | none => .error .decode_error
    | some (key, rest) => do
      let (value, rest) ← scan_once fuel limit rest
      match scan_delimiter '\x7d' rest with
      | .missing => .error .decode_error
      | .closed rest => return ([(.text key, value)], rest)
      | .next rest =>
        let (pairs, rest) ← scan_pairs fuel limit rest
        return ((.text key, value) :: pairs, rest)

end

/-- `json.loads` of a text under a recursion limit, with every object as the list of its pairs. -/
def loads (limit : Nat) (text : List Char) : Except LoadFailure Loaded :=
  match text with
  | '\uFEFF' :: _ => .error .decode_error
  | text => do
    let (value, rest) ← scan_once parse_constant (2 * text.length + 1) limit (skip_whitespace text)
    if (skip_whitespace rest).isEmpty then return value
    .error .decode_error

end Scanning

/-- The `parse_constant` of a plain `json.loads`. -/
def float_constant (_ : String) : Except LoadFailure Loaded := .ok (.float none)

section Reading

variable {text rest : List Char} {points : CodePoints} {fuel limit : Nat}
  {parse_constant : String → Except LoadFailure Loaded}

/-- A text that stands behind something at the front of another. -/
def Behind (rest text : List Char) : Prop := rest <:+ text ∧ rest.length < text.length

theorem Behind.cons {c : Char} (h : rest <:+ text) : Behind rest (c :: text) :=
  ⟨h.trans (List.suffix_cons c text), Nat.lt_succ_of_le h.length_le⟩

theorem Behind.of_suffix {rest' : List Char} (h : Behind rest text) (hrest : rest' <:+ rest) : Behind rest' text :=
  ⟨hrest.trans h.1, Nat.lt_of_le_of_lt hrest.length_le h.2⟩

theorem Behind.trans {rest' : List Char} (h : Behind rest' rest) (h' : Behind rest text) : Behind rest' text :=
  h'.of_suffix h.1

theorem skip_whitespace_suffix (text : List Char) : skip_whitespace text <:+ text := List.dropWhile_suffix _

theorem scan_string_behind (h : scan_string text = some (points, rest)) : Behind rest text := by
  fun_induction scan_string text generalizing points with
  | case1 => cases h
  | case2 text =>
    cases h
    exact .cons List.suffix_rfl
  | case3 a b c d text ih =>
    obtain ⟨unit, -, h⟩ := Option.bind_eq_some_iff.mp h
    obtain ⟨⟨points, rest⟩, hscan, h⟩ := Option.bind_eq_some_iff.mp h
    cases h
    exact (ih hscan).trans ⟨List.suffix_append ['\x5c', 'u', a, b, c, d] text, by simp only [List.length_cons]; omega⟩
  | case4 c text hunit ih =>
    obtain ⟨point, -, h⟩ := Option.bind_eq_some_iff.mp h
    obtain ⟨⟨points, rest⟩, hscan, h⟩ := Option.bind_eq_some_iff.mp h
    cases h
    exact ((ih hscan).trans (.cons List.suffix_rfl)).trans (.cons List.suffix_rfl)
  | case5 => cases h
  | case6 c text hquote hunit hescape hcontrol ih =>
    obtain ⟨⟨points, rest⟩, hscan, h⟩ := Option.bind_eq_some_iff.mp h
    cases h
    exact (ih hscan).trans (.cons List.suffix_rfl)

theorem scan_sign_suffix (text : List Char) : (scan_sign text).2 <:+ text := by
  unfold scan_sign
  split
  · exact List.suffix_cons _ _
  · exact List.suffix_rfl

theorem scan_whole_eq_some {whole : List Char} (h : scan_whole text = some (whole, rest)) :
    text = whole ++ rest ∧ whole ≠ [] ∧ ∀ c ∈ whole, c.isDigit = true := by
  unfold scan_whole at h
  split at h
  · cases h
    exact ⟨rfl, List.cons_ne_nil _ _, by simp⟩
  · split at h
    · cases h
    · next hdigits =>
      cases h
      refine ⟨List.takeWhile_append_dropWhile.symm, fun hnil => hdigits (by rw [hnil]; rfl), fun c hc => ?_⟩
      exact List.mem_takeWhile_imp hc

theorem scan_fraction_suffix (text : List Char) : (scan_fraction text).2 <:+ text := by
  unfold scan_fraction
  split
  · split
    · exact List.suffix_rfl
    · exact (List.dropWhile_suffix _).trans (List.suffix_cons _ _)
  · exact List.suffix_rfl

theorem scan_exponent_sign_suffix (text : List Char) : (scan_exponent_sign text).2 <:+ text := by
  unfold scan_exponent_sign
  split
  · exact List.suffix_cons _ _
  · exact scan_sign_suffix _

theorem scan_exponent_suffix (text : List Char) : (scan_exponent text).2 <:+ text := by
  unfold scan_exponent
  split
  · next e rest =>
    dsimp only
    split
    · exact ((List.dropWhile_suffix _).trans (scan_exponent_sign_suffix rest)).trans (List.suffix_cons e rest)
    · exact List.suffix_rfl
  · exact List.suffix_rfl

/-- A number stands at the front of the text, and its whole digits somewhere in it. -/
theorem match_number_eq_some {number : Number} (h : match_number text = some (number, rest)) :
    Behind rest text ∧ number.whole <:+: text ∧ ∀ c ∈ number.whole, c.isDigit = true := by
  obtain ⟨⟨whole, behind⟩, hwhole, h⟩ := Option.bind_eq_some_iff.mp h
  cases h
  obtain ⟨hsplit, hnonempty, hdigits⟩ := scan_whole_eq_some hwhole
  have hsign := scan_sign_suffix text
  rw [hsplit] at hsign
  have hbehind : Behind behind text := by
    refine ⟨(List.suffix_append whole behind).trans hsign, Nat.lt_of_lt_of_le ?_ hsign.length_le⟩
    rw [List.length_append]
    exact Nat.lt_add_of_pos_left (List.length_pos_iff.mpr hnonempty)
  refine ⟨hbehind.of_suffix ((scan_exponent_suffix _).trans (scan_fraction_suffix _)), ?_, hdigits⟩
  exact (List.prefix_append whole behind).isInfix.trans hsign.isInfix

theorem scan_scalar_eq_ok {value : Loaded} (h : scan_scalar parse_constant text = .ok (value, rest)) :
    Behind rest text := by
  have hskip : ∀ {word more : List Char}, word ≠ [] → Behind more (word ++ more) := by
    intro word more hword
    refine ⟨List.suffix_append _ _, ?_⟩
    rw [List.length_append]
    exact Nat.lt_add_of_pos_left (List.length_pos_iff.mpr hword)
  unfold scan_scalar at h
  split at h
  · cases h
    exact @hskip ['n', 'u', 'l', 'l'] _ (List.cons_ne_nil _ _)
  · cases h
    exact @hskip ['t', 'r', 'u', 'e'] _ (List.cons_ne_nil _ _)
  · cases h
    exact @hskip ['f', 'a', 'l', 's', 'e'] _ (List.cons_ne_nil _ _)
  · obtain ⟨constant, -, h⟩ := bind_eq_ok_iff.mp h
    cases h
    exact @hskip ['N', 'a', 'N'] _ (List.cons_ne_nil _ _)
  · obtain ⟨constant, -, h⟩ := bind_eq_ok_iff.mp h
    cases h
    exact @hskip ['I', 'n', 'f', 'i', 'n', 'i', 't', 'y'] _ (List.cons_ne_nil _ _)
  · obtain ⟨constant, -, h⟩ := bind_eq_ok_iff.mp h
    cases h
    exact @hskip ['-', 'I', 'n', 'f', 'i', 'n', 'i', 't', 'y'] _ (List.cons_ne_nil _ _)
  · split at h
    · cases h
    · next number behind hnumber =>
      cases hvalue : number.value with
      | error failure =>
        rw [hvalue] at h
        cases h
      | ok read =>
        rw [hvalue] at h
        cases h
        exact (match_number_eq_some hnumber).1

theorem scan_delimiter_behind {close : Char} :
    (∀ rest, scan_delimiter close text = .next rest → Behind rest text) ∧
      ∀ rest, scan_delimiter close text = .closed rest → Behind rest text := by
  unfold scan_delimiter
  have hskip := skip_whitespace_suffix text
  split
  · exact ⟨nofun, nofun⟩
  · next c behind heq =>
    rw [heq] at hskip
    have hbehind : Behind behind text := ⟨(List.suffix_cons c behind).trans hskip, hskip.length_le⟩
    split
    · refine ⟨fun rest h => ?_, nofun⟩
      cases h
      exact hbehind.of_suffix (skip_whitespace_suffix _)
    · split
      · refine ⟨nofun, fun rest h => ?_⟩
        cases h
        exact hbehind
      · exact ⟨nofun, nofun⟩

theorem scan_key_behind (h : scan_key text = some (points, rest)) : Behind rest text := by
  unfold scan_key at h
  split at h
  · next text =>
    obtain ⟨⟨read, behind⟩, hread, h⟩ := Option.bind_eq_some_iff.mp h
    dsimp only at h
    have hskip := skip_whitespace_suffix behind
    split at h
    · next more heq =>
      cases h
      rw [heq] at hskip
      have hmore := (scan_string_behind hread).of_suffix ((List.suffix_cons _ _).trans hskip)
      exact (hmore.of_suffix (skip_whitespace_suffix _)).trans (.cons List.suffix_rfl)
    · cases h
  · cases h

/-- What was read stands at the front, whatever the fuel. -/
theorem scan_behind (parse_constant : String → Except LoadFailure Loaded) (fuel : Nat) :
    (∀ limit text value rest, scan_once parse_constant fuel limit text = .ok (value, rest) → Behind rest text) ∧
    (∀ limit text items rest, scan_items parse_constant fuel limit text = .ok (items, rest) → Behind rest text) ∧
    ∀ limit text pairs rest, scan_pairs parse_constant fuel limit text = .ok (pairs, rest) → Behind rest text := by
  induction fuel with
  | zero => exact ⟨nofun, nofun, nofun⟩
  | succ fuel ih =>
    obtain ⟨hvalue, hitems, hpairs⟩ := ih
    refine ⟨fun limit text value rest h => ?_, fun limit text items rest h => ?_, fun limit text pairs rest h => ?_⟩
    · match text with
      | [] =>
        rw [scan_once] at h
        cases h
      | c :: text =>
        have hskip := skip_whitespace_suffix text
        rw [scan_once] at h
        split at h
        · split at h
          · cases h
          · next points behind hstring =>
            cases h
            exact (scan_string_behind hstring).trans (.cons List.suffix_rfl)
        · split at h
          · split at h
            · cases h
            · split at h
              · cases h
                exact .cons ((List.tail_suffix _).trans hskip)
              · obtain ⟨⟨items, behind⟩, hscan, h⟩ := bind_eq_ok_iff.mp h
                cases h
                exact (hitems _ _ _ _ hscan).trans (.cons hskip)
          · split at h
            · split at h
              · cases h
              · split at h
                · cases h
                  exact .cons ((List.tail_suffix _).trans hskip)
                · obtain ⟨⟨pairs, behind⟩, hscan, h⟩ := bind_eq_ok_iff.mp h
                  cases h
                  exact (hpairs _ _ _ _ hscan).trans (.cons hskip)
            · exact scan_scalar_eq_ok h
    · rw [scan_items] at h
      obtain ⟨⟨item, behind⟩, hscan, h⟩ := bind_eq_ok_iff.mp h
      have hbehind := hvalue _ _ _ _ hscan
      dsimp only at h
      split at h
      · cases h
      · next more hclosed =>
        cases h
        exact (scan_delimiter_behind.2 _ hclosed).trans hbehind
      · next more hnext =>
        obtain ⟨⟨items, behind⟩, hscan, h⟩ := bind_eq_ok_iff.mp h
        cases h
        exact (hitems _ _ _ _ hscan).trans ((scan_delimiter_behind.1 _ hnext).trans hbehind)
    · rw [scan_pairs] at h
      split at h
      · cases h
      · next key behind hkey =>
        obtain ⟨⟨value, behind⟩, hscan, h⟩ := bind_eq_ok_iff.mp h
        have hbehind := (hvalue _ _ _ _ hscan).trans (scan_key_behind hkey)
        dsimp only at h
        split at h
        · cases h
        · next more hclosed =>
          cases h
          exact (scan_delimiter_behind.2 _ hclosed).trans hbehind
        · next more hnext =>
          obtain ⟨⟨pairs, behind⟩, hscan, h⟩ := bind_eq_ok_iff.mp h
          cases h
          exact (hpairs _ _ _ _ hscan).trans ((scan_delimiter_behind.1 _ hnext).trans hbehind)

/-- More fuel than the text needs changes nothing. -/
theorem scan_fuel (fuel : Nat) :
    (∀ limit text, 2 * text.length + 1 ≤ fuel →
      scan_once parse_constant (fuel + 1) limit text = scan_once parse_constant fuel limit text) ∧
    (∀ limit text, 2 * text.length + 2 ≤ fuel →
      scan_items parse_constant (fuel + 1) limit text = scan_items parse_constant fuel limit text) ∧
    ∀ limit text, 2 * text.length + 2 ≤ fuel →
      scan_pairs parse_constant (fuel + 1) limit text = scan_pairs parse_constant fuel limit text := by
  induction fuel with
  | zero => exact ⟨fun _ _ h => by omega, fun _ _ h => by omega, fun _ _ h => by omega⟩
  | succ fuel ih =>
    obtain ⟨hvalue, hitems, hpairs⟩ := ih
    refine ⟨fun limit text h => ?_, fun limit text h => ?_, fun limit text h => ?_⟩
    · match text with
      | [] => rw [scan_once, scan_once]
      | c :: text =>
        have hskip := (skip_whitespace_suffix text).length_le
        rw [List.length_cons] at h
        rw [scan_once, scan_once, hitems _ _ (by omega), hpairs _ _ (by omega)]
    · rw [scan_items, scan_items, hvalue _ _ (by omega)]
      cases hscan : scan_once parse_constant fuel limit text with
      | error failure => rfl
      | ok read =>
        obtain ⟨item, behind⟩ := read
        have hbehind := ((scan_behind parse_constant fuel).1 _ _ _ _ hscan).2
        simp only [bind, Except.bind]
        cases hdelimiter : scan_delimiter ']' behind with
        | missing => rfl
        | closed more => rfl
        | next more =>
          have hmore := (scan_delimiter_behind.1 _ hdelimiter).2
          dsimp only
          rw [hitems _ _ (by omega)]
    · rw [scan_pairs, scan_pairs]
      cases hkey : scan_key text with
      | none => rfl
      | some read =>
        obtain ⟨key, behind⟩ := read
        have hbehind := (scan_key_behind hkey).2
        dsimp only
        rw [hvalue _ _ (by omega)]
        cases hscan : scan_once parse_constant fuel limit behind with
        | error failure => rfl
        | ok read =>
          obtain ⟨value, more⟩ := read
          have hless := ((scan_behind parse_constant fuel).1 _ _ _ _ hscan).2
          simp only [bind, Except.bind]
          cases hdelimiter : scan_delimiter '\x7d' more with
          | missing => rfl
          | closed more => rfl
          | next more =>
            have hmore := (scan_delimiter_behind.1 _ hdelimiter).2
            dsimp only
            rw [hpairs _ _ (by omega)]

/-- Arrays that nest deeper than the limit are not read, whatever the fuel. -/
theorem scan_once_nested (h : 2 * limit < fuel) :
    scan_once parse_constant fuel limit (List.replicate (limit + 1) '[') = .error .recursion_error := by
  induction limit generalizing fuel with
  | zero =>
    match fuel, h with
    | fuel + 1, _ => rfl
  | succ limit ih =>
    match fuel, h with
    | fuel + 2, h =>
      have hskip : skip_whitespace (List.replicate (limit + 1) '[') = List.replicate (limit + 1) '[' :=
        List.dropWhile_cons_of_neg (by decide)
      rw [List.replicate_succ, scan_once, if_neg (by decide), if_pos rfl, if_neg (Nat.succ_ne_zero _), hskip, if_neg,
        Nat.add_sub_cancel, scan_items, ih (by omega)]
      · rfl
      · rw [List.replicate_succ]
        exact fun h => absurd (Option.some.inj h) (by decide)

/-- `loads` never runs out of fuel: it reads a text as with any fuel that is enough. -/
theorem loads_fuel (hmark : text.head? ≠ some '\uFEFF') (hfuel : 2 * text.length + 1 ≤ fuel) :
    loads parse_constant limit text = (scan_once parse_constant fuel limit (skip_whitespace text)).bind fun read =>
      if (skip_whitespace read.2).isEmpty then .ok read.1 else .error .decode_error := by
  have hskip := (skip_whitespace_suffix text).length_le
  have hscan : ∀ more, scan_once parse_constant (2 * text.length + 1 + more) limit (skip_whitespace text) =
      scan_once parse_constant (2 * text.length + 1) limit (skip_whitespace text) := by
    intro more
    induction more with
    | zero => rfl
    | succ more ih => rw [← Nat.add_assoc, (scan_fuel _).1 _ _ (by omega), ih]
  obtain ⟨more, rfl⟩ := Nat.exists_eq_add_of_le hfuel
  rw [loads, hscan]
  · rfl
  · rintro rest rfl
    exact hmark rfl

theorem loads_nested (parse_constant : String → Except LoadFailure Loaded) (limit : Nat) :
    loads parse_constant limit (List.replicate (limit + 1) '[') = .error .recursion_error := by
  have hskip : skip_whitespace (List.replicate (limit + 1) '[') = List.replicate (limit + 1) '[' :=
    List.dropWhile_cons_of_neg (by decide)
  have hmark : (List.replicate (limit + 1) '[').head? ≠ some '\uFEFF' := by
    rw [List.replicate_succ]
    exact fun h => absurd (Option.some.inj h) (by decide)
  rw [loads_fuel hmark (Nat.le_refl _), hskip, scan_once_nested]
  · rfl
  · rw [List.length_replicate]
    omega

end Reading

end Json
