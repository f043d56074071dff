import Mathlib.Algebra.Group.Nat.Defs
import OhMySubagents.Json.Dumps
import OhMySubagents.Json.Loads

open JsonData

namespace Json

section Strings

variable {rest : List Char}

/-- The code units that the escapes of a character stand for. -/
def units_of (c : Char) : CodePoints :=
  if c.toNat < 0x10000 then [c.toNat]
  else [0xD800 + (c.toNat - 0x10000) / 0x400, 0xDC00 + (c.toNat - 0x10000) % 0x400]

def points_of (s : String) : CodePoints := s.toList.map Char.toNat

theorem hex_value_hex_digit {n : Nat} (h : n < 16) : hex_value (hex_digit n) = some n := by
  revert n
  decide

theorem unescape_unit_eq {unit : Nat} (h : unit < 0x10000) : unescape_unit (hex_digit (unit / 4096))
    (hex_digit (unit / 256 % 16)) (hex_digit (unit / 16 % 16)) (hex_digit (unit % 16)) = some unit := by
  unfold unescape_unit
  rw [hex_value_hex_digit (by omega), hex_value_hex_digit (by omega), hex_value_hex_digit (by omega),
    hex_value_hex_digit (by omega)]
  simp only [Option.bind_eq_bind, Option.bind_some, Option.pure_def, Option.some.injEq]
  omega

/-- An escaped code unit is read as itself. -/
theorem scan_string_unit {unit : Nat} {points : CodePoints} {behind : List Char} (h : unit < 0x10000)
    (hrest : scan_string rest = some (points, behind)) :
    scan_string (escape_unit unit ++ rest) = some (unit :: points, behind) := by
  rw [escape_unit, List.cons_append, List.cons_append, List.cons_append, List.cons_append, List.cons_append,
    List.cons_append, List.nil_append, scan_string, unescape_unit_eq h, hrest]
  rfl

theorem scan_string_plain {c : Char} {points : CodePoints} {behind : List Char} (hquote : c ≠ '\x22')
    (hback : c ≠ '\x5c') (hcontrol : ¬c.toNat ≤ 0x1f) (hrest : scan_string rest = some (points, behind)) :
    scan_string (c :: rest) = some (c.toNat :: points, behind) := by
  rw [scan_string.eq_def]
  split
  · next heq => cases heq
  · next heq =>
    cases heq
    exact absurd rfl hquote
  · next heq =>
    cases heq
    exact absurd rfl hback
  · next heq =>
    cases heq
    exact absurd rfl hback
  · next heq =>
    cases heq
    rw [if_neg hcontrol, hrest]
    rfl

theorem scan_string_escaped {c : Char} {point : Nat} {points : CodePoints} {behind : List Char} (hc : c ≠ 'u')
    (hpoint : escaped_point c = some point) (hrest : scan_string rest = some (points, behind)) :
    scan_string ('\x5c' :: c :: rest) = some (point :: points, behind) := by
  rw [scan_string.eq_def]
  split
  · next heq => cases heq
  · next heq => cases heq
  · next heq =>
    cases heq
    exact absurd rfl hc
  · next heq =>
    cases heq
    rw [hpoint, hrest]
    rfl
  · next hother heq =>
    cases heq
    exact absurd rfl (hother c rest rfl)

theorem ensure_ascii_append (chars chars' : List Char) :
    ensure_ascii (chars ++ chars') = ensure_ascii chars ++ ensure_ascii chars' :=
  List.flatMap_append

theorem ensure_ascii_cons (c : Char) (chars : List Char) : ensure_ascii (c :: chars) =
    (if c.toNat < 0x7F then [c]
    else if c.toNat < 0x10000 then escape_unit c.toNat
    else escape_unit (0xD800 + (c.toNat - 0x10000) / 0x400) ++ escape_unit (0xDC00 + (c.toNat - 0x10000) % 0x400)) ++
      ensure_ascii chars :=
  List.flatMap_cons

theorem ensure_ascii_eq_self {chars : List Char} (h : ∀ c ∈ chars, c.toNat < 0x7F) : ensure_ascii chars = chars := by
  induction chars with
  | nil => rfl
  | cons c chars ih =>
    obtain ⟨hc, hchars⟩ := List.forall_mem_cons.mp h
    rw [ensure_ascii_cons, if_pos hc, ih hchars, List.singleton_append]

private theorem escape_control {c : Char} (h : c.toNat < 0x20) :
    ['\x5c', 'u', '0', '0', hex_digit (c.toNat / 16), hex_digit (c.toNat % 16)] = escape_unit c.toNat := by
  have h1 : c.toNat / 4096 = 0 := by omega
  have h2 : c.toNat / 256 % 16 = 0 := by omega
  have h3 : c.toNat / 16 % 16 = c.toNat / 16 := by omega
  rw [escape_unit, h1, h2, h3]
  rfl

private theorem hex_digit_ascii {n : Nat} (h : n < 16) : (hex_digit n).toNat < 0x7F := by
  revert n
  decide

theorem escape_unit_ascii {unit : Nat} (h : unit < 0x10000) : ∀ c ∈ escape_unit unit, c.toNat < 0x7F := by
  have h1 := hex_digit_ascii (n := unit / 4096) (by omega)
  have h2 := hex_digit_ascii (n := unit / 256 % 16) (by omega)
  have h3 := hex_digit_ascii (n := unit / 16 % 16) (by omega)
  have h4 := hex_digit_ascii (n := unit % 16) (by omega)
  intro c hc
  rw [escape_unit] at hc
  simp only [List.mem_cons, List.not_mem_nil, or_false] at hc
  rcases hc with rfl | rfl | rfl | rfl | rfl | rfl
  · decide
  · decide
  · exact h1
  · exact h2
  · exact h3
  · exact h4

theorem char_range (c : Char) : c.toNat < 0xD800 ∨ (0xDFFF < c.toNat ∧ c.toNat < 0x110000) := by
  have hvalid := c.valid
  simp only [UInt32.isValidChar, Nat.isValidChar] at hvalid
  exact hvalid

theorem ensure_ascii_lt (chars : List Char) : ∀ c ∈ ensure_ascii chars, c.toNat < 0x80 := by
  intro c hc
  obtain ⟨d, -, hc⟩ := List.mem_flatMap.mp hc
  have hrange := char_range d
  split at hc
  · obtain rfl := List.mem_singleton.mp hc
    omega
  split at hc
  · exact Nat.lt_succ_of_lt (escape_unit_ascii (by omega) c hc)
  · rcases List.mem_append.mp hc with hc | hc
    · exact Nat.lt_succ_of_lt (escape_unit_ascii (by omega) c hc)
    · exact Nat.lt_succ_of_lt (escape_unit_ascii (by omega) c hc)

/-- What is written for one character is read as its code units. -/
theorem scan_string_escape (c : Char) {points : CodePoints} {behind : List Char}
    (hrest : scan_string rest = some (points, behind)) :
    scan_string (ensure_ascii (escape c) ++ rest) = some (units_of c ++ points, behind) := by
  have hmax := char_range c
  unfold escape
  split
  · next h =>
    subst h
    exact scan_string_escaped (c := '\x22') (by decide) rfl hrest
  split
  · next h =>
    subst h
    exact scan_string_escaped (c := '\x5c') (by decide) rfl hrest
  split
  · next h =>
    subst h
    exact scan_string_escaped (c := 'n') (by decide) rfl hrest
  split
  · next h =>
    subst h
    exact scan_string_escaped (c := 'r') (by decide) rfl hrest
  split
  · next h =>
    subst h
    exact scan_string_escaped (c := 't') (by decide) rfl hrest
  split
  · next h =>
    subst h
    exact scan_string_escaped (c := 'f') (by decide) rfl hrest
  split
  · next h =>
    subst h
    exact scan_string_escaped (c := 'b') (by decide) rfl hrest
  split
  · next h =>
    rw [escape_control h, ensure_ascii_eq_self (escape_unit_ascii (by omega)), units_of, if_pos (by omega)]
    exact scan_string_unit (by omega) hrest
  · next hquote hback _ _ _ _ _ hcontrol =>
    rw [ensure_ascii_cons, show ensure_ascii [] = [] from rfl, List.append_nil, units_of]
    split
    · rw [if_pos (by omega)]
      exact scan_string_plain hquote hback (by omega) hrest
    · split
      · exact scan_string_unit (by omega) hrest
      · rw [List.append_assoc]
        exact scan_string_unit (by omega) (scan_string_unit (by omega) hrest)

theorem scan_string_dumps (chars : List Char) (rest : List Char) :
    scan_string (ensure_ascii (dumps_chars chars) ++ rest) = some (chars.flatMap units_of, rest) := by
  induction chars with
  | nil => rfl
  | cons c chars ih =>
    rw [dumps_chars, ensure_ascii_append, List.append_assoc, scan_string_escape c ih, List.flatMap_cons]

private theorem join_surrogates_cons {point : Nat} (h : is_high_surrogate point = false) (points : CodePoints) :
    join_surrogates (point :: points) = point :: join_surrogates points := by
  cases points with
  | nil => rfl
  | cons low points => rw [join_surrogates, h, Bool.false_and, if_neg Bool.false_ne_true]

/-- The code units of a text are joined to its characters. -/
theorem join_units (chars : List Char) : join_surrogates (chars.flatMap units_of) = chars.map Char.toNat := by
  induction chars with
  | nil => rfl
  | cons c chars ih =>
    have hrange := char_range c
    rw [List.flatMap_cons, List.map_cons, units_of]
    split
    · have hhigh : is_high_surrogate c.toNat = false := by
        simp only [is_high_surrogate, Bool.and_eq_false_iff, decide_eq_false_iff_not, Nat.not_le]
        omega
      rw [List.singleton_append, join_surrogates_cons hhigh, ih]
    · have hpoint : 0x10000 + (0xD800 + (c.toNat - 0x10000) / 0x400 - 0xD800) * 0x400 +
          (0xDC00 + (c.toNat - 0x10000) % 0x400 - 0xDC00) = c.toNat := by omega
      rw [List.cons_append, List.cons_append, List.nil_append, join_surrogates, if_pos, ih, hpoint]
      · simp only [is_high_surrogate, is_low_surrogate, Bool.and_eq_true, decide_eq_true_eq]
        omega

end Strings

section Numbers

variable {rest : List Char} {n : Nat} {i : Int}

/-- A text that is no continuation of a whole number. -/
def EndsNumber (rest : List Char) : Prop := ∀ c ∈ rest.head?, c.isDigit = false ∧ c ≠ '.' ∧ c ≠ 'e' ∧ c ≠ 'E'

theorem toDigits_lead (n : Nat) :
    ∃ c more, Nat.toDigits 10 n = c :: more ∧ c.isDigit = true ∧ (n ≠ 0 → c ≠ '0') := by
  induction n using Nat.strong_induction_on with
  | _ n ih =>
    by_cases hsmall : n < 10
    · rw [Nat.toDigits_of_lt_base hsmall]
      have hdigit : ∀ n, n < 10 → n.digitChar.isDigit = true ∧ (n ≠ 0 → n.digitChar ≠ '0') := by decide
      exact ⟨_, [], rfl, hdigit n hsmall⟩
    · obtain ⟨c, more, heq, hc, hzero⟩ := ih (n / 10) (by omega)
      rw [Nat.toDigits_of_base_le (by decide) (by omega), heq]
      exact ⟨c, _, rfl, hc, fun _ => hzero (by omega)⟩

theorem scan_whole_digits (hrest : EndsNumber rest) :
    scan_whole (Nat.toDigits 10 n ++ rest) = some (Nat.toDigits 10 n, rest) := by
  by_cases hn : n = 0
  · subst hn
    rfl
  · obtain ⟨c, more, heq, hc, hzero⟩ := toDigits_lead n
    have hdigits : ∀ c ∈ Nat.toDigits 10 n, c.isDigit = true := fun c hc =>
      Nat.isDigit_of_mem_toDigits (by decide) (by decide) hc
    have htake : (Nat.toDigits 10 n ++ rest).takeWhile Char.isDigit = Nat.toDigits 10 n ∧
        (Nat.toDigits 10 n ++ rest).dropWhile Char.isDigit = rest := by
      rw [List.takeWhile_append_of_pos hdigits, List.dropWhile_append_of_pos hdigits]
      cases rest with
      | nil => exact ⟨List.append_nil _, rfl⟩
      | cons d rest =>
        have hd : ¬d.isDigit = true := by rw [(hrest d rfl).1]; decide
        rw [List.takeWhile_cons_of_neg hd, List.dropWhile_cons_of_neg hd, List.append_nil]
        exact ⟨rfl, rfl⟩
    rw [scan_whole.eq_def]
    split
    · next heq' =>
      rw [heq] at heq'
      cases heq'
      exact absurd rfl (hzero hn)
    · rw [htake.1, htake.2, if_neg]
      rw [heq, List.isEmpty_cons]
      decide

theorem scan_fraction_end (hrest : EndsNumber rest) : scan_fraction rest = ([], rest) := by
  unfold scan_fraction
  split
  · exact absurd rfl (hrest '.' rfl).2.1
  · rfl

theorem scan_exponent_end (hrest : EndsNumber rest) : scan_exponent rest = (none, rest) := by
  unfold scan_exponent
  split
  · next e rest =>
    have he := (hrest e rfl).2.2
    exact if_neg fun h => h.1.elim he.1 he.2
  · rfl

private theorem scan_sign_digit {c : Char} (hc : c.isDigit = true) : scan_sign (c :: rest) = (false, c :: rest) := by
  unfold scan_sign
  split
  · next heq =>
    cases heq
    cases hc
  · rfl

/-- A whole number is matched up to where it ends. -/
theorem match_number_int (hrest : EndsNumber rest) : match_number ((toString i).toList ++ rest) =
    some ({ negative := i < 0, whole := Nat.toDigits 10 i.natAbs, fraction := [], exponent := none }, rest) := by
  obtain ⟨c, more, heq, hc, -⟩ := toDigits_lead i.natAbs
  have hwhole := scan_whole_digits (n := i.natAbs) hrest
  change match_number (i.repr.toList ++ rest) = _
  rw [Int.repr_eq_if]
  split
  · next hpositive =>
    have habs : i.toNat = i.natAbs := by omega
    rw [habs, Nat.toList_repr, match_number]
    rw [heq, List.cons_append] at hwhole ⊢
    rw [scan_sign_digit hc]
    simp only [Option.bind_eq_bind]
    rw [hwhole, Option.bind_some]
    have hsign : decide (i < 0) = false := decide_eq_false (by omega)
    simp only [scan_fraction_end hrest, scan_exponent_end hrest, hsign, Option.pure_def]
  · next hnegative =>
    have habs : (-i).toNat = i.natAbs := by omega
    rw [habs, String.toList_append, Nat.toList_repr, show ("-" : String).toList = ['-'] from rfl, List.append_assoc,
      List.singleton_append, match_number]
    simp only [scan_sign, Option.bind_eq_bind]
    rw [hwhole, Option.bind_some]
    simp only [scan_fraction_end hrest, scan_exponent_end hrest, decide_eq_true (show i < 0 by omega), Option.pure_def]

theorem scan_scalar_int (parse_constant : String → Except LoadFailure Loaded) (hrest : EndsNumber rest)
    (hi : i.natAbs < 10 ^ int_max_str_digits) :
    scan_scalar parse_constant ((toString i).toList ++ rest) = .ok (.int i, rest) := by
  have hmatch := match_number_int (i := i) hrest
  have hlead : ∃ c more, (toString i).toList ++ rest = c :: more ∧ (c.isDigit = true ∨ c = '-' ∧
      ∀ d ∈ more.head?, d.isDigit = true) := by
    obtain ⟨c, more, heq, hc, -⟩ := toDigits_lead i.natAbs
    change ∃ c more, i.repr.toList ++ rest = c :: more ∧ _
    rw [Int.repr_eq_if]
    split
    · rw [show i.toNat = i.natAbs by omega, Nat.toList_repr, heq]
      exact ⟨c, _, rfl, .inl hc⟩
    · rw [show (-i).toNat = i.natAbs by omega, String.toList_append, Nat.toList_repr, heq]
      refine ⟨'-', _, rfl, .inr ⟨rfl, fun d hd => ?_⟩⟩
      cases hd
      exact hc
  obtain ⟨c, more, heq, hc⟩ := hlead
  have hvalue : Number.value ⟨i < 0, Nat.toDigits 10 i.natAbs, [], none⟩ =
      .ok (.int i) := by
    have hlength : (Nat.toDigits 10 i.natAbs).length ≤ int_max_str_digits :=
      (Nat.length_toDigits_le_iff (by decide) (by decide)).mpr hi
    unfold Number.value Number.is_float
    simp only [List.isEmpty_nil, Bool.not_true, Option.isSome_none, Bool.or_self, Bool.false_eq_true, if_false]
    rw [if_neg (by omega), digits_value, Nat.ofDigitChars_ten_toDigits]
    by_cases hnegative : i < 0
    · rw [if_pos (decide_eq_true hnegative)]
      congr 2
      omega
    · rw [if_neg (by simpa using hnegative)]
      congr 2
      omega
  rw [heq] at hmatch ⊢
  rw [scan_scalar.eq_def]
  split
  · next heq' =>
    cases heq'
    simp at hc
  · next heq' =>
    cases heq'
    simp at hc
  · next heq' =>
    cases heq'
    simp at hc
  · next heq' =>
    cases heq'
    simp at hc
  · next heq' =>
    cases heq'
    simp at hc
  · next heq' =>
    cases heq'
    simp at hc
  · rw [hmatch]
    dsimp only
    rw [hvalue]
    rfl

end Numbers

section Objects

variable (parse_constant : String → Except LoadFailure Loaded) (limit : Nat) {members : List (String × JsonData)}
  {rest : List Char} {fuel : Nat}

/-- A value of a flat object: a text, or a whole number that is not too long to be read. -/
def IsFlat : JsonData → Prop
  | .string _ => True
  | .int value => value.natAbs < 10 ^ int_max_str_digits
  | _ => False

/-- A flat value as it is loaded. -/
def loaded_flat : JsonData → Loaded
  | .string value => .string (points_of value)
  | .int value => .int value
  | _ => .null

def loaded_pairs (members : List (String × JsonData)) : List (LoadedKey × Loaded) :=
  members.map fun member => (.text (points_of member.1), loaded_flat member.2)

private theorem int_ascii (i : Int) : ∀ c ∈ (toString i).toList, c.toNat < 0x7F := by
  have hdigits : ∀ n : Nat, ∀ c ∈ Nat.toDigits 10 n, c.toNat < 0x7F := by
    intro n c hc
    have hdigit : c.isDigit = true := Nat.isDigit_of_mem_toDigits (by decide) (by decide) hc
    simp only [Char.isDigit, Bool.and_eq_true, decide_eq_true_eq, UInt32.le_iff_toNat_le] at hdigit
    exact Nat.lt_of_le_of_lt hdigit.2 (by decide)
  change ∀ c ∈ i.repr.toList, _
  rw [Int.repr_eq_if]
  split
  · rw [Nat.toList_repr]
    exact hdigits _
  · intro c hc
    rw [String.toList_append, Nat.toList_repr] at hc
    rcases List.mem_append.mp hc with hc | hc
    · obtain rfl := List.mem_singleton.mp hc
      decide
    · exact hdigits _ c hc

/-- A flat value is read as it was, and starts with no white space. -/
theorem scan_flat (fuel : Nat) {value : JsonData} (hvalue : IsFlat value) (hrest : EndsNumber rest) :
    scan_once parse_constant (fuel + 1) limit (ensure_ascii (JsonData.dumps value) ++ rest) =
        .ok (loaded_flat value, rest) ∧
      skip_whitespace (ensure_ascii (JsonData.dumps value) ++ rest) = ensure_ascii (JsonData.dumps value) ++ rest := by
  match value with
  | .string value =>
    have hquoted : ensure_ascii (JsonData.dumps (.string value)) ++ rest =
        '\x22' :: (ensure_ascii (dumps_chars value.toList) ++ rest) := rfl
    rw [hquoted]
    refine ⟨?_, List.dropWhile_cons_of_neg (by decide)⟩
    rw [scan_once, if_pos rfl, scan_string_dumps]
    dsimp only
    rw [join_units]
    rfl
  | .int value =>
    have hint : ensure_ascii (JsonData.dumps (.int value)) = (toString value).toList :=
      ensure_ascii_eq_self (int_ascii value)
    have hscan := scan_scalar_int parse_constant hrest hvalue
    obtain ⟨c, more, hlead, hc⟩ := JsonData.int_lead value
    rw [hint]
    rw [hlead, List.cons_append] at hscan ⊢
    constructor
    · rw [scan_once, if_neg, if_neg, if_neg, hscan]
      · rfl
      all_goals
        rintro rfl
        simp at hc
    · refine List.dropWhile_cons_of_neg ?_
      simp only [is_whitespace, Bool.or_eq_true, beq_iff_eq]
      rintro (((rfl | rfl) | rfl) | rfl) <;> simp at hc

theorem dumps_members_cons_cons (first second : String × JsonData) (more : List (String × JsonData)) :
    JsonData.dumps_members (first :: second :: more) =
      dumps_string first.1 ++ ':' :: (JsonData.dumps first.2 ++ ',' :: JsonData.dumps_members (second :: more)) := rfl

/-- The pairs of a flat object are read as they were. -/
theorem scan_flat_pairs (hmembers : ∀ member ∈ members, IsFlat member.2) (hne : members ≠ [])
    (hfuel : members.length < fuel) :
    scan_pairs parse_constant fuel limit (ensure_ascii (JsonData.dumps_members members) ++ '\x7d' :: rest) =
      .ok (loaded_pairs members, rest) := by
  induction members generalizing fuel with
  | nil => exact absurd rfl hne
  | cons member members ih =>
    obtain ⟨key, value⟩ := member
    obtain ⟨hvalue, hmembers⟩ := List.forall_mem_cons.mp hmembers
    match fuel, hfuel with
    | fuel + 2, hfuel =>
      have hkey : ∀ behind, skip_whitespace behind = behind →
          scan_key (ensure_ascii (dumps_string key ++ [':']) ++ behind) = some (points_of key, behind) := by
        intro behind hbehind
        have hquoted : ensure_ascii (dumps_string key ++ [':']) ++ behind =
            '\x22' :: (ensure_ascii (dumps_chars key.toList) ++ ':' :: behind) := by
          rw [ensure_ascii_append, List.append_assoc]
          rfl
        rw [hquoted, scan_key, scan_string_dumps]
        simp only [Option.bind_eq_bind, Option.bind_some]
        have hcolon : skip_whitespace (':' :: behind) = ':' :: behind := List.dropWhile_cons_of_neg (by decide)
        rw [hcolon, join_units]
        change some (points_of key, skip_whitespace behind) = _
        rw [hbehind]
      cases members with
      | nil =>
        have hend : EndsNumber ('\x7d' :: rest) := fun c hc => by
          cases hc
          decide
        obtain ⟨hscan, hskip⟩ := scan_flat parse_constant limit fuel hvalue hend
        have htext : ensure_ascii (JsonData.dumps_members [(key, value)]) ++ '\x7d' :: rest =
            ensure_ascii (dumps_string key ++ [':']) ++ (ensure_ascii (JsonData.dumps value) ++ '\x7d' :: rest) := by
          rw [← List.append_assoc, ← ensure_ascii_append, List.append_assoc]
          rfl
        rw [htext, scan_pairs, hkey _ hskip]
        dsimp only
        rw [hscan]
        rfl
      | cons next more =>
        have hend : EndsNumber (',' :: (ensure_ascii (JsonData.dumps_members (next :: more)) ++ '\x7d' :: rest)) := by
          intro c hc
          cases hc
          decide
        obtain ⟨hscan, hskip⟩ := scan_flat parse_constant limit fuel hvalue hend
        have htext : ensure_ascii (JsonData.dumps_members ((key, value) :: next :: more)) ++ '\x7d' :: rest =
            ensure_ascii (dumps_string key ++ [':']) ++ (ensure_ascii (JsonData.dumps value) ++
              ',' :: (ensure_ascii (JsonData.dumps_members (next :: more)) ++ '\x7d' :: rest)) := by
          have hsplit : JsonData.dumps_members ((key, value) :: next :: more) =
              (dumps_string key ++ [':']) ++
                (JsonData.dumps value ++ ([','] ++ JsonData.dumps_members (next :: more))) := by
            rw [dumps_members_cons_cons, List.append_assoc]
            rfl
          rw [hsplit, ensure_ascii_append, ensure_ascii_append (JsonData.dumps value), ensure_ascii_append [','],
            List.append_assoc, List.append_assoc, List.append_assoc]
          rfl
        have hquote : ∀ behind, skip_whitespace (ensure_ascii (JsonData.dumps_members (next :: more)) ++ behind) =
            ensure_ascii (JsonData.dumps_members (next :: more)) ++ behind := by
          intro behind
          cases more <;> exact List.dropWhile_cons_of_neg (by decide)
        have hrest := @ih (fuel + 1) hmembers (List.cons_ne_nil _ _) (by simpa using hfuel)
        rw [htext, scan_pairs, hkey _ hskip]
        dsimp only
        rw [hscan]
        simp only [bind, Except.bind, scan_delimiter]
        rw [show ∀ behind, skip_whitespace (',' :: behind) = ',' :: behind from
          fun behind => List.dropWhile_cons_of_neg (by decide)]
        simp only [if_true, hquote, hrest]
        rfl

private theorem dumps_members_length (members : List (String × JsonData)) :
    members.length ≤ (ensure_ascii (JsonData.dumps_members members)).length := by
  have hcons : ∀ c more, 1 + (ensure_ascii more).length ≤ (ensure_ascii (c :: more)).length := by
    intro c more
    rw [ensure_ascii_cons, List.length_append]
    split
    · exact Nat.le_refl _
    split
    · exact Nat.add_le_add_right (Nat.le_add_left 1 5) _
    · exact Nat.add_le_add_right (Nat.le_add_left 1 11) _
  induction members with
  | nil => exact Nat.le_refl _
  | cons member members ih =>
    have hlead := hcons '\x22'
    match members with
    | [] =>
      have := hlead (dumps_chars member.1.toList ++ ':' :: JsonData.dumps member.2)
      exact Nat.le_trans (Nat.le_add_right 1 _) this
    | next :: more =>
      have htext : JsonData.dumps_members (member :: next :: more) = '\x22' :: (dumps_chars member.1.toList ++
          ':' :: (JsonData.dumps member.2 ++ [','])) ++ JsonData.dumps_members (next :: more) := by
        rw [dumps_members_cons_cons, dumps_string]
        simp only [List.cons_append, List.append_assoc, List.nil_append]
      have := hlead (dumps_chars member.1.toList ++ ':' :: (JsonData.dumps member.2 ++ [',']))
      rw [htext, ensure_ascii_append, List.length_append]
      rw [List.length_cons]
      omega

/-- `json.loads` of what `json.dumps` makes of a flat object. -/
theorem loads_dumps_flat (hmembers : ∀ member ∈ members, IsFlat member.2) (hne : members ≠ []) (hlimit : 1 ≤ limit) :
    loads parse_constant limit (ensure_ascii (JsonData.dumps (.object members))) =
      .ok (.object (loaded_pairs members)) := by
  have hquote : ∀ behind, skip_whitespace (ensure_ascii (JsonData.dumps_members members) ++ behind) =
      ensure_ascii (JsonData.dumps_members members) ++ behind ∧
        ∃ more, ensure_ascii (JsonData.dumps_members members) ++ behind = '\x22' :: more := by
    intro behind
    match members, hne with
    | [_], _ => exact ⟨List.dropWhile_cons_of_neg (by decide), _, rfl⟩
    | _ :: _ :: _, _ => exact ⟨List.dropWhile_cons_of_neg (by decide), _, rfl⟩
  obtain ⟨hskip, more, hmore⟩ := hquote ['\x7d']
  have htext : ensure_ascii (JsonData.dumps (.object members)) =
      '\x7b' :: (ensure_ascii (JsonData.dumps_members members) ++ ['\x7d']) := by
    rw [JsonData.dumps, ← List.singleton_append, ensure_ascii_append, ensure_ascii_append]
    rfl
  have hlong : members.length < 2 * ('\x7b' :: (ensure_ascii (JsonData.dumps_members members) ++ ['\x7d'])).length := by
    have := dumps_members_length members
    rw [List.length_cons, List.length_append]
    omega
  have hpairs := @scan_flat_pairs parse_constant (limit - 1) members [] _ hmembers hne hlong
  rw [htext, loads_fuel (by simp) (Nat.le_refl _),
    show skip_whitespace ('\x7b' :: (ensure_ascii (JsonData.dumps_members members) ++ ['\x7d'])) = _ from
      List.dropWhile_cons_of_neg (by decide), scan_once, if_neg (by decide), if_neg (by decide), if_pos rfl,
    if_neg (by omega), hskip, if_neg, hpairs]
  · rfl
  · rw [hmore]
    exact fun h => absurd (Option.some.inj h) (by decide)

end Objects

end Json
