import Mathlib.Algebra.GroupWithZero.Nat
import Mathlib.Data.List.Basic
import Mathlib.Data.List.DropRight
import OhMySubagents.Json.Codec

/-- `str.isspace` of one character. -/
def Char.is_space (c : Char) : Bool :=
  (0x09 ≤ c.toNat && c.toNat ≤ 0x0D) || (0x1C ≤ c.toNat && c.toNat ≤ 0x20) || c.toNat == 0x85 || c.toNat == 0xA0 ||
    c.toNat == 0x1680 || (0x2000 ≤ c.toNat && c.toNat ≤ 0x200A) || c.toNat == 0x2028 || c.toNat == 0x2029 ||
    c.toNat == 0x202F || c.toNat == 0x205F || c.toNat == 0x3000

/-- `str.strip`. -/
def String.strip_space (s : String) : String :=
  String.ofList ((s.toList.dropWhile Char.is_space).reverse.dropWhile Char.is_space).reverse

namespace OhMySubagents

/-- `_validate_xml_text` of one character. -/
def is_xml_character (c : Char) : Bool :=
  c == '\t' || c == '\n' || c == '\r' || (0x20 ≤ c.toNat && c.toNat ≤ 0xD7FF) ||
    (0xE000 ≤ c.toNat && c.toNat ≤ 0xFFFD) || (0x10000 ≤ c.toNat && c.toNat ≤ 0x10FFFF)

/-- The number of bytes that a text takes in UTF-8. -/
def utf8_bytes (chars : List Char) : Nat := (chars.map Char.utf8Size).sum

def replace_crlf : List Char → List Char
  | '\r' :: '\n' :: rest => '\n' :: replace_crlf rest
  | c :: rest => c :: replace_crlf rest
  | [] => []

/-- `replace("\r\n", "\n").replace("\r", "\n")`. -/
def normalize_newlines (chars : List Char) : List Char :=
  (replace_crlf chars).map fun c => if c = '\r' then '\n' else c

/-- Normalize line endings while preserving all other accepted text exactly. -/
def normalize_exact_text (value : List Char) (max_utf8_bytes : Option Nat) (is_nonblank_required : Bool) :
    Option (List Char) :=
  if value.all is_xml_character then
    let normalized := normalize_newlines value
    if is_nonblank_required && normalized.all Char.is_space then none
    else if max_utf8_bytes.any (· < utf8_bytes normalized) then none
    else some normalized
  else none

/-- Normalize optional prose and omit values that are blank after normalization; `none` is a refusal. -/
def normalize_optional_text (value : Option (List Char)) (max_characters : Nat) : Option (Option (List Char)) :=
  match value with
  | none => some none
  | some value =>
    match normalize_exact_text value none false with
    | none => none
    | some normalized =>
      if normalized.all Char.is_space then some none
      else if max_characters < normalized.length then none
      else some (some normalized)

variable {chars value normalized : List Char} {max_utf8_bytes : Option Nat} {is_nonblank_required : Bool}

private theorem replace_crlf_subset : replace_crlf chars ⊆ chars := by
  induction chars using replace_crlf.induct with
  | case1 rest ih =>
    intro c hc
    rw [replace_crlf] at hc
    exact List.mem_cons_of_mem _ (List.cons_subset_cons _ ih hc)
  | case2 c rest hne ih =>
    rw [replace_crlf]
    · exact List.cons_subset_cons _ ih
    · exact hne
  | case3 => exact List.Subset.refl _

private theorem replace_crlf_eq_self (h : '\r' ∉ chars) : replace_crlf chars = chars := by
  induction chars using replace_crlf.induct with
  | case1 rest ih => exact absurd List.mem_cons_self h
  | case2 c rest hne ih =>
    rw [replace_crlf, ih fun hmem => h (List.mem_cons_of_mem _ hmem)]
    exact hne
  | case3 => rfl

theorem mem_normalize_newlines {c : Char} (h : c ∈ normalize_newlines chars) : c ≠ '\r' ∧ (c ∈ chars ∨ c = '\n') := by
  obtain ⟨d, hd, rfl⟩ := List.mem_map.mp h
  split
  · exact ⟨by decide, .inr rfl⟩
  · next hne => exact ⟨hne, .inl (replace_crlf_subset hd)⟩

theorem normalize_newlines_eq_self (h : '\r' ∉ chars) : normalize_newlines chars = chars := by
  unfold normalize_newlines
  rw [replace_crlf_eq_self h]
  refine (List.map_congr_left fun c hc => ?_).trans (List.map_id' chars)
  exact if_neg fun hcr : c = '\r' => h (hcr ▸ hc)

theorem normalize_exact_text_eq_some_iff :
    normalize_exact_text value max_utf8_bytes is_nonblank_required = some normalized ↔
      value.all is_xml_character = true ∧ (is_nonblank_required && normalized.all Char.is_space) = false ∧
      max_utf8_bytes.any (· < utf8_bytes normalized) = false ∧ normalize_newlines value = normalized := by
  unfold normalize_exact_text
  split
  · next hxml =>
    dsimp only
    split
    · next hblank =>
      simp only [reduceCtorEq, false_iff, not_and]
      rintro - hsome - rfl
      rw [hblank] at hsome
      cases hsome
    split
    · next hlong =>
      simp only [reduceCtorEq, false_iff, not_and]
      rintro - - hshort rfl
      rw [hlong] at hshort
      cases hshort
    next hblank hlong =>
      rw [Option.some.injEq]
      constructor
      · rintro rfl
        exact ⟨hxml, by simpa using hblank, by simpa using hlong, rfl⟩
      · exact fun h => h.2.2.2
  · next hxml => simp [hxml]

theorem normalized_xml (h : normalize_exact_text value max_utf8_bytes is_nonblank_required = some normalized) :
    normalized.all is_xml_character = true := by
  obtain ⟨hxml, -, -, rfl⟩ := normalize_exact_text_eq_some_iff.mp h
  rw [List.all_eq_true] at hxml ⊢
  intro c hc
  rcases (mem_normalize_newlines hc).2 with hc | rfl
  · exact hxml c hc
  · decide

theorem normalized_newlines (h : normalize_exact_text value max_utf8_bytes is_nonblank_required = some normalized) :
    '\r' ∉ normalized := by
  obtain ⟨-, -, -, rfl⟩ := normalize_exact_text_eq_some_iff.mp h
  exact fun hcr => (mem_normalize_newlines hcr).1 rfl

/-- What was normalized is normalized already. -/
theorem normalize_exact_text_idem
    (h : normalize_exact_text value max_utf8_bytes is_nonblank_required = some normalized) :
    normalize_exact_text normalized max_utf8_bytes is_nonblank_required = some normalized := by
  obtain ⟨-, hblank, hlong, -⟩ := normalize_exact_text_eq_some_iff.mp h
  exact normalize_exact_text_eq_some_iff.mpr
    ⟨normalized_xml h, hblank, hlong, normalize_newlines_eq_self (normalized_newlines h)⟩

theorem normalize_optional_text_idem {max_characters : Nat}
    (h : normalize_optional_text (some value) max_characters = some (some normalized)) :
    normalize_optional_text (some normalized) max_characters = some (some normalized) := by
  unfold normalize_optional_text at h ⊢
  dsimp only at h ⊢
  split at h
  · cases h
  next text htext =>
    split at h
    · cases h
    next hblank =>
      split at h
      · cases h
      next hlong =>
        obtain rfl := Option.some.inj (Option.some.inj h)
        rw [normalize_exact_text_idem htext]
        dsimp only
        rw [if_neg hblank, if_neg hlong]

end OhMySubagents

open JsonData

namespace OhMySubagents.Contracts

/-- The characters with the Unicode property `White_Space`. -/
def is_white_space (c : Char) : Bool := c.is_space && !(0x1C ≤ c.toNat && c.toNat ≤ 0x1F)

/-- `strip_whitespace`. -/
def strip_whitespace (s : String) : String :=
  String.ofList ((s.toList.dropWhile is_white_space).rdropWhile is_white_space)

theorem strip_whitespace_idem (s : String) : strip_whitespace (strip_whitespace s) = strip_whitespace s := by
  unfold strip_whitespace
  rw [String.toList_ofList]
  congr 1
  generalize hfront : s.toList.dropWhile is_white_space = front
  have hback : (front.rdropWhile is_white_space).dropWhile is_white_space = front.rdropWhile is_white_space := by
    cases hrest : front.rdropWhile is_white_space with
    | nil => rfl
    | cons c rest =>
      -- what is left begins as the front does, with a character that is no blank
      obtain ⟨tail, htail⟩ := List.rdropWhile_prefix is_white_space front
      rw [hrest] at htail
      have hhead : is_white_space c = false := by
        have hnot := @List.head_dropWhile_not Char is_white_space s.toList (by rw [hfront, ← htail]; simp)
        simpa [hfront, ← htail] using hnot
      rw [List.dropWhile_cons, hhead]
      rfl
  rw [hback, List.rdropWhile_idempotent]

/-- A text without blanks is stripped. -/
theorem strip_whitespace_eq_self {s : String} (h : ∀ c ∈ s.toList, is_white_space c = false) :
    strip_whitespace s = s := by
  have hfront : s.toList.dropWhile is_white_space = s.toList := by
    cases hs : s.toList with
    | nil => rfl
    | cons c rest => rw [List.dropWhile_cons, h c (hs ▸ List.mem_cons_self)]; rfl
  unfold strip_whitespace
  rw [hfront, List.rdropWhile_eq_self_iff.mpr fun hne => by simp [h _ (List.getLast_mem hne)], String.ofList_toList]

/-- A stripped text of `1` to `max_length` characters. -/
abbrev ConstrainedText (max_length : Nat) :=
  {s : String // strip_whitespace s = s ∧ 1 ≤ s.length ∧ s.length ≤ max_length}

namespace ConstrainedText

variable {max_length : Nat}

/-- `StringConstraints(strip_whitespace=True, min_length=1, max_length=max_length)`. -/
def validate (max_length : Nat) (s : String) : Option (ConstrainedText max_length) :=
  if h : 1 ≤ (strip_whitespace s).length ∧ (strip_whitespace s).length ≤ max_length then
    some ⟨strip_whitespace s, strip_whitespace_idem s, h⟩
  else none

@[simp]
theorem validate_val (text : ConstrainedText max_length) : validate max_length text.val = some text := by
  simp [validate, text.property]

def codec (max_length : Nat) : Codec (ConstrainedText max_length) :=
  Codec.string.via Subtype.val (validate max_length) validate_val

theorem ne_null (text : ConstrainedText max_length) : (codec max_length).encode text ≠ .null :=
  Codec.string_via_ne_null _ _ _ text

end ConstrainedText

end OhMySubagents.Contracts
