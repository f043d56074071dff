import Mathlib.Data.List.Basic
import Mathlib.Tactic.Common

namespace Text

/-- Where `shlex` stands in a text: between words, in a word, behind a quote that is still open, or behind a backslash
    of a word or of a quoted part. -/
inductive LexState
  | blank
  | word
  | quoted (quote : Char)
  | escaped (back : Option Char)
  deriving DecidableEq

def is_shell_whitespace (c : Char) : Bool := c == ' ' || c == '\t' || c == '\r' || c == '\n'

def is_shell_quote (c : Char) : Bool := c == '\x27' || c == '\x22'

/-- A token that is at its end: one without characters counts only when a part of it was quoted. -/
def emit_token (token : List Char) (is_quoted : Bool) : List (List Char) :=
  if token.isEmpty && !is_quoted then [] else [token]

/-- The words behind a token whose last characters stand last; `none` is the `ValueError` for a quotation or an escape
    that is not closed. -/
def split_words (state : LexState) (token : List Char) (is_quoted : Bool) : List Char → Option (List (List Char))
  | [] =>
    match state with
    | .blank | .word => some (emit_token token is_quoted)
    | .quoted _ | .escaped _ => none
  | c :: text =>
    match state with
    | .blank =>
      if is_shell_whitespace c then split_words .blank [] false text
      else if c = '\x5c' then split_words (.escaped none) token is_quoted text
      else if is_shell_quote c then split_words (.quoted c) token is_quoted text
      else split_words .word [c] is_quoted text
    | .word =>
      if is_shell_whitespace c then (split_words .blank [] false text).map (emit_token token is_quoted ++ ·)
      else if is_shell_quote c then split_words (.quoted c) token is_quoted text
      else if c = '\x5c' then split_words (.escaped none) token is_quoted text
      else split_words .word (token ++ [c]) is_quoted text
    | .quoted quote =>
      if c = quote then split_words .word token true text
      else if c = '\x5c' ∧ quote = '\x22' then split_words (.escaped (some quote)) token true text
      else split_words (.quoted quote) (token ++ [c]) true text
    | .escaped none => split_words .word (token ++ [c]) is_quoted text
    | .escaped (some quote) =>
      if c ≠ '\x5c' ∧ c ≠ quote then split_words (.quoted quote) (token ++ ['\x5c', c]) is_quoted text
      else split_words (.quoted quote) (token ++ [c]) is_quoted text

/-- `shlex.split(text, comments=False, posix=True)`. -/
def shell_split (text : List Char) : Option (List (List Char)) := split_words .blank [] false text

/-- A text between double quotes, with its quotes and backslashes escaped. -/
def escape_quoted (text : List Char) : List Char :=
  text.flatMap fun c => if c = '\x5c' ∨ c = '\x22' then ['\x5c', c] else [c]

example : shell_split "a \\b'c d'  \"e\\\"\\x\" ''".toList = some ["a".toList, "bc d".toList, "e\"\\x".toList, []] := by
  decide

variable {token text : List Char} {is_quoted : Bool} {c : Char}

theorem escape_quoted_cons (c : Char) (text : List Char) : escape_quoted (c :: text) =
    (if c = '\x5c' ∨ c = '\x22' then ['\x5c', c] else [c]) ++ escape_quoted text :=
  List.flatMap_cons

theorem escape_quoted_append (text text' : List Char) :
    escape_quoted (text ++ text') = escape_quoted text ++ escape_quoted text' :=
  List.flatMap_append

theorem mem_escape_quoted (h : c ∈ escape_quoted text) : c = '\x5c' ∨ c ∈ text := by
  obtain ⟨d, hd, hc⟩ := List.mem_flatMap.mp h
  split at hc
  · rcases List.mem_cons.mp hc with rfl | hc
    · exact .inl rfl
    · exact .inr (List.mem_singleton.mp hc ▸ hd)
  · exact .inr (List.mem_singleton.mp hc ▸ hd)

/-- Whether something was quoted before does not matter behind a quote. -/
private theorem split_quoted_flag (quote : Char) (token text : List Char) :
    split_words (.quoted quote) token is_quoted text = split_words (.quoted quote) token true text := by
  cases text with
  | nil => rfl
  | cons c text => simp only [split_words]

private theorem split_quoted_character (c : Char) (rest : List Char) :
    split_words (.quoted '\x22') token true ((if c = '\x5c' ∨ c = '\x22' then ['\x5c', c] else [c]) ++ rest) =
      split_words (.quoted '\x22') (token ++ [c]) true rest := by
  by_cases hc : c = '\x5c' ∨ c = '\x22'
  · rw [if_pos hc]
    have hback : ¬(c ≠ '\x5c' ∧ c ≠ '\x22') := fun h => hc.elim h.1 h.2
    simp only [List.cons_append, List.nil_append, split_words]
    rw [if_neg (by decide), if_pos (by decide), if_neg hback]
  · rw [if_neg hc]
    obtain ⟨hback, hquote⟩ := not_or.mp hc
    simp only [List.cons_append, List.nil_append, split_words]
    rw [if_neg hquote, if_neg fun h => hback h.1]

/-- Behind an opening quote every escaped character is read as itself. -/
theorem split_escape_quoted (text rest : List Char) :
    split_words (.quoted '\x22') token true (escape_quoted text ++ rest) =
      split_words (.quoted '\x22') (token ++ text) true rest := by
  induction text generalizing token with
  | nil => rw [List.append_nil]; rfl
  | cons c text ih => rw [escape_quoted_cons, List.append_assoc, split_quoted_character, ih, List.append_assoc]; rfl

/-- A quotation that breaks off has no closing quote, wherever it does. -/
theorem split_open_quote {opened : List Char} (h : opened <+: escape_quoted text) :
    split_words (.quoted '\x22') token true opened = none := by
  induction text generalizing token opened with
  | nil => rw [List.prefix_nil.mp h]; rfl
  | cons c text ih =>
    rw [escape_quoted_cons] at h
    by_cases hlength : (if c = '\x5c' ∨ c = '\x22' then ['\x5c', c] else [c]).length ≤ opened.length
    · obtain ⟨rest, rfl⟩ := List.prefix_of_prefix_length_le (List.prefix_append _ _) h hlength
      rw [split_quoted_character]
      exact ih ((List.prefix_append_right_inj _).mp h)
    · match opened, hlength with
      | [], _ => rfl
      | [first], hlength =>
        by_cases hc : c = '\x5c' ∨ c = '\x22'
        · rw [if_pos hc, List.cons_append] at h
          obtain ⟨rfl, -⟩ := List.cons_prefix_cons.mp h
          rfl
        · rw [if_neg hc] at hlength
          exact absurd (Nat.le_refl 1) hlength
      | _ :: _ :: _, hlength =>
        split at hlength
        · exact absurd (Nat.le_add_left 2 _) hlength
        · exact absurd (Nat.le_add_left 1 _) hlength

/-- Characters that have no meaning to the shell. -/
def is_plain (c : Char) : Bool := !is_shell_whitespace c && !is_shell_quote c && c != '\x5c'

private theorem split_plain {word : List Char} (hword : ∀ c ∈ word, is_plain c = true) (rest : List Char) :
    split_words .word token is_quoted (word ++ rest) = split_words .word (token ++ word) is_quoted rest := by
  induction word generalizing token with
  | nil => rw [List.append_nil]; rfl
  | cons c word ih =>
    obtain ⟨hc, hword⟩ := List.forall_mem_cons.mp hword
    simp only [is_plain, Bool.and_eq_true, Bool.not_eq_true', bne_iff_ne] at hc
    rw [List.cons_append, split_words]
    simp only [hc.1.1, hc.1.2, hc.2, Bool.false_eq_true, if_false]
    rw [ih hword, List.append_assoc, List.singleton_append]

theorem shell_split_plain {word : List Char} (hword : ∀ c ∈ word, is_plain c = true) (hne : word ≠ [])
    (rest : List Char) :
    shell_split (word ++ '\x22' :: rest) = split_words (.quoted '\x22') word true rest := by
  match word with
  | [] => exact absurd rfl hne
  | c :: word =>
    obtain ⟨hc, hword⟩ := List.forall_mem_cons.mp hword
    simp only [is_plain, Bool.and_eq_true, Bool.not_eq_true', bne_iff_ne] at hc
    rw [shell_split, List.cons_append, split_words]
    simp only [hc.1.1, hc.1.2, hc.2, Bool.false_eq_true, if_false]
    rw [split_plain hword, List.singleton_append, ← split_quoted_flag]
    rfl

end Text
