import Mathlib.Data.List.Infix
import Mathlib.Data.List.TakeWhile
import OhMySubagents.Relational.Table

namespace Text

/-- What a character of a pattern stands for. -/
inductive Token
  | any
  | one
  | only (c : Char)
  deriving DecidableEq, Repr

def Token.of (c : Char) : Token := if c = '%' then any else if c = '_' then one else only c

/-- A pattern, behind an escape or not. -/
def tokens (escape : Option Char) : Bool → List Char → List Token
  | _, [] => []
  | true, c :: pattern => .only c :: tokens escape false pattern
  | false, c :: pattern =>
    if some c = escape then tokens escape true pattern else .of c :: tokens escape false pattern

def like : List Token → List Char → Bool
  | [], text => text.isEmpty
  | .any :: pattern, text => text.tails.any (like pattern)
  | .one :: pattern, _ :: text => like pattern text
  | .only c :: pattern, d :: text => c == d && like pattern text
  | _ :: _, [] => false

/-- The pattern for the texts that contain another one. -/
def containing (literal : String) : String := "%" ++ literal ++ "%"

theorem toList_containing (literal : String) : (containing literal).toList = '%' :: (literal.toList ++ ['%']) := by
  rw [containing, String.toList_append, String.toList_append]
  rfl

/-- A text in which every character of a pattern stands for itself. -/
def IsPlain (escape : Option Char) (literal : List Char) : Prop :=
  '%' ∉ literal ∧ '_' ∉ literal ∧ ∀ e ∈ escape, e ∉ literal

section Like

variable {escape : Option Char} {pattern : List Token} {literal text : List Char} {c d : Char}

theorem like_any : like (.any :: pattern) text = true ↔ ∃ behind, behind <:+ text ∧ like pattern behind = true := by
  rw [like, List.any_eq_true]
  simp only [List.mem_tails]

theorem like_all (text : List Char) : like [.any] text = true := like_any.mpr ⟨[], List.nil_suffix, rfl⟩

theorem like_only : like (literal.map .only ++ pattern) text = true ↔
    ∃ behind, text = literal ++ behind ∧ like pattern behind = true := by
  induction literal generalizing text with
  | nil => exact ⟨fun h => ⟨text, rfl, h⟩, fun ⟨behind, htext, h⟩ => htext ▸ h⟩
  | cons c literal ih =>
    rw [List.map_cons, List.cons_append]
    cases text with
    | nil => simp [like]
    | cons d text =>
      rw [like, Bool.and_eq_true, beq_iff_eq, ih]
      constructor
      · rintro ⟨rfl, behind, rfl, h⟩
        exact ⟨behind, rfl, h⟩
      · rintro ⟨behind, htext, h⟩
        obtain ⟨rfl, rfl⟩ := List.cons.inj htext
        exact ⟨rfl, behind, rfl, h⟩

theorem like_iff_contains : like (.any :: (literal.map .only ++ [.any])) text = true ↔ literal <:+: text := by
  rw [like_any]
  constructor
  · rintro ⟨behind, ⟨before, rfl⟩, hlike⟩
    obtain ⟨rest, rfl, -⟩ := like_only.mp hlike
    exact ⟨before, rest, List.append_assoc _ _ _⟩
  · rintro ⟨before, behind, rfl⟩
    exact ⟨literal ++ behind, ⟨before, (List.append_assoc _ _ _).symm⟩, like_only.mpr ⟨behind, rfl, like_all behind⟩⟩

theorem tokens_any (h : escape ≠ some '%') (rest : List Char) :
    tokens escape false ('%' :: rest) = .any :: tokens escape false rest := by
  rw [tokens, if_neg (Ne.symm h)]
  rfl

theorem tokens_plain (hliteral : IsPlain escape literal) (rest : List Char) :
    tokens escape false (literal ++ rest) = literal.map .only ++ tokens escape false rest := by
  induction literal with
  | nil => rfl
  | cons c literal ih =>
    obtain ⟨hany, hone, hescape⟩ := hliteral
    rw [List.mem_cons, not_or] at hany hone
    have hc : some c ≠ escape := fun heq => hescape c heq.symm List.mem_cons_self
    rw [List.cons_append, tokens, if_neg hc, Token.of, if_neg (Ne.symm hany.1), if_neg (Ne.symm hone.1),
      ih ⟨hany.2, hone.2, fun e he hmem => hescape e he (List.mem_cons_of_mem _ hmem)⟩]
    rfl

/-- What may stand for a token: nothing for any text, and a letter for one character. -/
def Token.sample : Token → List Char
  | any => []
  | one => ['x']
  | only c => [c]

theorem like_sample (pattern : List Token) : like pattern (pattern.flatMap Token.sample) = true := by
  induction pattern with
  | nil => rfl
  | cons token pattern ih =>
    rw [List.flatMap_cons]
    cases token with
    | any => exact like_any.mpr ⟨pattern.flatMap Token.sample, List.suffix_rfl, ih⟩
    | one => exact ih
    | only c => exact Bool.and_eq_true_iff.mpr ⟨beq_self_eq_true c, ih⟩

theorem mem_sample_of (h : c ∈ (Token.of d).sample) : c = d ∨ c = 'x' := by
  rw [Token.of] at h
  split at h
  · cases h
  · split at h
    · exact .inr (List.mem_singleton.mp h)
    · exact .inl (List.mem_singleton.mp h)

theorem mem_sample {escaped : Bool} (h : c ∈ (tokens escape escaped literal).flatMap Token.sample) :
    c ∈ literal ∨ c = 'x' := by
  induction literal generalizing escaped with
  | nil => cases escaped <;> cases h
  | cons d literal ih =>
    cases escaped with
    | true =>
      rw [tokens, List.flatMap_cons, List.mem_append] at h
      rcases h with h | h
      · exact .inl (List.mem_singleton.mp h ▸ List.mem_cons_self)
      · exact (ih h).imp_left (List.mem_cons_of_mem _)
    | false =>
      rw [tokens] at h
      split at h
      · exact (ih h).imp_left (List.mem_cons_of_mem _)
      · rw [List.flatMap_cons, List.mem_append] at h
        rcases h with h | h
        · exact (mem_sample_of h).imp_left fun heq => List.mem_cons.mpr (.inl heq)
        · exact (ih h).imp_left (List.mem_cons_of_mem _)

/-- Without an escape no wildcard is left of a pattern. -/
theorem not_mem_sample (h : ∀ e ∈ escape, e ∉ literal) :
    ∀ c ∈ (tokens escape false literal).flatMap Token.sample, c ≠ '%' ∧ c ≠ '_' := by
  induction literal with
  | nil => exact List.forall_mem_nil _
  | cons d literal ih =>
    have hd : some d ≠ escape := fun heq => h d heq.symm List.mem_cons_self
    rw [tokens, if_neg hd, List.flatMap_cons]
    refine List.forall_mem_append.mpr ⟨fun c hc => ?_, ih fun e he hmem => h e he (List.mem_cons_of_mem _ hmem)⟩
    rw [Token.of] at hc
    split at hc
    · cases hc
    · next hany =>
      split at hc
      · rw [List.mem_singleton.mp hc]
        decide
      · next hone =>
        rw [List.mem_singleton.mp hc]
        exact ⟨hany, hone⟩

private theorem count_sample_of (hx : escape ≠ some 'x') (hc : escape = some c) (hd : some d ≠ escape) :
    (Token.of d).sample.count c = 0 := by
  refine List.count_eq_zero_of_not_mem fun hmem => ?_
  rcases mem_sample_of hmem with rfl | rfl
  · exact hd hc.symm
  · exact hx hc

private theorem count_sample_le (hx : escape ≠ some 'x') (hc : escape = some c) (escaped : Bool) :
    ((tokens escape escaped literal).flatMap Token.sample).count c ≤ literal.count c := by
  induction literal generalizing escaped with
  | nil => cases escaped <;> exact Nat.le_refl _
  | cons d literal ih =>
    cases escaped with
    | true =>
      rw [tokens, List.flatMap_cons, Token.sample, List.singleton_append, List.count_cons, List.count_cons]
      exact Nat.add_le_add_right (ih false) _
    | false =>
      rw [tokens]
      split
      · exact (ih true).trans (List.count_le_count_cons ..)
      · next hd =>
        rw [List.flatMap_cons, List.count_append, count_sample_of hx hc hd, Nat.zero_add]
        exact (ih false).trans (List.count_le_count_cons ..)

/-- An escape takes itself out. -/
theorem count_sample_lt (hx : escape ≠ some 'x') (hc : escape = some c) (hmem : c ∈ literal) :
    ((tokens escape false literal).flatMap Token.sample).count c < literal.count c := by
  induction literal with
  | nil => cases hmem
  | cons d literal ih =>
    rw [tokens]
    split
    · next hd =>
      obtain rfl := Option.some.inj (hd.trans hc)
      rw [List.count_cons_self]
      exact Nat.lt_succ_of_le (count_sample_le hx hc true)
    · next hd =>
      have hne : c ≠ d := by
        rintro rfl
        exact hd hc.symm
      rw [List.flatMap_cons, List.count_append, count_sample_of hx hc hd, Nat.zero_add]
      exact (ih ((List.mem_cons.mp hmem).resolve_left hne)).trans_le (List.count_le_count_cons ..)

/-- What is like the pattern of a text with a wildcard or an escape need not contain it. -/
theorem sample_not_contains (hx : escape ≠ some 'x') (hany : escape ≠ some '%') (h : ¬IsPlain escape literal) :
    ¬literal <:+: (tokens escape false (literal ++ ['%'])).flatMap Token.sample := by
  intro hwithin
  by_cases hescape : ∀ e ∈ escape, e ∉ literal
  · have hwild := @not_mem_sample escape (literal ++ ['%']) fun e he hmem => by
      rcases List.mem_append.mp hmem with hmem | hmem
      · exact hescape e he hmem
      · exact hany (List.mem_singleton.mp hmem ▸ he)
    exact h ⟨fun hmem => (hwild _ (hwithin.subset hmem)).1 rfl,
      fun hmem => (hwild _ (hwithin.subset hmem)).2 rfl, hescape⟩
  · simp only [not_forall, not_not, exists_prop] at hescape
    obtain ⟨e, he, hmem⟩ := hescape
    have hne : '%' ≠ e := by
      rintro rfl
      exact hany he
    have hlt := count_sample_lt hx he (List.mem_append_left ['%'] hmem)
    rw [List.count_append, List.count_singleton, if_neg (by simpa using hne)] at hlt
    exact absurd (hwithin.sublist.count_le e) (by omega)

end Like

end Text

namespace Relational.Dialect

open Text

/-- The character of a pattern that takes the next one as it stands. -/
def escape : Dialect → Option Char
  | sqlite => none
  | postgresql => some '\\'

/-- What `LIKE` reads of a pattern or a text: SQLite ends both at their first NUL. -/
def read : Dialect → List Char → List Char
  | sqlite, text => text.takeWhile (· ≠ '\x00')
  | postgresql, text => text

/-- The patterns that SQLite compares with nothing are those of more bytes. -/
def LIKE_PATTERN_LENGTH : Nat := 50000

/-- Whether `LIKE` raises where it is evaluated with a pattern. -/
def refuses_pattern : Dialect → String → Bool
  | sqlite, pattern => LIKE_PATTERN_LENGTH < pattern.utf8ByteSize
  | postgresql, _ => false

/-- Whether a text can be no parameter of a query. -/
def refuses_parameter : Dialect → String → Bool
  | sqlite, _ => false
  | postgresql, text => text.toList.contains '\x00'

/-- `LIKE` without an `ESCAPE` clause. -/
def is_like (dialect : Dialect) (pattern text : String) : Bool :=
  like (tokens dialect.escape false (dialect.read pattern.toList)) (dialect.read text.toList)

/-- A text that a database can be asked for as it stands. -/
structure Searchable (dialect : Dialect) (literal : String) : Prop where
  plain : IsPlain dialect.escape literal.toList
  no_nul : '\x00' ∉ literal.toList
  fits : dialect.refuses_pattern (containing literal) = false

variable {dialect : Dialect} {literal text : String}

theorem escape_ne {c : Char} (h : c ≠ '\\') : dialect.escape ≠ some c := by
  cases dialect with
  | sqlite => exact nofun
  | postgresql => exact fun heq => h (Option.some.inj heq).symm

theorem read_eq {text : List Char} (h : '\x00' ∉ text) : dialect.read text = text := by
  cases dialect with
  | sqlite =>
    refine List.takeWhile_eq_self_iff.mpr fun c hc => decide_eq_true ?_
    rintro rfl
    exact h hc
  | postgresql => rfl

theorem read_prefix (text : List Char) : dialect.read text <+: text := by
  cases dialect with
  | sqlite => exact List.takeWhile_prefix _
  | postgresql => exact List.prefix_rfl

theorem takes_parameter (h : Searchable dialect literal) :
    dialect.refuses_parameter (containing literal) = false := by
  cases dialect with
  | sqlite => rfl
  | postgresql =>
    rw [refuses_parameter, toList_containing, List.contains_eq_mem, decide_eq_false_iff_not]
    simpa using h.no_nul

theorem not_mem_read {text : List Char} (h : dialect = .sqlite) : '\x00' ∉ dialect.read text := by
  subst h
  intro hmem
  have hother := List.mem_takeWhile_imp hmem
  exact absurd hother (by decide)

theorem is_like_iff (h : Searchable dialect literal) :
    dialect.is_like (containing literal) text = true ↔ literal.toList <:+: dialect.read text.toList := by
  rw [is_like, toList_containing, read_eq, tokens_any (escape_ne (by decide)), tokens_plain h.plain,
    tokens_any (escape_ne (by decide)), tokens, like_iff_contains]
  simpa using h.no_nul

/-- One letter is looked for as it stands. -/
theorem Searchable.of_letter (h : literal.toList <:+: "x".toList) : Searchable dialect literal := by
  have hletter : literal = "" ∨ literal = "x" := by
    rcases List.infix_cons_iff.mp h with h | h
    · rcases List.prefix_cons_iff.mp h with h | ⟨rest, h, hrest⟩
      · exact .inl (String.toList_eq_nil_iff.mp h)
      · rw [List.prefix_nil.mp hrest] at h
        exact .inr (String.toList_inj.mp h)
    · exact .inl (String.toList_eq_nil_iff.mp (List.infix_nil.mp h))
  rcases hletter with rfl | rfl
  · cases dialect <;> exact ⟨⟨by decide, by decide, by simp [Dialect.escape]⟩, by decide, by decide⟩
  · cases dialect <;> exact ⟨⟨by decide, by decide, by simp [Dialect.escape]⟩, by decide, by decide⟩

/-- A text that is like a pattern, when the pattern starts with any text. -/
private theorem exists_sample {pattern : String} {rest : List Char} (h : dialect.read pattern.toList = '%' :: rest)
    (hnul : '\x00' ∉ rest) : ∃ text : String,
      text.toList = (tokens dialect.escape false rest).flatMap Token.sample ∧
      (∀ c ∈ text.toList, c ∈ rest ∨ c = 'x') ∧ '\x00' ∉ text.toList ∧ dialect.is_like pattern text = true := by
  have hmem : ∀ c ∈ (tokens dialect.escape false rest).flatMap Token.sample, c ∈ rest ∨ c = 'x' := fun c => mem_sample
  have hclean : '\x00' ∉ (tokens dialect.escape false rest).flatMap Token.sample := fun h =>
    (hmem _ h).elim hnul (by decide)
  refine ⟨String.ofList ((tokens dialect.escape false rest).flatMap Token.sample), String.toList_ofList,
    by rwa [String.toList_ofList], by rwa [String.toList_ofList], ?_⟩
  rw [is_like, h, tokens_any (escape_ne (by decide)), String.toList_ofList, read_eq hclean]
  exact like_any.mpr ⟨_, List.suffix_rfl, like_sample _⟩

/-- A text with a wildcard, an escape or a NUL is looked for as something else. -/
theorem exists_like (hwild : ¬(IsPlain dialect.escape literal.toList ∧ '\x00' ∉ literal.toList))
    (hparameter : dialect.refuses_parameter (containing literal) = false) :
    ∃ text : String, (∀ c ∈ text.toList, c ∈ literal.toList ∨ c = '%' ∨ c = 'x') ∧ '\x00' ∉ text.toList ∧
      dialect.is_like (containing literal) text = true ∧ ¬literal.toList <:+: text.toList := by
  by_cases hnul : '\x00' ∈ literal.toList
  · have hsqlite : dialect = .sqlite := by
      cases dialect with
      | sqlite => rfl
      | postgresql =>
        rw [refuses_parameter, toList_containing, List.contains_eq_mem, decide_eq_false_iff_not] at hparameter
        exact absurd (List.mem_cons_of_mem _ (List.mem_append_left _ hnul)) hparameter
    have hread : dialect.read (containing literal).toList =
        '%' :: dialect.read (literal.toList ++ ['%']) := by
      rw [hsqlite, toList_containing]
      rfl
    obtain ⟨text, -, hmem, hclean, hlike⟩ := exists_sample hread (not_mem_read hsqlite)
    refine ⟨text, fun c hc => ?_, hclean, hlike, fun hwithin => hclean (hwithin.subset hnul)⟩
    rcases hmem c hc with hc | hc
    · rw [hsqlite] at hc
      rcases List.mem_append.mp (List.takeWhile_subset _ hc) with hc | hc
      · exact .inl hc
      · exact .inr (.inl (List.mem_singleton.mp hc))
    · exact .inr (.inr hc)
  · have hplain : ¬IsPlain dialect.escape literal.toList := fun h => hwild ⟨h, hnul⟩
    have hrest : '\x00' ∉ literal.toList ++ ['%'] := by simpa using hnul
    have hread : dialect.read (containing literal).toList = '%' :: (literal.toList ++ ['%']) := by
      rw [toList_containing, read_eq (by simpa using hnul)]
    obtain ⟨text, htext, hmem, hclean, hlike⟩ := exists_sample hread hrest
    refine ⟨text, fun c hc => ?_, hclean, hlike, ?_⟩
    · rcases hmem c hc with hc | hc
      · exact (List.mem_append.mp hc).imp_right fun hc => .inl (List.mem_singleton.mp hc)
      · exact .inr (.inr hc)
    · rw [htext]
      exact sample_not_contains (escape_ne (by decide)) (escape_ne (by decide)) hplain

end Relational.Dialect
