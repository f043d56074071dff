import Mathlib.Algebra.Order.BigOperators.Group.List
import Mathlib.Algebra.Order.Group.Nat
import Mathlib.Data.List.Infix
import OhMySubagents.Json.Codec
import OhMySubagents.Text.ExactText

open JsonData

namespace OhMySubagents

/-- The components of a relative path, as `PurePosixPath` keeps them. -/
def path_parts (value : List Char) : List (List Char) :=
  (value.splitOn '/').filter fun part => part ≠ [] && part ≠ ['.']

/-- `str(PurePosixPath(value))` of a relative path. -/
def posix_path (value : List Char) : List Char :=
  if (path_parts value).isEmpty then ['.'] else ['/'].intercalate (path_parts value)

/-- Backslashes, and what stands for more than one file. -/
def is_pattern_character (c : Char) : Bool := c == '\x5c' || c == '*' || c == '?' || c == '[' || c == ']'

/-- `normalize_path` of a file reference. -/
def normalize_path (value : List Char) : Option (List Char) := do
  let value ← normalize_exact_text value (some 4096) false
  if value.isEmpty || value.head? == some '/' || value.any is_pattern_character then none
  else if (value.splitOn '/').contains ['.', '.'] then none
  else
    let normalized := posix_path value
    if normalized == [] || normalized == ['.'] then none
    else if ((path_parts normalized).headD []).contains ':' then none
    else return normalized

/-- The path of an accepted file reference. -/
abbrev FilePath := {path : String // normalize_path path.toList = some path.toList}

/-- The description of an accepted file reference, where it has one. -/
abbrev FileDescription :=
  {description : String // normalize_optional_text (some description.toList) 1024 = some (some description.toList)}

/-- An ordered navigation value to one ordinary workspace file. -/
structure FileReference where
  path : FilePath
  description : Option FileDescription
  deriving DecidableEq

section

variable {chars value normalized : List Char} {parts parts' : List (List Char)}

private theorem not_mem_of_mem_splitOn {part : List Char} (h : part ∈ chars.splitOn '/') : '/' ∉ part := by
  induction chars generalizing part with
  | nil =>
    obtain rfl := List.mem_singleton.mp h
    exact List.not_mem_nil
  | cons c chars ih =>
    rw [List.splitOn_cons_eq_if_modifyHead] at h
    split at h
    · rcases List.mem_cons.mp h with rfl | h
      · exact List.not_mem_nil
      · exact ih h
    · next hc =>
      cases hrest : chars.splitOn '/' with
      | nil => exact absurd hrest (List.splitOn_ne_nil _ _)
      | cons first rest =>
        rw [hrest] at h ih
        rcases List.mem_cons.mp h with rfl | h
        · rintro hslash
          rcases List.mem_cons.mp hslash with rfl | hslash
          · exact hc (by simp)
          · exact ih List.mem_cons_self hslash
        · exact ih (List.mem_cons_of_mem _ h)

private theorem path_parts_spec {part : List Char} (h : part ∈ path_parts value) :
    '/' ∉ part ∧ part ≠ [] ∧ part ≠ ['.'] := by
  obtain ⟨hmem, hpart⟩ := List.mem_filter.mp h
  exact ⟨not_mem_of_mem_splitOn hmem, by simpa using hpart⟩

private theorem intercalate_sublist (h : parts.Sublist parts') :
    (['/'].intercalate parts).Sublist (['/'].intercalate parts') := by
  induction h with
  | slnil => exact List.Sublist.refl _
  | @cons parts parts' part h ih =>
    by_cases hempty : parts' = []
    · subst hempty
      rw [List.sublist_nil.mp h]
      exact List.nil_sublist _
    · rw [List.intercalate_cons_of_ne_nil hempty]
      exact ih.trans (List.sublist_append_right _ _)
  | @cons_cons parts parts' part h ih =>
    by_cases hempty : parts = []
    · subst hempty
      rw [List.intercalate_singleton]
      by_cases hempty' : parts' = []
      · subst hempty'
        rw [List.intercalate_singleton]
      · rw [List.intercalate_cons_of_ne_nil hempty', List.append_assoc]
        exact List.sublist_append_left _ _
    · have hempty' : parts' ≠ [] := fun heq => hempty (List.sublist_nil.mp (heq ▸ h))
      rw [List.intercalate_cons_of_ne_nil hempty, List.intercalate_cons_of_ne_nil hempty']
      exact (List.Sublist.refl _).append ih

/-- The path of some components has these components. -/
private theorem path_parts_posix_path (h : (path_parts value).isEmpty = false) :
    path_parts (posix_path value) = path_parts value := by
  have hne : path_parts value ≠ [] := by simpa using h
  have hsplit : (['/'].intercalate (path_parts value)).splitOn '/' = path_parts value :=
    List.splitOn_intercalate _ (fun part hpart => (path_parts_spec hpart).1) hne
  rw [posix_path, if_neg (by simp [hne]), path_parts, hsplit]
  exact List.filter_eq_self.mpr fun part hpart => by simpa using (path_parts_spec hpart).2

private theorem normalize_path_eq_some_iff : normalize_path value = some normalized ↔
    ∃ text, normalize_exact_text value (some 4096) false = some text ∧
      (text.isEmpty || text.head? == some '/' || text.any is_pattern_character) = false ∧
      (text.splitOn '/').contains ['.', '.'] = false ∧
      (posix_path text == [] || posix_path text == ['.']) = false ∧
      ((path_parts (posix_path text)).headD []).contains ':' = false ∧ posix_path text = normalized := by
  unfold normalize_path
  simp only [Option.bind_eq_bind, Option.bind_eq_some_iff]
  refine exists_congr fun text => and_congr_right fun _ => ?_
  split
  · next h => simp only [h, Bool.true_eq_false, false_and, reduceCtorEq]
  split
  · next h => simp only [h, Bool.true_eq_false, false_and, and_false, reduceCtorEq]
  split
  · next h => simp only [h, Bool.true_eq_false, false_and, and_false, reduceCtorEq]
  split
  · next h => simp only [h, Bool.true_eq_false, false_and, and_false, reduceCtorEq]
  next h1 h2 h3 h4 =>
    rw [Bool.not_eq_true] at h1 h2 h3 h4
    simp only [h1, h2, h3, h4, true_and, Option.pure_def, Option.some.injEq]

/-- A normalized path is normalized already. -/
theorem normalize_path_idem (h : normalize_path value = some normalized) :
    normalize_path normalized = some normalized := by
  obtain ⟨text, htext, hcharacters, hdots, hfile, hscheme, rfl⟩ := normalize_path_eq_some_iff.mp h
  have hparts : (path_parts text).isEmpty = false := by
    cases hempty : (path_parts text).isEmpty with
    | false => rfl
    | true => simp [posix_path, hempty] at hfile
  have hpath : posix_path text = ['/'].intercalate (path_parts text) := by rw [posix_path, hparts]; rfl
  have hfixed : posix_path (posix_path text) = posix_path text := by
    rw [posix_path, path_parts_posix_path hparts, hparts, hpath]
    rfl
  have hsublist : (posix_path text).Sublist text := by
    rw [hpath]
    refine (intercalate_sublist List.filter_sublist).trans ?_
    rw [List.intercalate_splitOn]
  have hexact : normalize_exact_text (posix_path text) (some 4096) false = some (posix_path text) := by
    obtain ⟨-, -, hbytes, -⟩ := normalize_exact_text_eq_some_iff.mp htext
    have hxml := List.all_eq_true.mp (normalized_xml htext)
    refine normalize_exact_text_eq_some_iff.mpr ⟨List.all_eq_true.mpr fun c hc => hxml c (hsublist.subset hc), rfl, ?_,
      normalize_newlines_eq_self fun hcr => normalized_newlines htext (hsublist.subset hcr)⟩
    have hle : utf8_bytes (posix_path text) ≤ utf8_bytes text :=
      (hsublist.map Char.utf8Size).sum_le_sum fun _ _ => Nat.zero_le _
    simp only [Option.any_some, decide_eq_false_iff_not, not_lt] at hbytes ⊢
    exact hle.trans hbytes
  refine normalize_path_eq_some_iff.mpr ⟨_, hexact, ?_, ?_, by rw [hfixed, hfile], by rw [hfixed, hscheme], hfixed⟩
  · simp only [Bool.or_eq_false_iff] at hcharacters hfile ⊢
    refine ⟨⟨by simpa using hfile.1, ?_⟩, ?_⟩
    · cases hfirst : path_parts text with
      | nil => simp [hfirst] at hparts
      | cons part parts =>
        obtain ⟨hslash, hne, -⟩ := path_parts_spec (hfirst ▸ List.mem_cons_self : part ∈ path_parts text)
        cases part with
        | nil => exact absurd rfl hne
        | cons c part =>
          have hc : c ≠ '/' := fun heq => hslash (heq ▸ List.mem_cons_self)
          rw [hpath, hfirst]
          by_cases hempty : parts = []
          · simpa [hempty] using hc
          · simpa [List.intercalate_cons_of_ne_nil hempty] using hc
    · rw [List.any_eq_false] at hcharacters ⊢
      exact fun c hc => hcharacters.2 c (hsublist.subset hc)
  · have hsplit : (posix_path text).splitOn '/' = path_parts text := by
      rw [hpath]
      exact List.splitOn_intercalate _ (fun part hpart => (path_parts_spec hpart).1) (by simpa using hparts)
    rw [hsplit]
    simp only [List.contains_eq_mem, decide_eq_false_iff_not] at hdots ⊢
    exact fun hmem => hdots (List.mem_of_mem_filter hmem)

end

/-- A description, or `null` for what is left of none. -/
def FileDescription.codec : Codec (Option FileDescription) where
  encode description := description.elim .null fun text => .string text.val
  decode
    | .null => some none
    | .string value =>
      match h : normalize_optional_text (some value.toList) 1024 with
      | some (some text) => some (some ⟨String.ofList text, by simpa using normalize_optional_text_idem h⟩)
      | some none => some none
      | none => none
    | _ => none
  decode_encode description := by
    cases description with
    | none => rfl
    | some description =>
      simp only [Option.elim_some]
      split
      · next text htext =>
        rw [description.property, Option.some.injEq, Option.some.injEq] at htext
        simp [← htext]
      · next hnone => exact absurd (description.property.symm.trans hnone) nofun
      · next hnone => exact absurd (description.property.symm.trans hnone) nofun

def FileReference.codec : Codec FileReference :=
  (((Fields.required "path" (.normalized normalize_path normalize_path_idem)).and <|
    Fields.defaulted "description" FileDescription.codec none).via
      (fun file => (file.path, file.description)) (fun p => some ⟨p.1, p.2⟩) fun _ => rfl).object

end OhMySubagents
