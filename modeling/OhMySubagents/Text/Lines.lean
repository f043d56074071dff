import Mathlib.Data.List.DropRight
import Mathlib.Tactic.Common
import OhMySubagents.Text.ExactText

namespace Text

/-- Where `str.splitlines` breaks a line. -/
def is_line_boundary (c : Char) : Bool :=
  c == '\n' || c == '\r' || (0x0B ≤ c.toNat && c.toNat ≤ 0x0C) || (0x1C ≤ c.toNat && c.toNat ≤ 0x1E) ||
    c.toNat == 0x85 || c.toNat == 0x2028 || c.toNat == 0x2029

/-- `str.splitlines`: a line is as long as it has no boundary, and a last one that is empty does not count. -/
def splitlines : List Char → List (List Char)
  | [] => []
  | '\r' :: '\n' :: text => [] :: splitlines text
  | c :: text =>
    if is_line_boundary c then [] :: splitlines text
    else
      match splitlines text with
      | [] => [[c]]
      | line :: lines => (c :: line) :: lines

/-- `str.strip` without arguments. -/
def strip (text : List Char) : List Char := (text.dropWhile Char.is_space).rdropWhile Char.is_space

def is_blank (line : List Char) : Bool := (strip line).isEmpty

/-- `"\n".join(lines).rstrip("\n") + "\n"`. -/
def render_lines (lines : List (List Char)) : List Char :=
  (['\n'].intercalate lines).rdropWhile (· == '\n') ++ ['\n']

example : splitlines "a\r\nb\x0bc\n\nd\u2028".toList = [['a'], ['b'], ['c'], [], ['d']] := by decide

/-- A line, or a part of one. -/
def Unbroken (line : List Char) : Prop := ∀ c ∈ line, is_line_boundary c = false

variable {line text : List Char} {lines : List (List Char)} {b c : Char}

theorem splitlines_cons (hc : is_line_boundary c = false) : splitlines (c :: text) =
    match splitlines text with
    | [] => [[c]]
    | line :: lines => (c :: line) :: lines := by
  rw [splitlines.eq_def]
  split
  · next heq => cases heq
  · next heq =>
    cases heq
    cases hc
  · next heq =>
    cases heq
    rw [hc, if_neg (by decide)]

theorem splitlines_break (hb : is_line_boundary b = true) (hreturn : b ≠ '\r') :
    splitlines (b :: text) = [] :: splitlines text := by
  rw [splitlines.eq_def]
  split
  · next heq => cases heq
  · next heq =>
    cases heq
    exact absurd rfl hreturn
  · next heq =>
    cases heq
    rw [hb, if_pos rfl]

/-- The first line ends at the first boundary. -/
theorem splitlines_append (hline : Unbroken line) (hb : is_line_boundary b = true) (hreturn : b ≠ '\r') :
    splitlines (line ++ b :: text) = line :: splitlines text := by
  induction line with
  | nil => exact splitlines_break hb hreturn
  | cons c line ih =>
    obtain ⟨hc, hline⟩ := List.forall_mem_cons.mp hline
    rw [List.cons_append, splitlines_cons hc, ih hline]

/-- Lines that are written one below the other are read as they are. -/
theorem splitlines_flatMap (hlines : ∀ line ∈ lines, Unbroken line) :
    splitlines (lines.flatMap (· ++ ['\n']) ++ text) = lines ++ splitlines text := by
  induction lines with
  | nil => rfl
  | cons line lines ih =>
    obtain ⟨hline, hlines⟩ := List.forall_mem_cons.mp hlines
    rw [List.flatMap_cons, List.append_assoc, List.append_assoc, List.singleton_append,
      splitlines_append hline (by decide) (by decide), ih hlines, List.cons_append]

theorem unbroken_of_mem_splitlines (h : line ∈ splitlines text) : Unbroken line := by
  fun_induction splitlines text generalizing line with
  | case1 => cases h
  | case2 text ih =>
    rcases List.mem_cons.mp h with rfl | h
    · exact List.forall_mem_nil _
    · exact ih h
  | case3 c text _ hc ih =>
    rcases List.mem_cons.mp h with rfl | h
    · exact List.forall_mem_nil _
    · exact ih h
  | case4 c text _ hc hnone ih =>
    obtain rfl := List.mem_singleton.mp h
    exact List.forall_mem_singleton.mpr (Bool.not_eq_true _ ▸ hc)
  | case5 c text _ hc first rest hsplit ih =>
    rw [hsplit] at ih
    rcases List.mem_cons.mp h with rfl | h
    · exact List.forall_mem_cons.mpr ⟨Bool.not_eq_true _ ▸ hc, ih List.mem_cons_self⟩
    · exact ih (List.mem_cons_of_mem _ h)

theorem intercalate_newline (lines : List (List Char)) (last : List Char) :
    ['\n'].intercalate (lines ++ [last]) = lines.flatMap (· ++ ['\n']) ++ last := by
  induction lines with
  | nil => exact List.intercalate_singleton
  | cons line lines ih =>
    rw [List.cons_append, List.intercalate_cons_of_ne_nil (by simp), ih, List.flatMap_cons]
    simp only [List.append_assoc]

/-- Lines are rendered one below the other when the last of them is neither empty nor ends with a line feed. -/
theorem render_lines_eq (hlast : ∀ hne : line ≠ [], line.getLast hne ≠ '\n') (hne : line ≠ []) :
    render_lines (lines ++ [line]) = (lines ++ [line]).flatMap (· ++ ['\n']) := by
  have hsame : (lines.flatMap (· ++ ['\n']) ++ line).rdropWhile (· == '\n') = lines.flatMap (· ++ ['\n']) ++ line := by
    rw [List.rdropWhile_eq_self_iff]
    intro hne'
    rw [List.getLast_append_of_ne_nil hne' hne, beq_iff_eq]
    exact hlast hne
  rw [render_lines, intercalate_newline, hsame, List.flatMap_append, List.flatMap_singleton, List.append_assoc]

/-- An empty line at the end is not rendered. -/
theorem render_lines_empty (hlast : ∀ hne : line ≠ [], line.getLast hne ≠ '\n') (hne : line ≠ []) :
    render_lines (lines ++ [line] ++ [[]]) = (lines ++ [line]).flatMap (· ++ ['\n']) := by
  have hrendered : render_lines (lines ++ [line]) = (lines ++ [line]).flatMap (· ++ ['\n']) := render_lines_eq hlast hne
  rw [render_lines, intercalate_newline] at hrendered ⊢
  rw [List.append_nil, ← hrendered, List.rdropWhile_concat_pos _ _ _ (by decide), List.rdropWhile_idempotent]

end Text
