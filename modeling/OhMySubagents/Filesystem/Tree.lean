import Mathlib.Data.List.Infix
import Mathlib.Data.List.Nodup
import Mathlib.Data.Set.Basic
import Mathlib.Tactic.Common

namespace Filesystem

/-- The names from the root of the file system down. -/
abbrev Path := List String

inductive Entry (α : Type) where
  | directory
  | file (content : α)
  | link
deriving DecidableEq, Repr

/-- A run of operations: the states that its effects leave one after the other, and how it ends. -/
abbrev Effects (σ ε : Type) := σ → List σ × Except ε Unit

namespace Effects

variable {σ ε ε' ι : Type}

def done : Effects σ ε := fun _ => ([], .ok ())

def fail (error : ε) : Effects σ ε := fun _ => ([], .error error)

/-- One effect. -/
def change (f : σ → σ) : Effects σ ε := fun s => ([f s], .ok ())

/-- The state that a run leaves. -/
def last (run : Effects σ ε) (s : σ) : σ := (run s).1.getLast?.getD s

def mapError (f : ε → ε') (run : Effects σ ε) : Effects σ ε' := fun s => ((run s).1, (run s).2.mapError f)

/-- The second run goes on where the first one ends, unless that one fails. -/
def andThen (first second : Effects σ ε) : Effects σ ε := fun s =>
  match (first s).2 with
  | .error error => ((first s).1, .error error)
  | .ok () => ((first s).1 ++ (second (first.last s)).1, (second (first.last s)).2)

/-- One run after the other. -/
def each (run : ι → Effects σ ε) : List ι → Effects σ ε
  | [] => done
  | i :: items => (run i).andThen (each run items)

/-- Every state that a run leaves has a property that the first one has. -/
def Keeps (run : Effects σ ε) (P : σ → Prop) : Prop := ∀ s, P s → ∀ s' ∈ (run s).1, P s'

variable {run first second : Effects σ ε} {runs : ι → Effects σ ε} {items : List ι} {f : σ → σ} {P : σ → Prop} {s : σ}

theorem mapError_ok_iff {f : ε → ε'} : (run.mapError f s).2 = .ok () ↔ (run s).2 = .ok () := by
  unfold mapError
  cases (run s).2 <;> simp [Except.mapError]

theorem andThen_ok_iff :
    (first.andThen second s).2 = .ok () ↔ (first s).2 = .ok () ∧ (second (first.last s)).2 = .ok () := by
  unfold andThen
  cases (first s).2 <;> simp

theorem last_andThen (h : (first s).2 = .ok ()) : (first.andThen second).last s = second.last (first.last s) := by
  have hrun : first.andThen second s = ((first s).1 ++ (second (first.last s)).1, (second (first.last s)).2) := by
    rw [andThen, h]
  rw [last, hrun, List.getLast?_append, Option.getD_or]
  rfl

theorem Keeps.last (h : run.Keeps P) (hs : P s) : P (run.last s) := by
  unfold Effects.last
  cases hlast : (run s).1.getLast? with
  | none => exact hs
  | some s' => exact h s hs s' (List.mem_of_getLast? hlast)

theorem keeps_done : (done : Effects σ ε).Keeps P := fun _ _ _ h => (List.not_mem_nil h).elim

theorem keeps_fail {error : ε} : (fail error : Effects σ ε).Keeps P := fun _ _ _ h => (List.not_mem_nil h).elim

theorem keeps_change (h : ∀ s, P s → P (f s)) : (change f : Effects σ ε).Keeps P := by
  intro s hs s' hs'
  obtain rfl := List.mem_singleton.mp hs'
  exact h s hs

theorem Keeps.mapError (h : run.Keeps P) {f : ε → ε'} : (run.mapError f).Keeps P := h

theorem Keeps.andThen (h : first.Keeps P) (h' : second.Keeps P) : (first.andThen second).Keeps P := by
  intro s hs s' hs'
  unfold Effects.andThen at hs'
  split at hs'
  · exact h s hs s' hs'
  · rcases List.mem_append.mp hs' with hs' | hs'
    · exact h s hs s' hs'
    · exact h' _ (h.last hs) s' hs'

theorem Keeps.each (h : ∀ i ∈ items, (runs i).Keeps P) : (each runs items).Keeps P := by
  induction items with
  | nil => exact keeps_done
  | cons i items ih =>
    exact (h i List.mem_cons_self).andThen (ih fun other hother => h other (List.mem_cons_of_mem _ hother))

end Effects

/-- A tree of directories, files and links, with the names that a directory lists. Whatever has an entry is in a
    directory. -/
structure FileTree (α : Type) where
  entry : Path → Option (Entry α)
  names : Path → List String
  closed : ∀ path name, (entry (path ++ [name])).isSome → entry path = some .directory
  listed : ∀ path name, name ∈ names path ↔ (entry (path ++ [name])).isSome
  distinct : ∀ path, (names path).Nodup

/-- Why a chain of directories cannot be opened. -/
inductive Refusal
  | missing
  | not_directory
deriving DecidableEq, Repr

namespace FileTree

variable {α : Type} {tree : FileTree α} {parent path path' : Path} {name : String} {rest : List String}

section
variable (tree)

def is_directory (path : Path) : Bool :=
  match tree.entry path with
  | some .directory => true
  | _ => false

/-- Opens one directory after the other, below a directory that is open, without following a link. -/
def open_chain (parent : Path) : List String → Except Refusal Path
  | [] => .ok parent
  | name :: rest =>
    match tree.entry (parent ++ [name]) with
    | none => .error .missing
    | some .directory => open_chain (parent ++ [name]) rest
    | some _ => .error .not_directory

/-- The tree without an entry and what is below it. -/
def remove (path : Path) : FileTree α where
  entry path' := if path <+: path' then none else tree.entry path'
  names path' := (tree.names path').filter fun name => !decide (path <+: path' ++ [name])
  closed path' name h := by
    split at h
    · cases h
    · rename_i hout
      rw [if_neg fun hbelow => hout (hbelow.trans (List.prefix_append _ _))]
      exact tree.closed path' name h
  listed path' name := by
    rw [List.mem_filter, tree.listed]
    by_cases hbelow : path <+: path' ++ [name] <;> simp [hbelow]
  distinct path' := (tree.distinct path').filter _

end

@[simp]
theorem is_directory_iff : tree.is_directory path = true ↔ tree.entry path = some .directory := by
  unfold is_directory
  split <;> simp_all

theorem entry_remove : (tree.remove path).entry path' = if path <+: path' then none else tree.entry path' := rfl

/-- What is above a directory is a directory. -/
theorem directory_above (h : (tree.entry (path ++ rest)).isSome) (hrest : rest ≠ []) :
    tree.entry path = some .directory := by
  induction rest using List.reverseRecOn with
  | nil => exact (hrest rfl).elim
  | append_singleton rest name ih =>
    rw [← List.append_assoc] at h
    have hparent := tree.closed _ _ h
    rcases eq_or_ne rest [] with rfl | hne
    · simpa using hparent
    · exact ih (by simp [hparent]) hne

/-- Below what is no directory there is nothing. -/
theorem entry_below (h : tree.entry path ≠ some .directory) (hbelow : path <+: path') (hne : path' ≠ path) :
    tree.entry path' = none := by
  obtain ⟨rest, rfl⟩ := hbelow
  rw [← Option.not_isSome_iff_eq_none]
  exact fun hsome => h (directory_above hsome fun hnil => hne (by rw [hnil, List.append_nil]))

theorem open_chain_append (first second : List String) :
    tree.open_chain parent (first ++ second) = (tree.open_chain parent first).bind (tree.open_chain · second) := by
  induction first generalizing parent with
  | nil => rfl
  | cons name first ih =>
    simp only [List.cons_append, open_chain]
    split
    · rfl
    · exact ih
    · rfl

theorem open_chain_ok (h : tree.open_chain parent rest = .ok path) : path = parent ++ rest := by
  induction rest generalizing parent with
  | nil => simpa [open_chain] using h.symm
  | cons name rest ih =>
    simp only [open_chain] at h
    split at h
    · cases h
    · simpa using ih h
    · cases h

/-- A chain opens when there is a directory at its end. -/
theorem open_chain_ok_iff (hrest : rest ≠ []) :
    tree.open_chain parent rest = .ok path ↔ path = parent ++ rest ∧ tree.entry path = some .directory := by
  constructor
  · intro h
    obtain rfl := open_chain_ok h
    refine ⟨rfl, ?_⟩
    induction rest generalizing parent with
    | nil => exact (hrest rfl).elim
    | cons name rest ih =>
      simp only [open_chain] at h
      split at h
      · cases h
      · rename_i hentry
        rcases eq_or_ne rest [] with rfl | hne
        · exact hentry
        · have hlast := @ih (parent ++ [name]) hne (by simpa using h)
          simpa using hlast
      · cases h
  · rintro ⟨rfl, h⟩
    induction rest generalizing parent with
    | nil => exact (hrest rfl).elim
    | cons name rest ih =>
      have hentry : tree.entry (parent ++ [name]) = some .directory := by
        rcases eq_or_ne rest [] with rfl | hne
        · exact h
        · exact directory_above (by simp [h] : (tree.entry (parent ++ [name] ++ rest)).isSome) hne
      simp only [open_chain, hentry]
      rcases eq_or_ne rest [] with rfl | hne
      · rfl
      · have hlast := @ih (parent ++ [name]) hne (by simpa using h)
        simpa using hlast

/-! ### Runs that remove -/

/-- No directory lies too many levels below the path that is removed with it, the deepest one above it. -/
def Shallow (levels : Nat) (tree : FileTree α) (paths : Set Path) : Prop :=
  ∀ path ∈ paths, ∀ directory, path <+: directory → tree.is_directory directory = true →
    (∀ other ∈ paths, other <+: directory → other.length ≤ path.length) → directory.length < path.length + levels

/-- A run that removes what is at a path and below it, as long as no directory lies too many levels below the path.
    It may require that there is a directory at the path. -/
structure Removes {ε : Type} (run : Effects (FileTree α) ε) (path : Path) (levels : Nat) (required : Prop) : Prop where
  frame : ∀ path', ¬ path <+: path' → ∀ e, run.Keeps fun tree => tree.entry path' = e
  ok_iff : ∀ tree : FileTree α, (required → tree.is_directory path = true) → ((run tree).2 = .ok () ↔
    ∀ directory, path <+: directory → tree.is_directory directory = true → directory.length < path.length + levels)
  gone : ∀ tree : FileTree α, (run tree).2 = .ok () → ∀ path', path <+: path' → (run.last tree).entry path' = none

/-- A removal of a path with all that is below it leaves everything else. -/
theorem Removes.entry_last {ε : Type} {run : Effects (FileTree α) ε} {levels : Nat} {required : Prop}
    (h : Removes run path levels required) (hok : (run tree).2 = .ok ()) (path' : Path) :
    (run.last tree).entry path' = if path <+: path' then none else tree.entry path' := by
  split
  · next hbelow => exact h.gone tree hok path' hbelow
  · next hout => exact (h.frame path' hout _).last rfl

/-- A path that is removed before another one is not above it. -/
theorem not_prefix_of_deepest_first (hdeeper : path'.length ≤ path.length) (hne : path ≠ path') : ¬ path <+: path' :=
  fun habove => hne (habove.eq_of_length (habove.length_le.antisymm hdeeper))

/-- What is left when the deepest of some paths is removed is as shallow as it was below the other ones. -/
theorem shallow_cons {levels : Nat} {paths : List Path} {rest : FileTree α} (hnotin : path ∉ paths)
    (hdeepest : ∀ other ∈ paths, other.length ≤ path.length)
    (hrest : ∀ path', rest.entry path' = if path <+: path' then none else tree.entry path') :
    Shallow levels tree {other | other ∈ path :: paths} ↔
      (∀ directory, path <+: directory → tree.is_directory directory = true →
        directory.length < path.length + levels) ∧ Shallow levels rest {other | other ∈ paths} := by
  have hkept : ∀ directory, rest.is_directory directory = true ↔
      ¬ path <+: directory ∧ tree.is_directory directory = true := by
    intro directory
    rw [is_directory_iff, is_directory_iff, hrest]
    split
    · next habove => simp [habove]
    · next hout => simp [hout]
  constructor
  · refine fun h => ⟨fun directory habove hdirectory => ?_, fun other hother directory hbelow hdirectory hlast => ?_⟩
    · refine h path List.mem_cons_self directory habove hdirectory fun other hother _ => ?_
      rcases List.mem_cons.mp hother with rfl | hother
      · exact le_rfl
      · exact hdeepest other hother
    · obtain ⟨hout, hdirectory⟩ := (hkept directory).mp hdirectory
      refine h other (List.mem_cons_of_mem _ hother) directory hbelow hdirectory fun third hthird habove => ?_
      rcases List.mem_cons.mp hthird with rfl | hthird
      · exact (hout habove).elim
      · exact hlast third hthird habove
  · rintro ⟨hfirst, hothers⟩ other hother directory hbelow hdirectory hlast
    rcases List.mem_cons.mp hother with rfl | hother
    · exact hfirst directory hbelow hdirectory
    · have hout : ¬ path <+: directory := by
        intro habove
        have hlength := (hdeepest other hother).antisymm (hlast path List.mem_cons_self habove)
        have hsame : other = path := (List.prefix_of_prefix_length_le hbelow habove hlength.le).eq_of_length hlength
        exact hnotin (hsame ▸ hother)
      exact hothers other hother directory hbelow ((hkept directory).mpr ⟨hout, hdirectory⟩)
        fun third hthird habove => hlast third (List.mem_cons_of_mem _ hthird) habove

/-- Paths that are removed the deepest first are removed exactly when everything below them is shallow, and then
    nothing is left below one, and the rest is as it was. -/
theorem each_removes {ε ι : Type} {run : ι → Effects (FileTree α) ε} (location : ι → Path) {items : List ι}
    {levels : Nat} (required : Prop) (h : ∀ i ∈ items, Removes (run i) (location i) levels required)
    (hthere : required → ∀ i ∈ items, tree.is_directory (location i) = true) (hnodup : (items.map location).Nodup)
    (hdeepest : (items.map location).Pairwise fun path path' => path'.length ≤ path.length) :
    ((Effects.each run items tree).2 = .ok () ↔ Shallow levels tree {path | path ∈ items.map location}) ∧
      ((Effects.each run items tree).2 = .ok () → ∀ path', ((Effects.each run items).last tree).entry path' =
        if ∃ path ∈ items.map location, path <+: path' then none else tree.entry path') := by
  induction items generalizing tree with
  | nil =>
    refine ⟨iff_of_true rfl fun path hpath => (List.not_mem_nil hpath).elim, fun _ path' => ?_⟩
    simp [Effects.each, Effects.last, Effects.done]
  | cons i items ih =>
    have hfirst := h i List.mem_cons_self
    have hok := hfirst.ok_iff tree fun hrequired => hthere hrequired i List.mem_cons_self
    obtain ⟨hnotin, hnodup⟩ := List.nodup_cons.mp hnodup
    obtain ⟨hdeeper, hdeepest⟩ := List.pairwise_cons.mp hdeepest
    unfold Effects.each
    rw [Effects.andThen_ok_iff]
    by_cases hremoved : (run i tree).2 = .ok ()
    · have hrest := hfirst.entry_last hremoved
      have hstill : required → ∀ other ∈ items, ((run i).last tree).is_directory (location other) = true := by
        intro hrequired other hother
        have hmem := List.mem_map_of_mem (f := location) hother
        have hapart := not_prefix_of_deepest_first (hdeeper _ hmem) fun heq => hnotin (heq ▸ hmem)
        have hdirectory := hthere hrequired other (List.mem_cons_of_mem _ hother)
        rw [is_directory_iff] at hdirectory ⊢
        rw [hrest, if_neg hapart, hdirectory]
      obtain ⟨hshallow, hgone⟩ := ih (fun other hother => h other (List.mem_cons_of_mem _ hother)) hstill
        hnodup hdeepest
      refine ⟨?_, fun hboth path' => ?_⟩
      · rw [List.map_cons, shallow_cons hnotin hdeeper hrest, ← hok, hshallow]
      · rw [Effects.last_andThen hremoved, hgone hboth.2, hrest]
        by_cases habove : location i <+: path'
        · simp [habove]
        · simp [habove]
    · refine ⟨iff_of_false (fun hboth => hremoved hboth.1) fun hshallow => ?_, fun hboth => absurd hboth.1 hremoved⟩
      refine hremoved (hok.mpr fun directory habove hdirectory => ?_)
      refine hshallow (location i) List.mem_cons_self directory habove hdirectory fun other hother _ => ?_
      rcases List.mem_cons.mp hother with rfl | hother
      · exact le_rfl
      · exact hdeeper other hother

end FileTree

end Filesystem
