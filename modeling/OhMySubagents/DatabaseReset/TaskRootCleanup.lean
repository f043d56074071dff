import OhMySubagents.Errors
import OhMySubagents.Filesystem.Tree
import Mathlib.Data.List.Dedup
import Mathlib.Data.Finset.Card
import Mathlib.Data.String.Basic

open Filesystem

namespace OhMySubagents.DatabaseReset

/-- A task root as a Task records it, after the expansion of a home directory. -/
structure TaskRootPath where
  is_absolute : Bool
  parts : List String
deriving DecidableEq, Repr

namespace TaskRootPath

def name (path : TaskRootPath) : String := path.parts.getLast?.getD ""

def parent_name (path : TaskRootPath) : String := path.parts.dropLast.getLast?.getD ""

end TaskRootPath

/-- `os.path.abspath` of an absolute path. -/
def abspath (parts : List String) : Path :=
  parts.foldl (fun path part => if part = ".." then path.dropLast else path ++ [part]) []

inductive UnsafeTaskRootError
  | not_absolute (task_root : TaskRootPath)
  | escapes_boundary (task_root : TaskRootPath)
  | boundary_not_directory
  | linked_ancestor (path : Path)
  | linked_root (path : Path)
deriving DecidableEq, Repr

/-- A root lies inside the boundary when it is below it. -/
def Inside (boundary path : Path) : Prop := boundary <+: path ∧ path ≠ boundary

instance {boundary path : Path} : Decidable (Inside boundary path) :=
  inferInstanceAs (Decidable (_ ∧ _))

/-- One candidate of `_deletion_root_candidates`: the normalized path of a task root below the boundary. -/
def deletion_root_candidate (boundary : Path) (task_root : TaskRootPath) : Except UnsafeTaskRootError Path :=
  if !task_root.is_absolute then .error (.not_absolute task_root)
  else if Inside boundary (abspath task_root.parts) then .ok (abspath task_root.parts)
  else .error (.escapes_boundary task_root)

/-- The deepest path comes first, then the one with the greatest name. -/
def deletes_before (path path' : Path) : Bool :=
  path'.length < path.length || (path'.length == path.length && decide ("/".intercalate path' ≤ "/".intercalate path))

def deletion_root_candidates (boundary : Path) (task_roots : List TaskRootPath) :
    Except UnsafeTaskRootError (List Path) := do
  let candidates ← task_roots.mapM (deletion_root_candidate boundary)
  return candidates.dedup.mergeSort deletes_before

variable {α : Type}

/-- Opens a root below the open boundary: its path, unless it is missing. -/
def retain_deletion_root (tree : FileTree α) (boundary candidate : Path) :
    Except UnsafeTaskRootError (Option Path) :=
  let relative_parts := candidate.drop boundary.length
  match tree.open_chain boundary relative_parts.dropLast with
  | .error .missing => .ok none
  | .error .not_directory => .error (.linked_ancestor candidate)
  | .ok parent =>
    match tree.open_chain parent (relative_parts.drop (relative_parts.length - 1)) with
    | .error .missing => .ok none
    | .error .not_directory => .error (.linked_root candidate)
    | .ok root => .ok (some root)

/-- The roots that `delete_controller_task_roots` holds open before it deletes the first of them. -/
def retain_task_roots (tree : FileTree α) (boundary : Path) (task_roots : List TaskRootPath) :
    Except UnsafeTaskRootError (List Path) := do
  let candidates ← deletion_root_candidates boundary task_roots
  if candidates.isEmpty then return []
  match tree.open_chain [] boundary with
  | .error .missing => return []
  | .error .not_directory => throw .boundary_not_directory
  | .ok boundary =>
    let retained ← candidates.mapM (retain_deletion_root tree boundary)
    return retained.filterMap id

inductive RemovalError
  | private_path (path : Path)
  | recursion
deriving DecidableEq, Repr

def _TREE_REMOVAL_PASSES : Nat := 64

/-- The last step of a removal: the empty directory goes when it is still the one that was opened. -/
def remove_matching_directory (path : Path) : Effects (FileTree α) RemovalError := fun tree =>
  if tree.is_directory path then Effects.change (FileTree.remove · path) tree
  else Effects.fail (.private_path path) tree

def remove_child_entry (remove_contents : Path → Effects (FileTree α) RemovalError) (path : Path) :
    Effects (FileTree α) RemovalError := fun tree =>
  match tree.entry path with
  | none => Effects.done tree
  | some .directory => (remove_contents path).andThen (remove_matching_directory path) tree
  | some _ => Effects.change (FileTree.remove · path) tree

/-- Every pass removes the names that the directory lists, until it lists none. -/
def remove_listed_names (remove_contents : Path → Effects (FileTree α) RemovalError) (path : Path) :
    Nat → Effects (FileTree α) RemovalError
  | 0 => Effects.fail (.private_path path)
  | passes + 1 => fun tree =>
    if (tree.names path).isEmpty then Effects.done tree
    else (Effects.each (fun name => remove_child_entry remove_contents (path ++ [name])) (tree.names path)).andThen
      (remove_listed_names remove_contents path passes) tree

/-- `_remove_directory_contents`, which calls itself for every directory that it lists. The interpreter's recursion
    limit allows some number of calls within each other. -/
def remove_directory_contents : Nat → Path → Effects (FileTree α) RemovalError
  | 0, _ => Effects.fail .recursion
  | nesting + 1, path => remove_listed_names (remove_directory_contents nesting) path _TREE_REMOVAL_PASSES

def remove_retained_tree (nesting : Nat) (root : Path) : Effects (FileTree α) RemovalError :=
  (remove_directory_contents nesting root).andThen (remove_matching_directory root)

/-- What `delete_controller_task_roots` raises: its own error, or the recursion error that it does not catch. -/
inductive TaskRootError
  | unsafe_task_root (error : UnsafeTaskRootError)
  | recursion
deriving DecidableEq, Repr

def RemovalError.of_root (root : Path) : RemovalError → TaskRootError
  | .private_path _ => .unsafe_task_root (.linked_root root)
  | .recursion => .recursion

/-- Deletes the open roots. -/
def remove_retained_trees (nesting : Nat) (roots : List Path) : Effects (FileTree α) TaskRootError :=
  Effects.each (fun root => (remove_retained_tree nesting root).mapError (RemovalError.of_root root)) roots

/-! ### Candidates -/

variable {tree : FileTree α} {boundary path : Path} {task_roots : List TaskRootPath} {task_root : TaskRootPath}
  {candidates roots : List Path}

/-- A task root that the reset refuses to delete: it is not below the boundary, or is not reached through directories
    alone. -/
def Refused (tree : FileTree α) (boundary : Path) (task_root : TaskRootPath) : Prop :=
  task_root.is_absolute = false ∨ ¬ Inside boundary (abspath task_root.parts) ∨
    tree.open_chain [] (abspath task_root.parts) = .error .not_directory

theorem deletion_root_candidate_ok_iff :
    deletion_root_candidate boundary task_root = .ok path ↔
      task_root.is_absolute = true ∧ Inside boundary (abspath task_root.parts) ∧ abspath task_root.parts = path := by
  unfold deletion_root_candidate
  split
  · simp_all
  · split <;> simp_all

theorem deletion_root_candidate_error_iff :
    (∃ e, deletion_root_candidate boundary task_root = .error e) ↔
      task_root.is_absolute = false ∨ ¬ Inside boundary (abspath task_root.parts) := by
  unfold deletion_root_candidate
  split
  · simp_all
  · split <;> simp_all

theorem deletes_before_total (path path' : Path) : deletes_before path path' || deletes_before path' path := by
  have htotal := String.le_total ("/".intercalate path) ("/".intercalate path')
  rcases Nat.lt_trichotomy path.length path'.length with hlt | heq | hlt
  · simp [deletes_before, hlt]
  · simp [deletes_before, heq, htotal.symm]
  · simp [deletes_before, hlt]

theorem deletes_before_trans (p q r : Path) (hpq : deletes_before p q) (hqr : deletes_before q r) :
    deletes_before p r := by
  simp only [deletes_before, Bool.or_eq_true, decide_eq_true_eq, Bool.and_eq_true, beq_iff_eq] at *
  rcases hpq with hpq | ⟨hpq, hle⟩ <;> rcases hqr with hqr | ⟨hqr, hle'⟩
  · exact .inl (hqr.trans hpq)
  · exact .inl (by omega)
  · exact .inl (by omega)
  · exact .inr ⟨hqr.trans hpq, String.le_trans hle' hle⟩

/-- The candidates are the distinct task roots, the deepest first. -/
structure Candidates (boundary : Path) (task_roots : List TaskRootPath) (candidates : List Path) : Prop where
  inside : ∀ task_root ∈ task_roots, task_root.is_absolute = true ∧ Inside boundary (abspath task_root.parts)
  mem : ∀ path, path ∈ candidates ↔ ∃ task_root ∈ task_roots, abspath task_root.parts = path
  nodup : candidates.Nodup
  deepest_first : candidates.Pairwise fun path path' => path'.length ≤ path.length

theorem deletion_root_candidates_ok (h : deletion_root_candidates boundary task_roots = .ok candidates) :
    Candidates boundary task_roots candidates := by
  unfold deletion_root_candidates at h
  cases hcandidates : task_roots.mapM (deletion_root_candidate boundary) with
  | error e =>
    rw [hcandidates] at h
    cases h
  | ok paths =>
    rw [hcandidates] at h
    obtain rfl := Except.ok.inj h
    refine ⟨fun task_root hmem => ?_, fun path => ?_, ?_, ?_⟩
    · obtain ⟨path, -, hpath⟩ := mapM_ok_of_mem hcandidates hmem
      exact ⟨(deletion_root_candidate_ok_iff.mp hpath).1, (deletion_root_candidate_ok_iff.mp hpath).2.1⟩
    · rw [List.mem_mergeSort, List.mem_dedup]
      constructor
      · intro hmem
        obtain ⟨task_root, htask_root, hpath⟩ := mapM_ok_mem hcandidates hmem
        exact ⟨task_root, htask_root, (deletion_root_candidate_ok_iff.mp hpath).2.2⟩
      · rintro ⟨task_root, htask_root, rfl⟩
        obtain ⟨path, hpath, hcandidate⟩ := mapM_ok_of_mem hcandidates htask_root
        rwa [(deletion_root_candidate_ok_iff.mp hcandidate).2.2]
    · exact ((List.mergeSort_perm _ _).nodup_iff).mpr (List.nodup_dedup _)
    · refine (List.pairwise_mergeSort deletes_before_trans deletes_before_total _).imp fun {path path'} h => ?_
      simp only [deletes_before, Bool.or_eq_true, decide_eq_true_eq, Bool.and_eq_true, beq_iff_eq] at h
      omega

theorem deletion_root_candidates_error_iff :
    (∃ e, deletion_root_candidates boundary task_roots = .error e) ↔
      ∃ task_root ∈ task_roots, task_root.is_absolute = false ∨ ¬ Inside boundary (abspath task_root.parts) := by
  simp only [← deletion_root_candidate_error_iff]
  rw [← mapM_error_iff]
  unfold deletion_root_candidates
  cases task_roots.mapM (deletion_root_candidate boundary) with
  | error e => exact ⟨fun _ => ⟨e, rfl⟩, fun _ => ⟨e, rfl⟩⟩
  | ok paths => exact ⟨fun ⟨_, h⟩ => (by cases h), fun ⟨_, h⟩ => (by cases h)⟩

/-! ### The roots that are held open -/

theorem Inside.ne_nil (h : Inside boundary path) : path ≠ [] := by
  rintro rfl
  exact h.2 (List.prefix_nil.mp h.1).symm

theorem is_directory_iff_open_chain (tree : FileTree α) (h : Inside boundary path) :
    tree.is_directory path = true ↔ tree.open_chain [] path = .ok path := by
  rw [FileTree.is_directory_iff, FileTree.open_chain_ok_iff h.ne_nil]
  simp

/-- Below an open boundary a candidate is opened like any other chain of directories. -/
theorem retain_deletion_root_eq (hinside : Inside boundary path)
    (hboundary : tree.open_chain [] boundary = .ok boundary) :
    (tree.open_chain [] path = .ok path → retain_deletion_root tree boundary path = .ok (some path)) ∧
    (tree.open_chain [] path = .error .missing → retain_deletion_root tree boundary path = .ok none) ∧
    (tree.open_chain [] path = .error .not_directory → ∃ e, retain_deletion_root tree boundary path = .error e) := by
  obtain ⟨⟨relative, rfl⟩, hne⟩ := hinside
  have hrelative : relative ≠ [] := fun hnil => hne (by simp [hnil])
  have hsplit : relative = relative.dropLast ++ relative.drop (relative.length - 1) := by
    rw [List.dropLast_eq_take, List.take_append_drop]
  have hchain : tree.open_chain [] (boundary ++ relative) = (tree.open_chain boundary relative.dropLast).bind
      (tree.open_chain · (relative.drop (relative.length - 1))) := by
    rw [FileTree.open_chain_append, hboundary, ← FileTree.open_chain_append, ← hsplit]
    rfl
  simp only [hchain, retain_deletion_root, List.drop_left]
  cases tree.open_chain boundary relative.dropLast with
  | error refusal => cases refusal <;> simp [Except.bind]
  | ok parent =>
    simp only [Except.bind]
    cases hroot : tree.open_chain parent (relative.drop (relative.length - 1)) with
    | error refusal => cases refusal <;> simp
    | ok root => simp

/-- The distinct task roots that are there, the deepest first. -/
structure Retained (tree : FileTree α) (task_roots : List TaskRootPath) (roots : List Path) : Prop where
  mem : ∀ path, path ∈ roots ↔ (∃ task_root ∈ task_roots, abspath task_root.parts = path) ∧ tree.is_directory path
  nodup : roots.Nodup
  deepest_first : roots.Pairwise fun path path' => path'.length ≤ path.length

theorem retain_task_roots_cases (tree : FileTree α) (boundary : Path) (task_roots : List TaskRootPath) :
    (∃ e, retain_task_roots tree boundary task_roots = .error e) ∧
        (∃ task_root ∈ task_roots, Refused tree boundary task_root) ∨
      ∃ roots, retain_task_roots tree boundary task_roots = .ok roots ∧
        (∀ task_root ∈ task_roots, ¬ Refused tree boundary task_root) ∧ Retained tree task_roots roots := by
  unfold retain_task_roots
  cases hcandidates : deletion_root_candidates boundary task_roots with
  | error e =>
    obtain ⟨task_root, hmem, hrefused⟩ := deletion_root_candidates_error_iff.mp ⟨e, hcandidates⟩
    exact .inl ⟨⟨e, rfl⟩, task_root, hmem, hrefused.imp_right .inl⟩
  | ok candidates =>
    have hlist := deletion_root_candidates_ok hcandidates
    have hopen : (∀ path ∈ candidates, tree.open_chain [] path ≠ .error .not_directory) →
        ∀ task_root ∈ task_roots, ¬ Refused tree boundary task_root := by
      rintro hopen task_root hmem (habsolute | hinside | hchain)
      · simp [(hlist.inside task_root hmem).1] at habsolute
      · exact hinside (hlist.inside task_root hmem).2
      · exact hopen _ ((hlist.mem _).mpr ⟨task_root, hmem, rfl⟩) hchain
    have hrefused : ∀ path ∈ candidates, tree.open_chain [] path = .error .not_directory →
        ∃ task_root ∈ task_roots, Refused tree boundary task_root := by
      intro path hpath hchain
      obtain ⟨task_root, hmem, rfl⟩ := (hlist.mem path).mp hpath
      exact ⟨task_root, hmem, .inr (.inr hchain)⟩
    have hinside : ∀ path ∈ candidates, Inside boundary path := by
      intro path hpath
      obtain ⟨task_root, hmem, rfl⟩ := (hlist.mem path).mp hpath
      exact (hlist.inside task_root hmem).2
    -- below a boundary that does not open, a chain ends like the boundary
    have hbelow : ∀ refusal, tree.open_chain [] boundary = .error refusal →
        ∀ path ∈ candidates, tree.open_chain [] path = .error refusal := by
      intro refusal hboundary path hpath
      obtain ⟨⟨relative, rfl⟩, -⟩ := hinside path hpath
      rw [FileTree.open_chain_append, hboundary]
      rfl
    have hmissing : (∀ path ∈ candidates, tree.open_chain [] path = .error .missing) →
        Retained tree task_roots [] := by
      refine fun hmissing => ⟨fun path => ⟨fun h => (List.not_mem_nil h).elim, ?_⟩, List.nodup_nil, List.Pairwise.nil⟩
      rintro ⟨hmem, hdirectory⟩
      have hpath := (hlist.mem path).mpr hmem
      rw [is_directory_iff_open_chain tree (hinside path hpath), hmissing path hpath] at hdirectory
      cases hdirectory
    simp only [bind, Except.bind, pure, Except.pure]
    split
    · rename_i hempty
      obtain rfl := List.isEmpty_iff.mp hempty
      exact .inr ⟨[], rfl, hopen fun _ h => (List.not_mem_nil h).elim, hmissing fun _ h => (List.not_mem_nil h).elim⟩
    · rename_i hnonempty
      cases hboundary : tree.open_chain [] boundary with
      | error refusal =>
        have hend := hbelow refusal hboundary
        cases refusal with
        | missing =>
          exact .inr ⟨[], rfl, hopen fun path hpath => by (rw [hend path hpath]; simp), hmissing hend⟩
        | not_directory =>
          obtain ⟨path, hpath⟩ := List.exists_mem_of_ne_nil candidates (by simpa using hnonempty)
          exact .inl ⟨⟨_, rfl⟩, hrefused path hpath (hend path hpath)⟩
      | ok opened =>
        obtain rfl : opened = boundary := by simpa using FileTree.open_chain_ok hboundary
        have hretain := fun path hpath => retain_deletion_root_eq (hinside path hpath) hboundary
        by_cases hlinked : ∃ path ∈ candidates, tree.open_chain [] path = .error .not_directory
        · obtain ⟨path, hpath, hchain⟩ := hlinked
          obtain ⟨e, herror⟩ := mapM_error_iff.mpr ⟨path, hpath, (hretain path hpath).2.2 hchain⟩
          exact .inl ⟨⟨e, by simp [herror]⟩, hrefused path hpath hchain⟩
        · have hkept : candidates.mapM (retain_deletion_root tree opened) =
              .ok (candidates.map (Option.guard tree.is_directory)) := by
            refine mapM_ok_iff.mpr (List.forall₂_map_right_iff.mpr (List.forall₂_same.mpr fun path hpath => ?_))
            have hdirectory := is_directory_iff_open_chain tree (hinside path hpath)
            cases hchain : tree.open_chain [] path with
            | error refusal =>
              cases refusal with
              | missing => rw [(hretain path hpath).2.1 hchain, Option.guard, if_neg (by simp [hdirectory, hchain])]
              | not_directory => exact (hlinked ⟨path, hpath, hchain⟩).elim
            | ok root =>
              obtain rfl : root = path := by simpa using FileTree.open_chain_ok hchain
              rw [(hretain root hpath).1 hchain, Option.guard, if_pos (hdirectory.mpr hchain)]
          refine .inr ⟨candidates.filter tree.is_directory, ?_,
            hopen fun path hpath hchain => hlinked ⟨path, hpath, hchain⟩,
            fun path => ?_, hlist.nodup.filter _, hlist.deepest_first.filter _⟩
          · simp [hkept, List.filterMap_map, List.filterMap_eq_filter]
          · rw [List.mem_filter, hlist.mem]

/-! ### The deletion -/

theorem remove_keeps {path' : Path} (hout : ¬ path <+: path') (e : Option (Entry α)) (tree : FileTree α)
    (h : tree.entry path' = e) : (tree.remove path).entry path' = e := by
  rw [FileTree.entry_remove, if_neg hout, h]

theorem remove_matching_directory_eq (h : tree.is_directory path = true) :
    remove_matching_directory path tree = ([tree.remove path], .ok ()) := if_pos h

theorem remove_matching_directory_ok_iff : (remove_matching_directory path tree).2 = .ok () ↔
    tree.is_directory path = true := by
  unfold remove_matching_directory
  split
  · next h => exact iff_of_true rfl h
  · next h => exact iff_of_false nofun h

theorem remove_matching_directory_keeps {path' : Path} (hout : ¬ path <+: path') (e : Option (Entry α)) :
    (remove_matching_directory path : Effects (FileTree α) RemovalError).Keeps fun tree => tree.entry path' = e := by
  intro tree htree
  unfold remove_matching_directory
  split
  · exact Effects.keeps_change (remove_keeps hout e) tree htree
  · exact Effects.keeps_fail tree htree

/-- A run that empties a directory, as long as no directory lies too many levels below it. -/
structure Empties (run : Effects (FileTree α) RemovalError) (path : Path) (levels : Nat) : Prop where
  frame : ∀ path', ¬ Inside path path' → ∀ e, run.Keeps fun tree => tree.entry path' = e
  ok_iff : ∀ tree : FileTree α, tree.is_directory path = true → ((run tree).2 = .ok () ↔
    ∀ directory, path <+: directory → tree.is_directory directory = true → directory.length < path.length + levels)
  gone : ∀ tree : FileTree α, (run tree).2 = .ok () → ∀ path', Inside path path' → (run.last tree).entry path' = none

/-- An emptied directory is removed. -/
theorem Empties.removes {run : Effects (FileTree α) RemovalError} {levels : Nat} (h : Empties run path levels) :
    FileTree.Removes (run.andThen (remove_matching_directory path)) path levels True where
  frame path' hout e := (h.frame path' (fun hinside => hout hinside.1) e).andThen
    (remove_matching_directory_keeps hout e)
  ok_iff tree hthere := by
    have hdirectory := hthere trivial
    rw [Effects.andThen_ok_iff, h.ok_iff tree hdirectory, and_iff_left]
    have hkept : (run.last tree).entry path = some .directory :=
      (h.frame path (fun hinside => hinside.2 rfl) _).last (FileTree.is_directory_iff.mp hdirectory)
    exact remove_matching_directory_ok_iff.mpr (FileTree.is_directory_iff.mpr hkept)
  gone tree hok path' hbelow := by
    obtain ⟨hemptied, hmatching⟩ := Effects.andThen_ok_iff.mp hok
    rw [Effects.last_andThen hemptied]
    rw [Effects.last, remove_matching_directory_eq (remove_matching_directory_ok_iff.mp hmatching)]
    exact if_pos hbelow

theorem remove_child_entry_cases (remove_contents : Path → Effects (FileTree α) RemovalError) (path : Path)
    (tree : FileTree α) :
    tree.entry path = none ∧ remove_child_entry remove_contents path tree = ([], .ok ()) ∨
      tree.entry path = some .directory ∧ remove_child_entry remove_contents path tree =
        (remove_contents path).andThen (remove_matching_directory path) tree ∨
      tree.entry path ≠ some .directory ∧ remove_child_entry remove_contents path tree =
        ([tree.remove path], .ok ()) := by
  unfold remove_child_entry
  split
  · next hentry => exact .inl ⟨hentry, rfl⟩
  · next hentry => exact .inr (.inl ⟨hentry, rfl⟩)
  · next hother hentry => exact .inr (.inr ⟨fun heq => hother (Option.some.inj (hentry.symm.trans heq)), rfl⟩)

/-- An entry is removed with all that is below it. -/
theorem remove_child_entry_removes {remove_contents : Path → Effects (FileTree α) RemovalError} {levels : Nat}
    (h : Empties (remove_contents path) path levels) :
    FileTree.Removes (remove_child_entry remove_contents path) path levels False where
  frame path' hout e tree htree := by
    rcases remove_child_entry_cases remove_contents path tree with ⟨-, hrun⟩ | ⟨-, hrun⟩ | ⟨-, hrun⟩
    · rw [hrun]
      exact Effects.keeps_done tree htree
    · rw [hrun]
      exact h.removes.frame path' hout e tree htree
    · rw [hrun]
      exact Effects.keeps_change (remove_keeps hout e) tree htree
  ok_iff tree _ := by
    have hnone : tree.entry path ≠ some .directory → ∀ directory, path <+: directory →
        tree.is_directory directory = true → directory.length < path.length + levels := by
      intro hnot directory hbelow hdirectory
      rw [FileTree.is_directory_iff] at hdirectory
      have hne : directory ≠ path := fun heq => hnot (heq ▸ hdirectory)
      rw [FileTree.entry_below hnot hbelow hne] at hdirectory
      cases hdirectory
    rcases remove_child_entry_cases remove_contents path tree with ⟨hentry, hrun⟩ | ⟨hentry, hrun⟩ | ⟨hentry, hrun⟩
    · rw [hrun]
      exact iff_of_true rfl (hnone (by rw [hentry]; nofun))
    · rw [hrun]
      exact h.removes.ok_iff tree fun _ => FileTree.is_directory_iff.mpr hentry
    · rw [hrun]
      exact iff_of_true rfl (hnone hentry)
  gone tree hok path' hbelow := by
    rw [Effects.last]
    rcases remove_child_entry_cases remove_contents path tree with ⟨hentry, hrun⟩ | ⟨-, hrun⟩ | ⟨-, hrun⟩
    · rw [hrun]
      rcases eq_or_ne path' path with rfl | hne
      · exact hentry
      · have hnot : tree.entry path ≠ some .directory := by
          rw [hentry]
          nofun
        exact FileTree.entry_below hnot hbelow hne
    · rw [hrun] at hok ⊢
      exact h.removes.gone tree hok path' hbelow
    · rw [hrun]
      exact if_pos hbelow

/-- The names that a directory lists. -/
theorem nodup_listed (tree : FileTree α) (path : Path) : ((tree.names path).map fun name => path ++ [name]).Nodup :=
  (tree.distinct path).map fun name name' h => by simpa using h

/-- What lies below a directory lies at or below a name that it lists. -/
theorem inside_listed {path' : Path} (h : (tree.entry path').isSome) (hinside : Inside path path') :
    ∃ below ∈ (tree.names path).map (fun name => path ++ [name]), below <+: path' := by
  obtain ⟨⟨rest, rfl⟩, hne⟩ := hinside
  cases rest with
  | nil => exact absurd (List.append_nil path) hne
  | cons name rest =>
    have hsplit : path ++ name :: rest = (path ++ [name]) ++ rest := by simp
    refine ⟨path ++ [name], List.mem_map_of_mem ((tree.listed path name).mpr ?_), hsplit ▸ List.prefix_append _ _⟩
    rw [hsplit] at h
    rcases eq_or_ne rest [] with rfl | hnonempty
    · rwa [List.append_nil] at h
    · rw [FileTree.directory_above h hnonempty]
      rfl

theorem below_listed {below path' : Path} (h : below ∈ (tree.names path).map fun name => path ++ [name])
    (hbelow : below <+: path') : Inside path path' := by
  obtain ⟨name, -, rfl⟩ := List.mem_map.mp h
  refine ⟨(List.prefix_append _ _).trans hbelow, ?_⟩
  rintro rfl
  have hlength := hbelow.length_le
  simp at hlength

/-- One pass over the names of a directory empties it. -/
theorem each_child_entry {remove_contents : Path → Effects (FileTree α) RemovalError} {levels : Nat}
    (h : ∀ path, Empties (remove_contents path) path levels) (tree : FileTree α) (path : Path) :
    let run := Effects.each (fun name => remove_child_entry remove_contents (path ++ [name])) (tree.names path)
    ((run tree).2 = .ok () ↔ ∀ directory, Inside path directory → tree.is_directory directory = true →
        directory.length < path.length + (levels + 1)) ∧
      ((run tree).2 = .ok () → ∀ path', Inside path path' → (run.last tree).entry path' = none) := by
  have hsame : ∀ below ∈ (tree.names path).map (fun name => path ++ [name]), below.length = path.length + 1 := by
    intro below hbelow
    obtain ⟨name, -, rfl⟩ := List.mem_map.mp hbelow
    simp
  obtain ⟨hok, hgone⟩ := FileTree.each_removes (fun name => path ++ [name]) False
    (fun name _ => remove_child_entry_removes (h (path ++ [name]))) False.elim (nodup_listed tree path)
    (List.pairwise_of_forall_mem_list fun below hbelow other hother =>
      (hsame other hother).trans_le (hsame below hbelow).ge)
  refine ⟨hok.trans ⟨fun hshallow directory hinside hdirectory => ?_,
    fun hdeep below hbelow directory habove hdirectory _ => ?_⟩, fun hremoved path' hinside => ?_⟩
  · have hsome : (tree.entry directory).isSome := by
      rw [FileTree.is_directory_iff.mp hdirectory]
      rfl
    obtain ⟨below, hbelow, habove⟩ := inside_listed hsome hinside
    have hlength := hshallow below hbelow directory habove hdirectory fun other hother _ =>
      (hsame other hother).trans_le (hsame below hbelow).ge
    have hone := hsame below hbelow
    omega
  · have hlength := hdeep directory (below_listed hbelow habove) hdirectory
    have hone := hsame below hbelow
    omega
  · rw [hgone hremoved]
    split
    · rfl
    · next hnone =>
      rw [← Option.not_isSome_iff_eq_none]
      exact fun hsome => hnone (inside_listed hsome hinside)

/-- A directory lists no name when there is nothing below it. -/
theorem lists_nothing_iff : (tree.names path).isEmpty = true ↔ ∀ path', Inside path path' →
    tree.entry path' = none := by
  rw [List.isEmpty_iff, List.eq_nil_iff_forall_not_mem]
  constructor
  · intro h path' hinside
    rw [← Option.not_isSome_iff_eq_none]
    intro hsome
    obtain ⟨below, hbelow, -⟩ := inside_listed hsome hinside
    obtain ⟨name, hname, -⟩ := List.mem_map.mp hbelow
    exact h name hname
  · intro h name hname
    have hsome := (tree.listed path name).mp hname
    rw [h _ ⟨List.prefix_append _ _, by simp⟩] at hsome
    cases hsome

theorem remove_listed_names_succ (remove_contents : Path → Effects (FileTree α) RemovalError) (path : Path)
    (passes : Nat) (tree : FileTree α) : remove_listed_names remove_contents path (passes + 1) tree =
      if (tree.names path).isEmpty then Effects.done tree
      else (Effects.each (fun name => remove_child_entry remove_contents (path ++ [name])) (tree.names path)).andThen
        (remove_listed_names remove_contents path passes) tree := rfl

theorem remove_listed_names_keeps {remove_contents : Path → Effects (FileTree α) RemovalError} {levels : Nat}
    (h : ∀ path, Empties (remove_contents path) path levels) {path' : Path} (hout : ¬ Inside path path')
    (e : Option (Entry α)) (passes : Nat) :
    (remove_listed_names remove_contents path passes).Keeps fun tree => tree.entry path' = e := by
  induction passes with
  | zero => exact Effects.keeps_fail
  | succ passes ih =>
    intro tree htree
    rw [remove_listed_names_succ]
    split
    · exact Effects.keeps_done tree htree
    · have hnames : (Effects.each (fun name => remove_child_entry remove_contents (path ++ [name]))
          (tree.names path)).Keeps fun tree => tree.entry path' = e :=
        Effects.Keeps.each fun name hname => (remove_child_entry_removes (h _)).frame path'
          (fun hbelow => hout (below_listed (List.mem_map_of_mem hname) hbelow)) e
      exact hnames.andThen ih tree htree

/-- Two passes are enough: the second one finds nothing to remove. -/
theorem remove_listed_names_empties {remove_contents : Path → Effects (FileTree α) RemovalError} {levels : Nat}
    (h : ∀ path, Empties (remove_contents path) path levels) (path : Path) (passes : Nat) :
    Empties (remove_listed_names remove_contents path (passes + 2)) path (levels + 1) := by
  have hrun : ∀ tree : FileTree α,
      ((remove_listed_names remove_contents path (passes + 2) tree).2 = .ok () ↔
        ∀ directory, Inside path directory → tree.is_directory directory = true →
          directory.length < path.length + (levels + 1)) ∧
      ((remove_listed_names remove_contents path (passes + 2) tree).2 = .ok () →
        ∀ path', Inside path path' → ((remove_listed_names remove_contents path (passes + 2)).last tree).entry
          path' = none) := by
    intro tree
    unfold Effects.last
    rw [remove_listed_names_succ]
    split
    · next hempty =>
      have hnone := lists_nothing_iff.mp hempty
      refine ⟨iff_of_true rfl fun directory hinside hdirectory => ?_, fun _ => hnone⟩
      rw [FileTree.is_directory_iff, hnone directory hinside] at hdirectory
      cases hdirectory
    · obtain ⟨hok, hgone⟩ := each_child_entry h tree path
      generalize Effects.each (fun name => remove_child_entry remove_contents (path ++ [name])) (tree.names path) = pass
        at hok hgone
      have hsecond : (pass tree).2 = .ok () →
          remove_listed_names remove_contents path (passes + 1) (pass.last tree) = Effects.done (pass.last tree) := by
        intro hremoved
        rw [remove_listed_names_succ, if_pos (lists_nothing_iff.mpr (hgone hremoved))]
      have hboth : (pass.andThen (remove_listed_names remove_contents path (passes + 1)) tree).2 = .ok () ↔
          (pass tree).2 = .ok () := by
        rw [Effects.andThen_ok_iff]
        exact and_iff_left_of_imp fun hremoved => by rw [hsecond hremoved]; rfl
      refine ⟨hboth.trans hok, fun hremoved path' hinside => ?_⟩
      have hfirst := hboth.mp hremoved
      change ((pass.andThen (remove_listed_names remove_contents path (passes + 1))).last tree).entry path' = none
      rw [Effects.last_andThen hfirst, Effects.last, hsecond hfirst]
      exact hgone hfirst path' hinside
  refine ⟨fun path' hout e => remove_listed_names_keeps h hout e _, fun tree _ => (hrun tree).1.trans ?_,
    fun tree => (hrun tree).2⟩
  constructor
  · intro hinside directory habove hdirectory
    rcases eq_or_ne directory path with rfl | hne
    · omega
    · exact hinside directory ⟨habove, hne⟩ hdirectory
  · exact fun hall directory hinside => hall directory hinside.1

/-- The contents of a directory are removed, unless directories in it are nested too deep. -/
theorem remove_directory_contents_empties (nesting : Nat) (path : Path) :
    Empties (remove_directory_contents nesting path : Effects (FileTree α) RemovalError) path nesting := by
  induction nesting generalizing path with
  | zero =>
    refine ⟨fun _ _ _ => Effects.keeps_fail, fun tree hdirectory => iff_of_false nofun fun hall => ?_, nofun⟩
    exact absurd (hall path (List.prefix_refl path) hdirectory) (Nat.lt_irrefl _)
  | succ nesting ih => exact remove_listed_names_empties ih path 62

theorem remove_retained_tree_removes (nesting : Nat) (root : Path) :
    FileTree.Removes ((remove_retained_tree nesting root : Effects (FileTree α) RemovalError).mapError
      (RemovalError.of_root root)) root nesting True := by
  have hremoves := (remove_directory_contents_empties (α := α) nesting root).removes
  exact ⟨fun path' hout e => (hremoves.frame path' hout e).mapError,
    fun tree hthere => Effects.mapError_ok_iff.trans (hremoves.ok_iff tree hthere),
    fun tree hok => hremoves.gone tree (Effects.mapError_ok_iff.mp hok)⟩

/-- Whatever is deleted, what lies below none of the roots stays as it is. -/
theorem remove_retained_trees_spares {nesting : Nat} {tree' : FileTree α}
    (h : tree' ∈ (remove_retained_trees nesting roots tree).1) (hspared : ∀ root ∈ roots, ¬ root <+: path) :
    tree'.entry path = tree.entry path := by
  have hkeeps : (remove_retained_trees nesting roots : Effects (FileTree α) TaskRootError).Keeps
      fun tree' => tree'.entry path = tree.entry path :=
    Effects.Keeps.each fun root hroot => (remove_retained_tree_removes nesting root).frame path (hspared root hroot) _
  exact hkeeps tree rfl tree' h

/-- Roots that are deleted the deepest first are all deleted when nothing below them is nested too deep; then nothing
    is left below one, and the rest is as it was. -/
theorem remove_retained_trees_success (nesting : Nat) (hdirectory : ∀ root ∈ roots, tree.is_directory root = true)
    (hnodup : roots.Nodup) (hdeepest : roots.Pairwise fun path path' => path'.length ≤ path.length) :
    ((remove_retained_trees nesting roots tree).2 = .ok () ↔ FileTree.Shallow nesting tree {root | root ∈ roots}) ∧
      ((remove_retained_trees nesting roots tree).2 = .ok () → ∀ path,
        ((remove_retained_trees nesting roots).last tree).entry path =
          if ∃ root ∈ roots, root <+: path then none else tree.entry path) := by
  have hremoves := FileTree.each_removes id True
    (fun root _ => remove_retained_tree_removes nesting root) (fun _ => hdirectory)
    (by rwa [List.map_id]) (by rwa [List.map_id])
  rwa [List.map_id] at hremoves

end OhMySubagents.DatabaseReset
