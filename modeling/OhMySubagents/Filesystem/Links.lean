import Mathlib.Algebra.GroupWithZero.Nat
import Mathlib.Algebra.Order.BigOperators.Group.List
import Mathlib.Algebra.Order.Group.Nat
import OhMySubagents.Filesystem.Tree

namespace Filesystem

/-- A path as it is written: whether it starts at the root of the file system, and its components. -/
structure PathText where
  absolute : Bool
  components : List String
  deriving DecidableEq, Repr

/-- Where the components of a path are read from, when it is read in some directory. -/
def PathText.start (text : PathText) (directory : Path) : Path := if text.absolute then [] else directory

inductive Node
  | directory
  | file (links : Nat)
  | link (target : PathText)
  deriving DecidableEq, Repr

def IsName (name : String) : Prop := name ≠ "." ∧ name ≠ ".."

instance (name : String) : Decidable (IsName name) := inferInstanceAs (Decidable (_ ∧ _))

/-- A tree of directories, regular files with their number of hard links, and symbolic links. Its file system has names
    of at most `name_max` bytes, and its operating system takes paths of less than `path_max` bytes. -/
structure LinkedTree where
  entry : Path → Option Node
  name_max : Nat
  path_max : Nat
  root : entry [] = some .directory
  closed : ∀ path name, (entry (path ++ [name])).isSome → entry path = some .directory
  named : ∀ path name, (entry (path ++ [name])).isSome → IsName name
  short : ∀ path name, (entry (path ++ [name])).isSome → name.utf8ByteSize ≤ name_max

/-- The bytes of an absolute path. -/
def path_size (path : Path) : Nat := (path.map fun name => 1 + name.utf8ByteSize).sum

/-- Whether the operating system refuses to look for a name in a directory: the path or the name is too long. -/
def LinkedTree.is_too_long (tree : LinkedTree) (directory : Path) (name : String) : Bool :=
  tree.path_max ≤ path_size (directory ++ [name]) ||
    (tree.entry directory = some .directory && tree.name_max < name.utf8ByteSize)

/-- The limits of a common file system. -/
def NAME_MAX : Nat := 255

def PATH_MAX : Nat := 4096

/-- A row of the table of a tree is the root, or has names that may stand in a directory of the table. -/
def IsRow (table : List (Path × Node)) (path : Path) : Prop :=
  path = [] ∨ table.lookup path.dropLast = some .directory ∧ ∀ name ∈ path, IsName name ∧ name.utf8ByteSize ≤ NAME_MAX

instance (table : List (Path × Node)) (path : Path) : Decidable (IsRow table path) :=
  inferInstanceAs (Decidable (_ ∨ _))

private theorem row_of_entry {table : List (Path × Node)} {path : Path} {name : String}
    (htable : ∀ row ∈ table, IsRow table row.1) (h : (table.lookup (path ++ [name])).isSome) :
    table.lookup path = some .directory ∧ IsName name ∧ name.utf8ByteSize ≤ NAME_MAX := by
  obtain ⟨node, hnode⟩ := Option.isSome_iff_exists.mp h
  obtain ⟨before, after, heq, -⟩ := List.lookup_eq_some_iff.mp hnode
  have hmem : (path ++ [name], node) ∈ table := by
    rw [heq]
    exact List.mem_append_right _ List.mem_cons_self
  obtain ⟨hdirectory, hnames⟩ := (htable _ hmem).resolve_left
    (List.append_ne_nil_of_right_ne_nil _ (List.cons_ne_nil _ _))
  rw [List.dropLast_concat] at hdirectory
  exact ⟨hdirectory, hnames name (List.mem_append_right _ List.mem_cons_self)⟩

/-- The tree of a table in which everything is in a directory. -/
def LinkedTree.of_table (table : List (Path × Node)) (hroot : table.lookup [] = some .directory)
    (htable : ∀ row ∈ table, IsRow table row.1) : LinkedTree where
  entry path := table.lookup path
  name_max := NAME_MAX
  path_max := PATH_MAX
  root := hroot
  closed _ _ h := (row_of_entry htable h).1
  named _ _ h := (row_of_entry htable h).2.1
  short _ _ h := (row_of_entry htable h).2.2

/-- The path without `.` and with every `..` taking back the component before it, as texts alone tell. -/
def normalize (here : Path) : List String → Path
  | [] => here
  | component :: rest =>
    if component = "." then normalize here rest
    else if component = ".." then normalize here.dropLast rest
    else normalize (here ++ [component]) rest

/-- The locations that every `..` goes up from. -/
def ascents (here : Path) : List String → List Path
  | [] => []
  | component :: rest =>
    if component = "." then ascents here rest
    else if component = ".." then here :: ascents here.dropLast rest
    else ascents (here ++ [component]) rest

/-- Whether there is a link and where it leads. -/
def Node.target : Option Node → Option PathText
  | some (.link target) => some target
  | _ => none

/-- The location that the operating system reaches from a directory, when `follow` says where a link and what is behind
    it lead: the last component may be absent, or a file. -/
def walk_with (tree : LinkedTree) (follow : Path → List String → Option Path) (here : Path) : List String → Option Path
  | [] => some here
  | component :: rest =>
    if component = "." then walk_with tree follow here rest
    else if component = ".." then walk_with tree follow here.dropLast rest
    else
      match tree.entry (here ++ [component]) with
      | some .directory => walk_with tree follow (here ++ [component]) rest
      | some (.link target) => follow (target.start here) (target.components ++ rest)
      | some (.file _) | none =>
        if rest.isEmpty && component.utf8ByteSize ≤ tree.name_max then some (here ++ [component]) else none

/-- The location that the operating system reaches over at most some number of links. -/
def walk (tree : LinkedTree) : Nat → Path → List String → Option Path
  | 0 => walk_with tree fun _ _ => none
  | links + 1 => walk_with tree (walk tree links)

/-- `os.path.realpath`: what is not there, or cannot be gone through, is taken by its name. -/
def realpath_with (tree : LinkedTree) (follow : Path → List String → Option Path) (here : Path) :
    List String → Option Path
  | [] => some here
  | component :: rest =>
    if component = "." then realpath_with tree follow here rest
    else if component = ".." then realpath_with tree follow here.dropLast rest
    else
      match Node.target (tree.entry (here ++ [component])) with
      | some target => follow (target.start here) (target.components ++ rest)
      | none => realpath_with tree follow (here ++ [component]) rest

/-- `os.path.realpath` over at most some number of links. -/
def realpath (tree : LinkedTree) : Nat → Path → List String → Option Path
  | 0 => realpath_with tree fun _ _ => none
  | links + 1 => realpath_with tree (realpath tree links)

variable {tree : LinkedTree} {follow : Path → List String → Option Path} {here path location : Path}
  {component : String} {components rest : List String} {links : Nat}

/-- A location above where one stands is above where one ends up, or is gone up from. -/
theorem prefix_normalize_or_mem_ascents (h : location <+: here) :
    location <+: normalize here components ∨ location ∈ ascents here components := by
  induction components generalizing here with
  | nil => exact .inl h
  | cons component rest ih =>
    rw [normalize, ascents]
    split
    · exact ih h
    · split
      · rcases here.eq_nil_or_concat' with rfl | ⟨init, last, rfl⟩
        · obtain rfl := List.prefix_nil.mp h
          exact .inl List.nil_prefix
        · rcases List.prefix_concat_iff.mp h with rfl | h
          · exact .inr List.mem_cons_self
          · rw [List.dropLast_concat]
            exact (ih h).imp id (List.mem_cons_of_mem _)
      · exact ih (h.trans (List.prefix_append _ _))

/-- Without links on the way the operating system ends up where the text says. -/
theorem walk_with_eq_normalize
    (hlinks : ∀ location, location <+: normalize here components ∨ location ∈ ascents here components →
      Node.target (tree.entry location) = none)
    (h : walk_with tree follow here components = some path) : path = normalize here components := by
  induction components generalizing here with
  | nil => exact (Option.some.inj h).symm
  | cons component rest ih =>
    rw [walk_with] at h
    rw [normalize, ascents] at hlinks
    rw [normalize]
    split at h
    · next hdot =>
      rw [if_pos hdot, if_pos hdot] at hlinks
      rw [if_pos hdot]
      exact ih hlinks h
    · next hdot =>
      rw [if_neg hdot, if_neg hdot] at hlinks
      rw [if_neg hdot]
      split at h
      · next hdots =>
        rw [if_pos hdots, if_pos hdots] at hlinks
        rw [if_pos hdots]
        exact ih (fun location hlocation => hlinks location (hlocation.imp id (List.mem_cons_of_mem _))) h
      · next hdots =>
        rw [if_neg hdots, if_neg hdots] at hlinks
        rw [if_neg hdots]
        have hnone := hlinks (here ++ [component]) (prefix_normalize_or_mem_ascents List.prefix_rfl)
        split at h
        · exact ih hlinks h
        · next target hentry =>
          rw [hentry] at hnone
          cases hnone
        · obtain ⟨hrest, h⟩ := Option.ite_none_right_eq_some.mp h
          rw [List.isEmpty_iff.mp (Bool.and_eq_true_iff.mp hrest).1, normalize]
          exact (Option.some.inj h).symm
        · obtain ⟨hrest, h⟩ := Option.ite_none_right_eq_some.mp h
          rw [List.isEmpty_iff.mp (Bool.and_eq_true_iff.mp hrest).1, normalize]
          exact (Option.some.inj h).symm

theorem walk_eq_normalize
    (hlinks : ∀ location, location <+: normalize here components ∨ location ∈ ascents here components →
      Node.target (tree.entry location) = none)
    (h : walk tree links here components = some path) : path = normalize here components := by
  cases links with
  | zero => exact walk_with_eq_normalize hlinks h
  | succ links => exact walk_with_eq_normalize hlinks h

/-- Names without links among them are their own real path. -/
theorem realpath_with_names (hnames : ∀ name ∈ components, IsName name)
    (hlinks : ∀ location, here <+: location → location <+: here ++ components → location ≠ here →
      Node.target (tree.entry location) = none) :
    realpath_with tree follow here components = some (here ++ components) := by
  induction components generalizing here with
  | nil => rw [List.append_nil]; rfl
  | cons name rest ih =>
    obtain ⟨hname, hnames⟩ := List.forall_mem_cons.mp hnames
    have hstep : here ++ name :: rest = here ++ [name] ++ rest := by rw [List.append_assoc, List.singleton_append]
    have hnone := hlinks (here ++ [name]) (List.prefix_append _ _) (hstep ▸ List.prefix_append _ _) (by simp)
    rw [realpath_with, if_neg hname.1, if_neg hname.2, hnone]
    dsimp only
    rw [hstep] at hlinks ⊢
    refine ih hnames fun location habove hbelow hne => ?_
    refine hlinks location ((List.prefix_append _ _).trans habove) hbelow ?_
    rintro rfl
    exact absurd habove.length_le (by simp)

theorem realpath_names (hnames : ∀ name ∈ components, IsName name)
    (hlinks : ∀ location, here <+: location → location <+: here ++ components → location ≠ here →
      Node.target (tree.entry location) = none) :
    realpath tree links here components = some (here ++ components) := by
  cases links with
  | zero => exact realpath_with_names hnames hlinks
  | succ links => exact realpath_with_names hnames hlinks

theorem mem_normalize {name : String} (h : name ∈ normalize here components) :
    name ∈ here ∨ (name ∈ components ∧ IsName name) := by
  induction components generalizing here with
  | nil => exact .inl h
  | cons component rest ih =>
    rw [normalize] at h
    split at h
    · exact (ih h).imp id fun h => ⟨List.mem_cons_of_mem _ h.1, h.2⟩
    · next hdot =>
      split at h
      · rcases ih h with h | h
        · exact .inl (List.dropLast_subset _ h)
        · exact .inr ⟨List.mem_cons_of_mem _ h.1, h.2⟩
      · next hdots =>
        rcases ih h with h | h
        · rcases List.mem_append.mp h with h | h
          · exact .inl h
          · obtain rfl := List.mem_singleton.mp h
            exact .inr ⟨List.mem_cons_self, hdot, hdots⟩
        · exact .inr ⟨List.mem_cons_of_mem _ h.1, h.2⟩

/-- What a directory is in is a directory, and has a name. -/
theorem LinkedTree.above (h : (tree.entry path).isSome) :
    (∀ name ∈ path, IsName name) ∧ ∀ location, location <+: path → location ≠ path →
    tree.entry location = some .directory := by
  induction path using List.reverseRecOn with
  | nil => exact ⟨List.forall_mem_nil _, fun location hlocation hne => absurd (List.prefix_nil.mp hlocation) hne⟩
  | append_singleton path name ih =>
    have hparent := tree.closed path name h
    obtain ⟨hnames, habove⟩ := ih (by rw [hparent]; rfl)
    refine ⟨fun name' hname => ?_, fun location hlocation hne => ?_⟩
    · rcases List.mem_append.mp hname with hname | hname
      · exact hnames name' hname
      · exact List.mem_singleton.mp hname ▸ tree.named path name h
    · rcases List.prefix_concat_iff.mp hlocation with heq | hlocation
      · exact absurd heq hne
      · rcases eq_or_ne location path with rfl | hne
        · exact hparent
        · exact habove location hlocation hne

theorem LinkedTree.directory_above (h : tree.entry path = some .directory) (hlocation : location <+: path) :
    tree.entry location = some .directory := by
  rcases eq_or_ne location path with rfl | hne
  · exact h
  · exact (tree.above (by rw [h]; rfl)).2 location hlocation hne

theorem path_size_mono (h : location <+: path) : path_size location ≤ path_size path :=
  (h.sublist.map _).sum_le_sum fun _ _ => Nat.zero_le _

/-- Where a directory or a file is, the name of the last location is not too long. -/
theorem LinkedTree.is_too_long_eq_false {name : String} (hpath : path_size (path ++ [name]) < tree.path_max)
    (hname : tree.entry path = some .directory → name.utf8ByteSize ≤ tree.name_max) :
    tree.is_too_long path name = false := by
  unfold is_too_long
  rw [Bool.or_eq_false_iff, decide_eq_false_iff_not, Bool.and_eq_false_imp]
  exact ⟨Nat.not_le.mpr hpath, fun hdirectory =>
    decide_eq_false (Nat.not_lt.mpr (hname (of_decide_eq_true hdirectory)))⟩

theorem length_of_mem_ascents (h : location ∈ ascents here components) :
    location.length ≤ here.length + components.length ∧
      ∀ name ∈ location, name ∈ here ∨ (name ∈ components ∧ IsName name) := by
  induction components generalizing here with
  | nil => cases h
  | cons component rest ih =>
    rw [ascents] at h
    rw [List.length_cons]
    split at h
    · obtain ⟨hlength, hnames⟩ := ih h
      exact ⟨by omega, fun name hname => (hnames name hname).imp id fun h => ⟨List.mem_cons_of_mem _ h.1, h.2⟩⟩
    · next hdot =>
      split at h
      · rcases List.mem_cons.mp h with rfl | h
        · exact ⟨Nat.le_add_right _ _, fun name hname => .inl hname⟩
        · obtain ⟨hlength, hnames⟩ := ih h
          rw [List.length_dropLast] at hlength
          refine ⟨by omega, fun name hname => (hnames name hname).imp (fun h => List.dropLast_subset _ h) fun h => ?_⟩
          exact ⟨List.mem_cons_of_mem _ h.1, h.2⟩
      · next hdots =>
        obtain ⟨hlength, hnames⟩ := ih h
        rw [List.length_append, List.length_singleton] at hlength
        refine ⟨by omega, fun name hname => ?_⟩
        rcases hnames name hname with h | h
        · rcases List.mem_append.mp h with h | h
          · exact .inl h
          · obtain rfl := List.mem_singleton.mp h
            exact .inr ⟨List.mem_cons_self, hdot, hdots⟩
        · exact .inr ⟨List.mem_cons_of_mem _ h.1, h.2⟩

end Filesystem
