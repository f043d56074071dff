import Mathlib.Algebra.Order.BigOperators.Group.List
import Mathlib.Algebra.Order.Group.Nat
import OhMySubagents.Claude.ExecutionAccess

open Filesystem

namespace OhMySubagents.Claude

section Guard

variable {library : PathLibrary} {tree : LinkedTree} {raw_path : String} {workspace_root cursor location : Path}
  {parts : List String} {hook_input : HookInput}

private theorem check_parts_lenient_iff {follows : Nat} : check_parts ⟨follows, false⟩ tree cursor parts = true ↔
    (∀ location, cursor <+: location → location <+: cursor ++ parts → location ≠ cursor →
      Node.target (tree.entry location) = none) ∧
    (parts ≠ [] → ∀ links, tree.entry (cursor ++ parts) = some (.file links) → links ≤ 1) := by
  induction parts generalizing cursor with
  | nil =>
    refine ⟨fun _ => ⟨fun location habove hbelow hne => ?_, fun hne => absurd rfl hne⟩, fun _ => rfl⟩
    rw [List.append_nil] at hbelow
    exact absurd (hbelow.eq_of_length_le habove.length_le) hne
  | cons part parts ih =>
    have hstep : cursor ++ part :: parts = cursor ++ [part] ++ parts := by
      rw [List.append_assoc, List.singleton_append]
    have hlocations : (∀ location, cursor <+: location → location <+: cursor ++ part :: parts → location ≠ cursor →
        Node.target (tree.entry location) = none) ↔ Node.target (tree.entry (cursor ++ [part])) = none ∧
          ∀ location, cursor ++ [part] <+: location → location <+: cursor ++ [part] ++ parts →
            location ≠ cursor ++ [part] → Node.target (tree.entry location) = none := by
      rw [hstep]
      constructor
      · intro h
        refine ⟨h _ (List.prefix_append _ _) (List.prefix_append _ _) (by simp), fun location habove hbelow hne => ?_⟩
        refine h location ((List.prefix_append _ _).trans habove) hbelow ?_
        rintro rfl
        exact absurd habove.length_le (by simp)
      · rintro ⟨hfirst, hrest⟩ location habove hbelow hne
        rcases List.prefix_or_prefix_of_prefix hbelow (List.prefix_append (cursor ++ [part]) parts) with h | h
        · rcases List.prefix_concat_iff.mp h with rfl | h
          · exact hfirst
          · exact absurd (h.eq_of_length_le habove.length_le) hne
        · rcases eq_or_ne location (cursor ++ [part]) with rfl | hne
          · exact hfirst
          · exact hrest location h hbelow hne
    rw [hlocations, check_parts, Bool.false_and, if_neg Bool.false_ne_true]
    split
    · next target hentry => simp [hentry, Node.target]
    · next links hentry =>
      rw [Bool.and_eq_true, ih, hentry, hstep, Bool.not_eq_true', Bool.and_eq_false_iff, decide_eq_false_iff_not]
      cases parts with
      | nil => simp [hentry, Node.target, and_comm]
      | cons next parts => simp [Node.target]
    · next hlink hfile =>
      have hnone : Node.target (tree.entry (cursor ++ [part])) = none := by
        match hentry : tree.entry (cursor ++ [part]) with
        | none | some .directory | some (.file _) => rfl
        | some (.link target) => exact absurd hentry (hlink target)
      rw [ih, hstep, hnone]
      cases parts with
      | nil =>
        simp only [List.append_nil, ne_eq, not_true_eq_false, false_implies, and_true, true_and, reduceCtorEq,
          not_false_eq_true, true_implies, iff_self_and]
        exact fun _ links hentry => absurd hentry (hfile links)
      | cons next parts => simp

/-- A library that raises looks at no name that is too long. -/
private theorem check_parts_strict_iff : check_parts library tree cursor parts = true ↔
    check_parts ⟨library.follows, false⟩ tree cursor parts = true ∧ (library.raises_too_long = true →
      ∀ location part, cursor <+: location → location ++ [part] <+: cursor ++ parts →
        tree.is_too_long location part = false) := by
  induction parts generalizing cursor with
  | nil =>
    refine ⟨fun _ => ⟨rfl, fun _ location part habove hbelow => ?_⟩, fun _ => rfl⟩
    have hshorter := hbelow.length_le
    have hlonger := habove.length_le
    simp at hshorter
    omega
  | cons part parts ih =>
    have hstep : cursor ++ part :: parts = cursor ++ [part] ++ parts := by
      rw [List.append_assoc, List.singleton_append]
    have hlocations : (∀ location name, cursor <+: location → location ++ [name] <+: cursor ++ part :: parts →
        tree.is_too_long location name = false) ↔ tree.is_too_long cursor part = false ∧
          ∀ location name, cursor ++ [part] <+: location → location ++ [name] <+: cursor ++ [part] ++ parts →
            tree.is_too_long location name = false := by
      rw [hstep]
      constructor
      · exact fun h => ⟨h cursor part List.prefix_rfl (List.prefix_append _ _),
          fun location name habove => h location name ((List.prefix_append _ _).trans habove)⟩
      · rintro ⟨hfirst, hrest⟩ location name habove hbelow
        rcases List.prefix_or_prefix_of_prefix hbelow (List.prefix_append (cursor ++ [part]) parts) with h | h
        · rcases List.prefix_concat_iff.mp h with heq | h
          · obtain ⟨rfl, hname⟩ := List.append_inj' heq rfl
            obtain rfl := List.singleton_inj.mp hname
            exact hfirst
          · have hshorter := h.length_le
            have hlonger := habove.length_le
            simp at hshorter
            omega
        · rcases List.prefix_concat_iff.mp h with heq | h
          · obtain ⟨rfl, hname⟩ := List.append_inj' heq rfl
            obtain rfl := List.singleton_inj.mp hname
            exact hfirst
          · exact hrest location name h hbelow
    rw [hlocations, check_parts, check_parts, Bool.false_and, if_neg Bool.false_ne_true]
    cases hraises : library.raises_too_long with
    | false =>
      rw [Bool.false_and, if_neg Bool.false_ne_true]
      simp only [hraises, Bool.false_eq_true, false_implies, and_true] at ih ⊢
      split
      · exact Iff.rfl
      · rw [Bool.and_eq_true, Bool.and_eq_true, ih]
      · exact ih
    | true =>
      rw [Bool.true_and]
      simp only [hraises, true_implies] at ih ⊢
      cases htoo : tree.is_too_long cursor part with
      | true => simp
      | false =>
        rw [if_neg Bool.false_ne_true]
        simp only [true_and]
        split
        · simp
        · rw [Bool.and_eq_true, Bool.and_eq_true, ih, and_assoc]
        · exact ih

/-- What the guard learns of the parts below a directory: none is a link or too long, and the last is no file with a
    second link. -/
theorem check_parts_iff : check_parts library tree cursor parts = true ↔
    (∀ location, cursor <+: location → location <+: cursor ++ parts → location ≠ cursor →
      Node.target (tree.entry location) = none) ∧
    (parts ≠ [] → ∀ links, tree.entry (cursor ++ parts) = some (.file links) → links ≤ 1) ∧
    (library.raises_too_long = true → ∀ location part, cursor <+: location → location ++ [part] <+: cursor ++ parts →
      tree.is_too_long location part = false) := by
  rw [check_parts_strict_iff, check_parts_lenient_iff, and_assoc]

/-- What the hook looks at: the path text that a write tool was called with. -/
def Supplies (hook_input : HookInput) (raw_path : String) : Prop :=
  hook_input.hook_event_name = "PreToolUse" ∧
    ∃ path_field, _CLAUDE_WRITE_TOOL_PATH_FIELDS.lookup hook_input.tool_name = some path_field ∧
      hook_input.tool_input.lookup path_field = some (some raw_path)

/-- A text that the guard refuses without a look at the tree. -/
def RefusedText (workspace_root : Path) (raw_path : String) : Prop :=
  raw_path = "" ∨ '\x00' ∈ raw_path.toList ∨ has_double_root raw_path = true ∨
    ¬workspace_root <+: lexical_path workspace_root raw_path

theorem no_objection_iff (h : Supplies hook_input raw_path) :
    require_workspace_write_path library tree workspace_root hook_input = .no_objection ↔
      ¬RefusedText workspace_root raw_path ∧
        check_parts library tree workspace_root ((lexical_path workspace_root raw_path).drop workspace_root.length) =
          true ∧
        ∃ resolved_path, realpath tree library.follows [] (lexical_path workspace_root raw_path) = some resolved_path ∧
          workspace_root <+: resolved_path := by
  obtain ⟨hevent, path_field, hfield, hsupplied⟩ := h
  unfold require_workspace_write_path RefusedText
  rw [if_neg (not_not.mpr hevent), hfield]
  simp only [Option.bind_eq_bind, Option.bind_some, hsupplied, ite_eq_iff, reduceCtorEq, and_false, false_or, or_false,
    and_true, not_or, not_not]
  unfold _is_workspace_write_path
  simp only [Bool.and_eq_true, Bool.not_eq_true', List.isPrefixOf_iff_prefix]
  cases hreal : realpath tree library.follows [] (lexical_path workspace_root raw_path) with
  | none => simp
  | some resolved_path => simp [and_assoc]

end Guard

/-- How many links the operating system follows before it gives up. -/
def MAXSYMLINKS : Nat := 40

/-- The location that a path text reaches when the tool opens it in the workspace. -/
def opened_location (tree : LinkedTree) (workspace_root : Path) (raw_path : String) : Option Path :=
  if tree.path_max ≤ raw_path.utf8ByteSize then none
  else walk tree MAXSYMLINKS ((PathText.parse raw_path).start workspace_root) (PathText.parse raw_path).components

/-- The locations that the `..` components of a text go up from. -/
def ascents_of (workspace_root : Path) (raw_path : String) : List Path :=
  ascents ((PathText.parse raw_path).start workspace_root) (PathText.parse raw_path).components

/-- What the guard's look at the collapsed path finds: a link, a second hard link, or a name that is too long. -/
def ObjectsTo (library : PathLibrary) (tree : LinkedTree) (workspace_root : Path) (raw_path : String) : Prop :=
  check_parts library tree workspace_root ((lexical_path workspace_root raw_path).drop workspace_root.length) = false

/-- A text with a `..` that goes up from a link, and that leads out of the workspace or to a second hard link. -/
structure LedOut (tree : LinkedTree) (workspace_root : Path) (raw_path : String) : Prop where
  over_link : ∃ location ∈ ascents_of workspace_root raw_path, Node.target (tree.entry location) ≠ none
  out : ∃ location, opened_location tree workspace_root raw_path = some location ∧
    ¬(workspace_root <+: location ∧ ∀ links, tree.entry location = some (.file links) → links ≤ 1)

/-- A call that is not denied writes inside the workspace, and not through a second hard link. -/
def Confined (library : PathLibrary) (tree : LinkedTree) (workspace_root : Path) (hook_input : HookInput)
    (raw_path : String) : Prop :=
  require_workspace_write_path library tree workspace_root hook_input = .no_objection →
    ∀ location, opened_location tree workspace_root raw_path = some location →
      workspace_root <+: location ∧ ∀ links, tree.entry location = some (.file links) → links ≤ 1

/-- A text whose every `..` goes up from a location on the collapsed path or above the workspace. -/
def AnchoredText (workspace_root : Path) (raw_path : String) : Prop :=
  ∀ location ∈ ascents_of workspace_root raw_path,
    location <+: lexical_path workspace_root raw_path ∨ location <+: workspace_root

section Confinement

variable {library : PathLibrary} {tree : LinkedTree} {raw_path : String} {workspace_root location : Path}
  {hook_input : HookInput}

/-- What the guard resolves is what it has looked at, so its checks decide. -/
theorem no_objection_iff_checks (hroot : tree.entry workspace_root = some .directory)
    (hsupplies : Supplies hook_input raw_path) :
    require_workspace_write_path library tree workspace_root hook_input = .no_objection ↔
      ¬RefusedText workspace_root raw_path ∧ ¬ObjectsTo library tree workspace_root raw_path := by
  rw [no_objection_iff hsupplies, ObjectsTo, Bool.not_eq_false]
  refine ⟨fun ⟨htext, hcheck, _⟩ => ⟨htext, hcheck⟩, fun ⟨htext, hcheck⟩ => ⟨htext, hcheck, ?_⟩⟩
  have hinside : workspace_root <+: lexical_path workspace_root raw_path := by
    by_contra houtside
    exact htext (.inr (.inr (.inr houtside)))
  have hstart : (PathText.parse raw_path).start workspace_root <+: workspace_root := by
    unfold PathText.start
    split
    · exact List.nil_prefix
    · exact List.prefix_rfl
  have hlinks := (check_parts_iff.mp hcheck).1
  rw [List.prefix_iff_eq_append.mp hinside] at hlinks
  refine ⟨lexical_path workspace_root raw_path, realpath_names (fun name hname => ?_) fun location _ hlocation _ => ?_,
    hinside⟩
  · rcases mem_normalize hname with hname | hname
    · exact (tree.above (by rw [hroot]; rfl)).1 name (hstart.subset hname)
    · exact hname.2
  · rcases List.prefix_or_prefix_of_prefix hlocation hinside with habove | hbelow
    · rw [tree.directory_above hroot habove]
      rfl
    · rcases eq_or_ne location workspace_root with rfl | hne
      · rw [hroot]
        rfl
      · exact hlinks location hbelow hlocation hne

/-- Below a workspace that is a directory the guard knows that no location on the collapsed path is a link. -/
theorem no_link_of_no_objection (hroot : tree.entry workspace_root = some .directory)
    (hsupplies : Supplies hook_input raw_path)
    (h : require_workspace_write_path library tree workspace_root hook_input = .no_objection)
    (hlocation : location <+: lexical_path workspace_root raw_path ∨ location <+: workspace_root) :
    Node.target (tree.entry location) = none := by
  obtain ⟨hrefused, hcheck, -⟩ := (no_objection_iff hsupplies).mp h
  have hinside : workspace_root <+: lexical_path workspace_root raw_path := by
    by_contra houtside
    exact hrefused (.inr (.inr (.inr houtside)))
  have habove : location <+: workspace_root → Node.target (tree.entry location) = none := by
    intro hlocation
    rw [tree.directory_above hroot hlocation]
    rfl
  rcases hlocation with hlocation | hlocation
  · rcases List.prefix_or_prefix_of_prefix hlocation hinside with h | h
    · exact habove h
    · rcases eq_or_ne location workspace_root with rfl | hne
      · exact habove List.prefix_rfl
      · refine (check_parts_iff.mp hcheck).1 location h ?_ hne
        rwa [List.prefix_iff_eq_append.mp hinside]
  · exact habove hlocation

/-- A call with a text whose `..` components go up from no link writes where the guard looked. -/
theorem confined_of_no_link_ascent (hroot : tree.entry workspace_root = some .directory)
    (hsupplies : Supplies hook_input raw_path)
    (hascents : require_workspace_write_path library tree workspace_root hook_input = .no_objection →
      ∀ location ∈ ascents_of workspace_root raw_path, Node.target (tree.entry location) = none) :
    Confined library tree workspace_root hook_input raw_path := by
  intro h location hlocation
  obtain ⟨hrefused, hcheck, -⟩ := (no_objection_iff hsupplies).mp h
  have hinside : workspace_root <+: lexical_path workspace_root raw_path := by
    by_contra houtside
    exact hrefused (.inr (.inr (.inr houtside)))
  have hreached : location = lexical_path workspace_root raw_path := by
    replace hlocation := (Option.ite_none_left_eq_some.mp hlocation).2
    refine walk_eq_normalize (fun location hlocation => ?_) hlocation
    rcases hlocation with hlocation | hlocation
    · exact no_link_of_no_objection hroot hsupplies h (.inl hlocation)
    · exact hascents h location hlocation
  rw [hreached]
  refine ⟨hinside, fun links hentry => ?_⟩
  have hsplit := List.prefix_iff_eq_append.mp hinside
  have hlast := (check_parts_iff.mp hcheck).2.1
  rw [hsplit] at hlast
  refine hlast (fun hnil => ?_) links hentry
  rw [hnil, List.append_nil] at hsplit
  rw [← hsplit, hroot] at hentry
  cases hentry

theorem confined_of_anchored (hroot : tree.entry workspace_root = some .directory)
    (hsupplies : Supplies hook_input raw_path)
    (h : RefusedText workspace_root raw_path ∨ AnchoredText workspace_root raw_path) :
    Confined library tree workspace_root hook_input raw_path := by
  rcases h with h | h
  · intro hallowed
    exact absurd h ((no_objection_iff hsupplies).mp hallowed).1
  · refine confined_of_no_link_ascent hroot hsupplies fun hallowed location hlocation => ?_
    exact no_link_of_no_objection hroot hsupplies hallowed (h location hlocation)

/-- In one tree a call is confined exactly when it is denied or its text is not led out over a link. -/
theorem confined_iff_not_led_out (hroot : tree.entry workspace_root = some .directory)
    (hsupplies : Supplies hook_input raw_path) : Confined library tree workspace_root hook_input raw_path ↔
      RefusedText workspace_root raw_path ∨ ObjectsTo library tree workspace_root raw_path ∨
        ¬LedOut tree workspace_root raw_path := by
  have hallowed : require_workspace_write_path library tree workspace_root hook_input = .no_objection ↔
      ¬RefusedText workspace_root raw_path ∧ ¬ObjectsTo library tree workspace_root raw_path :=
    no_objection_iff_checks hroot hsupplies
  constructor
  · intro hconfined
    by_cases hdenied : RefusedText workspace_root raw_path ∨ ObjectsTo library tree workspace_root raw_path
    · exact hdenied.imp_right .inl
    · refine .inr (.inr fun hled => ?_)
      obtain ⟨location, hlocation, hout⟩ := hled.out
      exact hout (hconfined (hallowed.mpr (not_or.mp hdenied)) location hlocation)
  · intro h hunobjected
    obtain ⟨htext, hobjects⟩ := hallowed.mp hunobjected
    have hnot := (h.resolve_left htext).resolve_left hobjects
    by_cases hlinked : ∃ location ∈ ascents_of workspace_root raw_path, Node.target (tree.entry location) ≠ none
    · intro location hlocation
      by_contra hout
      exact hnot ⟨hlinked, location, hlocation, hout⟩
    · have hnone : ∀ location ∈ ascents_of workspace_root raw_path, Node.target (tree.entry location) = none := by
        simpa using hlinked
      exact confined_of_no_link_ascent hroot hsupplies (fun _ => hnone) hunobjected

/-- A path without `..` into the workspace that leads over directories to a new file, or to one that has no other link,
    is let through unless the library finds it too long. -/
theorem no_objection_iff_of_plain {init : List String} {last : String}
    (hroot : tree.entry workspace_root = some .directory)
    (hsupplies : Supplies hook_input raw_path) (htext : ¬RefusedText workspace_root raw_path)
    (hpath : lexical_path workspace_root raw_path = workspace_root ++ init ++ [last])
    (hdirectory : tree.entry (workspace_root ++ init) = some .directory)
    (hlast : tree.entry (workspace_root ++ init ++ [last]) = none ∨
      tree.entry (workspace_root ++ init ++ [last]) = some (.file 1)) :
    require_workspace_write_path library tree workspace_root hook_input = .no_objection ↔
      (library.raises_too_long = true → tree.is_too_long (workspace_root ++ init) last = false) := by
  rw [no_objection_iff_checks hroot hsupplies, ObjectsTo, Bool.not_eq_false, hpath, List.append_assoc, List.drop_left,
    check_parts_iff, ← List.append_assoc, and_iff_right htext]
  constructor
  · exact fun h hraises => h.2.2 hraises _ last (List.prefix_append _ _) List.prefix_rfl
  · intro hshort
    refine ⟨fun location _ hlocation _ => ?_, fun _ links hentry => ?_, fun hraises location part habove hbelow => ?_⟩
    · rcases List.prefix_concat_iff.mp hlocation with rfl | hlocation
      · rcases hlast with hlast | hlast <;> rw [hlast] <;> rfl
      · rw [tree.directory_above hdirectory hlocation]
        rfl
    · rcases hlast with hlast | hlast
      · rw [hlast] at hentry
        cases hentry
      · rw [hlast] at hentry
        cases hentry
        exact Nat.le_refl 1
    · rcases List.prefix_concat_iff.mp hbelow with heq | hbelow
      · obtain ⟨rfl, hname⟩ := List.append_inj' heq rfl
        obtain rfl := List.singleton_inj.mp hname
        exact hshort hraises
      · have hfits := hshort hraises
        rw [LinkedTree.is_too_long, Bool.or_eq_false_iff, decide_eq_false_iff_not, Nat.not_le] at hfits
        have hthere := tree.directory_above hdirectory hbelow
        exact LinkedTree.is_too_long_eq_false
          ((path_size_mono (hbelow.trans (List.prefix_append _ _))).trans_lt hfits.1)
          fun _ => tree.short location part (by rw [hthere]; rfl)

end Confinement

section Escape

variable {q : Path} {names : List String} {bound path_max : Nat} {target : PathText}

private theorem mem_names_of_entry {path : Path} {name : String} (hq : ∀ name ∈ q, name ∈ names)
    (h : (if path ++ [name] = q then some (Node.link target)
      else if q <+: path ++ [name] then none
      else if (path ++ [name]).length ≤ bound ∧ ∀ name' ∈ path ++ [name], name' ∈ names then some .directory
      else none).isSome) : name ∈ names := by
  have hlast : name ∈ path ++ [name] := List.mem_append_right _ List.mem_cons_self
  split at h
  · next heq => exact hq name (heq ▸ hlast)
  · split at h
    · cases h
    · split at h
      · next hshort => exact hshort.2 name hlast
      · cases h

/-- A tree with one link, in which every other location that is short enough and has known names is a directory. -/
def escape_tree (q : Path) (names : List String) (bound path_max : Nat) (target : PathText) (hne : q ≠ [])
    (hbound : q.length ≤ bound) (hq : ∀ name ∈ q, name ∈ names) (hnames : ∀ name ∈ names, IsName name) :
    LinkedTree where
  entry location :=
    if location = q then some (.link target)
    else if q <+: location then none
    else if location.length ≤ bound ∧ ∀ name ∈ location, name ∈ names then some .directory
    else none
  name_max := (names.map String.utf8ByteSize).sum
  path_max := path_max
  root := by
    rw [if_neg hne.symm, if_neg fun h => hne (List.prefix_nil.mp h), if_pos ⟨Nat.zero_le _, List.forall_mem_nil _⟩]
  closed := by
    intro path name h
    have hshort : (path ++ [name]).length ≤ bound ∧ ∀ name' ∈ path ++ [name], name' ∈ names := by
      split at h
      · next heq => exact heq ▸ ⟨hbound, hq⟩
      · split at h
        · cases h
        · split at h
          · next hshort => exact hshort
          · cases h
    have hbelow : ¬q <+: path := by
      intro hfront
      split at h
      · next heq => exact absurd (heq ▸ hfront).length_le (by simp)
      · rw [if_pos (hfront.trans (List.prefix_append _ _))] at h
        cases h
    have hother : path ≠ q := by
      rintro rfl
      exact hbelow List.prefix_rfl
    rw [List.length_append] at hshort
    rw [if_neg hother, if_neg hbelow, if_pos
      ⟨by omega, fun name' hname => hshort.2 name' (List.mem_append_left _ hname)⟩]
  named _ _ h := hnames _ (mem_names_of_entry hq h)
  short _ _ h := List.le_sum_of_mem (List.mem_map_of_mem (mem_names_of_entry hq h))

variable {hne : q ≠ []} {hbound : q.length ≤ bound} {hq : ∀ name ∈ q, name ∈ names}
  {hnames : ∀ name ∈ names, IsName name} {follow : Path → List String → Option Path} {here location : Path}
  {components : List String} {z : String}

theorem escape_tree_path_max : (escape_tree q names bound path_max target hne hbound hq hnames).path_max = path_max :=
    rfl

theorem escape_tree_link : (escape_tree q names bound path_max target hne hbound hq hnames).entry q = some
    (.link target) :=
  if_pos rfl

theorem escape_tree_directory (hbelow : ¬q <+: location) (hlength : location.length ≤ bound)
    (hlocation : ∀ name ∈ location, name ∈ names) :
    (escape_tree q names bound path_max target hne hbound hq hnames).entry location = some .directory := by
  have hother : location ≠ q := by
    rintro rfl
    exact hbelow List.prefix_rfl
  exact (if_neg hother).trans ((if_neg hbelow).trans (if_pos ⟨hlength, hlocation⟩))

theorem escape_tree_no_link (hlocation : location ≠ q) :
    Node.target ((escape_tree q names bound path_max target hne hbound hq hnames).entry location) = none ∧
      ∀ links, (escape_tree q names bound path_max target hne hbound hq hnames).entry location ≠ some
        (.file links) := by
  have hentry : (escape_tree q names bound path_max target hne hbound hq hnames).entry location =
      if q <+: location then none
      else if location.length ≤ bound ∧ ∀ name ∈ location, name ∈ names then some .directory else none :=
    if_neg hlocation
  rw [hentry]
  split
  · exact ⟨rfl, nofun⟩
  · split
    · exact ⟨rfl, nofun⟩
    · exact ⟨rfl, nofun⟩

/-- One step to a location that is no link. -/
private theorem walk_step {component : String} {rest : List String} (hname : IsName component)
    (hbelow : ¬q <+: here ++ [component]) (hlength : here.length + (component :: rest).length ≤ bound)
    (hhere : ∀ name ∈ here, name ∈ names) (hcomponent : component ∈ names) :
    walk_with (escape_tree q names bound path_max target hne hbound hq hnames) follow here (component :: rest) =
      walk_with (escape_tree q names bound path_max target hne hbound hq hnames) follow (here ++ [component]) rest := by
  rw [walk_with, if_neg hname.1, if_neg hname.2, escape_tree_directory hbelow]
  · rw [List.length_append, List.length_singleton]
    rw [List.length_cons] at hlength
    omega
  · intro name hmem
    rcases List.mem_append.mp hmem with hmem | hmem
    · exact hhere name hmem
    · exact List.mem_singleton.mp hmem ▸ hcomponent

/-- Whoever is deep enough below a directory stays below it. -/
private theorem walk_below (hz : z ∉ q) (hdepth : components.length < here.length) (hhead : here.head? = some z)
    (hlength : here.length + components.length ≤ bound) (hhere : ∀ name ∈ here, name ∈ names)
    (hcomponents : ∀ name ∈ components, IsName name → name ∈ names) :
    ∃ location, walk_with (escape_tree q names bound path_max target hne hbound hq hnames) follow here
      components = some location ∧ location.head? = some z := by
  induction components generalizing here with
  | nil => exact ⟨here, rfl, hhead⟩
  | cons component rest ih =>
    obtain ⟨hcomponent, hrest⟩ := List.forall_mem_cons.mp hcomponents
    rw [List.length_cons] at hdepth hlength
    by_cases hdot : component = "."
    · rw [walk_with, if_pos hdot]
      exact ih (by omega) hhead (by omega) hhere hrest
    by_cases hdots : component = ".."
    · rw [walk_with, if_neg hdot, if_pos hdots]
      have hlonger : here.dropLast.length = here.length - 1 := List.length_dropLast
      refine ih (by omega) ?_ (by omega) (fun name hname => hhere name (List.dropLast_subset _ hname)) hrest
      cases here with
      | nil => exact hhead
      | cons first below =>
        cases below with
        | nil => exact absurd hdepth (by simp)
        | cons => exact hhead
    · have hhead' : (here ++ [component]).head? = some z := by rw [List.head?_append, hhead]; rfl
      have hbelow : ¬q <+: here ++ [component] := by
        rintro ⟨more, hmore⟩
        cases q with
        | nil => exact hne rfl
        | cons first _ =>
          rw [← hmore] at hhead'
          cases hhead'
          exact hz List.mem_cons_self
      rw [walk_step ⟨hdot, hdots⟩ hbelow (by rw [List.length_cons]; omega) hhere (hcomponent ⟨hdot, hdots⟩)]
      refine ih (by simp; omega) hhead' (by simp; omega) (fun name hmem => ?_) hrest
      rcases List.mem_append.mp hmem with hmem | hmem
      · exact hhere name hmem
      · exact List.mem_singleton.mp hmem ▸ hcomponent ⟨hdot, hdots⟩

private theorem walk_down (hz : z ∉ q) (hname : IsName z) (hmem : z ∈ names) (depth more : Nat)
    (hlength : depth + more + components.length ≤ bound) :
    walk_with (escape_tree q names bound path_max target hne hbound hq hnames) follow (List.replicate depth z)
        (List.replicate more z ++ components) =
      walk_with (escape_tree q names bound path_max target hne hbound hq hnames) follow
        (List.replicate (depth + more) z)
        components := by
  induction more generalizing depth with
  | zero => rfl
  | succ more ih =>
    have hbelow : ¬q <+: List.replicate depth z ++ [z] := by
      rintro ⟨rest, hrest⟩
      match q, hne, hrest with
      | first :: _, _, hrest =>
        have hfirst : first ∈ List.replicate depth z ++ [z] := by rw [← hrest]; exact List.mem_cons_self
        rw [← List.replicate_succ', List.mem_replicate] at hfirst
        exact hz (hfirst.2 ▸ List.mem_cons_self)
    rw [List.replicate_succ, List.cons_append, walk_step hname hbelow _ _ hmem, ← List.replicate_succ',
      ih (depth + 1) (by omega)]
    · congr 2
      omega
    · simp only [List.length_replicate, List.length_cons, List.length_append]
      omega
    · exact fun name hreplicate => (List.mem_replicate.mp hreplicate).2 ▸ hmem

/-- A walk that goes up from the link ends below where the link leads. -/
private theorem walk_escapes (links : Nat) (hne : q ≠ []) (hbound : q.length ≤ bound) (hq : ∀ name ∈ q, name ∈ names)
    (hnames : ∀ name ∈ names, IsName name) (hz : z ∉ q) (hname : IsName z) (hmem : z ∈ names)
    (hascent : q ∈ ascents here components) (hbelow : ¬q <+: here)
    (hlength : here.length + 2 * components.length + 1 ≤ bound) (hhere : ∀ name ∈ here, name ∈ names)
    (hcomponents : ∀ name ∈ components, IsName name → name ∈ names) {depth : Nat}
    (htarget : target = ⟨true, List.replicate depth z⟩) (hdepth : components.length ≤ depth)
    (hdeep : depth + components.length ≤ bound) :
    ∃ location, walk (escape_tree q names bound path_max target hne hbound hq hnames) (links + 1) here
      components = some location ∧ location.head? = some z := by
  induction components generalizing here with
  | nil => cases hascent
  | cons component rest ih =>
    obtain ⟨hcomponent, hrest⟩ := List.forall_mem_cons.mp hcomponents
    rw [List.length_cons] at hlength hdepth hdeep
    rw [walk] at ih ⊢
    rw [ascents] at hascent
    by_cases hdot : component = "."
    · rw [if_pos hdot] at hascent
      rw [walk_with, if_pos hdot]
      exact ih hascent hbelow (by omega) hhere hrest (by omega) (by omega)
    by_cases hdots : component = ".."
    · rw [if_neg hdot, if_pos hdots] at hascent
      rw [walk_with, if_neg hdot, if_pos hdots]
      rcases List.mem_cons.mp hascent with rfl | hascent
      · exact absurd List.prefix_rfl hbelow
      · have hshorter : here.dropLast.length = here.length - 1 := List.length_dropLast
        exact ih hascent (fun h => hbelow (h.trans (List.dropLast_prefix _))) (by omega)
          (fun name hname => hhere name (List.dropLast_subset _ hname)) hrest (by omega) (by omega)
    · rw [if_neg hdot, if_neg hdots] at hascent
      by_cases heq : here ++ [component] = q
      · rw [walk_with, if_neg hdot, if_neg hdots, heq, escape_tree_link, htarget]
        have hdown : ∀ follow, walk_with (escape_tree q names bound path_max target hne hbound hq hnames) follow []
            (List.replicate depth z ++ rest) =
              walk_with (escape_tree q names bound path_max target hne hbound hq hnames) follow
              (List.replicate depth z) rest := by
          intro follow
          have hwalked := @walk_down q names bound path_max target hne hbound hq hnames follow rest z hz hname hmem 0
            depth (by omega)
          rwa [List.replicate_zero, Nat.zero_add] at hwalked
        have hbelow : ∀ follow, ∃ location, walk_with
          (escape_tree q names bound path_max target hne hbound hq hnames) follow
            (List.replicate depth z) rest = some location ∧ location.head? = some z := by
          intro follow
          refine walk_below hz (by simp; omega) ?_ (by simp; omega) (fun name hreplicate => ?_) hrest
          · cases depth with
            | zero => exact absurd hdepth (by simp)
            | succ => rfl
          · exact (List.mem_replicate.mp hreplicate).2 ▸ hmem
        cases links with
        | zero =>
          obtain ⟨location, hlocation, hhead⟩ := hbelow fun _ _ => none
          exact ⟨location, by rw [← hlocation, ← hdown, htarget]; rfl, hhead⟩
        | succ links =>
          obtain ⟨location, hlocation, hhead⟩ :=
            hbelow (walk (escape_tree q names bound path_max target hne hbound hq hnames) links)
          exact ⟨location, by rw [← hlocation, ← hdown, htarget]; rfl, hhead⟩
      · have hstep : ¬q <+: here ++ [component] := by
          intro h
          rcases List.prefix_concat_iff.mp h with h | h
          · exact heq h.symm
          · exact hbelow h
        rw [walk_step ⟨hdot, hdots⟩ hstep (by rw [List.length_cons]; omega) hhere (hcomponent ⟨hdot, hdots⟩)]
        refine ih hascent hstep (by simp; omega) (fun name hmem => ?_) hrest (by omega) (by omega)
        rcases List.mem_append.mp hmem with hmem | hmem
        · exact hhere name hmem
        · exact List.mem_singleton.mp hmem ▸ hcomponent ⟨hdot, hdots⟩

end Escape

section Texts

variable {workspace_root : Path} {hook_input : HookInput} {raw_path : String}

private theorem exists_new_name (names : List String) : ∃ z, IsName z ∧ z ∉ names := by
  refine ⟨String.ofList (List.replicate ((names.map String.length).sum + 1) 'z'), ⟨?_, ?_⟩, fun hmem => ?_⟩
  · intro heq
    have hchars := congrArg String.toList heq
    rw [String.toList_ofList, List.replicate_succ] at hchars
    exact absurd (List.cons.inj hchars).1 (by decide)
  · intro heq
    have hchars := congrArg String.toList heq
    rw [String.toList_ofList, List.replicate_succ] at hchars
    exact absurd (List.cons.inj hchars).1 (by decide)
  · have hle := List.le_sum_of_mem (List.mem_map_of_mem hmem (f := String.length))
    rw [String.length_ofList, List.length_replicate] at hle
    omega

/-- A text that goes up from anywhere else is let through in some tree where it leads out of the workspace. -/
theorem exists_escape (hroot : workspace_root ≠ []) (hnames : ∀ name ∈ workspace_root, IsName name)
    (hsupplies : Supplies hook_input raw_path) (htext : ¬RefusedText workspace_root raw_path)
    (hanchored : ¬AnchoredText workspace_root raw_path) :
    ∃ tree : LinkedTree, tree.entry workspace_root = some .directory ∧
      ∀ library, ¬Confined library tree workspace_root hook_input raw_path := by
  obtain ⟨q, hascent, hq⟩ : ∃ q ∈ ascents_of workspace_root raw_path,
      ¬(q <+: lexical_path workspace_root raw_path ∨ q <+: workspace_root) := by
    simpa only [AnchoredText, not_forall, exists_prop] using hanchored
  obtain ⟨hpath, habove⟩ := not_or.mp hq
  have hne : q ≠ [] := by
    rintro rfl
    exact habove List.nil_prefix
  have hinside : workspace_root <+: lexical_path workspace_root raw_path := by
    by_contra houtside
    exact htext (.inr (.inr (.inr houtside)))
  have hstart : (PathText.parse raw_path).start workspace_root <+: workspace_root := by
    unfold PathText.start
    split
    · exact List.nil_prefix
    · exact List.prefix_rfl
  unfold ascents_of at hascent
  unfold lexical_path at hpath hinside
  obtain ⟨hlength, hnames_q⟩ := length_of_mem_ascents hascent
  obtain ⟨z, hz, hfresh⟩ := exists_new_name (workspace_root ++ (PathText.parse raw_path).components)
  obtain ⟨names, hdef⟩ : ∃ names, names = z :: (workspace_root ++ (PathText.parse raw_path).components.filter IsName) :=
    ⟨_, rfl⟩
  have hroot_names : ∀ name ∈ workspace_root, name ∈ names := fun name hmem => by
    rw [hdef]
    exact List.mem_cons_of_mem _ (List.mem_append_left _ hmem)
  have hcomponents : ∀ name ∈ (PathText.parse raw_path).components, IsName name → name ∈ names :=
    fun name hmem hname => by
    rw [hdef]
    exact List.mem_cons_of_mem _ (List.mem_append_right _ (List.mem_filter.mpr ⟨hmem, decide_eq_true hname⟩))
  have hall : ∀ name ∈ names, IsName name := fun name hmem => by
    rw [hdef] at hmem
    rcases List.mem_cons.mp hmem with rfl | hmem
    · exact hz
    · rcases List.mem_append.mp hmem with hmem | hmem
      · exact hnames name hmem
      · exact of_decide_eq_true (List.mem_filter.mp hmem).2
  have hq_names : ∀ name ∈ q, name ∈ names := fun name hmem => (hnames_q name hmem).elim
    (fun h => hroot_names name (hstart.subset h)) fun h => hcomponents name h.1 h.2
  have hz_q : z ∉ q := fun hmem => hfresh ((hnames_q z hmem).elim
    (fun h => List.mem_append_left _ (hstart.subset h)) fun h => List.mem_append_right _ h.1)
  have hz_names : z ∈ names := by
    rw [hdef]
    exact List.mem_cons_self
  obtain ⟨bound, hbound⟩ : ∃ bound, bound =
      workspace_root.length + 2 * (PathText.parse raw_path).components.length + 1 := ⟨_, rfl⟩
  obtain ⟨path_max, hpath_max⟩ : ∃ path_max, path_max =
      raw_path.utf8ByteSize + path_size (normalize ((PathText.parse raw_path).start workspace_root)
        (PathText.parse raw_path).components) + 1 := ⟨_, rfl⟩
  have hshort := hstart.length_le
  have hq_bound : q.length ≤ bound := by omega
  refine ⟨escape_tree q names bound path_max ⟨true, List.replicate ((PathText.parse raw_path).components.length + 1) z⟩
    hne hq_bound hq_names hall, escape_tree_directory habove (by omega) hroot_names, fun library hconfined => ?_⟩
  have hallowed : ∀ location, location <+: normalize ((PathText.parse raw_path).start workspace_root)
      (PathText.parse raw_path).components → location ≠ q := by
    rintro location hlocation rfl
    exact hpath hlocation
  obtain ⟨location, hlocation, hhead⟩ := walk_escapes 39 hne hq_bound hq_names hall hz_q hz hz_names hascent
    (fun h => habove (h.trans hstart)) (by omega) (fun name hmem => hroot_names name (hstart.subset hmem))
      hcomponents rfl (Nat.le_succ _) (by omega)
  refine absurd (hconfined ((no_objection_iff_checks (escape_tree_directory habove (by omega) hroot_names)
    hsupplies).mpr
    ⟨htext, ?_⟩) location ((if_neg (by rw [escape_tree_path_max]; omega)).trans hlocation)).1 ?_
  · rw [ObjectsTo, Bool.not_eq_false]
    unfold lexical_path
    rw [check_parts_iff, List.prefix_iff_eq_append.mp hinside]
    refine ⟨fun location _ hbelow _ => (escape_tree_no_link (hallowed location hbelow)).1, fun _ links hentry => ?_,
      fun _ location part _ hbelow => LinkedTree.is_too_long_eq_false ?_ fun _ => ?_⟩
    · exact absurd hentry ((escape_tree_no_link (hallowed _ List.prefix_rfl)).2 links)
    · have hfits := path_size_mono hbelow
      rw [escape_tree_path_max]
      omega
    · refine List.le_sum_of_mem (List.mem_map_of_mem ?_)
      rcases mem_normalize (hbelow.subset (List.mem_append_right _ List.mem_cons_self)) with hmem | hmem
      · exact hroot_names part (hstart.subset hmem)
      · exact hcomponents part hmem.1 hmem.2
  · match workspace_root, hroot, hfresh with
    | first :: rest, _, hfresh =>
      rintro ⟨more, rfl⟩
      cases hhead
      exact hfresh (List.mem_append_left _ List.mem_cons_self)

/-- What the guard promises of a call with a path text below a workspace. -/
structure WorkspaceWrites (workspace_root : Path) (hook_input : HookInput) (raw_path : String) : Prop where
  /-- Below a workspace that is not the whole file system, the texts that are safe in every tree. -/
  confined_iff : workspace_root ≠ [] → (∀ name ∈ workspace_root, IsName name) →
    ((∀ (library : PathLibrary) (tree : LinkedTree), tree.entry workspace_root = some .directory →
        Confined library tree workspace_root hook_input raw_path) ↔
      RefusedText workspace_root raw_path ∨ AnchoredText workspace_root raw_path)
  confined : RefusedText workspace_root raw_path ∨ AnchoredText workspace_root raw_path →
    ∀ (library : PathLibrary) (tree : LinkedTree), tree.entry workspace_root = some .directory →
      Confined library tree workspace_root hook_input raw_path
  /-- In one tree the texts that the guard's own checks refuse, and those that are not led out over a link. -/
  confined_in_iff : ∀ (library : PathLibrary) (tree : LinkedTree), tree.entry workspace_root = some .directory →
    (Confined library tree workspace_root hook_input raw_path ↔
      RefusedText workspace_root raw_path ∨ ObjectsTo library tree workspace_root raw_path ∨
        ¬LedOut tree workspace_root raw_path)
  /-- A new file, or a file without a second link, in a directory of the workspace may be written, unless the path
      library raises for a path or a name that is too long. -/
  allowed_iff : ∀ (library : PathLibrary) (tree : LinkedTree) (init : List String) (last : String),
    raw_path ≠ "" → '\x00' ∉ raw_path.toList → has_double_root raw_path = false →
    lexical_path workspace_root raw_path = workspace_root ++ init ++ [last] →
    tree.entry (workspace_root ++ init) = some .directory →
    tree.entry (workspace_root ++ init ++ [last]) = none ∨
      tree.entry (workspace_root ++ init ++ [last]) = some (.file 1) →
    (require_workspace_write_path library tree workspace_root hook_input = .no_objection ↔
      (library.raises_too_long = true → tree.is_too_long (workspace_root ++ init) last = false))

/-- The guard looks at the collapsed path while the write follows the text: they part when a `..` goes up from a
    location that the guard has not looked at. -/
theorem workspace_writes (hsupplies : Supplies hook_input raw_path) :
    WorkspaceWrites workspace_root hook_input raw_path where
  confined_iff := by
    intro hroot hnames
    constructor
    · intro h
      by_contra hneither
      obtain ⟨htext, hanchored⟩ := not_or.mp hneither
      obtain ⟨tree, htree, hescape⟩ := exists_escape hroot hnames hsupplies htext hanchored
      exact hescape ⟨0, true⟩ (h ⟨0, true⟩ tree htree)
    · exact fun h library tree htree => confined_of_anchored htree hsupplies h
  confined h _ _ htree := confined_of_anchored htree hsupplies h
  confined_in_iff _ _ htree := confined_iff_not_led_out htree hsupplies
  allowed_iff := by
    intro library tree init last hempty hnul hdouble hpath hdirectory hlast
    have hroot := tree.directory_above hdirectory (List.prefix_append workspace_root init)
    refine no_objection_iff_of_plain hroot hsupplies (fun hrefused => ?_) hpath hdirectory hlast
    rcases hrefused with h | h | h | h
    · exact hempty h
    · exact hnul h
    · rw [hdouble] at h
      cases h
    · rw [hpath, List.append_assoc] at h
      exact h (List.prefix_append _ _)

/-- A workspace with a link to a directory outside. -/
def workspace_with_link : LinkedTree := .of_table
  [([], .directory), (["workspace"], .directory), (["workspace", "escape"], .link ⟨true, ["outside", "deep"]⟩),
    (["outside"], .directory), (["outside", "deep"], .directory)] rfl (by decide)

/-- The guard sees a new file in the workspace where the tool writes one outside. -/
theorem write_leaves_workspace :
    require_workspace_write_path ⟨40, true⟩ workspace_with_link ["workspace"]
      (write_call ("Write", "file_path") "escape/../x") = .no_objection ∧
      opened_location workspace_with_link ["workspace"] "escape/../x" = some ["outside", "x"] ∧
      ¬["workspace"] <+: ["outside", "x"] := by
  decide +kernel

theorem workspace_writes_note :
    Supplies (write_call ("NotebookEdit", "notebook_path") "notes/a.ipynb") "notes/a.ipynb" ∧
      WorkspaceWrites ["workspace"] (write_call ("NotebookEdit", "notebook_path") "notes/a.ipynb") "notes/a.ipynb" :=
  ⟨⟨rfl, "notebook_path", by decide, by decide⟩, workspace_writes ⟨rfl, "notebook_path", by decide, by decide⟩⟩

end Texts

end OhMySubagents.Claude
