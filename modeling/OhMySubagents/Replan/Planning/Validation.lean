import OhMySubagents.Replan.Planning.Branches
import OhMySubagents.Relational.Forest
import OhMySubagents.Replan.Planning.Mutation

open Relational

namespace OhMySubagents

/-- A candidate that is one complete tree below its root: the walk from the root ends within the depth
    bound, meets every Member exactly once and finds every parent link confirmed. -/
structure CompleteTree (members : PlannedMembers) (root : MemberId) : Prop where
  root_parent : ∃ r, members.get? root = some r ∧ r.parent_member_id = none
  within : Forest.Within members.children MAX_MEMBER_DEPTH root
  nodup : (preorder_ids members root).Nodup
  mem_iff : ∀ m, m ∈ preorder_ids members root ↔ (members.get? m).isSome
  links : ∀ x, ∀ c ∈ members.children x, members.parent c = some x

/-- What a completed visit says about the subtree it walked. -/
private structure Visited (members : PlannedMembers) (fuel : Nat) (x : MemberId)
    (seen seen' : List MemberId) : Prop where
  result : seen' = (Forest.preorder members.children fuel x).reverse ++ seen
  within : Forest.Within members.children fuel x
  nodup : (Forest.preorder members.children fuel x).Nodup
  fresh : ∀ y ∈ Forest.preorder members.children fuel x, y ∉ seen
  known : ∀ y ∈ Forest.preorder members.children fuel x, (members.get? y).isSome
  links : ∀ y ∈ Forest.preorder members.children fuel x, ∀ c ∈ members.children y,
    members.parent c = some y

/-- Visiting a list of siblings after `seen` appends their walks in order. -/
private theorem visit_children_spec {members : PlannedMembers} {fuel : Nat} {parent_id : MemberId}
    (hvisit : ∀ {x seen seen'}, validate_visit members fuel x seen = .ok seen' →
      Visited members fuel x seen seen')
    (children : List MemberId) {seen seen' : List MemberId}
    (h : children.foldlM
      (fun seen child_id => do
        let child ← require_some (members.get? child_id)
          (invalid_target "replan candidate contains an invalid parent link")
        require (child.parent_member_id == some parent_id)
          (invalid_target "replan candidate contains an invalid parent link")
        validate_visit members fuel child_id seen)
      seen = .ok seen') :
    seen' = (children.flatMap (Forest.preorder members.children fuel)).reverse ++ seen ∧
      (∀ c ∈ children, Forest.Within members.children fuel c ∧ members.parent c = some parent_id) ∧
      (children.flatMap (Forest.preorder members.children fuel)).Nodup ∧
      (∀ y ∈ children.flatMap (Forest.preorder members.children fuel), y ∉ seen) ∧
      (∀ y ∈ children.flatMap (Forest.preorder members.children fuel), (members.get? y).isSome) ∧
      ∀ y ∈ children.flatMap (Forest.preorder members.children fuel), ∀ c ∈ members.children y,
        members.parent c = some y := by
  induction children generalizing seen with
  | nil =>
    rw [List.foldlM_nil] at h
    cases h
    simp
  | cons child children ih =>
    rw [List.foldlM_cons, bind_eq_ok_iff] at h
    obtain ⟨middle, hchild, h⟩ := h
    rw [bind_eq_ok_iff] at hchild
    obtain ⟨row, hrow, hchild⟩ := hchild
    rw [require_some_eq_ok_iff] at hrow
    rw [bind_eq_ok_iff] at hchild
    obtain ⟨_, hparent, hchild⟩ := hchild
    rw [require_eq_ok_iff, beq_iff_eq] at hparent
    obtain ⟨hresult, hwithin, hnodup, hfresh, hknown, hlinks⟩ := hvisit hchild
    obtain ⟨hresult', hsub', hnodup', hfresh', hknown', hlinks'⟩ := ih h
    have hlink : members.parent child = some parent_id :=
      PlannedMembers.parent_eq_some_iff.mpr ⟨row, hrow, hparent⟩
    refine ⟨?_, ?_, ?_, ?_, ?_, ?_⟩
    · rw [hresult', hresult, List.flatMap_cons, List.reverse_append, List.append_assoc]
    · intro c hc
      rcases List.mem_cons.mp hc with rfl | hc
      · exact ⟨hwithin, hlink⟩
      · exact hsub' c hc
    · rw [List.flatMap_cons, List.nodup_append']
      refine ⟨hnodup, hnodup', fun y hy hy' => hfresh' y hy' ?_⟩
      rw [hresult]
      exact List.mem_append_left _ (List.mem_reverse.mpr hy)
    · intro y hy
      rw [List.flatMap_cons, List.mem_append] at hy
      rcases hy with hy | hy
      · exact hfresh y hy
      · exact fun hseen => hfresh' y hy (by rw [hresult]; exact List.mem_append_right _ hseen)
    · intro y hy
      rw [List.flatMap_cons, List.mem_append] at hy
      exact hy.elim (hknown y) (hknown' y)
    · intro y hy
      rw [List.flatMap_cons, List.mem_append] at hy
      exact hy.elim (hlinks y) (hlinks' y)

private theorem validate_visit_spec {members : PlannedMembers} {fuel : Nat} {x : MemberId}
    {seen seen' : List MemberId} (h : validate_visit members fuel x seen = .ok seen') :
    Visited members fuel x seen seen' := by
  induction fuel generalizing x seen seen' with
  | zero => cases h
  | succ fuel ih =>
    rw [validate_visit, bind_eq_ok_iff] at h
    obtain ⟨_, hseen, h⟩ := h
    rw [require_eq_ok_iff] at hseen
    rw [bind_eq_ok_iff] at h
    obtain ⟨row, hrow, h⟩ := h
    rw [require_some_eq_ok_iff] at hrow
    rw [bind_eq_ok_iff] at h
    obtain ⟨_, -, h⟩ := h
    obtain ⟨hresult, hsub, hnodup, hfresh, hknown, hlinks⟩ := visit_children_spec ih row.children h
    have hchildren : members.children x = row.children := by
      rw [PlannedMembers.children, hrow, Option.elim_some]
    have hx : x ∉ seen := by simpa using hseen
    have hpre : Forest.preorder members.children (fuel + 1) x =
        x :: row.children.flatMap (Forest.preorder members.children fuel) := by
      rw [Forest.preorder, hchildren]
    refine ⟨?_, ?_, ?_, ?_, ?_, ?_⟩
    · rw [hresult, hpre, List.reverse_cons, List.append_assoc, List.singleton_append]
    · intro c hc
      rw [hchildren] at hc
      exact (hsub c hc).1
    · rw [hpre, List.nodup_cons]
      exact ⟨fun hmem => hfresh x hmem List.mem_cons_self, hnodup⟩
    · intro y hy
      rw [hpre, List.mem_cons] at hy
      rcases hy with rfl | hy
      · exact hx
      · exact fun hseen => hfresh y hy (List.mem_cons_of_mem _ hseen)
    · intro y hy
      rw [hpre, List.mem_cons] at hy
      rcases hy with rfl | hy
      · rw [hrow]; rfl
      · exact hknown y hy
    · intro y hy c hc
      rw [hpre, List.mem_cons] at hy
      rcases hy with rfl | hy
      · rw [hchildren] at hc
        exact (hsub c hc).2
      · exact hlinks y hy c hc

/-- A validated candidate is one complete tree. -/
theorem validate_complete_tree_spec {members : PlannedMembers} {root : MemberId} {u : Unit}
    (h : validate_complete_tree members root = .ok u) : CompleteTree members root := by
  unfold validate_complete_tree at h
  rw [bind_eq_ok_iff] at h
  obtain ⟨row, hrow, h⟩ := h
  rw [require_some_eq_ok_iff] at hrow
  rw [bind_eq_ok_iff] at h
  obtain ⟨_, hroot, h⟩ := h
  rw [require_eq_ok_iff, Option.isNone_iff_eq_none] at hroot
  rw [bind_eq_ok_iff] at h
  obtain ⟨seen, hseen, h⟩ := h
  rw [bind_eq_ok_iff] at h
  obtain ⟨_, hlength, -⟩ := h
  rw [require_eq_ok_iff, beq_iff_eq] at hlength
  obtain ⟨hresult, hwithin, hnodup, -, hknown, hlinks⟩ := validate_visit_spec hseen
  rw [List.append_nil] at hresult
  have hcard : (preorder_ids members root).length = members.keys.length := by
    rw [hresult, List.length_reverse] at hlength
    rw [preorder_ids, hlength]
    simp [AList.keys, List.keys]
  have hkeys : ∀ y ∈ preorder_ids members root, y ∈ members.keys := by
    intro y hy
    have hsome := hknown y hy
    rwa [Table.get?, AList.lookup_isSome, AList.mem_keys] at hsome
  -- distinct visited keys, as many as there are keys: every key is visited
  have hperm : (preorder_ids members root).Perm members.keys :=
    (List.subperm_of_subset hnodup hkeys).perm_of_length_le (Nat.le_of_eq hcard.symm)
  have hmem : ∀ m, m ∈ preorder_ids members root ↔ (members.get? m).isSome := by
    intro m
    rw [hperm.mem_iff, Table.get?, AList.lookup_isSome, AList.mem_keys]
  refine ⟨⟨row, hrow, hroot⟩, hwithin, hnodup, hmem, ?_⟩
  intro x c hc
  obtain ⟨r, hr, hcr⟩ := PlannedMembers.mem_children_iff.mp hc
  exact hlinks x ((hmem x).mpr (by rw [hr]; rfl)) c hc

/-- No Member is its own ancestor. -/
def Acyclic (members : PlannedMembers) : Prop := ∀ m, ¬ Forest.Below members.parent m m

/-- Of two siblings at most one has a given Member in its branch. -/
theorem Acyclic.siblings {base : PlannedMembers} (h : Acyclic base) {m id id' x : MemberId}
    (hparent : base.parent id = some m) (hparent' : base.parent id' = some m)
    (hx : Forest.BelowOrEq base.parent x id) (hx' : Forest.BelowOrEq base.parent x id') : id = id' := by
  have hnot : ∀ first second : MemberId, base.parent first = some m → base.parent second = some m →
      ¬ Forest.Below base.parent first second := by
    intro first second hfirst hsecond hbelow
    obtain ⟨p, hp, hle⟩ := hbelow.parent
    obtain rfl := Option.some.inj (hfirst.symm.trans hp)
    exact h m (.tail' hle hsecond)
  rcases hx.comparable hx' with hle | hle
  · rcases hle.eq_or_below with heq | hbelow
    · exact heq
    · exact absurd hbelow (hnot id id' hparent hparent')
  · rcases hle.eq_or_below with heq | hbelow
    · exact heq.symm
    · exact absurd hbelow (hnot id' id hparent' hparent)

section CompleteTree

variable {members : PlannedMembers} {root : MemberId}

theorem CompleteTree.parent_root (h : CompleteTree members root) : members.parent root = none := by
  obtain ⟨r, hr, hparent⟩ := h.root_parent
  rw [PlannedMembers.parent, hr, Option.bind_some, hparent]

theorem CompleteTree.rooted (h : CompleteTree members root) {m : MemberId} (hm : (members.get? m).isSome) :
    Forest.BelowOrEq members.parent m root :=
  Forest.belowOrEq_of_mem_preorder h.links ((h.mem_iff m).mpr hm)

theorem CompleteTree.acyclic (h : CompleteTree members root) : Acyclic members := by
  intro m hbelow
  obtain ⟨p, hp, -⟩ := hbelow.parent
  obtain ⟨r, hr, -⟩ := PlannedMembers.parent_eq_some_iff.mp hp
  exact Forest.not_below_self h.parent_root (h.rooted (by simp [hr])) hbelow

/-- Being a complete tree depends only on which Members are selected, on their parents and on their children. -/
theorem CompleteTree.congr {members' : PlannedMembers} (h : CompleteTree members root)
    (hsome : ∀ m, (members'.get? m).isSome = (members.get? m).isSome) (hparent : members'.parent = members.parent)
    (hchildren : members'.children = members.children) : CompleteTree members' root := by
  have hwalk : preorder_ids members' root = preorder_ids members root := by
    rw [preorder_ids, preorder_ids, hchildren]
  refine ⟨?_, ?_, ?_, fun m => ?_, ?_⟩
  · obtain ⟨r, hr, -⟩ := h.root_parent
    obtain ⟨r', hr'⟩ := Option.isSome_iff_exists.mp ((hsome root).trans (by rw [hr]; rfl))
    have hnone := h.parent_root
    rw [← hparent, PlannedMembers.parent, hr', Option.bind_some] at hnone
    exact ⟨r', hr', hnone⟩
  · rw [hchildren]
    exact h.within
  · rw [hwalk]
    exact h.nodup
  · rw [hwalk, hsome]
    exact h.mem_iff m
  · rw [hchildren, hparent]
    exact h.links

/-- The parent of a Member lists it. -/
theorem CompleteTree.listed (h : CompleteTree members root) (c p : MemberId) (hp : members.parent c = some p) :
    c ∈ members.children p := by
  obtain ⟨r, hr, -⟩ := PlannedMembers.parent_eq_some_iff.mp hp
  rcases Forest.mem_preorder_origin ((h.mem_iff c).mpr (by simp [hr])) with rfl | ⟨z, -, hz⟩
  · rw [h.parent_root] at hp
    cases hp
  · rwa [Option.some.inj (hp.symm.trans (h.links z c hz))]

theorem CompleteTree.closed (h : CompleteTree members root) : ParentClosed members := by
  intro c p hp
  obtain ⟨r, hr, -⟩ := PlannedMembers.mem_children_iff.mp (h.listed c p hp)
  simp [hr]

theorem CompleteTree.children_nodup (h : CompleteTree members root) (m : MemberId) : (members.children m).Nodup := by
  cases hm : members.get? m with
  | none => simp [PlannedMembers.children, hm]
  | some r =>
    exact Forest.children_nodup_of_preorder h.links h.within h.nodup ((h.mem_iff m).mpr (by simp [hm]))

/-- The walk from a Member meets exactly its branch. -/
theorem CompleteTree.mem_branch (h : CompleteTree members root) {m x : MemberId} (hm : (members.get? m).isSome) :
    x ∈ preorder_ids members m ↔ Forest.BelowOrEq members.parent x m :=
  ⟨Forest.belowOrEq_of_mem_preorder h.links,
    Forest.mem_preorder_of_belowOrEq h.listed (h.within.of_mem_preorder ((h.mem_iff m).mpr hm))⟩

theorem CompleteTree.branch_nodup (h : CompleteTree members root) {m : MemberId} (hm : (members.get? m).isSome) :
    (preorder_ids members m).Nodup :=
  h.nodup.sublist (Forest.preorder_sublist h.within ((h.mem_iff m).mpr hm))

/-- The walk from the root meets no Member before its parent. -/
theorem CompleteTree.parents_first (h : CompleteTree members root) :
    (preorder_ids members root).Pairwise fun m p => members.parent m ≠ some p :=
  Forest.preorder_parents_first h.links h.nodup fun y _ hy => by
    rw [h.parent_root] at hy
    cases hy

end CompleteTree

/-- A valid Team: a rooted tree within the limits on depth, on children of one Member and on size. -/
structure ValidTeam (members : PlannedMembers) (root : MemberId) : Prop extends CompleteTree members root where
  degree : ∀ m, (members.children m).length ≤ 32
  size : (preorder_ids members root).length ≤ MAX_MEMBERS

theorem ValidTeam.congr {members members' : PlannedMembers} {root : MemberId} (h : ValidTeam members root)
    (hsome : ∀ m, (members'.get? m).isSome = (members.get? m).isSome) (hparent : members'.parent = members.parent)
    (hchildren : members'.children = members.children) : ValidTeam members' root where
  toCompleteTree := h.toCompleteTree.congr hsome hparent hchildren
  degree := by
    rw [hchildren]
    exact h.degree
  size := by
    rw [preorder_ids, hchildren]
    exact h.size

/-- A completed visit met no Member with too many children. -/
private theorem validate_visit_degree {members : PlannedMembers} {fuel : Nat} {x : MemberId}
    {seen seen' : List MemberId} (h : validate_visit members fuel x seen = .ok seen') :
    ∀ y ∈ Forest.preorder members.children fuel x, (members.children y).length ≤ 32 := by
  induction fuel generalizing x seen seen' with
  | zero => cases h
  | succ fuel ih =>
    rw [validate_visit, bind_eq_ok_iff] at h
    obtain ⟨_, -, h⟩ := h
    rw [bind_eq_ok_iff] at h
    obtain ⟨row, hrow, h⟩ := h
    rw [require_some_eq_ok_iff] at hrow
    rw [bind_eq_ok_iff] at h
    obtain ⟨_, hlength, h⟩ := h
    rw [require_eq_ok_iff, decide_eq_true_eq] at hlength
    have hchildren : members.children x = row.children := by
      rw [PlannedMembers.children, hrow, Option.elim_some]
    intro y hy
    rw [Forest.preorder, hchildren, List.mem_cons, List.mem_flatMap] at hy
    rcases hy with rfl | ⟨c, hc, hy⟩
    · rwa [hchildren]
    · clear hlength hrow hchildren
      generalize row.children = children at h hc
      generalize x :: seen = start at h
      induction children generalizing start with
      | nil => cases hc
      | cons child children ihc =>
        rw [List.foldlM_cons, bind_eq_ok_iff] at h
        obtain ⟨middle, hchild, h⟩ := h
        simp only [bind_eq_ok_iff] at hchild
        obtain ⟨_, -, _, -, hvisit⟩ := hchild
        rcases List.mem_cons.mp hc with rfl | hc
        · exact ih hvisit y hy
        · exact ihc hc middle h

/-- A validated candidate is a valid Team. -/
theorem validate_complete_tree_valid {members : PlannedMembers} {root : MemberId} {u : Unit}
    (h : validate_complete_tree members root = .ok u) : ValidTeam members root := by
  have htree := validate_complete_tree_spec h
  unfold validate_complete_tree at h
  simp only [bind_eq_ok_iff, require_eq_ok_iff, beq_iff_eq, decide_eq_true_eq] at h
  obtain ⟨_, -, _, -, seen, hseen, _, hlength, hsize⟩ := h
  refine ⟨htree, fun m => ?_, ?_⟩
  · cases hm : members.get? m with
    | none => simp [PlannedMembers.children, hm]
    | some r => exact validate_visit_degree hseen m ((htree.mem_iff m).mpr (by simp [hm]))
  · have hkeys : ∀ y ∈ preorder_ids members root, y ∈ members.keys := by
      intro y hy
      have hsome := (htree.mem_iff y).mp hy
      rwa [Table.get?, AList.lookup_isSome, AList.mem_keys] at hsome
    have hle := (List.subperm_of_subset htree.nodup hkeys).length_le
    have hcard : members.keys.length = members.entries.length := by
      simp [AList.keys, List.keys]
    omega

end OhMySubagents
