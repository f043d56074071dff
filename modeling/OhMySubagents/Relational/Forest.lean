import Mathlib.Data.List.Nodup
import Mathlib.Logic.Relation

namespace Relational

universe u

namespace Forest

variable {α : Type u}

/-- `BelowOrEq parent x y`: climbing from `x` along parent pointers reaches `y`. -/
abbrev BelowOrEq (parent : α → Option α) : α → α → Prop :=
  Relation.ReflTransGen fun x y => parent x = some y

/-- `Below parent x y`: `y` is a proper ancestor of `x`. -/
abbrev Below (parent : α → Option α) : α → α → Prop :=
  Relation.TransGen fun x y => parent x = some y

/-- Depth-first order of the nodes reached from a root by at most `fuel` levels of children. -/
def preorder (children : α → List α) : Nat → α → List α
  | 0, _ => []
  | fuel + 1, x => x :: (children x).flatMap (preorder children fuel)

/-- Every branch below a root ends within `fuel` levels. -/
def Within (children : α → List α) : Nat → α → Prop
  | 0, _ => False
  | fuel + 1, x => ∀ c ∈ children x, Within children fuel c

/-- Climbing is deterministic, so two ancestors of one node are comparable. -/
theorem BelowOrEq.comparable {parent : α → Option α} {x a b : α}
    (ha : BelowOrEq parent x a) (hb : BelowOrEq parent x b) :
    BelowOrEq parent a b ∨ BelowOrEq parent b a := by
  refine Relation.ReflTransGen.total_of_right_unique ?_ ha hb
  intro x y z hy hz
  rw [hy] at hz
  exact Option.some.inj hz

theorem BelowOrEq.eq_or_below {parent : α → Option α} {x a : α} (h : BelowOrEq parent x a) :
    x = a ∨ Below parent x a := by
  rcases Relation.reflTransGen_iff_eq_or_transGen.mp h with h | h
  · exact .inl h.symm
  · exact .inr h

/-- A node below another one has a parent, and that parent is below or equal. -/
theorem Below.parent {parent : α → Option α} {x a : α} (h : Below parent x a) :
    ∃ p, parent x = some p ∧ BelowOrEq parent p a := by
  obtain ⟨p, hp, hle⟩ := Relation.TransGen.head'_iff.mp h
  exact ⟨p, hp, hle⟩

theorem mem_preorder_self (children : α → List α) (fuel : Nat) (x : α) :
    x ∈ preorder children (fuel + 1) x := List.mem_cons_self

theorem preorder_of_within {children : α → List α} {fuel : Nat} {x : α} (h : Within children fuel x) :
    ∃ tail, preorder children fuel x = x :: tail := by
  cases fuel with
  | zero => exact h.elim
  | succ fuel => exact ⟨_, rfl⟩

/-- Every node of a preorder walk lies below its root. -/
theorem belowOrEq_of_mem_preorder {children : α → List α} {parent : α → Option α}
    (hparent : ∀ x, ∀ c ∈ children x, parent c = some x) {fuel : Nat} {x y : α}
    (h : y ∈ preorder children fuel x) : BelowOrEq parent y x := by
  induction fuel generalizing x with
  | zero => simp [preorder] at h
  | succ fuel ih =>
    rw [preorder, List.mem_cons, List.mem_flatMap] at h
    rcases h with rfl | ⟨c, hc, hy⟩
    · exact .refl
    · exact (ih hy).tail (hparent x c hc)

/-- The children of a visited node are visited. -/
theorem children_mem_preorder {children : α → List α} {fuel : Nat} {x y c : α}
    (hwithin : Within children fuel x) (hy : y ∈ preorder children fuel x) (hc : c ∈ children y) :
    c ∈ preorder children fuel x := by
  induction fuel generalizing x with
  | zero => exact hwithin.elim
  | succ fuel ih =>
    rw [preorder, List.mem_cons, List.mem_flatMap] at hy ⊢
    rcases hy with rfl | ⟨b, hb, hy⟩
    · obtain ⟨tail, htail⟩ := preorder_of_within (hwithin c hc)
      exact .inr ⟨c, hc, by rw [htail]; exact List.mem_cons_self⟩
    · exact .inr ⟨b, hb, ih (hwithin b hb) hy⟩

/-- Of pairwise disjoint lists at most one contains a given element. -/
private theorem flatMap_ite_mem [DecidableEq α] {y : α} {v : List α} {f : α → List α} {l : List α}
    (hdisjoint : l.Pairwise (Function.onFun List.Disjoint f)) :
    (l.flatMap fun c => if y ∈ f c then v else []) = if y ∈ l.flatMap f then v else [] := by
  induction l with
  | nil => simp
  | cons c l ih =>
    rw [List.pairwise_cons] at hdisjoint
    obtain ⟨hhead, htail⟩ := hdisjoint
    rw [List.flatMap_cons, ih htail, List.flatMap_cons]
    by_cases hy : y ∈ f c
    · have hnot : y ∉ l.flatMap f := by
        rw [List.mem_flatMap]
        rintro ⟨b, hb, hyb⟩
        exact hhead b hb hy hyb
      simp [hy, hnot]
    · simp [hy]

/-- In a preorder walk that visits no node twice, the visited nodes with a given parent appear in
    exactly the order of that parent's children. -/
theorem filter_parent_preorder_tail [DecidableEq α] {children : α → List α} {parent : α → Option α}
    (hparent : ∀ x, ∀ c ∈ children x, parent c = some x) {fuel : Nat} {x : α}
    (hwithin : Within children fuel x) (hnodup : (preorder children fuel x).Nodup) (y : α) :
    ((preorder children fuel x).tail.filter fun c => parent c = some y) =
      if y ∈ preorder children fuel x then children y else [] := by
  induction fuel generalizing x with
  | zero => exact hwithin.elim
  | succ fuel ih =>
    rw [preorder, List.nodup_cons, List.nodup_flatMap] at hnodup
    obtain ⟨hx, hsub, hdisjoint⟩ := hnodup
    rw [preorder, List.tail_cons, List.filter_flatMap]
    have hchild : ∀ c ∈ children x, ((preorder children fuel c).filter fun c => parent c = some y) =
        (if x = y then [c] else []) ++ if y ∈ preorder children fuel c then children y else [] := by
      intro c hc
      have hrest := ih (hwithin c hc) (hsub c hc)
      obtain ⟨tail, htail⟩ := preorder_of_within (hwithin c hc)
      rw [← hrest, htail, List.tail_cons, List.filter_cons, hparent x c hc]
      by_cases hxy : x = y <;> simp [hxy]
    have hmap : ((children x).flatMap fun c => (preorder children fuel c).filter fun c => parent c = some y) =
        (children x).flatMap fun c =>
          (if x = y then [c] else []) ++ if y ∈ preorder children fuel c then children y else [] :=
      List.flatMap_congr hchild
    rw [hmap]
    by_cases hxy : x = y
    · subst hxy
      have hnone : ∀ c ∈ children x, x ∉ preorder children fuel c := fun c hc hmem =>
        hx (List.mem_flatMap.mpr ⟨c, hc, hmem⟩)
      have hsingle : ((children x).flatMap fun c =>
          (if x = x then [c] else []) ++ if x ∈ preorder children fuel c then children x else []) =
          (children x).flatMap fun c => [c] := by
        apply List.flatMap_congr
        intro c hc
        simp [hnone c hc]
      rw [hsingle]
      simp
    · simp only [hxy, if_false, List.nil_append]
      rw [flatMap_ite_mem hdisjoint]
      simp [Ne.symm hxy]

/-- A branch that ends within a number of levels ends within more. -/
theorem Within.succ {children : α → List α} {fuel : Nat} {x : α} (h : Within children fuel x) :
    Within children (fuel + 1) x := by
  induction fuel generalizing x with
  | zero => exact h.elim
  | succ fuel ih => exact fun c hc => ih (h c hc)

/-- Every visited node's own branch ends within the bound of the walk. -/
theorem Within.of_mem_preorder {children : α → List α} {fuel : Nat} {x y : α} (h : Within children fuel x)
    (hy : y ∈ preorder children fuel x) : Within children fuel y := by
  induction fuel generalizing x with
  | zero => exact h.elim
  | succ fuel ih =>
    rw [preorder, List.mem_cons, List.mem_flatMap] at hy
    rcases hy with rfl | ⟨c, hc, hy⟩
    · exact h
    · exact (ih (h c hc) hy).succ

/-- A visited node is the root of the walk or a child of a visited node. -/
theorem mem_preorder_origin {children : α → List α} {fuel : Nat} {x y : α} (hy : y ∈ preorder children fuel x) :
    y = x ∨ ∃ z ∈ preorder children fuel x, y ∈ children z := by
  induction fuel generalizing x with
  | zero => simp [preorder] at hy
  | succ fuel ih =>
    rw [preorder, List.mem_cons, List.mem_flatMap] at hy
    rcases hy with rfl | ⟨c, hc, hy⟩
    · exact .inl rfl
    · rcases ih hy with rfl | ⟨z, hz, hmem⟩
      · exact .inr ⟨x, mem_preorder_self children fuel x, hc⟩
      · refine .inr ⟨z, ?_, hmem⟩
        rw [preorder, List.mem_cons, List.mem_flatMap]
        exact .inr ⟨c, hc, hz⟩

/-- What lies below the root of a walk is visited, when every parent lists its children. -/
theorem mem_preorder_of_belowOrEq {children : α → List α} {parent : α → Option α}
    (hchildren : ∀ c x, parent c = some x → c ∈ children x) {fuel : Nat} {x y : α} (hwithin : Within children fuel x)
    (h : BelowOrEq parent y x) : y ∈ preorder children fuel x := by
  induction h using Relation.ReflTransGen.head_induction_on with
  | refl =>
    obtain ⟨tail, htail⟩ := preorder_of_within hwithin
    rw [htail]
    exact List.mem_cons_self
  | head hstep _ ih => exact children_mem_preorder hwithin ih (hchildren _ _ hstep)

/-- A bound that is large enough may be larger. -/
theorem preorder_succ {children : α → List α} {fuel : Nat} {x : α} (h : Within children fuel x) :
    preorder children (fuel + 1) x = preorder children fuel x := by
  induction fuel generalizing x with
  | zero => exact h.elim
  | succ fuel ih =>
    rw [preorder, preorder]
    congr 1
    exact List.flatMap_congr fun c hc => ih (h c hc)

/-- The walk of a visited node's branch is part of the walk. -/
theorem preorder_sublist {children : α → List α} {fuel : Nat} {x y : α} (h : Within children fuel x)
    (hy : y ∈ preorder children fuel x) : (preorder children fuel y).Sublist (preorder children fuel x) := by
  induction fuel generalizing x with
  | zero => exact h.elim
  | succ fuel ih =>
    rw [preorder, List.mem_cons, List.mem_flatMap] at hy
    rcases hy with rfl | ⟨c, hc, hy⟩
    · exact List.Sublist.refl _
    · have hwithin : Within children fuel y := (h c hc).of_mem_preorder hy
      have hbranch : (preorder children fuel c).Sublist ((children x).flatMap (preorder children fuel)) := by
        rw [List.flatMap_def]
        exact List.sublist_flatten_of_mem (List.mem_map_of_mem hc)
      rw [preorder_succ hwithin, preorder]
      exact ((ih (h c hc) hy).trans hbranch).trans (List.sublist_cons_self _ _)

/-- A walk depends only on the children of the nodes that it visits. -/
theorem preorder_congr {children children' : α → List α} {fuel : Nat} {x : α}
    (h : ∀ y ∈ preorder children fuel x, children' y = children y) :
    preorder children' fuel x = preorder children fuel x := by
  induction fuel generalizing x with
  | zero => rfl
  | succ fuel ih =>
    rw [preorder, preorder, h x (mem_preorder_self children fuel x)]
    congr 1
    refine List.flatMap_congr fun c hc => ih fun y hy => h y ?_
    rw [preorder, List.mem_cons, List.mem_flatMap]
    exact .inr ⟨c, hc, hy⟩

/-- A walk that visits no node twice visits no node before its parent. -/
theorem preorder_parents_first {children : α → List α} {parent : α → Option α}
    (hparent : ∀ x, ∀ c ∈ children x, parent c = some x) {fuel : Nat} {x : α}
    (hnodup : (preorder children fuel x).Nodup) (hroot : ∀ y ∈ preorder children fuel x, parent x ≠ some y) :
    (preorder children fuel x).Pairwise fun y z => parent y ≠ some z := by
  induction fuel generalizing x with
  | zero => exact .nil
  | succ fuel ih =>
    rw [preorder, List.nodup_cons, List.nodup_flatMap] at hnodup
    obtain ⟨hx, hsub, hdisjoint⟩ := hnodup
    have hinside : ∀ c ∈ children x, ∀ y ∈ preorder children fuel c, ∀ z, parent y = some z →
        z = x ∨ z ∈ preorder children fuel c := by
      intro c hc y hy z hz
      rcases mem_preorder_origin hy with rfl | ⟨z', hz', hmem⟩
      · exact .inl (Option.some.inj (hz.symm.trans (hparent x y hc)))
      · obtain rfl := Option.some.inj (hz.symm.trans (hparent z' y hmem))
        exact .inr hz'
    have hnot : ∀ c ∈ children x, x ∉ preorder children fuel c := fun c hc hmem =>
      hx (List.mem_flatMap.mpr ⟨c, hc, hmem⟩)
    rw [preorder, List.pairwise_cons, List.pairwise_flatMap]
    refine ⟨fun y hy => hroot y (List.mem_cons_of_mem _ hy), fun c hc => ih (hsub c hc) fun y hy hcy => ?_, ?_⟩
    · obtain rfl := Option.some.inj (hcy.symm.trans (hparent x c hc))
      exact hnot c hc hy
    · -- a parent outside the root stands in the same branch as its child
      refine hdisjoint.imp_of_mem fun {c c'} hc hc' hapart y hy z hz hlink => ?_
      rcases hinside c hc y hy z hlink with rfl | hz'
      · exact hnot c' hc' hz
      · exact hapart hz' hz

/-- No visited node lists a child twice when no node is visited twice. -/
theorem children_nodup_of_preorder [DecidableEq α] {children : α → List α} {parent : α → Option α}
    (hparent : ∀ x, ∀ c ∈ children x, parent c = some x) {fuel : Nat} {x y : α} (hwithin : Within children fuel x)
    (hnodup : (preorder children fuel x).Nodup) (hy : y ∈ preorder children fuel x) : (children y).Nodup := by
  have hfilter := filter_parent_preorder_tail hparent hwithin hnodup y
  rw [if_pos hy] at hfilter
  rw [← hfilter]
  exact (hnodup.sublist (List.tail_sublist _)).filter _

/-- Nothing lies below itself when everything climbs to a node without a parent. -/
theorem not_below_self {parent : α → Option α} {root x : α} (hroot : parent root = none)
    (h : BelowOrEq parent x root) : ¬ Below parent x x := by
  induction h using Relation.ReflTransGen.head_induction_on with
  | refl =>
    intro hbelow
    obtain ⟨p, hp, -⟩ := hbelow.parent
    rw [hroot] at hp
    cases hp
  | head hstep _ ih =>
    intro hbelow
    obtain ⟨p, hp, hle⟩ := hbelow.parent
    obtain rfl := Option.some.inj (hstep.symm.trans hp)
    exact ih (.tail' hle hstep)

/-- Going down among finitely many nodes that climb to one root comes to an end. -/
theorem descent_ends {parent : α → Option α} {root : α} (hroot : parent root = none) {nodes : List α}
    (hnodes : ∀ x ∈ nodes, BelowOrEq parent x root) (x : α) : Acc (fun c x => c ∈ nodes ∧ parent c = some x) x := by
  classical
  -- the nodes below a node become fewer
  induction hn : (nodes.filter fun y => decide (Below parent y x)).length using Nat.strongRecOn generalizing x with
  | _ n ih =>
    subst hn
    refine ⟨x, fun c ⟨hc, hparent⟩ => ih _ ?_ c rfl⟩
    have hbelow : ∀ y, decide (Below parent y c) = true → decide (Below parent y x) = true := fun y hy =>
      decide_eq_true ((of_decide_eq_true hy).tail hparent)
    have hsub : (nodes.filter fun y => decide (Below parent y c)).Sublist
      (nodes.filter fun y => decide (Below parent y x)) :=
      List.monotone_filter_right nodes hbelow
    refine Nat.lt_of_le_of_ne hsub.length_le fun hlength => ?_
    have hmem : c ∈ nodes.filter fun y => decide (Below parent y x) :=
      List.mem_filter.mpr ⟨hc, decide_eq_true (.single hparent)⟩
    rw [← hsub.eq_of_length hlength] at hmem
    exact not_below_self hroot (hnodes c hc) (of_decide_eq_true (List.mem_filter.mp hmem).2)

end Forest

end Relational
