import OhMySubagents.Workflows.Canonical

open JsonData

namespace OhMySubagents.Workflows

namespace NormalizedMember

section MapFields

variable {f : MemberFields → MemberFields}

private theorem map_fields_eq_self_all :
    (∀ member : NormalizedMember, member.map_fields f = member ↔ ∀ fields ∈ member.all_fields, f fields = fields) ∧
      ∀ children, map_fields_all f children = children ↔ ∀ fields ∈ all_fields_of children, f fields = fields := by
  refine forest_induction (fun fields => ?_) (fun fields children ih => ?_) ?_ fun child children hchild hchildren => ?_
  · rw [map_fields, all_fields, List.forall_mem_singleton, mk.injEq, and_iff_left rfl]
  · rw [map_fields, all_fields, List.forall_mem_cons, mk.injEq, Option.some.injEq, ih]
  · rw [map_fields_all, all_fields_of]
    exact ⟨fun _ => List.forall_mem_nil _, fun _ => rfl⟩
  · rw [map_fields_all, all_fields_of, List.cons.injEq, List.forall_mem_append, hchild, hchildren]

theorem map_fields_eq_self_iff {member : NormalizedMember} :
    member.map_fields f = member ↔ ∀ fields ∈ member.all_fields, f fields = fields :=
  map_fields_eq_self_all.1 member

private theorem depth_map_fields_all :
    (∀ member : NormalizedMember, (member.map_fields f).member_depth = member.member_depth) ∧
      ∀ children, depth_of_children (map_fields_all f children) = depth_of_children children := by
  refine forest_induction (fun fields => ?_) (fun fields children ih => ?_) ?_ fun child children hchild hchildren => ?_
  · rw [map_fields, member_depth, member_depth]
  · rw [map_fields, member_depth, member_depth, ih]
  · rw [map_fields_all]
  · rw [map_fields_all, depth_of_children, depth_of_children, hchild, hchildren]

theorem member_depth_map_fields (member : NormalizedMember) :
    (member.map_fields f).member_depth = member.member_depth :=
  depth_map_fields_all.1 member

variable {member_id : String}

private theorem replace_map_fields_all (hid : ∀ fields, (f fields).id = fields.id) {new : NormalizedMember} :
    (∀ member : NormalizedMember, (replace_member member_id new member).map_fields f =
        replace_member member_id (new.map_fields f) (member.map_fields f)) ∧
      ∀ children, map_fields_all f (replace_child member_id new children) =
        replace_child member_id (new.map_fields f) (map_fields_all f children) := by
  refine forest_induction (fun fields => ?_) (fun fields children ih => ?_) ?_ fun child children hchild hchildren => ?_
  · rw [map_fields, replace_member, replace_member, hid]
    split
    · rfl
    · rw [map_fields]
  · rw [map_fields, replace_member, replace_member, hid]
    split
    · rfl
    · rw [map_fields, ih]
  · rw [replace_child, map_fields_all, replace_child]
  · rw [replace_child, map_fields_all, replace_child, (find_member_map_fields hid).1, Option.isSome_map]
    split
    · rw [map_fields_all, hchild]
    · rw [map_fields_all, hchildren]

theorem replace_member_map_fields (hid : ∀ fields, (f fields).id = fields.id) (new member : NormalizedMember) :
    (replace_member member_id new member).map_fields f =
      replace_member member_id (new.map_fields f) (member.map_fields f) :=
  (replace_map_fields_all hid).1 member

end MapFields

section Replacement

variable {member_id : String}

private theorem replace_found_all :
    (∀ member found, find_member member_id member = some found → replace_member member_id found member = member) ∧
      ∀ children found, find_child member_id children = some found →
        replace_child member_id found children = children := by
  refine forest_induction (fun fields found h => ?_) (fun fields children ih found h => ?_) (fun found h => ?_)
    fun child children hchild hchildren found h => ?_
  · rw [find_member] at h
    rw [replace_member]
    split
    · next hid =>
      rw [if_pos hid] at h
      exact (Option.some.inj h).symm
    · rfl
  · rw [find_member] at h
    rw [replace_member]
    split
    · next hid =>
      rw [if_pos hid] at h
      exact (Option.some.inj h).symm
    · next hid =>
      rw [if_neg hid] at h
      rw [ih found h]
  · rw [find_child] at h
    cases h
  · rw [find_child] at h
    rw [replace_child]
    rcases Option.or_eq_some_iff.mp h with h | ⟨hnone, h⟩
    · rw [if_pos (Option.isSome_of_mem h), hchild found h]
    · rw [if_neg (by rw [hnone]; exact Bool.false_ne_true), hchildren found h]

/-- The Member that is found is the one that is replaced. -/
theorem replace_found {member found : NormalizedMember} (h : find_member member_id member = some found) :
    replace_member member_id found member = member :=
  replace_found_all.1 member found h

private theorem find_replaced_all {new : NormalizedMember} (hnew : new.fields.id.val = member_id) :
    (∀ member found, find_member member_id member = some found →
        find_member member_id (replace_member member_id new member) = some new) ∧
      ∀ children found, find_child member_id children = some found →
        find_child member_id (replace_child member_id new children) = some new := by
  have hroot : find_member member_id new = some new := by
    match new with
    | mk fields none => exact if_pos hnew
    | mk fields (some children) => exact if_pos hnew
  refine forest_induction (fun fields found h => ?_) (fun fields children ih found h => ?_) (fun found h => ?_)
    fun child children hchild hchildren found h => ?_
  · rw [find_member] at h
    rw [replace_member]
    split
    · exact hroot
    · next hid =>
      rw [if_neg hid] at h
      cases h
  · rw [find_member] at h
    rw [replace_member]
    split
    · exact hroot
    · next hid =>
      rw [if_neg hid] at h
      rw [find_member, if_neg hid, ih found h]
  · rw [find_child] at h
    cases h
  · rw [find_child] at h
    rw [replace_child]
    rcases Option.or_eq_some_iff.mp h with h | ⟨hnone, h⟩
    · rw [if_pos (Option.isSome_of_mem h), find_child, hchild found h, Option.some_or]
    · rw [if_neg (by rw [hnone]; exact Bool.false_ne_true), find_child, hnone, Option.none_or, hchildren found h]

/-- What was put in a Member's place is found there. -/
theorem find_replaced {member found new : NormalizedMember} (hnew : new.fields.id.val = member_id)
    (h : find_member member_id member = some found) :
    find_member member_id (replace_member member_id new member) = some new :=
  (find_replaced_all hnew).1 member found h

theorem replace_member_id {member found new : NormalizedMember} (hnew : new.fields.id = found.fields.id)
    (h : find_member member_id member = some found) :
    (replace_member member_id new member).fields.id = member.fields.id := by
  match member with
  | mk fields none =>
    rw [find_member] at h
    rw [replace_member]
    split
    · next hid =>
      rw [if_pos hid] at h
      obtain rfl := Option.some.inj h
      exact hnew
    · rfl
  | mk fields (some children) =>
    rw [find_member] at h
    rw [replace_member]
    split
    · next hid =>
      rw [if_pos hid] at h
      obtain rfl := Option.some.inj h
      exact hnew
    · rfl

end Replacement

section Removal

variable {member_id parent_id : String}

private theorem remove_none_all :
    (∀ member : NormalizedMember, (∀ fields ∈ member.all_fields, fields.id.val ≠ member_id) →
        remove_member member_id member = none) ∧
      ∀ children, (∀ fields ∈ all_fields_of children, fields.id.val ≠ member_id) →
        remove_child member_id children = none := by
  refine forest_induction (fun fields h => ?_) (fun fields children ih h => ?_) (fun h => ?_)
    fun child children hchild hchildren h => ?_
  · rw [remove_member]
  · rw [all_fields, List.forall_mem_cons] at h
    rw [remove_member, ih h.2, Option.map_none]
  · rw [remove_child]
  · rw [all_fields_of, List.forall_mem_append] at h
    have hroot : child.fields.id.val ≠ member_id := by
      refine h.1 child.fields ?_
      rw [all_fields_eq]
      exact List.mem_cons_self
    rw [remove_child, if_neg hroot, hchild h.1]
    dsimp only
    rw [hchildren h.2, Option.map_none]

/-- A new last child is the one that is removed. -/
private theorem remove_last {children : List NormalizedMember} {new : NormalizedMember}
    (h : ∀ fields ∈ all_fields_of children, fields.id.val ≠ new.fields.id.val) :
    remove_child new.fields.id.val (children ++ [new]) = some children := by
  induction children with
  | nil => rw [List.nil_append, remove_child, if_pos rfl]
  | cons child children ih =>
    rw [all_fields_of, List.forall_mem_append] at h
    have hroot : child.fields.id.val ≠ new.fields.id.val := by
      refine h.1 child.fields ?_
      rw [all_fields_eq]
      exact List.mem_cons_self
    rw [List.cons_append, remove_child, if_neg hroot, remove_none_all.1 child h.1]
    dsimp only
    rw [ih h.2, Option.map_some]

/-- A Member with its children written as a list, and with a new child behind them. -/
def with_children (member : NormalizedMember) (added : List NormalizedMember) : NormalizedMember :=
  mk member.fields (some (member.children.getD [] ++ added))

private theorem remove_added_all {new : NormalizedMember} :
    (∀ member found, find_member parent_id member = some found →
        (∀ fields ∈ member.all_fields, fields.id.val ≠ new.fields.id.val) →
        remove_member new.fields.id.val (replace_member parent_id (found.with_children [new]) member) =
          some (replace_member parent_id (found.with_children []) member)) ∧
      ∀ children found, find_child parent_id children = some found →
        (∀ fields ∈ all_fields_of children, fields.id.val ≠ new.fields.id.val) →
        remove_child new.fields.id.val (replace_child parent_id (found.with_children [new]) children) =
          some (replace_child parent_id (found.with_children []) children) := by
  have hroot : ∀ found : NormalizedMember, (∀ fields ∈ found.all_fields, fields.id.val ≠ new.fields.id.val) →
      remove_member new.fields.id.val (found.with_children [new]) = some (found.with_children []) := by
    intro found h
    rw [all_fields_eq, List.forall_mem_cons] at h
    rw [with_children, with_children, remove_member, remove_last h.2, List.append_nil, Option.map_some]
  refine forest_induction (fun fields found h hfresh => ?_) (fun fields children ih found h hfresh => ?_)
    (fun found h _ => ?_) fun child children hchild hchildren found h hfresh => ?_
  · rw [find_member] at h
    split at h
    · next hid =>
      obtain rfl := Option.some.inj h
      rw [replace_member, replace_member, if_pos hid, if_pos hid]
      exact hroot _ hfresh
    · cases h
  · rw [find_member] at h
    split at h
    · next hid =>
      obtain rfl := Option.some.inj h
      rw [replace_member, replace_member, if_pos hid, if_pos hid]
      exact hroot _ hfresh
    · next hid =>
      rw [all_fields, List.forall_mem_cons] at hfresh
      rw [replace_member, replace_member, if_neg hid, if_neg hid, remove_member, ih found h hfresh.2, Option.map_some]
  · rw [find_child] at h
    cases h
  · rw [all_fields_of, List.forall_mem_append] at hfresh
    have hchild_id : child.fields.id.val ≠ new.fields.id.val := by
      refine hfresh.1 child.fields ?_
      rw [all_fields_eq]
      exact List.mem_cons_self
    rw [find_child] at h
    rw [replace_child, replace_child]
    rcases Option.or_eq_some_iff.mp h with h | ⟨hnone, h⟩
    · have hsame : (found.with_children [new]).fields.id = found.fields.id := rfl
      rw [if_pos (Option.isSome_of_mem h), if_pos (Option.isSome_of_mem h), remove_child,
        if_neg (by rw [replace_member_id hsame h]; exact hchild_id), hchild found h hfresh.1]
    · have hskip : ¬(find_member parent_id child).isSome = true := by
        rw [hnone]
        exact Bool.false_ne_true
      rw [if_neg hskip, if_neg hskip, remove_child, if_neg hchild_id, remove_none_all.1 child hfresh.1]
      dsimp only
      rw [hchildren found h hfresh.2, Option.map_some]

/-- Removing a Member that was added leaves its parent with the list of the children it had. -/
theorem remove_added {member found new : NormalizedMember} (h : find_member parent_id member = some found)
    (hfresh : ∀ fields ∈ member.all_fields, fields.id.val ≠ new.fields.id.val) :
    remove_member new.fields.id.val (replace_member parent_id (found.with_children [new]) member) =
      some (replace_member parent_id (found.with_children []) member) :=
  remove_added_all.1 member found h hfresh

private theorem remove_bounds_all :
    (∀ member rest, remove_member member_id member = some rest →
        rest.member_depth ≤ member.member_depth ∧
          (member.within_child_limit = true → rest.within_child_limit = true)) ∧
      ∀ children rest, remove_child member_id children = some rest →
        depth_of_children rest ≤ depth_of_children children ∧ rest.length ≤ children.length ∧
          (all_within_child_limit children = true → all_within_child_limit rest = true) := by
  refine forest_induction (fun fields rest h => ?_) (fun fields children ih rest h => ?_) (fun rest h => ?_)
    fun child children hchild hchildren rest h => ?_
  · rw [remove_member] at h
    cases h
  · rw [remove_member] at h
    obtain ⟨rest, hrest, rfl⟩ := Option.map_eq_some_iff.mp h
    obtain ⟨hdepth, hlength, hlimit⟩ := ih rest hrest
    rw [member_depth, member_depth, within_child_limit, within_child_limit, Bool.and_eq_true, Bool.and_eq_true,
      decide_eq_true_eq, decide_eq_true_eq]
    exact ⟨by omega, fun h => ⟨hlength.trans h.1, hlimit h.2⟩⟩
  · rw [remove_child] at h
    cases h
  · rw [remove_child] at h
    rw [depth_of_children, all_within_child_limit, Bool.and_eq_true]
    split at h
    · obtain rfl := Option.some.inj h
      exact ⟨Nat.le_max_right _ _, Nat.le_succ _, fun h => h.2⟩
    split at h
    · next kept hkept =>
      obtain rfl := Option.some.inj h
      obtain ⟨hdepth, hlimit⟩ := hchild kept hkept
      rw [depth_of_children, all_within_child_limit, Bool.and_eq_true]
      exact ⟨by omega, Nat.le_refl _, fun h => ⟨hlimit h.1, h.2⟩⟩
    · obtain ⟨kept, hkept, rfl⟩ := Option.map_eq_some_iff.mp h
      obtain ⟨hdepth, hlength, hlimit⟩ := hchildren kept hkept
      rw [depth_of_children, all_within_child_limit, Bool.and_eq_true, List.length_cons, List.length_cons]
      exact ⟨by omega, by omega, fun h => ⟨h.1, hlimit h.2⟩⟩

theorem remove_member_bounds {member rest : NormalizedMember} (h : remove_member member_id member = some rest) :
    rest.member_depth ≤ member.member_depth ∧ (member.within_child_limit = true → rest.within_child_limit = true) :=
  remove_bounds_all.1 member rest h

end Removal

end NormalizedMember

end OhMySubagents.Workflows
