import OhMySubagents.Workflows.Reading

open JsonData

namespace OhMySubagents.Workflows

namespace NormalizedMember

/-- Induction over a tree and over its lists of children at once. -/
theorem forest_induction {P : NormalizedMember → Prop} {Q : List NormalizedMember → Prop}
    (leaf : ∀ fields, P (mk fields none)) (node : ∀ fields children, Q children → P (mk fields (some children)))
    (nil : Q []) (cons : ∀ child children, P child → Q children → Q (child :: children)) :
    (∀ member, P member) ∧ ∀ children, Q children := by
  have hmember : ∀ member, P member := fun member =>
    @NormalizedMember.rec P (fun children => ∀ fields, P (mk fields children)) Q (fun fields children ih => ih fields)
      leaf (fun children ih fields => node fields children ih) nil (fun child children => cons child children) member
  refine ⟨hmember, fun children => ?_⟩
  induction children with
  | nil => exact nil
  | cons child children ih => exact cons child children (hmember child) ih

mutual

/-- What every Member of a tree says of itself, a Member before its children. -/
def all_fields : NormalizedMember → List MemberFields
  | mk fields none => [fields]
  | mk fields (some children) => fields :: all_fields_of children

def all_fields_of : List NormalizedMember → List MemberFields
  | [] => []
  | child :: children => all_fields child ++ all_fields_of children

end

theorem all_fields_eq (member : NormalizedMember) :
    member.all_fields = member.fields :: all_fields_of (member.children.getD []) := by
  obtain ⟨fields, _ | children⟩ := member <;> rfl

theorem all_fields_of_append (children children' : List NormalizedMember) :
    all_fields_of (children ++ children') = all_fields_of children ++ all_fields_of children' := by
  induction children with
  | nil => rfl
  | cons child children ih => rw [List.cons_append, all_fields_of, all_fields_of, ih, List.append_assoc]

mutual

theorem all_fields_map_fields (f : MemberFields → MemberFields) (member : NormalizedMember) :
    (member.map_fields f).all_fields = member.all_fields.map f := by
  match member with
  | mk fields none => rfl
  | mk fields (some children) =>
    rw [map_fields, all_fields, all_fields, all_fields_of_map_fields_all f children, List.map_cons]

theorem all_fields_of_map_fields_all (f : MemberFields → MemberFields) (members : List NormalizedMember) :
    all_fields_of (map_fields_all f members) = (all_fields_of members).map f := by
  match members with
  | [] => rfl
  | child :: children =>
    rw [map_fields_all, all_fields_of, all_fields_of, all_fields_map_fields f child,
      all_fields_of_map_fields_all f children, List.map_append]

end

section ById

variable (member_id : String)

mutual

/-- The first Member with an identifier. -/
def find_member : NormalizedMember → Option NormalizedMember
  | mk fields none => if fields.id.val = member_id then some (mk fields none) else none
  | mk fields (some children) =>
    if fields.id.val = member_id then some (mk fields (some children)) else find_child children

def find_child : List NormalizedMember → Option NormalizedMember
  | [] => none
  | child :: children => (find_member child).or (find_child children)

end

mutual

/-- The tree with another Member in place of the first one with an identifier. -/
def replace_member (new : NormalizedMember) : NormalizedMember → NormalizedMember
  | mk fields none => if fields.id.val = member_id then new else mk fields none
  | mk fields (some children) =>
    if fields.id.val = member_id then new else mk fields (some (replace_child new children))

def replace_child (new : NormalizedMember) : List NormalizedMember → List NormalizedMember
  | [] => []
  | child :: children =>
    if (find_member member_id child).isSome then replace_member new child :: children
    else child :: replace_child new children

end

mutual

/-- The tree without the first Member with an identifier below its root. -/
def remove_member : NormalizedMember → Option NormalizedMember
  | mk _ none => none
  | mk fields (some children) => (remove_child children).map fun children => mk fields (some children)

def remove_child : List NormalizedMember → Option (List NormalizedMember)
  | [] => none
  | child :: children =>
    if child.fields.id.val = member_id then some children
    else
      match remove_member child with
      | some child => some (child :: children)
      | none => (remove_child children).map (child :: ·)

end

variable {member_id}

/-- A found Member has the identifier. -/
theorem find_member_id_all :
    (∀ member found, find_member member_id member = some found → found.fields.id.val = member_id) ∧
      ∀ children found, find_child member_id children = some found → found.fields.id.val = member_id := by
  refine forest_induction (fun fields found h => ?_) (fun fields children ih found h => ?_) (fun found h => ?_)
    fun child children ihchild ihchildren found h => ?_
  · rw [find_member] at h
    split at h
    · next hid =>
      obtain rfl := Option.some.inj h
      exact hid
    · cases h
  · rw [find_member] at h
    split at h
    · next hid =>
      obtain rfl := Option.some.inj h
      exact hid
    · exact ih found h
  · rw [find_child] at h
    cases h
  · rw [find_child] at h
    rcases Option.or_eq_some_iff.mp h with hchild | ⟨-, hchildren⟩
    · exact ihchild found hchild
    · exact ihchildren found hchildren

theorem find_member_id {member found : NormalizedMember} (h : find_member member_id member = some found) :
    found.fields.id.val = member_id :=
  find_member_id_all.1 member found h

private theorem find_eq_none_all :
    (∀ member, find_member member_id member = none → ∀ fields ∈ member.all_fields, fields.id.val ≠ member_id) ∧
      ∀ children, find_child member_id children = none →
        ∀ fields ∈ all_fields_of children, fields.id.val ≠ member_id := by
  refine forest_induction (fun fields h => ?_) (fun fields children ih h => ?_) (fun h fields hfields => ?_)
    fun child children ihchild ihchildren h => ?_
  · rw [find_member] at h
    split at h
    · cases h
    · next hid =>
      rw [all_fields, List.forall_mem_singleton]
      exact hid
  · rw [find_member] at h
    split at h
    · cases h
    · next hid =>
      rw [all_fields, List.forall_mem_cons]
      exact ⟨hid, ih h⟩
  · rw [all_fields_of] at hfields
    cases hfields
  · rw [find_child, Option.or_eq_none_iff] at h
    rw [all_fields_of, List.forall_mem_append]
    exact ⟨ihchild h.1, ihchildren h.2⟩

theorem find_member_eq_none {member : NormalizedMember} (h : find_member member_id member = none) :
    ∀ fields ∈ member.all_fields, fields.id.val ≠ member_id :=
  find_eq_none_all.1 member h

private theorem replace_all_fields_all :
    (∀ member found, find_member member_id member = some found →
        ∃ before after, member.all_fields = before ++ (found.all_fields ++ after) ∧
          (∀ fields ∈ before, fields.id.val ≠ member_id) ∧
          ∀ new, (replace_member member_id new member).all_fields = before ++ (new.all_fields ++ after)) ∧
      ∀ children found, find_child member_id children = some found →
        ∃ before after, all_fields_of children = before ++ (found.all_fields ++ after) ∧
          (∀ fields ∈ before, fields.id.val ≠ member_id) ∧
          ∀ new, all_fields_of (replace_child member_id new children) = before ++ (new.all_fields ++ after) := by
  refine forest_induction (fun fields found h => ?_) (fun fields children ih found h => ?_) (fun found h => ?_)
    fun child children ihchild ihchildren found h => ?_
  · rw [find_member] at h
    split at h
    · next hid =>
      obtain rfl := Option.some.inj h
      refine ⟨[], [], by rw [List.nil_append, List.append_nil], List.forall_mem_nil _, fun new => ?_⟩
      rw [replace_member, if_pos hid, List.nil_append, List.append_nil]
    · cases h
  · rw [find_member] at h
    split at h
    · next hid =>
      obtain rfl := Option.some.inj h
      refine ⟨[], [], by rw [List.nil_append, List.append_nil], List.forall_mem_nil _, fun new => ?_⟩
      rw [replace_member, if_pos hid, List.nil_append, List.append_nil]
    · next hid =>
      obtain ⟨before, after, hfields, hbefore, hreplaced⟩ := ih found h
      refine ⟨fields :: before, after, by rw [all_fields, hfields, List.cons_append], ?_, fun new => ?_⟩
      · rw [List.forall_mem_cons]
        exact ⟨hid, hbefore⟩
      · rw [replace_member, if_neg hid, all_fields, hreplaced, List.cons_append]
  · rw [find_child] at h
    cases h
  · rw [find_child] at h
    rcases Option.or_eq_some_iff.mp h with hchild | ⟨hnone, hchildren⟩
    · obtain ⟨before, after, hfields, hbefore, hreplaced⟩ := ihchild found hchild
      refine ⟨before, after ++ all_fields_of children, ?_, hbefore, fun new => ?_⟩
      · rw [all_fields_of, hfields, List.append_assoc, List.append_assoc]
      · rw [replace_child, if_pos (Option.isSome_of_mem hchild), all_fields_of, hreplaced, List.append_assoc,
          List.append_assoc]
    · obtain ⟨before, after, hfields, hbefore, hreplaced⟩ := ihchildren found hchildren
      refine ⟨child.all_fields ++ before, after, ?_, ?_, fun new => ?_⟩
      · rw [all_fields_of, hfields, List.append_assoc]
      · rw [List.forall_mem_append]
        exact ⟨find_member_eq_none hnone, hbefore⟩
      · rw [replace_child, if_neg (by rw [hnone]; exact Bool.false_ne_true), all_fields_of, hreplaced,
          List.append_assoc]

/-- A Member put in another's place takes that one's place in the order of the tree. -/
theorem replace_member_all_fields {member found : NormalizedMember} (h : find_member member_id member = some found) :
    ∃ before after, member.all_fields = before ++ (found.all_fields ++ after) ∧
      (∀ fields ∈ before, fields.id.val ≠ member_id) ∧
      ∀ new, (replace_member member_id new member).all_fields = before ++ (new.all_fields ++ after) :=
  replace_all_fields_all.1 member found h

private theorem remove_all_fields_all :
    (∀ member removed, remove_member member_id member = some removed →
        ∃ before, ∃ gone : NormalizedMember, ∃ after, member.all_fields = before ++ (gone.all_fields ++ after) ∧
          removed.all_fields = before ++ after ∧ gone.fields.id.val = member_id) ∧
      ∀ children rest, remove_child member_id children = some rest →
        ∃ before, ∃ gone : NormalizedMember, ∃ after, all_fields_of children = before ++ (gone.all_fields ++ after) ∧
          all_fields_of rest = before ++ after ∧ gone.fields.id.val = member_id := by
  refine forest_induction (fun fields removed h => ?_) (fun fields children ih removed h => ?_) (fun rest h => ?_)
    fun child children ihchild ihchildren rest h => ?_
  · rw [remove_member] at h
    cases h
  · rw [remove_member] at h
    obtain ⟨rest, hrest, rfl⟩ := Option.map_eq_some_iff.mp h
    obtain ⟨before, gone, after, hfields, hremoved, hgone⟩ := ih rest hrest
    refine ⟨fields :: before, gone, after, ?_, ?_, hgone⟩
    · rw [all_fields, hfields, List.cons_append]
    · rw [all_fields, hremoved, List.cons_append]
  · rw [remove_child] at h
    cases h
  · rw [remove_child] at h
    split at h
    · next hid =>
      obtain rfl := Option.some.inj h
      exact ⟨[], child, all_fields_of children, by rw [all_fields_of, List.nil_append], by rw [List.nil_append], hid⟩
    split at h
    · next kept hkept =>
      obtain rfl := Option.some.inj h
      obtain ⟨before, gone, after, hfields, hremoved, hgone⟩ := ihchild kept hkept
      refine ⟨before, gone, after ++ all_fields_of children, ?_, ?_, hgone⟩
      · rw [all_fields_of, hfields, List.append_assoc, List.append_assoc]
      · rw [all_fields_of, hremoved, List.append_assoc]
    · obtain ⟨kept, hkept, rfl⟩ := Option.map_eq_some_iff.mp h
      obtain ⟨before, gone, after, hfields, hremoved, hgone⟩ := ihchildren kept hkept
      refine ⟨child.all_fields ++ before, gone, after, ?_, ?_, hgone⟩
      · rw [all_fields_of, hfields, List.append_assoc]
      · rw [all_fields_of, hremoved, List.append_assoc]

/-- What is left without a Member is everything before and after it. -/
theorem remove_member_all_fields {member removed : NormalizedMember}
    (h : remove_member member_id member = some removed) :
    ∃ before, ∃ gone : NormalizedMember, ∃ after, member.all_fields = before ++ (gone.all_fields ++ after) ∧
      removed.all_fields = before ++ after ∧ gone.fields.id.val = member_id :=
  remove_all_fields_all.1 member removed h

end ById

end NormalizedMember

end OhMySubagents.Workflows
