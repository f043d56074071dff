import OhMySubagents.Workflows.MemberTrees

open JsonData

namespace OhMySubagents.Workflows

open OhMySubagents.Workflows.NormalizedMember

variable {member_id : String} {change : List (String × JsonData) → List (String × JsonData)}

theorem has_member_id_encode (fields : MemberFields) (children : List (String × JsonData)) :
    has_member_id member_id (MemberFields.members.encode fields ++ children) = decide (fields.id.val = member_id) := by
  have hlookup : (MemberFields.members.encode fields ++ children).lookup "id" = some (.string fields.id.val) := by
    rw [List.lookup_append, lookup_members_encode, if_pos rfl, Option.some_or]
  rw [has_member_id, hlookup]
  exact decide_eq_decide.mpr (by simp)

theorem has_member_id_payload (member : NormalizedMember) :
    has_member_id member_id member.payload = decide (member.fields.id.val = member_id) := by
  obtain ⟨fields, _ | children⟩ := member
  · rw [payload, ← List.append_nil (MemberFields.members.encode fields), has_member_id_encode]
    rfl
  · rw [payload, has_member_id_encode]
    rfl

private theorem ne_children_of_encode {fields : MemberFields} {key : String} {value : JsonData}
    (h : (key, value) ∈ MemberFields.members.encode fields) : key ≠ "children" := by
  have hkey : key ∈ MemberFields.members.keys := MemberFields.members.encode_keys fields (key, value) h
  rintro rfl
  revert hkey
  decide

private theorem change_children_field_append {own rest : List (String × JsonData)}
    (h : ∀ key value, (key, value) ∈ own → key ≠ "children") :
    change_children_field member_id change (own ++ rest) =
      (change_children_field member_id change rest).map (own ++ ·) := by
  induction own with
  | nil => exact Option.map_id'.symm
  | cons member own ih =>
    obtain ⟨key, value⟩ := member
    rw [List.cons_append, change_children_field, if_neg (h key value List.mem_cons_self),
      ih fun key value hmem => h key value (List.mem_cons_of_mem _ hmem), Option.map_map]
    rfl

private theorem remove_in_children_field_append {own rest : List (String × JsonData)}
    (h : ∀ key value, (key, value) ∈ own → key ≠ "children") :
    remove_in_children_field member_id (own ++ rest) =
      (remove_in_children_field member_id rest).map (own ++ ·) := by
  induction own with
  | nil => exact Option.map_id'.symm
  | cons member own ih =>
    obtain ⟨key, value⟩ := member
    rw [List.cons_append, remove_in_children_field, if_neg (h key value List.mem_cons_self),
      ih fun key value hmem => h key value (List.mem_cons_of_mem _ hmem), Option.map_map]
    rfl

/-- What a change of one Member's mapping does to a tree, for a reader that takes Members for changed ones. -/
def Changes (member_id : String) (change : List (String × JsonData) → List (String × JsonData))
    (member : NormalizedMember) : Prop :=
  (find_member member_id member = none → change_member member_id change member.dump = none) ∧
    ∀ found, find_member member_id member = some found →
      ∃ payload, change_member member_id change member.dump = some payload ∧
        ∀ look f, Reads look f → read_member look payload =
          (read_member look (.object (change found.payload))).map fun new =>
            replace_member member_id new (member.map_fields f)

private def ChangesAll (member_id : String) (change : List (String × JsonData) → List (String × JsonData))
    (children : List NormalizedMember) : Prop :=
  (find_child member_id children = none → change_first member_id change (dump_members children) = none) ∧
    ∀ found, find_child member_id children = some found →
      ∃ items, change_first member_id change (dump_members children) = some items ∧
        ∀ look f, Reads look f → read_members look items =
          (read_member look (.object (change found.payload))).map fun new =>
            replace_child member_id new (map_fields_all f children)

private theorem change_root {member : NormalizedMember} (h : member.fields.id.val = member_id) :
    change_member member_id change member.dump = some (.object (change member.payload)) := by
  rw [dump_eq, change_member, has_member_id_payload, if_pos (decide_eq_true h)]

private theorem change_below (member : NormalizedMember) (h : member.fields.id.val ≠ member_id) :
    change_member member_id change member.dump =
      (change_children_field member_id change member.payload).map .object := by
  rw [dump_eq, change_member, has_member_id_payload, if_neg (mt of_decide_eq_true h)]

private theorem replace_root (member : NormalizedMember) (h : member.fields.id.val = member_id) {look : Look}
    {f : MemberFields → MemberFields} (hreads : Reads look f) (new : NormalizedMember) :
    replace_member member_id new (member.map_fields f) = new := by
  match member with
  | mk fields none => rw [map_fields, replace_member, if_pos ((congrArg Subtype.val (hreads.id fields)).trans h)]
  | mk fields (some children) =>
    rw [map_fields, replace_member, if_pos ((congrArg Subtype.val (hreads.id fields)).trans h)]

theorem find_member_map_fields {f : MemberFields → MemberFields} (hid : ∀ fields, (f fields).id = fields.id) :
    (∀ member, find_member member_id (member.map_fields f) = (find_member member_id member).map (map_fields f)) ∧
      ∀ children, find_child member_id (map_fields_all f children) =
        (find_child member_id children).map (map_fields f) := by
  refine forest_induction (fun fields => ?_) (fun fields children ih => ?_) ?_ fun child children ihchild
    ihchildren => ?_
  · rw [map_fields, find_member, find_member, hid]
    split <;> rfl
  · rw [map_fields, find_member, find_member, hid, ih]
    split <;> rfl
  · rw [map_fields_all, find_child, Option.map_none]
  · rw [map_fields_all, find_child, find_child, ihchild, ihchildren, Option.map_or]

private theorem changes_all : (∀ member, Changes member_id change member) ∧
    ∀ children, ChangesAll member_id change children := by
  refine forest_induction (fun fields => ?_) (fun fields children ih => ?_) ?_ fun child children ihchild
    ihchildren => ?_
  · rw [Changes, find_member]
    by_cases hid : fields.id.val = member_id
    · rw [if_pos hid]
      refine ⟨fun h => absurd h (Option.some_ne_none _), fun found hfound => ?_⟩
      obtain rfl := Option.some.inj hfound
      refine ⟨_, change_root hid, fun look f hreads => ?_⟩
      simp only [replace_root (mk fields none) hid hreads, Option.map_id']
    · rw [if_neg hid]
      refine ⟨fun _ => ?_, fun _ h => absurd h.symm (Option.some_ne_none _)⟩
      rw [change_below (mk fields none) hid, payload,
        ← List.append_nil (MemberFields.members.encode fields),
        change_children_field_append fun key value hmem => ne_children_of_encode hmem]
      rfl
  · rw [Changes, find_member]
    by_cases hid : fields.id.val = member_id
    · rw [if_pos hid]
      refine ⟨fun h => absurd h (Option.some_ne_none _), fun found hfound => ?_⟩
      obtain rfl := Option.some.inj hfound
      refine ⟨_, change_root hid, fun look f hreads => ?_⟩
      simp only [replace_root (mk fields (some children)) hid hreads, Option.map_id']
    · rw [if_neg hid]
      have hchange : change_member member_id change (mk fields (some children)).dump =
          (change_first member_id change (dump_members children)).map fun items =>
            .object (MemberFields.members.encode fields ++ [("children", .array items)]) := by
        rw [change_below (mk fields (some children)) hid, payload,
          change_children_field_append fun key value hmem => ne_children_of_encode hmem, change_children_field,
          if_pos rfl, change_children, Option.map_map, Option.map_map, Option.map_map]
        rfl
      rw [hchange]
      refine ⟨fun hnone => by rw [ih.1 hnone, Option.map_none], fun found hfound => ?_⟩
      obtain ⟨items, hitems, hread⟩ := ih.2 found hfound
      refine ⟨_, by rw [hitems, Option.map_some], fun look f hreads => ?_⟩
      rw [read_member, hreads.read_fields fields _ (by simp), read_children_field_eq, lookup_children_encode]
      change ((read_members look items).map some).map (mk (f fields)) = _
      rw [hread look f hreads, Option.map_map, Option.map_map, map_fields]
      refine congrArg (fun g => Option.map g _) (funext fun new => ?_)
      rw [replace_member, if_neg (by rw [hreads.id]; exact hid)]
      rfl
  · rw [ChangesAll, find_child]
    refine ⟨fun _ => ?_, fun _ h => absurd h.symm (Option.some_ne_none _)⟩
    rw [dump_members, change_first]
  · rw [ChangesAll, find_child, dump_members, change_first]
    refine ⟨fun hnone => ?_, fun found hfound => ?_⟩
    · rw [Option.or_eq_none_iff] at hnone
      rw [ihchild.1 hnone.1]
      dsimp only
      rw [ihchildren.1 hnone.2, Option.map_none]
    · rcases Option.or_eq_some_iff.mp hfound with hchild | ⟨hnone, hchildren⟩
      · obtain ⟨payload, hpayload, hread⟩ := ihchild.2 found hchild
        rw [hpayload]
        refine ⟨_, rfl, fun look f hreads => ?_⟩
        rw [read_members, hread look f hreads, hreads.read_dump_members children]
        cases read_member look (.object (change found.payload)) with
        | none => rfl
        | some new =>
          have hfind : (find_member member_id (child.map_fields f)).isSome = true := by
            rw [(find_member_map_fields hreads.id).1, hchild]
            rfl
          rw [Option.map_some, Option.bind_some, Option.map_some, Option.map_some, map_fields_all, replace_child,
            if_pos hfind]
      · obtain ⟨items, hitems, hread⟩ := ihchildren.2 found hchildren
        rw [ihchild.1 hnone]
        dsimp only
        rw [hitems]
        refine ⟨_, rfl, fun look f hreads => ?_⟩
        rw [read_members, hreads.read_dump child, Option.bind_some, hread look f hreads, Option.map_map]
        refine congrArg (fun g => Option.map g _) (funext fun new => ?_)
        have hfind : ¬(find_member member_id (child.map_fields f)).isSome = true := by
          rw [(find_member_map_fields hreads.id).1, hnone]
          exact Bool.false_ne_true
        rw [map_fields_all, replace_child, if_neg hfind]
        rfl

/-- A reader takes a changed payload for the tree with the changed Member in the place of the one that was found. -/
theorem change_member_dump (member : NormalizedMember) : Changes member_id change member := changes_all.1 member

private theorem remove_all :
    (∀ member : NormalizedMember, _remove_member member_id member.dump = (remove_member member_id member).map dump) ∧
      ∀ children, remove_first member_id (dump_members children) =
        (remove_child member_id children).map dump_members := by
  refine forest_induction (fun fields => ?_) (fun fields children ih => ?_) ?_ fun child children ihchild
    ihchildren => ?_
  · rw [dump, _remove_member, ← List.append_nil (MemberFields.members.encode fields),
      remove_in_children_field_append fun key value hmem => ne_children_of_encode hmem, remove_member]
    rfl
  · rw [dump, _remove_member, remove_in_children_field_append fun key value hmem => ne_children_of_encode hmem,
      remove_in_children_field, if_pos rfl, remove_in_children, ih, remove_member]
    cases remove_child member_id children with
    | none => rfl
    | some rest => rfl
  · rw [dump_members, remove_first, remove_child, Option.map_none]
  · have hroot : is_member_with member_id child.dump = decide (child.fields.id.val = member_id) := by
      rw [dump_eq, is_member_with, has_member_id_payload]
    rw [dump_members, remove_first, remove_child, hroot]
    by_cases hid : child.fields.id.val = member_id
    · rw [if_pos (decide_eq_true hid), if_pos hid, Option.map_some]
    · rw [if_neg (mt of_decide_eq_true hid), if_neg hid, ihchild]
      cases remove_member member_id child with
      | some kept => rfl
      | none =>
        dsimp only [Option.map_none]
        rw [ihchildren, Option.map_map, Option.map_map]
        rfl

/-- A Member is removed from a dump as from the tree. -/
theorem remove_member_dump (member : NormalizedMember) :
    _remove_member member_id member.dump = (remove_member member_id member).map dump :=
  remove_all.1 member

end OhMySubagents.Workflows
