import OhMySubagents.Workflows.CanonicalIdentity

open JsonData

namespace OhMySubagents.Workflows

open OhMySubagents.Workflows.NormalizedMember

section Allocated

/-- An allocated identifier has the number that it was allocated for. -/
theorem member_number_allocated (number : Nat) : member_number (allocate_member_id number).1 = some number := by
  have hchars : (allocate_member_id number).1.toList =
      'm' :: 'e' :: 'm' :: 'b' :: 'e' :: 'r' :: '-' :: Nat.toDigits 10 number := by
    rw [allocate_member_id, String.toList_append]
    change "member-".toList ++ number.repr.toList = _
    rw [Nat.toList_repr]
    rfl
  have hdigits : Nat.toDigits 10 number ≠ [] ∧ (Nat.toDigits 10 number).all Char.isDigit = true :=
    ⟨Nat.toDigits_ne_nil, List.all_eq_true.mpr fun c hc => Nat.isDigit_of_mem_toDigits (by decide) (by decide) hc⟩
  rw [member_number, hchars]
  exact (if_pos hdigits).trans (congrArg some Nat.ofDigitChars_ten_toDigits)

theorem allocate_member_id_injective {number number' : Nat}
    (h : (allocate_member_id number).1 = (allocate_member_id number').1) : number = number' := by
  have hnumber := member_number_allocated number
  rw [h, member_number_allocated] at hnumber
  exact (Option.some.inj hnumber).symm

private theorem drawn_ids_all :
    (∀ member start, (drawn_members allocate_member_id start member).map Prod.fst =
        (List.range' start member.all_fields.length).map (fun number => (allocate_member_id number).1) ∧
      (_new_member_payload allocate_member_id start member).2 = start + member.all_fields.length) ∧
      ∀ children start, (drawn_children allocate_member_id start children).map Prod.fst =
          (List.range' start (new_fields_of children).length).map (fun number => (allocate_member_id number).1) ∧
        (new_children_payload allocate_member_id start children).2 = start + (new_fields_of children).length := by
  refine NewMember.forest_induction (fun fields start => ⟨rfl, rfl⟩) (fun fields children ih start => ?_)
    (fun start => ⟨rfl, rfl⟩) fun child children hchild hchildren start => ?_
  · obtain ⟨hids, hnext⟩ := ih (start + 1)
    rw [drawn_members, NewMember.all_fields, List.map_cons, List.length_cons, List.range'_succ, List.map_cons]
    refine ⟨congrArg ((allocate_member_id start).1 :: ·) hids, ?_⟩
    rw [_new_member_payload]
    change (new_children_payload allocate_member_id (start + 1) children).2 = _
    rw [hnext]
    omega
  · obtain ⟨hids, hnext⟩ := hchild start
    obtain ⟨hrest, hlast⟩ := hchildren (start + child.all_fields.length)
    rw [drawn_children, new_fields_of, List.map_append, List.length_append, hids, hnext, hrest, ← List.map_append,
      List.range'_append_1]
    refine ⟨rfl, ?_⟩
    rw [new_children_payload]
    change (new_children_payload allocate_member_id (_new_member_payload allocate_member_id start child).2
      children).2 = _
    rw [hnext, hlast]
    omega

/-- New Members are numbered one after the other. -/
theorem drawn_ids (member : NewMember) (start : Nat) : (drawn_members allocate_member_id start member).map Prod.fst =
    (List.range' start member.all_fields.length).map fun number => (allocate_member_id number).1 :=
  (drawn_ids_all.1 member start).1

theorem drawn_next (member : NewMember) (start : Nat) :
    (_new_member_payload allocate_member_id start member).2 = start + member.all_fields.length :=
  (drawn_ids_all.1 member start).2

end Allocated

section Numbers

/-- Every number of a `member-<number>` identifier of a tree is below a bound. -/
def NumbersBelow (bound : Nat) (lead : NormalizedMember) : Prop :=
  ∀ fields ∈ lead.all_fields, ∀ number ∈ member_number fields.id.val, number < bound

theorem NumbersBelow.mono {bound bound' : Nat} {lead : NormalizedMember} (h : NumbersBelow bound lead)
    (hle : bound ≤ bound') : NumbersBelow bound' lead := fun fields hmem number hnumber =>
  (h fields hmem number hnumber).trans_le hle

private theorem highest_all {bound : Nat} (hbound : 0 < bound) :
    (∀ member : NormalizedMember, highest_member_number member < bound ↔
        ∀ fields ∈ member.all_fields, ∀ number ∈ member_number fields.id.val, number < bound) ∧
      ∀ children, highest_child_number children < bound ↔
        ∀ fields ∈ all_fields_of children, ∀ number ∈ member_number fields.id.val, number < bound := by
  have hown : ∀ id : String, (member_number id).getD 0 < bound ↔ ∀ number ∈ member_number id, number < bound := by
    intro id
    cases member_number id with
    | none => exact ⟨fun _ => nofun, fun _ => hbound⟩
    | some number => simp
  refine forest_induction (fun fields => ?_) (fun fields children ih => ?_) ?_ fun child children hchild hchildren => ?_
  · rw [highest_member_number, all_fields, List.forall_mem_singleton, hown]
  · rw [highest_member_number, all_fields, List.forall_mem_cons, max_lt_iff, hown, ih]
  · rw [highest_child_number, all_fields_of]
    exact ⟨fun _ => List.forall_mem_nil _, fun _ => hbound⟩
  · rw [highest_child_number, all_fields_of, List.forall_mem_append, max_lt_iff, hchild, hchildren]

/-- The next number is beyond every number of the tree, and it is the first such number. -/
theorem next_workflow_member_sequence_le_iff {workflow : NormalizedWorkflow} {bound : Nat} (hbound : 0 < bound) :
    next_workflow_member_sequence workflow ≤ bound ↔ NumbersBelow bound workflow.lead :=
  (highest_all hbound).1 workflow.lead

theorem numbers_below_next (workflow : NormalizedWorkflow) :
    NumbersBelow (next_workflow_member_sequence workflow) workflow.lead :=
  (next_workflow_member_sequence_le_iff (Nat.succ_pos _)).mp (Nat.le_refl _)

end Numbers

section EditedNumbers

variable {σ : Type} {allocate_id : σ → String × σ} {drawn next : σ} {workflow edited : NormalizedWorkflow}
  {operation : DraftOperation} {reader : WorkflowReader}

/-- The identifiers that an operation has allocated. -/
def DraftOperation.allocated (allocate_id : σ → String × σ) (drawn : σ) : DraftOperation → List String
  | .add_member _ member => (drawn_members allocate_id drawn member).map Prod.fst
  | _ => []

private theorem edited_lead_ids {lead lead' : NormalizedMember}
    (hread : ∀ {drawn fields}, ReadsNew reader.look drawn fields → fields.id.val = drawn.1)
    (h : EditedLead allocate_id drawn reader lead lead' operation) :
    ∀ id ∈ lead'.all_fields.map (·.id.val),
      id ∈ lead.all_fields.map (·.id.val) ∨ id ∈ operation.allocated allocate_id drawn := by
  have hsame : ∀ all : List MemberFields, (all.map reader.fields).map (·.id.val) = all.map (·.id.val) := by
    intro all
    rw [List.map_map]
    exact List.map_congr_left fun fields _ => congrArg Subtype.val (reader.reads.id fields)
  cases operation with
  | update_workflow patch =>
    obtain rfl : lead' = lead.map_fields reader.fields := h
    rw [all_fields_map_fields, hsame]
    exact fun id hid => .inl hid
  | add_member parent_member_id member =>
    intro id hid
    exact List.mem_append.mp ((EditedLead.added_ids hread h).mem_iff.mp hid)
  | update_member member_id patch =>
    obtain ⟨found, new, before, after, hall, hid, -, hfields, hedited⟩ := EditedLead.update_fields h
    have hkept : patched patch.dump "id" ((MemberFields.members.encode found).lookup "id") =
        some (.string found.id.val) := by
      rw [MemberPatch.patched_dump, lookup_members_encode]
      rfl
    have hnew : new.id = found.id :=
      reader.reads.id_decode found.id (congrArg (reader.look "id") hkept) (members_decode_eq_some hfields).1
    rw [hedited, hall, List.map_append, List.map_cons, hsame, hsame, hnew, List.map_append, List.map_cons]
    exact fun id hid => .inl hid
  | remove_member member_id =>
    obtain ⟨before, gone, after, hall, hedited⟩ := EditedLead.remove_fields h
    rw [hedited, hall, List.map_append, hsame, hsame, List.map_append, List.map_append]
    intro id hid
    rcases List.mem_append.mp hid with hid | hid
    · exact .inl (List.mem_append_left _ hid)
    · exact .inl (List.mem_append_right _ (List.mem_append_right _ hid))

/-- An edit brings no identifiers but those that it has allocated. -/
theorem edited_ids (h : edit_normalized_workflow allocate_id drawn workflow operation = .ok (edited, next)) :
    ∀ id ∈ edited.lead.all_fields.map (·.id.val),
      id ∈ workflow.lead.all_fields.map (·.id.val) ∨ id ∈ operation.allocated allocate_id drawn := by
  obtain ⟨payload, validated, -, -, -, -, hread, hresult⟩ := accepted_edit h
  have hnormal : ∀ {drawn fields}, ReadsNew WorkflowReader.as_normalized.look drawn fields → fields.id.val = drawn.1 :=
    ReadsNew.id_normalized
  have hwrite : ∀ {drawn fields}, ReadsNew WorkflowReader.as_written.look drawn fields → fields.id.val = drawn.1 :=
    ReadsNew.id_written
  rcases hresult with ⟨-, rfl⟩ | ⟨-, -, hwritten⟩
  · exact edited_lead_ids hnormal hread.lead
  · exact edited_lead_ids hwrite hwritten.lead

/-- The Members of an accepted addition have distinct identifiers, which no Member had before. -/
theorem added_ids_fresh {parent_member_id : Contracts.Identifier} {member : NewMember}
    (h : edit_normalized_workflow allocate_id drawn workflow (.add_member parent_member_id member) = .ok
      (edited, next)) :
    (workflow.lead.all_fields.map (·.id.val) ++ (drawn_members allocate_id drawn member).map Prod.fst).Nodup := by
  obtain ⟨payload, validated, -, -, hsemantics, -, hread, -⟩ := accepted_edit h
  have hnormal : ∀ {drawn fields}, ReadsNew WorkflowReader.as_normalized.look drawn fields → fields.id.val = drawn.1 :=
    ReadsNew.id_normalized
  exact (EditedLead.added_ids hnormal hread.lead).nodup_iff.mp (ids_nodup_iff.mp hsemantics.member_ids)

/-- An accepted addition keeps the identifiers that there were and adds those that it allocates. -/
theorem added_ids_perm {parent_member_id : Contracts.Identifier} {member : NewMember}
    (h : edit_normalized_workflow allocate_id drawn workflow (.add_member parent_member_id member) = .ok
      (edited, next)) :
    (edited.lead.all_fields.map (·.id.val)).Perm
      (workflow.lead.all_fields.map (·.id.val) ++ (drawn_members allocate_id drawn member).map Prod.fst) := by
  obtain ⟨payload, validated, -, -, -, -, hread, hresult⟩ := accepted_edit h
  have hnormal : ∀ {drawn fields}, ReadsNew WorkflowReader.as_normalized.look drawn fields → fields.id.val = drawn.1 :=
    ReadsNew.id_normalized
  have hwrite : ∀ {drawn fields}, ReadsNew WorkflowReader.as_written.look drawn fields → fields.id.val = drawn.1 :=
    ReadsNew.id_written
  rcases hresult with ⟨-, rfl⟩ | ⟨-, -, hwritten⟩
  · exact EditedLead.added_ids hnormal hread.lead
  · exact EditedLead.added_ids hwrite hwritten.lead

/-- How many identifiers an operation allocates. -/
def DraftOperation.allocations : DraftOperation → Nat
  | .add_member _ member => member.all_fields.length
  | _ => 0

theorem edited_next {start next : Nat}
    (h : edit_normalized_workflow allocate_member_id start workflow operation = .ok (edited, next)) :
    next = start + operation.allocations := by
  obtain ⟨payload, hpayload, -⟩ := edit_normalized_workflow_eq_ok.mp h
  cases operation with
  | update_workflow patch => exact (Prod.mk.inj (Option.some.inj hpayload)).2.symm
  | add_member parent_member_id member =>
    obtain ⟨lead, -, hpayload⟩ := Option.map_eq_some_iff.mp hpayload
    rw [← (Prod.mk.inj hpayload).2, drawn_next]
    rfl
  | update_member member_id patch =>
    obtain ⟨lead, -, hpayload⟩ := Option.map_eq_some_iff.mp hpayload
    exact (Prod.mk.inj hpayload).2.symm
  | remove_member member_id =>
    rw [edited_payload] at hpayload
    split at hpayload
    · cases hpayload
    · obtain ⟨lead, -, hpayload⟩ := Option.map_eq_some_iff.mp hpayload
      exact (Prod.mk.inj hpayload).2.symm

theorem allocated_eq (operation : DraftOperation) (start : Nat) : operation.allocated allocate_member_id start =
    (List.range' start operation.allocations).map fun number => (allocate_member_id number).1 := by
  cases operation with
  | add_member parent_member_id member => exact drawn_ids member start
  | update_workflow _ | update_member _ _ | remove_member _ => rfl

/-- Numbers below the next one stay below the next one. -/
theorem edited_numbers_below {start next : Nat} (hbelow : NumbersBelow start workflow.lead)
    (h : edit_normalized_workflow allocate_member_id start workflow operation = .ok (edited, next)) :
    NumbersBelow next edited.lead := by
  obtain rfl := edited_next h
  intro fields hmem number hnumber
  rcases edited_ids h _ (List.mem_map_of_mem hmem) with hold | hallocated
  · obtain ⟨own, hown, hid⟩ := List.mem_map.mp hold
    rw [← hid] at hnumber
    exact (hbelow own hown number hnumber).trans_le (Nat.le_add_right _ _)
  · rw [allocated_eq] at hallocated
    obtain ⟨drawn, hdrawn, hid⟩ := List.mem_map.mp hallocated
    rw [← hid, member_number_allocated] at hnumber
    obtain rfl := Option.some.inj hnumber
    exact (List.mem_range'_1.mp hdrawn).2

end EditedNumbers

end OhMySubagents.Workflows
