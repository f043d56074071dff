import OhMySubagents.Workflows.Operations

open JsonData

namespace OhMySubagents.Workflows

open Contracts

section Lookups

variable {payload : List (String × JsonData)} {key name : String}

theorem lookup_cons (member : String × JsonData) :
    (member :: payload).lookup key = if key = member.1 then some member.2 else payload.lookup key := by
  obtain ⟨name, value⟩ := member
  rw [List.lookup_cons]
  by_cases h : key = name
  · rw [if_pos h, h, beq_self_eq_true]
  · rw [if_neg h, beq_false_of_ne h]

theorem lookup_normalize_members :
    (normalize_members payload).lookup key = (payload.lookup key).map _normalize_value := by
  induction payload with
  | nil => rfl
  | cons member payload ih =>
    obtain ⟨name, value⟩ := member
    rw [normalize_members, lookup_cons, lookup_cons, ih]
    split <;> rfl

theorem lookup_filter_ne (h : key ≠ name) :
    (payload.filter fun member => member.1 ≠ name).lookup key = payload.lookup key := by
  induction payload with
  | nil => rfl
  | cons member payload ih =>
    rw [List.filter_cons]
    split
    · rw [lookup_cons, lookup_cons, ih]
    · next hdropped =>
      have hname : member.1 = name := by simpa using hdropped
      rw [ih, lookup_cons, if_neg fun heq => h (heq.trans hname)]

theorem lookup_omit_blank_optional_ne (h : key ≠ name) :
    (_omit_blank_optional payload name).lookup key = payload.lookup key := by
  unfold _omit_blank_optional
  split
  · exact lookup_filter_ne h
  · rfl

theorem lookup_filter_self : (payload.filter fun member => member.1 ≠ name).lookup name = none := by
  induction payload with
  | nil => rfl
  | cons member payload ih =>
    rw [List.filter_cons]
    split
    · next hkept =>
      have hname : name ≠ member.1 := (of_decide_eq_true hkept).symm
      rw [lookup_cons, if_neg hname, ih]
    · exact ih

theorem lookup_omit_blank_optional_self :
    (_omit_blank_optional payload name).lookup name = (payload.lookup name).filter fun value => !is_blank value := by
  unfold _omit_blank_optional
  cases hvalue : payload.lookup name with
  | none => rw [if_neg (by rw [Option.any_none]; decide), hvalue, Option.filter_none]
  | some value =>
    cases hblank : is_blank value with
    | true => rw [if_pos (by simpa using hblank), lookup_filter_self, Option.filter_some_neg (by simp [hblank])]
    | false => rw [if_neg (by simp [hblank]), hvalue, Option.filter_some_pos (by simp [hblank])]

theorem lookup_map_key (f : JsonData → JsonData) :
    (payload.map fun member => if member.1 = name then (member.1, f member.2) else member).lookup key =
      if key = name then (payload.lookup key).map f else payload.lookup key := by
  induction payload with
  | nil => simp
  | cons member payload ih =>
    rw [List.map_cons, lookup_cons, lookup_cons, ih]
    grind

theorem lookup_normalize_workflow_mapping :
    (_normalize_workflow_mapping payload).lookup key =
      if key = "lead" then ((payload.lookup key).map _normalize_value).map _normalize_member_mapping
      else if key = "note" then ((payload.lookup key).map _normalize_value).filter fun value => !is_blank value
      else (payload.lookup key).map _normalize_value := by
  unfold _normalize_workflow_mapping
  rw [lookup_map_key]
  by_cases hlead : key = "lead"
  · rw [if_pos hlead, if_pos hlead, lookup_omit_blank_optional_ne (by rw [hlead]; decide), lookup_normalize_members]
  · rw [if_neg hlead, if_neg hlead]
    by_cases hnote : key = "note"
    · rw [if_pos hnote, hnote, lookup_omit_blank_optional_self, lookup_normalize_members]
    · rw [if_neg hnote, lookup_omit_blank_optional_ne hnote, lookup_normalize_members]

end Lookups

/-- The characters of which identifiers are made. -/
def is_identifier_character (c : Char) : Bool := is_lower c || c.isDigit || c == '-' || c == '_'

private theorem identifier_tail_characters {chars : List Char} (h : identifier_tail chars = true) :
    ∀ c ∈ chars, is_identifier_character c = true := by
  have hplain : ∀ c : Char, (is_lower c || c.isDigit) = true → is_identifier_character c = true := by
    intro c hc
    rw [is_identifier_character, hc]
    rfl
  induction chars using identifier_tail.induct with
  | case1 => exact List.forall_mem_nil _
  | case2 c rest ih =>
    rw [identifier_tail, Bool.and_eq_true] at h
    rw [List.forall_mem_cons, List.forall_mem_cons]
    exact ⟨by decide, hplain c h.1, ih h.2⟩
  | case3 c rest ih =>
    rw [identifier_tail, Bool.and_eq_true] at h
    rw [List.forall_mem_cons, List.forall_mem_cons]
    exact ⟨by decide, hplain c h.1, ih h.2⟩
  | case4 c rest hdash hunderscore ih =>
    rw [identifier_tail, Bool.and_eq_true] at h
    · rw [List.forall_mem_cons]
      exact ⟨hplain c h.1, ih h.2⟩
    · exact hdash
    · exact hunderscore

theorem identifier_characters (id : Identifier) : ∀ c ∈ id.val.toList, is_identifier_character c = true := by
  have hid := id.property
  unfold is_identifier at hid
  rw [Bool.and_eq_true] at hid
  cases hchars : id.val.toList with
  | nil => exact List.forall_mem_nil _
  | cons c rest =>
    rw [hchars] at hid
    obtain ⟨hlower, htail⟩ := (Bool.and_eq_true _ _).mp hid.2
    rw [List.forall_mem_cons]
    refine ⟨?_, identifier_tail_characters htail⟩
    rw [is_identifier_character, hlower]
    rfl

/-- An identifier has no line endings to normalize. -/
theorem normalize_identifier (id : Identifier) : _normalize_value (.string id.val) = .string id.val := by
  have hplain : '\r' ∉ id.val.toList := fun hmem =>
    absurd (identifier_characters id _ hmem) (by decide)
  rw [_normalize_value, normalize_newlines_eq_self hplain, String.ofList_toList]

namespace NormalizedWorkflow

variable {workflow workflow' : NormalizedWorkflow}

/-- What a validated Workflow says of itself stood in its payload. -/
theorem model_validate_eq_some {payload : List (String × JsonData)}
    (h : model_validate (.object payload) = some workflow) :
    members.decode (fun key => payload.lookup key) = some ((), workflow.id, workflow.description, workflow.note) ∧
      (payload.lookup "lead").bind NormalizedMember.model_validate = some workflow.lead := by
  obtain ⟨u, hkeys, h⟩ := Option.bind_eq_some_iff.mp h
  obtain ⟨⟨kind, id, description, note⟩, hdecode, h⟩ := Option.bind_eq_some_iff.mp h
  obtain ⟨lead, hlead, h⟩ := Option.bind_eq_some_iff.mp h
  split at h
  · obtain rfl := Option.some.inj h
    exact ⟨hdecode, hlead⟩
  · cases h

theorem lookup_id (lead : JsonData) :
    (workflow.payload_with_lead lead).lookup "id" = some (.string workflow.id.val) := rfl

end NormalizedWorkflow

/-- Normalization keeps a Workflow's identifier. -/
theorem normalize_workflow_object_id {workflow normal : NormalizedWorkflow}
    (h : normalize_workflow_object workflow.dump = .ok normal) : normal.id = workflow.id := by
  obtain ⟨u, -, h⟩ := bind_eq_ok_iff.mp h
  dsimp only [NormalizedWorkflow.dump] at h
  split at h
  · cases h
  · next validated hvalidated =>
    obtain ⟨u', -, h⟩ := bind_eq_ok_iff.mp h
    obtain ⟨u'', -, h⟩ := bind_eq_ok_iff.mp h
    cases h
    obtain ⟨hdecode, -⟩ := NormalizedWorkflow.model_validate_eq_some hvalidated
    obtain ⟨-, hdecode⟩ := Fields.decode_and.mp hdecode
    obtain ⟨hid, -⟩ := Fields.decode_and.mp hdecode
    change ((_normalize_workflow_mapping (workflow.payload_with_lead workflow.lead.dump)).lookup "id").bind
      Identifier.codec.decode = some normal.id at hid
    rw [lookup_normalize_workflow_mapping, if_neg (by decide), if_neg (by decide), NormalizedWorkflow.lookup_id,
      Option.map_some, normalize_identifier, Option.bind_some] at hid
    have hread := Identifier.codec.decode_encode workflow.id
    exact (Option.some.inj (hread.symm.trans hid)).symm

end OhMySubagents.Workflows
