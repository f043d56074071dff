import OhMySubagents.Workflows.NewMembers
import OhMySubagents.Workflows.Validation

open JsonData

namespace OhMySubagents.Workflows

open OhMySubagents.Workflows.NormalizedMember

/-- The members of a Workflow's dump. -/
abbrev NormalizedWorkflow.payload (workflow : NormalizedWorkflow) : List (String × JsonData) :=
  workflow.payload_with_lead workflow.lead.dump

theorem NormalizedWorkflow.payload_eq (workflow : NormalizedWorkflow) (lead : JsonData) :
    workflow.payload_with_lead lead = [("kind", .string "workflow"), ("id", .string workflow.id.val),
      ("description", .string workflow.description.val)] ++
      (new_field "note" (fun text => .string text.val) workflow.note ++ [("lead", lead)]) := by
  cases hnote : workflow.note <;> simp only [NormalizedWorkflow.payload_with_lead, hnote] <;> rfl

/-- How a reader takes the texts of a Workflow and the mapping of its lead. -/
structure WorkflowReader where
  look : Look
  fields : MemberFields → MemberFields
  text : String → String
  prose : Option String → Option String
  reads : Reads look fields

def WorkflowReader.as_written : WorkflowReader where
  look := Workflows.as_written
  fields fields := fields
  text text := text
  prose text := text
  reads := reads_as_written

def WorkflowReader.as_normalized : WorkflowReader where
  look := Workflows.as_normalized
  fields := MemberFields.normalized
  text := normalize_text
  prose text := (text.map normalize_text).filter fun text => !is_blank_text text
  reads := reads_as_normalized

theorem WorkflowReader.as_normalized_prose (text : Option String) :
    as_normalized.prose text = (text.map normalize_text).filter fun text => !is_blank_text text := rfl

/-- A payload's own line of a Workflow, as a reader takes it. -/
structure ReadsWorkflow (reader : WorkflowReader) (payload : List (String × JsonData)) (workflow : NormalizedWorkflow) :
    Prop where
  id : payload.lookup "id" = some (.string workflow.id.val)
  description : ∀ text, payload.lookup "description" = some (.string text) → workflow.description.val = reader.text text
  has_description : payload.lookup "description" ≠ none
  note : ∀ text : Option String, payload.lookup "note" = text.map .string →
    workflow.note.map Subtype.val = reader.prose text
  lead : (payload.lookup "lead").bind (read_member reader.look) = some workflow.lead

theorem is_blank_string (text : String) : is_blank (.string text) = is_blank_text text := rfl

section Reading

variable {payload : List (String × JsonData)} {workflow : NormalizedWorkflow}

/-- What a validated Workflow says of itself stands in its payload. -/
theorem validated_fields (h : NormalizedWorkflow.model_validate (.object payload) = some workflow) :
    payload.lookup "id" = some (.string workflow.id.val) ∧
      payload.lookup "description" = some (.string workflow.description.val) ∧
      ((workflow.note = none ∧ (payload.lookup "note" = none ∨ payload.lookup "note" = some .null)) ∨
        ∃ text, workflow.note = some text ∧ payload.lookup "note" = some (.string text.val)) ∧
      (payload.lookup "lead").bind (read_member as_written) = some workflow.lead := by
  obtain ⟨hdecode, hlead⟩ := NormalizedWorkflow.model_validate_eq_some h
  obtain ⟨-, hdecode⟩ := Fields.decode_and.mp hdecode
  obtain ⟨hid, hdecode⟩ := Fields.decode_and.mp hdecode
  obtain ⟨hdescription, hnote⟩ := Fields.decode_and.mp hdecode
  obtain ⟨id, hlookup, hid⟩ := Option.bind_eq_some_iff.mp hid
  obtain ⟨text, hlookup', hdescription⟩ := Option.bind_eq_some_iff.mp hdescription
  refine ⟨hlookup.trans (congrArg some (string_check_decode.mp hid)),
    hlookup'.trans (congrArg some (string_check_decode.mp hdescription)), optional_text_decode.mp hnote, ?_⟩
  rw [← hlead]
  exact congrArg _ (funext fun payload => (model_validate_eq_read payload).symm)

theorem reads_workflow_as_written (h : NormalizedWorkflow.model_validate (.object payload) = some workflow) :
    ReadsWorkflow .as_written payload workflow := by
  obtain ⟨hid, hdescription, hnote, hlead⟩ := validated_fields h
  refine ⟨hid, fun text htext => ?_, by rw [hdescription]; exact Option.some_ne_none _, fun text htext => ?_, hlead⟩
  · rw [hdescription] at htext
    exact JsonData.string.inj (Option.some.inj htext)
  · change workflow.note.map Subtype.val = text
    rcases hnote with ⟨hnone, hlookup⟩ | ⟨note, hsome, hlookup⟩
    · rw [hnone]
      cases text with
      | none => rfl
      | some text => rcases hlookup with hlookup | hlookup <;> rw [hlookup] at htext <;> cases htext
    · rw [hsome]
      cases text with
      | none =>
        rw [hlookup] at htext
        cases htext
      | some text =>
        rw [hlookup] at htext
        exact congrArg some (JsonData.string.inj (Option.some.inj htext))

theorem reads_workflow_as_normalized
    (h : NormalizedWorkflow.model_validate (.object (_normalize_workflow_mapping payload)) = some workflow)
    (hid : ∃ id : Contracts.Identifier, payload.lookup "id" = some (.string id.val)) :
    ReadsWorkflow .as_normalized payload workflow := by
  obtain ⟨hread, hdescription, hnote, hlead⟩ := validated_fields h
  rw [lookup_normalize_workflow_mapping, if_neg (by decide), if_neg (by decide)] at hread hdescription
  rw [lookup_normalize_workflow_mapping, if_neg (by decide), if_pos rfl] at hnote
  rw [lookup_normalize_workflow_mapping, if_pos rfl] at hlead
  refine ⟨?_, fun text htext => ?_, fun hnone => ?_, fun text htext => ?_, ?_⟩
  · obtain ⟨id, hid⟩ := hid
    rw [hid, Option.map_some, normalize_identifier] at hread
    rw [hid, hread]
  · rw [htext, Option.map_some] at hdescription
    exact (JsonData.string.inj (Option.some.inj hdescription)).symm
  · rw [hnone] at hdescription
    cases hdescription
  · change workflow.note.map Subtype.val = (text.map normalize_text).filter _
    rw [htext] at hnote
    cases text with
    | none =>
      rcases hnote with ⟨hnone, -⟩ | ⟨note, -, hlookup⟩
      · rw [hnone]
        rfl
      · cases hlookup
    | some text =>
      have hvalue : (Option.some (JsonData.string text)).map _normalize_value =
        some (.string (normalize_text text)) := rfl
      rw [Option.map_some, hvalue] at hnote
      rw [Option.map_some]
      cases hblank : is_blank_text (normalize_text text) with
      | true =>
        have hdropped : (some (JsonData.string (normalize_text text))).filter (fun value => !is_blank value) = none :=
          Option.filter_some_neg (by rw [is_blank_string, hblank]; rfl)
        rw [hdropped] at hnote
        rcases hnote with ⟨hnone, -⟩ | ⟨note, -, hlookup⟩
        · rw [hnone, Option.filter_some_neg (by simp [hblank])]
          rfl
        · cases hlookup
      | false =>
        have hkept : (some (JsonData.string (normalize_text text))).filter (fun value => !is_blank value) =
            some (.string (normalize_text text)) :=
          Option.filter_some_pos (by rw [is_blank_string, hblank]; rfl)
        rw [hkept] at hnote
        rcases hnote with ⟨-, hlookup | hlookup⟩ | ⟨note, hsome, hlookup⟩
        · cases hlookup
        · cases hlookup
        · rw [hsome, Option.filter_some_pos (by simp [hblank])]
          exact congrArg some (JsonData.string.inj (Option.some.inj hlookup)).symm
  · rw [← hlead]
    cases hpayload : payload.lookup "lead" with
    | none => rfl
    | some lead => exact (read_normalized_member lead).symm

end Reading

section Edited

variable {σ : Type} (allocate_id : σ → String × σ) (drawn : σ)

/-- The tree that an edit leaves, for a reader that takes every Member of the dump for a changed one. -/
def EditedLead (reader : WorkflowReader) (lead lead' : NormalizedMember) : DraftOperation → Prop
  | .update_workflow _ => lead' = lead.map_fields reader.fields
  | .add_member parent_member_id member =>
    ∃ found new, find_member parent_member_id.val lead = some found ∧
      read_member reader.look (_new_member_payload allocate_id drawn member).1 = some new ∧
      lead' = replace_member parent_member_id.val
        (.mk (reader.fields found.fields) (some (map_fields_all reader.fields (found.children.getD []) ++ [new])))
        (lead.map_fields reader.fields)
  | .update_member member_id patch =>
    ∃ found new, find_member member_id.val lead = some found ∧
      new.children = found.children.map (map_fields_all reader.fields) ∧
      MemberFields.members.decode (fun key => reader.look key
        (patched patch.dump key ((MemberFields.members.encode found.fields).lookup key))) = some new.fields ∧
      lead' = replace_member member_id.val new (lead.map_fields reader.fields)
  | .remove_member member_id =>
    ∃ rest, remove_member member_id.val lead = some rest ∧ lead' = rest.map_fields reader.fields

/-- The description that an edit leaves, unless it takes it away. -/
def edited_description (workflow : NormalizedWorkflow) : DraftOperation → Option String
  | .update_workflow patch => patch.description.elim (some workflow.description.val) fun set => set
  | _ => some workflow.description.val

def edited_note (workflow : NormalizedWorkflow) : DraftOperation → Option String
  | .update_workflow patch => patch.note.elim (workflow.note.map Subtype.val) fun set => set
  | _ => workflow.note.map Subtype.val

/-- What an edited payload is taken for. -/
structure Edited (reader : WorkflowReader) (workflow : NormalizedWorkflow) (operation : DraftOperation)
    (edited : NormalizedWorkflow) : Prop where
  id : edited.id = workflow.id
  description : (edited_description workflow operation).map reader.text = some edited.description.val
  note : edited.note.map Subtype.val = reader.prose (edited_note workflow operation)
  lead : EditedLead allocate_id drawn reader workflow.lead edited.lead operation

/-- The payload of an edit, before it is validated, and what the allocator draws from next. -/
def edited_payload (workflow : NormalizedWorkflow) : DraftOperation → Option (List (String × JsonData) × σ)
  | .update_workflow patch => some (_apply_patch workflow.payload patch.dump, drawn)
  | .add_member parent_member_id member =>
    (change_member parent_member_id.val (append_child (_new_member_payload allocate_id drawn member).1)
      workflow.lead.dump).map fun lead =>
        (workflow.payload_with_lead lead, (_new_member_payload allocate_id drawn member).2)
  | .update_member member_id patch =>
    (change_member member_id.val (fun member => _apply_patch member patch.dump) workflow.lead.dump).map fun lead =>
      (workflow.payload_with_lead lead, drawn)
  | .remove_member member_id =>
    if member_id = workflow.lead.fields.id then none
    else (_remove_member member_id.val workflow.lead.dump).map fun lead => (workflow.payload_with_lead lead, drawn)

variable {allocate_id drawn} {workflow edited : NormalizedWorkflow} {operation : DraftOperation} {next : σ}
  {payload : List (String × JsonData)} {reader : WorkflowReader}

theorem edit_normalized_workflow_eq_ok :
    edit_normalized_workflow allocate_id drawn workflow operation = .ok (edited, next) ↔
      ∃ payload, edited_payload allocate_id drawn workflow operation = some (payload, next) ∧
        _normalize_edited_workflow (.object payload) = .ok edited := by
  have hmap : ∀ (checked : Except WorkflowEditError NormalizedWorkflow) (last : σ),
      (do let result ← checked; return (result, last)) = Except.ok (edited, next) ↔ last = next ∧
        checked = .ok edited := by
    intro checked last
    rw [bind_eq_ok_iff]
    constructor
    · rintro ⟨result, hresult, h⟩
      cases h
      exact ⟨rfl, hresult⟩
    · rintro ⟨rfl, hresult⟩
      exact ⟨edited, hresult, rfl⟩
  have hsome : ∀ (payload : List (String × JsonData)) (last : σ),
      (∃ payload', some (payload, last) = some (payload', next) ∧
        _normalize_edited_workflow (.object payload') = .ok edited) ↔
      last = next ∧ _normalize_edited_workflow (.object payload) = .ok edited := by
    intro payload last
    simp only [Option.some.injEq, Prod.mk.injEq]
    constructor
    · rintro ⟨payload', ⟨rfl, rfl⟩, h⟩
      exact ⟨rfl, h⟩
    · rintro ⟨rfl, h⟩
      exact ⟨payload, ⟨rfl, rfl⟩, h⟩
  -- an edit that finds no Member is refused
  have hnone : ∀ rejection : WorkflowEditError, (Except.error rejection = .ok (edited, next) ↔
      ∃ payload : List (String × JsonData), none = some (payload, next) ∧
        _normalize_edited_workflow (.object payload) = .ok edited) := by
    intro rejection
    constructor
    · intro h
      cases h
    · rintro ⟨payload, h, -⟩
      cases h
  cases operation with
  | update_workflow patch =>
    rw [edit_normalized_workflow, hmap, edited_payload, hsome]
  | add_member parent_member_id member =>
    rw [edit_normalized_workflow, edited_payload]
    dsimp only
    cases change_member parent_member_id.val (append_child (_new_member_payload allocate_id drawn member).1)
      workflow.lead.dump with
    | none => exact hnone _
    | some lead =>
      dsimp only [Option.map_some]
      rw [hmap, hsome]
  | update_member member_id patch =>
    rw [edit_normalized_workflow, edited_payload]
    cases change_member member_id.val (fun member => _apply_patch member patch.dump) workflow.lead.dump with
    | none => exact hnone _
    | some lead =>
      dsimp only [Option.map_some]
      rw [hmap, hsome]
  | remove_member member_id =>
    rw [edit_normalized_workflow, edited_payload]
    split
    · exact hnone _
    · cases _remove_member member_id.val workflow.lead.dump with
      | none => exact hnone _
      | some lead =>
        dsimp only [Option.map_some]
        rw [hmap, hsome]

theorem lookup_payload_with_lead (lead : JsonData) :
    (workflow.payload_with_lead lead).lookup "id" = some (.string workflow.id.val) ∧
      (workflow.payload_with_lead lead).lookup "description" = some (.string workflow.description.val) ∧
      (workflow.payload_with_lead lead).lookup "note" = (workflow.note.map Subtype.val).map .string ∧
      (workflow.payload_with_lead lead).lookup "lead" = some lead := by
  rw [NormalizedWorkflow.payload_eq]
  refine ⟨rfl, rfl, ?_, ?_⟩
  · rw [List.lookup_append, List.lookup_append, lookup_new_field, Option.map_map]
    cases workflow.note <;> rfl
  · rw [List.lookup_append, List.lookup_append, lookup_new_field]
    rfl

private theorem edited_of_lead {lead : JsonData} (h : ReadsWorkflow reader (workflow.payload_with_lead lead) edited)
    (hdescription : edited_description workflow operation = some workflow.description.val)
    (hnote : edited_note workflow operation = workflow.note.map Subtype.val)
    (hlead : ∀ lead', read_member reader.look lead = some lead' →
      EditedLead allocate_id drawn reader workflow.lead lead' operation) :
    Edited allocate_id drawn reader workflow operation edited := by
  obtain ⟨hid', hdescription', hnote', hlead'⟩ := @lookup_payload_with_lead workflow lead
  refine ⟨?_, ?_, ?_, ?_⟩
  · have hid := h.id
    rw [hid'] at hid
    exact Subtype.ext (JsonData.string.inj (Option.some.inj hid)).symm
  · rw [hdescription, Option.map_some, h.description _ hdescription']
  · rw [hnote, h.note _ hnote']
  · have hread := h.lead
    rw [hlead', Option.bind_some] at hread
    exact hlead _ hread

/-- What an edited payload is taken for follows from what was there and from the operation. -/
theorem edited_of_payload (hpayload : edited_payload allocate_id drawn workflow operation = some (payload, next))
    (h : ReadsWorkflow reader payload edited) : Edited allocate_id drawn reader workflow operation edited := by
  cases operation with
  | update_workflow patch =>
    rw [edited_payload] at hpayload
    obtain ⟨rfl, rfl⟩ := Prod.mk.inj (Option.some.inj hpayload)
    obtain ⟨hid', hdescription', hnote', hlead'⟩ := @lookup_payload_with_lead workflow workflow.lead.dump
    refine ⟨?_, ?_, ?_, ?_⟩
    · have hid := h.id
      rw [lookup_apply_patch, WorkflowPatch.patched_dump, hid'] at hid
      exact Subtype.ext (JsonData.string.inj (Option.some.inj hid)).symm
    · have hlookup : (_apply_patch workflow.payload patch.dump).lookup "description" =
          (edited_description workflow (.update_workflow patch)).map .string := by
        rw [lookup_apply_patch, WorkflowPatch.patched_dump, if_pos rfl, hdescription', edited_description]
        cases patch.description <;> rfl
      cases htext : edited_description workflow (.update_workflow patch) with
      | none =>
        rw [htext] at hlookup
        exact absurd hlookup h.has_description
      | some text =>
        rw [htext] at hlookup
        rw [Option.map_some, h.description text hlookup]
    · refine h.note _ ?_
      rw [lookup_apply_patch, WorkflowPatch.patched_dump, if_neg (by decide), if_pos rfl, hnote', edited_note]
      cases patch.note <;> rfl
    · have hlead := h.lead
      rw [lookup_apply_patch, WorkflowPatch.patched_dump, hlead'] at hlead
      exact (Option.some.inj ((reader.reads.read_dump workflow.lead).symm.trans hlead)).symm
  | add_member parent_member_id member =>
    rw [edited_payload] at hpayload
    obtain ⟨lead, hlead, hpayload⟩ := Option.map_eq_some_iff.mp hpayload
    obtain ⟨rfl, rfl⟩ := Prod.mk.inj hpayload
    refine edited_of_lead h rfl rfl fun lead' hread => ?_
    obtain ⟨hnone, hfound⟩ := @change_member_dump parent_member_id.val
      (append_child (_new_member_payload allocate_id drawn member).1) workflow.lead
    cases hfind : find_member parent_member_id.val workflow.lead with
    | none =>
      rw [hnone hfind] at hlead
      cases hlead
    | some found =>
      obtain ⟨changed, hchanged, hchanges⟩ := hfound found hfind
      obtain rfl := Option.some.inj (hchanged.symm.trans hlead)
      rw [hchanges _ _ reader.reads, reader.reads.read_append_child, Option.map_map] at hread
      obtain ⟨new, hnew, rfl⟩ := Option.map_eq_some_iff.mp hread
      exact ⟨found, new, hfind, hnew, rfl⟩
  | update_member member_id patch =>
    rw [edited_payload] at hpayload
    obtain ⟨lead, hlead, hpayload⟩ := Option.map_eq_some_iff.mp hpayload
    obtain ⟨rfl, rfl⟩ := Prod.mk.inj hpayload
    refine edited_of_lead h rfl rfl fun lead' hread => ?_
    obtain ⟨hnone, hfound⟩ := @change_member_dump member_id.val (fun member => _apply_patch member patch.dump)
      workflow.lead
    cases hfind : find_member member_id.val workflow.lead with
    | none =>
      rw [hnone hfind] at hlead
      cases hlead
    | some found =>
      obtain ⟨changed, hchanged, hchanges⟩ := hfound found hfind
      obtain rfl := Option.some.inj (hchanged.symm.trans hlead)
      rw [hchanges _ _ reader.reads] at hread
      obtain ⟨new, hnew, rfl⟩ := Option.map_eq_some_iff.mp hread
      obtain ⟨hchildren, hfields⟩ := reader.reads.read_patched hnew
      exact ⟨found, new, hfind, hchildren, hfields, rfl⟩
  | remove_member member_id =>
    rw [edited_payload] at hpayload
    split at hpayload
    · cases hpayload
    · obtain ⟨lead, hlead, hpayload⟩ := Option.map_eq_some_iff.mp hpayload
      obtain ⟨rfl, rfl⟩ := Prod.mk.inj hpayload
      refine edited_of_lead h rfl rfl fun lead' hread => ?_
      rw [remove_member_dump] at hlead
      obtain ⟨rest, hrest, rfl⟩ := Option.map_eq_some_iff.mp hlead
      rw [reader.reads.read_dump] at hread
      exact ⟨rest, hrest, (Option.some.inj hread).symm⟩

private theorem replaced_fields {member_id : String} {lead found new : NormalizedMember}
    (hfind : find_member member_id lead = some found) :
    ∃ before after, lead.all_fields = before ++ (found.all_fields ++ after) ∧
      (∀ fields ∈ before, fields.id.val ≠ member_id) ∧
      (replace_member member_id new (lead.map_fields reader.fields)).all_fields =
        before.map reader.fields ++ (new.all_fields ++ after.map reader.fields) := by
  obtain ⟨before, after, hall, hbefore, -⟩ := replace_member_all_fields hfind
  have hfind' : find_member member_id (lead.map_fields reader.fields) = some (found.map_fields reader.fields) := by
    rw [(find_member_map_fields reader.reads.id).1, hfind, Option.map_some]
  obtain ⟨before', after', hall', hbefore', hreplaced⟩ := replace_member_all_fields hfind'
  -- the first Member with the identifier stands at the same place in both trees
  have hsame : before' = before.map reader.fields ∧ after' = after.map reader.fields := by
    rw [all_fields_map_fields, hall, List.map_append, List.map_append, all_fields_map_fields] at hall'
    have hid : ∀ fields, (reader.fields fields).id.val = fields.id.val := fun fields =>
      congrArg Subtype.val (reader.reads.id fields)
    have hroot : ∃ first rest, found.all_fields.map reader.fields = first :: rest ∧ first.id.val = member_id := by
      rw [all_fields_eq, List.map_cons]
      exact ⟨_, _, rfl, (hid _).trans (find_member_id hfind)⟩
    obtain ⟨first, rest, hroot, hfirst⟩ := hroot
    have hmapped : ∀ fields ∈ before.map reader.fields, fields.id.val ≠ member_id := by
      intro fields hfields
      obtain ⟨own, hown, rfl⟩ := List.mem_map.mp hfields
      rw [hid]
      exact hbefore own hown
    rw [hroot, List.cons_append, List.cons_append] at hall'
    have hbefore_eq : before.map reader.fields = before' := by
      have htake := congrArg (List.takeWhile fun fields => fields.id.val ≠ member_id) hall'
      rw [List.takeWhile_append_of_pos (by simpa using hmapped), List.takeWhile_append_of_pos (by simpa using hbefore'),
        List.takeWhile_cons_of_neg (by simpa using hfirst), List.takeWhile_cons_of_neg (by simpa using hfirst),
        List.append_nil, List.append_nil] at htake
      exact htake
    rw [hbefore_eq] at hall'
    have hafter := List.tail_eq_of_cons_eq (List.append_cancel_left hall')
    exact ⟨hbefore_eq.symm, (List.append_cancel_left hafter).symm⟩
  rw [hreplaced, hsame.1, hsame.2]
  exact ⟨before, after, hall, hbefore, rfl⟩

/-- An addition puts the new Members behind everything below their parent. -/
theorem EditedLead.add_fields {lead lead' : NormalizedMember} {parent_member_id : Contracts.Identifier}
    {member : NewMember} (h : EditedLead allocate_id drawn reader lead lead' (.add_member parent_member_id member)) :
    ∃ new before after, read_member reader.look (_new_member_payload allocate_id drawn member).1 = some new ∧
      lead.all_fields = before ++ after ∧
      lead'.all_fields = before.map reader.fields ++ (new.all_fields ++ after.map reader.fields) := by
  obtain ⟨found, new, hfind, hnew, rfl⟩ := h
  obtain ⟨before, after, hall, -, hreplaced⟩ := @replaced_fields reader parent_member_id.val lead found
    (.mk (reader.fields found.fields) (some (map_fields_all reader.fields (found.children.getD []) ++ [new]))) hfind
  refine ⟨new, before ++ found.all_fields, after, hnew, by rw [hall, List.append_assoc], ?_⟩
  rw [hreplaced, all_fields, all_fields_of_append, all_fields_of_map_fields_all, all_fields_of, all_fields_of,
    List.append_nil, List.map_append, all_fields_eq found, List.map_cons]
  simp only [List.cons_append, List.append_assoc]

/-- An update changes what one Member says of itself. -/
theorem EditedLead.update_fields {lead lead' : NormalizedMember} {member_id : Contracts.Identifier}
    {patch : MemberPatch} (h : EditedLead allocate_id drawn reader lead lead' (.update_member member_id patch)) :
    ∃ found new before after, lead.all_fields = before ++ found :: after ∧ found.id = member_id ∧
      (∀ fields ∈ before, fields.id ≠ member_id) ∧
      MemberFields.members.decode (fun key => reader.look key
        (patched patch.dump key ((MemberFields.members.encode found).lookup key))) = some new ∧
      lead'.all_fields = before.map reader.fields ++ new :: after.map reader.fields := by
  obtain ⟨found, new, hfind, hchildren, hfields, rfl⟩ := h
  obtain ⟨before, after, hall, hbefore, hreplaced⟩ := @replaced_fields reader member_id.val lead found new hfind
  refine ⟨found.fields, new.fields, before, all_fields_of (found.children.getD []) ++ after, ?_,
    Subtype.ext (find_member_id hfind), fun fields hmem heq =>
      hbefore fields hmem (congrArg Subtype.val heq), hfields, ?_⟩
  · rw [hall, all_fields_eq found, List.cons_append]
  · rw [hreplaced, all_fields_eq new, hchildren, List.map_append]
    have hbelow : all_fields_of ((found.children.map (map_fields_all reader.fields)).getD []) =
        (all_fields_of (found.children.getD [])).map reader.fields := by
      cases found.children with
      | none => rfl
      | some children => exact all_fields_of_map_fields_all _ _
    rw [hbelow, List.cons_append]

/-- A removal takes a Member and everything below it away. -/
theorem EditedLead.remove_fields {lead lead' : NormalizedMember} {member_id : Contracts.Identifier}
    (h : EditedLead allocate_id drawn reader lead lead' (.remove_member member_id)) :
    ∃ before gone after, lead.all_fields = before ++ (gone ++ after) ∧
      lead'.all_fields = before.map reader.fields ++ after.map reader.fields := by
  obtain ⟨rest, hrest, rfl⟩ := h
  obtain ⟨before, gone, after, hall, hremoved, -⟩ := remove_member_all_fields hrest
  exact ⟨before, gone.all_fields, after, hall, by rw [all_fields_map_fields, hremoved, List.map_append]⟩

/-- Whether no Member of a Workflow selects the retired provider. -/
def IsActive (workflow : NormalizedWorkflow) : Prop := ∀ fields ∈ workflow.lead.all_fields, is_retired fields = false

/-- An accepted edit leaves the edited Workflow in normal form, or as it is written when a Member of it selects the
    retired provider. -/
theorem accepted_edit (h : edit_normalized_workflow allocate_id drawn workflow operation = .ok (edited, next)) :
    ∃ payload validated, edited_payload allocate_id drawn workflow operation = some (payload, next) ∧
      _validate_json_shape (.object payload) = .ok () ∧ SemanticRules validated ∧
      NormalizedWorkflow.model_validate (.object (_normalize_workflow_mapping payload)) = some validated ∧
      Edited allocate_id drawn .as_normalized workflow operation validated ∧
      ((IsActive validated ∧ edited = validated) ∨
        (¬IsActive validated ∧ NormalizedWorkflow.model_validate (.object payload) = some edited ∧
          Edited allocate_id drawn .as_written workflow operation edited)) := by
  obtain ⟨payload, hpayload, h⟩ := edit_normalized_workflow_eq_ok.mp h
  obtain ⟨validated, hshape, hvalidated, hsemantics, hresult⟩ := normalize_edited_workflow_eq_ok h
  have hid : ∃ id : Contracts.Identifier, payload.lookup "id" = some (.string id.val) := by
    refine ⟨workflow.id, ?_⟩
    cases operation with
    | update_workflow patch =>
      rw [edited_payload] at hpayload
      obtain ⟨rfl, rfl⟩ := Prod.mk.inj (Option.some.inj hpayload)
      rw [lookup_apply_patch, WorkflowPatch.patched_dump]
      exact (lookup_payload_with_lead workflow.lead.dump).1
    | add_member parent_member_id member =>
      obtain ⟨lead, -, hpayload⟩ := Option.map_eq_some_iff.mp hpayload
      obtain ⟨rfl, rfl⟩ := Prod.mk.inj hpayload
      exact (lookup_payload_with_lead _).1
    | update_member member_id patch =>
      obtain ⟨lead, -, hpayload⟩ := Option.map_eq_some_iff.mp hpayload
      obtain ⟨rfl, rfl⟩ := Prod.mk.inj hpayload
      exact (lookup_payload_with_lead _).1
    | remove_member member_id =>
      rw [edited_payload] at hpayload
      split at hpayload
      · cases hpayload
      · obtain ⟨lead, -, hpayload⟩ := Option.map_eq_some_iff.mp hpayload
        obtain ⟨rfl, rfl⟩ := Prod.mk.inj hpayload
        exact (lookup_payload_with_lead _).1
  refine ⟨payload, validated, hpayload, hshape, hsemantics, hvalidated,
    edited_of_payload hpayload (reads_workflow_as_normalized hvalidated hid), ?_⟩
  rcases hresult with ⟨hactive, rfl⟩ | ⟨hretired, hread⟩
  · exact .inl ⟨hactive, rfl⟩
  · exact .inr ⟨hretired, hread, edited_of_payload hpayload (reads_workflow_as_written hread)⟩

end Edited

end OhMySubagents.Workflows
