import OhMySubagents.WorkflowStudio.Tree
import Mathlib.Data.List.Nodup
import Mathlib.Logic.Function.Basic

namespace OhMySubagents.WorkflowStudio

/-- The fields whose values the server has not accepted yet. -/
structure StudioDirtyState where
  workflow : List WorkflowEditableField
  member_ids : List String
  member_fields : String → List MemberEditableField

def empty_dirty : StudioDirtyState := ⟨[], [], fun _ => []⟩

/-- An insertion-ordered set, which an element joins at the end unless it is there. -/
def insert_last {α : Type} [DecidableEq α] (set : List α) (element : α) : List α :=
  if element ∈ set then set else set ++ [element]

/-- `[...new Set([...current, ...additions])]`. -/
def union {α : Type} [DecidableEq α] (current additions : List α) : List α :=
  (current ++ additions).foldl insert_last []

def has_dirty_fields (dirty : StudioDirtyState) : Bool := !dirty.workflow.isEmpty || !dirty.member_ids.isEmpty

/-- The keys that every plain object inherits. None of the values that it has for them can be spread. -/
def OBJECT_PROTOTYPE_KEYS : List String :=
  ["__defineGetter__", "__defineSetter__", "__lookupGetter__", "__lookupSetter__", "__proto__", "constructor",
    "hasOwnProperty", "isPrototypeOf", "propertyIsEnumerable", "toLocaleString", "toString", "valueOf"]

/-- Whether the plain object of the dirty fields has only an inherited value for a Member: it has one of its own for
    every Member that is listed. -/
def StudioDirtyState.inherits (dirty : StudioDirtyState) (member_id : String) : Bool :=
  !dirty.member_ids.contains member_id && OBJECT_PROTOTYPE_KEYS.contains member_id

def StudioDirtyState.edit_workflow (dirty : StudioDirtyState) (patch : WorkflowEdit) : StudioDirtyState :=
  { dirty with workflow := union dirty.workflow patch.keys }

def StudioDirtyState.edit_member (dirty : StudioDirtyState) (member_id : String) (patch : MemberEdit) :
    StudioDirtyState :=
  { dirty with
    member_ids := union dirty.member_ids [member_id]
    member_fields := Function.update dirty.member_fields member_id (union (dirty.member_fields member_id) patch.keys) }

/-- The fields that one request sends, with the values that they had when the request was built. -/
inductive SentDraftEdit
  | workflow (fields : List WorkflowEditableField) (values : WorkflowEditableField → Option String)
  | member (member_id : String) (fields : List MemberEditableField) (values : MemberEditableField → Option String)

inductive DraftOperation
  | update_workflow (patch : List (WorkflowEditableField × Option String))
  | update_member (member_id : String) (patch : List (MemberEditableField × Option String))

structure BuiltDraftEdit where
  operation : DraftOperation
  sent : SentDraftEdit

def build_workflow_operation (workflow : NormalizedWorkflow) (fields : List WorkflowEditableField) : BuiltDraftEdit :=
  let values := read_workflow_value workflow
  ⟨.update_workflow (fields.map fun field => (field, values field)), .workflow fields values⟩

def build_member_operation (member : NormalizedMember) (fields : List MemberEditableField) : BuiltDraftEdit :=
  let values := read_member_value member
  ⟨.update_member member.id (fields.map fun field => (field, values field)), .member member.id fields values⟩

/-- The request for one Member, if the Member is in the tree and has a dirty field. -/
def build_member_edit (workflow : NormalizedWorkflow) (dirty : StudioDirtyState) (member_id : String) :
    Option BuiltDraftEdit :=
  match find_member workflow.lead member_id with
  | none => none
  | some member =>
    if (dirty.member_fields member_id).isEmpty then none
    else some (build_member_operation member (dirty.member_fields member_id))

def build_draft_edit_batch (workflow : NormalizedWorkflow) (dirty : StudioDirtyState) : List BuiltDraftEdit :=
  (if dirty.workflow.isEmpty then [] else [build_workflow_operation workflow dirty.workflow]) ++
    dirty.member_ids.filterMap (build_member_edit workflow dirty)

def build_next_draft_edit (workflow : NormalizedWorkflow) (dirty : StudioDirtyState) : Option BuiltDraftEdit :=
  (build_draft_edit_batch workflow dirty).head?

def without_member (dirty : StudioDirtyState) (member_id : String) : StudioDirtyState :=
  { dirty with
    member_ids := dirty.member_ids.filter (· ≠ member_id)
    member_fields := Function.update dirty.member_fields member_id [] }

/-- The fields that stay dirty when the server has accepted a request: those it did not carry, and those whose
    value has changed since. -/
def retain_newer_dirty_fields (workflow : NormalizedWorkflow) (dirty : StudioDirtyState) :
    SentDraftEdit → StudioDirtyState
  | .workflow fields values =>
    { dirty with
      workflow := dirty.workflow.filter fun field =>
        field ∉ fields ∨ read_workflow_value workflow field ≠ values field }
  | .member member_id fields values =>
    match find_member workflow.lead member_id with
    | none => without_member dirty member_id
    | some member =>
      let remaining := (dirty.member_fields member_id).filter fun field =>
        field ∉ fields ∨ read_member_value member field ≠ values field
      if remaining.isEmpty then without_member dirty member_id
      else { dirty with member_fields := Function.update dirty.member_fields member_id remaining }

/-- The part of a local Workflow that a dirty field keeps. -/
def overlay_workflow_value (local_workflow result : NormalizedWorkflow) : WorkflowEditableField → NormalizedWorkflow
  | .description => { result with description := local_workflow.description }
  | .note => { result with note := local_workflow.note }

/-- The edit that sets the given fields of a Member to the values of another. -/
def member_patch (member : NormalizedMember) (fields : List MemberEditableField) : MemberEdit :=
  let value field := if field ∈ fields then some (read_member_value member field) else none
  ⟨value .title, value .description, value .instruction, value .provider, value .capabilities⟩

/-- The accepted Workflow, with the local values of the fields that are still dirty. -/
def overlay_dirty_values (accepted local_workflow : NormalizedWorkflow) (dirty : StudioDirtyState) :
    NormalizedWorkflow :=
  let result := dirty.workflow.foldl (overlay_workflow_value local_workflow) accepted
  dirty.member_ids.foldl (fun result member_id =>
    match find_member local_workflow.lead member_id with
    | none => result
    | some member => update_workflow_member result member_id (member_patch member (dirty.member_fields member_id)))
    result

/-- Whether a field is dirty. -/
def StudioDirtyState.has (dirty : StudioDirtyState) : EditableField → Prop
  | .workflow field => field ∈ dirty.workflow
  | .member member_id field => member_id ∈ dirty.member_ids ∧ field ∈ dirty.member_fields member_id

instance (dirty : StudioDirtyState) : DecidablePred dirty.has
  | .workflow field => inferInstanceAs (Decidable (field ∈ dirty.workflow))
  | .member member_id field =>
    inferInstanceAs (Decidable (member_id ∈ dirty.member_ids ∧ field ∈ dirty.member_fields member_id))

/-- The value that a request carries for a field. -/
def SentDraftEdit.carries : SentDraftEdit → EditableField → Option String → Prop
  | .workflow fields values, .workflow field, value => field ∈ fields ∧ value = values field
  | .member member_id fields values, .member member_id' field, value =>
    member_id' = member_id ∧ field ∈ fields ∧ value = values field
  | _, _, _ => False

/-- The value that an operation sets a field to. -/
def DraftOperation.sets : DraftOperation → EditableField → Option String → Prop
  | .update_workflow patch, .workflow field, value => (field, value) ∈ patch
  | .update_member member_id patch, .member member_id' field, value => member_id' = member_id ∧ (field, value) ∈ patch
  | _, _, _ => False

section Sets

variable {α : Type} [DecidableEq α] {elements set current additions : List α} {x : α}

theorem mem_foldl_insert_last : x ∈ elements.foldl insert_last set ↔ x ∈ set ∨ x ∈ elements := by
  induction elements generalizing set with
  | nil => simp
  | cons head tail ih =>
    rw [List.foldl_cons, ih, insert_last]
    split
    · rename_i hmem
      rw [List.mem_cons]
      refine ⟨by tauto, ?_⟩
      rintro (h | rfl | h)
      exacts [.inl h, .inl hmem, .inr h]
    · simp only [List.mem_append, List.mem_cons]
      tauto

theorem nodup_foldl_insert_last (h : set.Nodup) : (elements.foldl insert_last set).Nodup := by
  induction elements generalizing set with
  | nil => exact h
  | cons head tail ih =>
    refine ih ?_
    unfold insert_last
    split
    · exact h
    · rename_i hmem
      exact List.nodup_append.mpr ⟨h, by simp, fun a ha b hb hab =>
        hmem (List.mem_singleton.mp hb ▸ hab ▸ ha)⟩

@[simp] theorem mem_union : x ∈ union current additions ↔ x ∈ current ∨ x ∈ additions := by
  simp [union, mem_foldl_insert_last]

theorem nodup_union : (union current additions).Nodup := nodup_foldl_insert_last List.nodup_nil

end Sets

/-- The request of a group of fields: of the Workflow itself, or of one Member. -/
def SentDraftEdit.group : SentDraftEdit → Option String
  | .workflow _ _ => none
  | .member member_id _ _ => some member_id

def EditableField.group : EditableField → Option String
  | .workflow _ => none
  | .member member_id _ => some member_id

variable {workflow accepted local_workflow : NormalizedWorkflow} {dirty : StudioDirtyState} {x : EditableField}
  {value : Option String} {edit : BuiltDraftEdit} {member_id : String}

theorem SentDraftEdit.carries.group {sent : SentDraftEdit} (h : sent.carries x value) : x.group = sent.group := by
  cases sent <;> cases x <;> simp_all [carries, EditableField.group, SentDraftEdit.group]

mutual

theorem find_member_id (root : NormalizedMember) (member_id : String) {member : NormalizedMember}
    (h : find_member root member_id = some member) : member.id = member_id := by
  obtain ⟨id, title, description, instruction, provider, capabilities, children⟩ := root
  rw [find_member] at h
  split at h
  · cases h
    assumption
  · exact find_child_id children member_id h

theorem find_child_id (children : List NormalizedMember) (member_id : String) {member : NormalizedMember}
    (h : find_child children member_id = some member) : member.id = member_id := by
  match children with
  | [] => cases h
  | child :: rest =>
    rw [find_child] at h
    split at h
    · rename_i found hfound
      cases h
      exact find_member_id child member_id hfound
    · exact find_child_id rest member_id h

end

theorem build_member_edit_success (h : build_member_edit workflow dirty member_id = some edit) :
    ∃ member, find_member workflow.lead member_id = some member ∧ dirty.member_fields member_id ≠ [] ∧
      edit = build_member_operation member (dirty.member_fields member_id) := by
  unfold build_member_edit at h
  split at h
  · cases h
  · rename_i member hmember
    split at h
    · cases h
    · rename_i hfields
      cases h
      exact ⟨member, hmember, fun hnil => hfields (by rw [hnil]; rfl), rfl⟩

theorem mem_build_draft_edit_batch : edit ∈ build_draft_edit_batch workflow dirty ↔
    (dirty.workflow ≠ [] ∧ edit = build_workflow_operation workflow dirty.workflow) ∨
      ∃ member_id ∈ dirty.member_ids, build_member_edit workflow dirty member_id = some edit := by
  unfold build_draft_edit_batch
  rw [List.mem_append, List.mem_filterMap]
  refine or_congr_left ?_
  cases hworkflow : dirty.workflow <;> simp

/-- Every request carries dirty fields, each with its current value. -/
theorem build_draft_edit_batch_current (hedit : edit ∈ build_draft_edit_batch workflow dirty)
    (h : edit.sent.carries x value) : dirty.has x ∧ workflow.read x = some value := by
  rcases mem_build_draft_edit_batch.mp hedit with ⟨-, rfl⟩ | ⟨member_id, hdirty, hbuilt⟩
  · cases x with
    | member => exact h.elim
    | workflow field => exact ⟨h.1, by rw [h.2]; rfl⟩
  · obtain ⟨member, hmember, -, rfl⟩ := build_member_edit_success hbuilt
    obtain rfl := find_member_id _ _ hmember
    cases x with
    | workflow => exact h.elim
    | member member_id field =>
      obtain ⟨rfl, hfield, rfl⟩ := h
      refine ⟨⟨hdirty, hfield⟩, ?_⟩
      simp only [NormalizedWorkflow.read, hmember, Option.map_some]

/-- A request sends what it says it has sent. -/
theorem build_draft_edit_batch_operation (hedit : edit ∈ build_draft_edit_batch workflow dirty) :
    edit.operation.sets x value ↔ edit.sent.carries x value := by
  rcases mem_build_draft_edit_batch.mp hedit with ⟨-, rfl⟩ | ⟨member_id, -, hbuilt⟩
  · cases x <;> simp [build_workflow_operation, DraftOperation.sets, SentDraftEdit.carries, eq_comm]
  · obtain ⟨member, hmember, -, rfl⟩ := build_member_edit_success hbuilt
    cases x <;> simp [build_member_operation, DraftOperation.sets, SentDraftEdit.carries, eq_comm]

/-- The requests of one batch are for different groups of fields. -/
theorem build_draft_edit_batch_groups (h : dirty.member_ids.Nodup) :
    ((build_draft_edit_batch workflow dirty).map fun edit => edit.sent.group).Nodup := by
  have hmembers : (dirty.member_ids.filterMap (build_member_edit workflow dirty)).map (fun edit => edit.sent.group) =
      (dirty.member_ids.filter fun member_id => (build_member_edit workflow dirty member_id).isSome).map some := by
    generalize dirty.member_ids = ids
    induction ids with
    | nil => rfl
    | cons member_id rest ih =>
      cases hbuilt : build_member_edit workflow dirty member_id with
      | none => simpa [hbuilt] using ih
      | some edit =>
        obtain ⟨member, hmember, -, rfl⟩ := build_member_edit_success hbuilt
        obtain rfl := find_member_id _ _ hmember
        simpa [hbuilt, build_member_operation, SentDraftEdit.group] using ih
  unfold build_draft_edit_batch
  rw [List.map_append, hmembers]
  have hsome : ((dirty.member_ids.filter fun member_id => (build_member_edit workflow dirty member_id).isSome).map
      some).Nodup := List.Nodup.map (Option.some_injective _) (h.filter _)
  split
  · simpa using hsome
  · refine List.nodup_append.mpr ⟨by simp, hsome, fun a ha b hb hab => ?_⟩
    obtain ⟨member_id, -, rfl⟩ := List.mem_map.mp hb
    simp [build_workflow_operation, SentDraftEdit.group] at ha
    rw [ha] at hab
    cases hab

/-- Whether the Workflow has the group of fields that a request is for. -/
def SentDraftEdit.present (workflow : NormalizedWorkflow) : SentDraftEdit → Prop
  | .workflow _ _ => True
  | .member member_id _ _ => workflow.has_member member_id

theorem without_member_has : (without_member dirty member_id).has x ↔ dirty.has x ∧ x.group ≠ some member_id := by
  cases x with
  | workflow field => simp [without_member, StudioDirtyState.has, EditableField.group]
  | member id field =>
    by_cases hid : id = member_id
    · simp [without_member, StudioDirtyState.has, EditableField.group, hid]
    · simp [without_member, StudioDirtyState.has, EditableField.group, hid]

/-- A field stays dirty until a request carries its current value. -/
theorem retain_newer_dirty_fields_has {sent : SentDraftEdit} (hpresent : sent.present workflow) :
    (retain_newer_dirty_fields workflow dirty sent).has x ↔
      dirty.has x ∧ ¬ ∃ value, sent.carries x value ∧ workflow.read x = some value := by
  cases sent with
  | workflow fields values =>
    cases x with
    | member => simp [retain_newer_dirty_fields, StudioDirtyState.has, SentDraftEdit.carries]
    | workflow field =>
      simp [retain_newer_dirty_fields, StudioDirtyState.has, SentDraftEdit.carries, NormalizedWorkflow.read,
        imp_iff_not_or]
  | member member_id fields values =>
    obtain ⟨member, hmember⟩ := Option.isSome_iff_exists.mp hpresent
    have hsame : ∀ field, (∃ value, (SentDraftEdit.member member_id fields values).carries (.member member_id field)
        value ∧ workflow.read (.member member_id field) = some value) ↔
        field ∈ fields ∧ read_member_value member field = values field := by
      intro field
      simp [SentDraftEdit.carries, NormalizedWorkflow.read, hmember]
    have hother : x.group ≠ some member_id →
        ¬ ∃ value, (SentDraftEdit.member member_id fields values).carries x value ∧ workflow.read x = some value := by
      rintro hgroup ⟨value, hcarries, -⟩
      exact hgroup hcarries.group
    simp only [retain_newer_dirty_fields, hmember]
    split
    · rename_i hempty
      rw [List.isEmpty_iff, List.filter_eq_nil_iff] at hempty
      rw [without_member_has]
      refine ⟨fun h => ⟨h.1, hother h.2⟩, fun h => ⟨h.1, fun hgroup => h.2 ?_⟩⟩
      obtain ⟨field, rfl⟩ : ∃ field, x = .member member_id field := by
        cases x with
        | workflow => cases hgroup
        | member id field => exact ⟨field, by rw [Option.some.inj hgroup]⟩
      have hsent := hempty field h.1.2
      refine (hsame field).mpr ?_
      simpa [imp_iff_not_or] using hsent
    · by_cases hgroup : x.group = some member_id
      · obtain ⟨field, rfl⟩ : ∃ field, x = .member member_id field := by
          cases x with
          | workflow => cases hgroup
          | member id field => exact ⟨field, by rw [Option.some.inj hgroup]⟩
        rw [hsame]
        simp [StudioDirtyState.has, imp_iff_not_or, and_assoc]
      · refine ⟨fun h => ⟨?_, hother hgroup⟩, fun h => ?_⟩
        · cases x with
          | workflow => exact h
          | member id field =>
            have hid : id ≠ member_id := fun hid => hgroup (by rw [hid]; rfl)
            simpa [StudioDirtyState.has, Function.update_of_ne hid] using h
        · cases x with
          | workflow => exact h.1
          | member id field =>
            have hid : id ≠ member_id := fun hid => hgroup (by rw [hid]; rfl)
            simpa [StudioDirtyState.has, Function.update_of_ne hid] using h.1

/-! ### The local values over an accepted Workflow -/

theorem read_member_patch {member : NormalizedMember} {fields : List MemberEditableField}
    {field : MemberEditableField} :
    (member_patch member fields).get field =
    if field ∈ fields then some (read_member_value member field) else none := by
  cases field <;> rfl

theorem read_isSome_member {workflow : NormalizedWorkflow} (field : MemberEditableField) :
    (workflow.read (.member member_id field)).isSome = workflow.has_member member_id := by
  simp [NormalizedWorkflow.read, NormalizedWorkflow.has_member]

theorem read_update_workflow_member {patch : MemberEdit} :
    (update_workflow_member workflow member_id patch).read x =
      match x with
      | .workflow field => workflow.read (.workflow field)
      | .member id field => (workflow.read (.member id field)).map (patch.on member_id id field) := by
  cases x with
  | workflow field => cases field <;> rfl
  | member id field => exact read_update_member _ _ _ _ _

theorem read_foldl_overlay_workflow_value {fields : List WorkflowEditableField} {result : NormalizedWorkflow} :
    (fields.foldl (overlay_workflow_value local_workflow) result).read x =
      match x with
      | .workflow field =>
        if field ∈ fields then local_workflow.read (.workflow field) else result.read (.workflow field)
      | .member id field => result.read (.member id field) := by
  induction fields generalizing result with
  | nil => cases x <;> simp
  | cons head tail ih =>
    rw [List.foldl_cons, ih]
    cases x with
    | member => cases head <;> rfl
    | workflow field =>
      by_cases htail : field ∈ tail
      · simp [htail]
      · cases head <;> cases field <;>
          simp_all [overlay_workflow_value, NormalizedWorkflow.read, read_workflow_value]

/-- Overlaying the dirty values of some Members leaves every other field alone. -/
theorem read_foldl_overlay_members {member_ids : List String} {result : NormalizedWorkflow}
    {fields : String → List MemberEditableField} :
    (member_ids.foldl (fun result member_id =>
      match find_member local_workflow.lead member_id with
      | none => result
      | some member =>
        update_workflow_member result member_id (member_patch member (fields member_id))) result).read x = match x with
      | .workflow field => result.read (.workflow field)
      | .member id field =>
        (result.read (.member id field)).map fun value =>
          if id ∈ member_ids ∧ field ∈ fields id then (local_workflow.read (.member id field)).getD
            value else value := by
  induction member_ids generalizing result with
  | nil => cases x <;> simp
  | cons head tail ih =>
    rw [List.foldl_cons, ih]
    cases hhead : find_member local_workflow.lead head with
    | none =>
      cases x with
      | workflow => rfl
      | member id field =>
        refine congrArg (fun f => Option.map f _) (funext fun value => ?_)
        by_cases hid : id = head
        · subst hid
          simp [NormalizedWorkflow.read, hhead]
        · simp [hid]
    | some member =>
      cases x with
      | workflow field => simp only [read_update_workflow_member]
      | member id field =>
        simp only [read_update_workflow_member, Option.map_map]
        refine congrArg (fun f => Option.map f _) (funext fun value => ?_)
        by_cases hid : id = head
        · subst hid
          by_cases hfield : field ∈ fields id
          · simp [MemberEdit.on, read_member_patch, hfield, NormalizedWorkflow.read, hhead]
          · simp [MemberEdit.on, read_member_patch, hfield]
        · simp [MemberEdit.on, hid]

theorem read_overlay_dirty_values :
    (overlay_dirty_values accepted local_workflow dirty).read x =
      (accepted.read x).map fun value =>
        if dirty.has x then (local_workflow.read x).getD value else value := by
  unfold overlay_dirty_values
  rw [read_foldl_overlay_members]
  cases x with
  | workflow field =>
    simp only [read_foldl_overlay_workflow_value]
    by_cases hfield : field ∈ dirty.workflow
    · simp [StudioDirtyState.has, hfield, NormalizedWorkflow.read]
    · simp [StudioDirtyState.has, hfield]
  | member id field =>
    simp only [read_foldl_overlay_workflow_value]
    rfl

end OhMySubagents.WorkflowStudio
