import Mathlib.Algebra.GroupWithZero.Nat
import Mathlib.Data.Option.Basic

namespace OhMySubagents.WorkflowStudio

inductive WorkflowEditableField
  | description | note
deriving DecidableEq, Repr

inductive MemberEditableField
  | title | description | instruction | provider | capabilities
deriving DecidableEq, Repr

/-- A Member of an authored Workflow. Its provider selection and its capabilities are JSON texts: the
    Console compares them by `JSON.stringify` and reads nothing inside them. -/
structure NormalizedMember where
  id : String
  title : Option String := none
  description : Option String := none
  instruction : Option String := none
  provider : Option String := none
  capabilities : Option String := none
  children : List NormalizedMember := []

structure NormalizedWorkflow where
  id : String
  description : String
  note : Option String
  lead : NormalizedMember

/-- What the user changes in a Member: a field that is not given, one to clear, or one to set. -/
structure MemberEdit where
  title : Option (Option String) := none
  description : Option (Option String) := none
  instruction : Option (Option String) := none
  provider : Option (Option String) := none
  capabilities : Option (Option String) := none
deriving DecidableEq

structure WorkflowEdit where
  description : Option String := none
  note : Option (Option String) := none
deriving DecidableEq

def MemberEdit.get (patch : MemberEdit) : MemberEditableField → Option (Option String)
  | .title => patch.title
  | .description => patch.description
  | .instruction => patch.instruction
  | .provider => patch.provider
  | .capabilities => patch.capabilities

def WorkflowEdit.get (patch : WorkflowEdit) : WorkflowEditableField → Option (Option String)
  | .description => patch.description.map some
  | .note => patch.note

/-- `Object.keys` of a patch. -/
def MemberEdit.keys (patch : MemberEdit) : List MemberEditableField :=
  [.title, .description, .instruction, .provider, .capabilities].filter fun field => (patch.get field).isSome

def WorkflowEdit.keys (patch : WorkflowEdit) : List WorkflowEditableField :=
  [.description, .note].filter fun field => (patch.get field).isSome

def read_workflow_value (workflow : NormalizedWorkflow) : WorkflowEditableField → Option String
  | .description => some workflow.description
  | .note => workflow.note

def read_member_value (member : NormalizedMember) : MemberEditableField → Option String
  | .title => member.title
  | .description => member.description
  | .instruction => member.instruction
  | .provider => member.provider
  | .capabilities => member.capabilities

def apply_member_edit (member : NormalizedMember) (patch : MemberEdit) : NormalizedMember :=
  { member with
    title := patch.title.getD member.title
    description := patch.description.getD member.description
    instruction := patch.instruction.getD member.instruction
    provider := patch.provider.getD member.provider
    capabilities := patch.capabilities.getD member.capabilities }

def apply_workflow_edit (workflow : NormalizedWorkflow) (patch : WorkflowEdit) : NormalizedWorkflow :=
  { workflow with description := patch.description.getD workflow.description, note := patch.note.getD workflow.note }

mutual

/-- The first Member with an identifier, in document order. -/
def find_member (root : NormalizedMember) (member_id : String) : Option NormalizedMember :=
  match root with
  | ⟨id, title, description, instruction, provider, capabilities, children⟩ =>
    if id = member_id then some ⟨id, title, description, instruction, provider, capabilities, children⟩
    else find_child children member_id

def find_child (children : List NormalizedMember) (member_id : String) : Option NormalizedMember :=
  match children with
  | [] => none
  | child :: rest =>
    match find_member child member_id with
    | some found => some found
    | none => find_child rest member_id

end

mutual

def update_member (root : NormalizedMember) (member_id : String) (patch : MemberEdit) : NormalizedMember :=
  match root with
  | ⟨id, title, description, instruction, provider, capabilities, children⟩ =>
    if id = member_id then
      apply_member_edit ⟨id, title, description, instruction, provider, capabilities, children⟩ patch
    else ⟨id, title, description, instruction, provider, capabilities, update_children children member_id patch⟩

def update_children (children : List NormalizedMember) (member_id : String) (patch : MemberEdit) :
    List NormalizedMember :=
  match children with
  | [] => []
  | child :: rest => update_member child member_id patch :: update_children rest member_id patch

end

def update_workflow_member (workflow : NormalizedWorkflow) (member_id : String) (patch : MemberEdit) :
    NormalizedWorkflow :=
  { workflow with lead := update_member workflow.lead member_id patch }

/-- A field of a Workflow that the user edits. -/
inductive EditableField
  | workflow (field : WorkflowEditableField)
  | member (member_id : String) (field : MemberEditableField)
deriving DecidableEq

def NormalizedWorkflow.has_member (workflow : NormalizedWorkflow) (member_id : String) : Bool :=
  (find_member workflow.lead member_id).isSome

/-- The value that a Workflow shows in a field, if it has the field. -/
def NormalizedWorkflow.read (workflow : NormalizedWorkflow) : EditableField → Option (Option String)
  | .workflow field => some (read_workflow_value workflow field)
  | .member member_id field => (find_member workflow.lead member_id).map (read_member_value · field)

theorem read_apply_workflow_edit (workflow : NormalizedWorkflow) (patch : WorkflowEdit)
    (field : WorkflowEditableField) :
    read_workflow_value (apply_workflow_edit workflow patch) field =
      (patch.get field).getD (read_workflow_value workflow field) := by
  cases field
  · cases hpatch : patch.description <;> simp [read_workflow_value, apply_workflow_edit, WorkflowEdit.get, hpatch]
  · rfl

theorem MemberEdit.mem_keys {patch : MemberEdit} {field : MemberEditableField} :
    field ∈ patch.keys ↔ (patch.get field).isSome := by
  cases field <;> simp [keys]

theorem WorkflowEdit.mem_keys {patch : WorkflowEdit} {field : WorkflowEditableField} :
    field ∈ patch.keys ↔ (patch.get field).isSome := by
  cases field <;> simp [keys]

/-- What a Member edit makes of a field of the Member `member_id'`. -/
def MemberEdit.on (patch : MemberEdit) (member_id member_id' : String) (field : MemberEditableField)
    (value : Option String) : Option String :=
  if member_id' = member_id then (patch.get field).getD value else value

mutual

theorem read_update_member (root : NormalizedMember) (member_id : String) (patch : MemberEdit) (member_id' : String)
    (field : MemberEditableField) :
    (find_member (update_member root member_id patch) member_id').map (read_member_value · field) =
      ((find_member root member_id').map (read_member_value · field)).map (patch.on member_id member_id' field) := by
  obtain ⟨id, title, description, instruction, provider, capabilities, children⟩ := root
  by_cases hid : id = member_id
  · by_cases hid' : id = member_id'
    · simp only [update_member, hid, ↓reduceIte, find_member, apply_member_edit]
      subst hid hid'
      cases field <;> simp [MemberEdit.on, MemberEdit.get, read_member_value]
    · have hne : member_id' ≠ member_id := fun h => hid' (hid.trans h.symm)
      have hon : patch.on member_id member_id' field = fun value => value := by
        funext value
        simp [MemberEdit.on, hne]
      simp only [update_member, hid, ↓reduceIte, apply_member_edit, find_member]
      rw [if_neg hne.symm, if_neg hne.symm, hon, Option.map_id_fun', id_eq]
  · simp only [update_member, if_neg hid, find_member]
    by_cases hid' : id = member_id'
    · subst hid'
      simp only [↓reduceIte, Option.map_some, MemberEdit.on, if_neg hid]
      cases field <;> rfl
    · rw [if_neg hid', if_neg hid']
      exact read_update_children children member_id patch member_id' field

theorem read_update_children (children : List NormalizedMember) (member_id : String) (patch : MemberEdit)
    (member_id' : String) (field : MemberEditableField) :
    (find_child (update_children children member_id patch) member_id').map (read_member_value · field) =
      ((find_child children member_id').map (read_member_value · field)).map
        (patch.on member_id member_id' field) := by
  match children with
  | [] => rfl
  | child :: rest =>
    have hchild := read_update_member child member_id patch member_id' field
    simp only [update_children, find_child]
    cases hfound : find_member child member_id' with
    | none =>
      rw [hfound, Option.map_none, Option.map_none, Option.map_eq_none_iff] at hchild
      rw [hchild]
      exact read_update_children rest member_id patch member_id' field
    | some found =>
      rw [hfound] at hchild
      obtain ⟨found', hfound', -⟩ := Option.map_eq_some_iff.mp (hchild.trans rfl)
      rw [hfound'] at hchild ⊢
      exact hchild

end

structure StudioValidationIssue where
  path : String
  message : String
deriving DecidableEq, Repr

/-- The characters that `String.prototype.trim` removes. -/
def is_trimmed (c : Char) : Bool :=
  c.toNat ∈ [0x09, 0x0A, 0x0B, 0x0C, 0x0D, 0x20, 0xA0, 0x1680, 0x2028, 0x2029, 0x202F, 0x205F, 0x3000, 0xFEFF] ||
    (0x2000 ≤ c.toNat && c.toNat ≤ 0x200A)

/-- The length of a JavaScript string. -/
def code_unit_length (text : String) : Nat := (text.toList.map fun c => if c.toNat < 0x10000 then 1 else 2).sum

def validate_workflow_description (workflow : NormalizedWorkflow) : List StudioValidationIssue :=
  if workflow.description.toList.all is_trimmed then
    [⟨"$.description", "Describe when this team should be used."⟩]
  else if code_unit_length workflow.description > 1024 then
    [⟨"$.description", "Description must be 1,024 characters or fewer."⟩]
  else []

def validate_workflow_note (workflow : NormalizedWorkflow) : List StudioValidationIssue :=
  if (workflow.note.map code_unit_length).getD 0 > 8192 then
    [⟨"$.note", "Shared note must be 8,192 characters or fewer."⟩]
  else []

def validate_member_field (member_id field humanized : String) (value : Option String) : List StudioValidationIssue :=
  if (value.map code_unit_length).getD 0 > 16384 then
    [⟨"$.members." ++ member_id ++ "." ++ field, humanized ++ " must be 16,384 characters or fewer."⟩]
  else []

mutual

def validate_member (member : NormalizedMember) : List StudioValidationIssue :=
  match member with
  | ⟨id, title, description, instruction, _, _, children⟩ =>
    validate_member_field id "title" "Title" title ++
      validate_member_field id "description" "Description" description ++
      validate_member_field id "instruction" "Instruction" instruction ++ validate_members children

def validate_members (members : List NormalizedMember) : List StudioValidationIssue :=
  match members with
  | [] => []
  | member :: rest => validate_member member ++ validate_members rest

end

def validate_local_workflow (workflow : NormalizedWorkflow) : List StudioValidationIssue :=
  validate_workflow_description workflow ++ validate_workflow_note workflow ++ validate_member workflow.lead

end OhMySubagents.WorkflowStudio
