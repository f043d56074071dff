import OhMySubagents.TaskEvents.Record
import OhMySubagents.Workflows.Ingest

open JsonData

namespace OhMySubagents.Workflows

open Contracts
open TaskEvents (hexdigest)

structure WorkflowPatch where
  description : Option (Option String)
  note : Option (Option String)
  changes : description.isSome || note.isSome

structure MemberPatch where
  title : Option (Option String)
  description : Option (Option String)
  instruction : Option (Option String)
  provider : Option (Option ProviderSelection)
  capabilities : Option (Option MemberCapabilities)
  changes : title.isSome || description.isSome || instruction.isSome || provider.isSome || capabilities.isSome

structure NewMemberFields where
  title : Option String := none
  description : Option String := none
  instruction : Option String := none
  provider : Option ProviderSelection := none
  capabilities : Option MemberCapabilities := none

inductive NewMember
  | mk (fields : NewMemberFields) (children : Option (List NewMember))

inductive DraftOperation
  | update_workflow (patch : WorkflowPatch)
  | add_member (parent_member_id : Identifier) (member : NewMember)
  | update_member (member_id : Identifier) (patch : MemberPatch)
  | remove_member (member_id : Identifier)

/-- What an edit fails with: the issues of its input, or a `ValidationError` of the content itself. -/
inductive WorkflowEditError
  | input (error : WorkflowInputError)
  | validation
  deriving DecidableEq, Repr

/-- One member of a patch's dump, when it was set. -/
def patch_field {α : Type} (key : String) (encode : α → JsonData) (value : Option (Option α)) :
    List (String × JsonData) :=
  value.toList.map fun value => (key, value.elim .null encode)

/-- `model_dump(mode="json", exclude_unset=True)`. -/
def WorkflowPatch.dump (patch : WorkflowPatch) : List (String × JsonData) :=
  patch_field "description" .string patch.description ++ patch_field "note" .string patch.note

def MemberPatch.dump (patch : MemberPatch) : List (String × JsonData) :=
  patch_field "title" .string patch.title ++ patch_field "description" .string patch.description ++
    patch_field "instruction" .string patch.instruction ++
    patch_field "provider" ProviderSelection.codec.encode patch.provider ++
    patch_field "capabilities" MemberCapabilities.codec.encode patch.capabilities

/-- `payload[key] = value`. -/
def set_item (payload : List (String × JsonData)) (key : String) (value : JsonData) : List (String × JsonData) :=
  if payload.any fun member => member.1 = key then
    payload.map fun member => if member.1 = key then (key, value) else member
  else payload ++ [(key, value)]

def _apply_patch (payload patch : List (String × JsonData)) : List (String × JsonData) :=
  patch.foldl (fun payload item =>
    if item.2 = .null then payload.filter fun member => member.1 ≠ item.1
    else set_item payload item.1 item.2) payload

/-- One member of a new Member's dump, when it has a value. -/
def new_field {α : Type} (key : String) (encode : α → JsonData) (value : Option α) : List (String × JsonData) :=
  value.toList.map fun value => (key, encode value)

/-- `model_dump(mode="json", exclude_none=True, exclude={"children"})`. -/
def NewMemberFields.dump (fields : NewMemberFields) : List (String × JsonData) :=
  new_field "title" .string fields.title ++ new_field "description" .string fields.description ++
    new_field "instruction" .string fields.instruction ++
    new_field "provider" ProviderSelection.codec.encode fields.provider ++
    new_field "capabilities" MemberCapabilities.codec.encode fields.capabilities

section Allocator

variable {σ : Type} (allocate_id : σ → String × σ)

mutual

def _new_member_payload (drawn : σ) : NewMember → JsonData × σ
  | .mk fields none => (.object (("id", .string (allocate_id drawn).1) :: fields.dump), (allocate_id drawn).2)
  | .mk fields (some children) =>
    let (items, next) := new_children_payload (allocate_id drawn).2 children
    (.object (("id", .string (allocate_id drawn).1) :: (fields.dump ++ [("children", .array items)])), next)

def new_children_payload (drawn : σ) : List NewMember → List JsonData × σ
  | [] => ([], drawn)
  | child :: children =>
    let (item, next) := _new_member_payload drawn child
    let (items, last) := new_children_payload next children
    (item :: items, last)

end

end Allocator

/-- Whether a mapping is the Member with an identifier. -/
def has_member_id (member_id : String) (members : List (String × JsonData)) : Bool :=
  members.lookup "id" = some (.string member_id)

section FirstMember

variable (member_id : String) (change : List (String × JsonData) → List (String × JsonData))

mutual

/-- The tree in which the Member that `_find_member` returns is changed in place. -/
def change_member : JsonData → Option JsonData
  | .object members =>
    if has_member_id member_id members then some (.object (change members))
    else (change_children_field members).map .object
  | _ => none

def change_children_field : List (String × JsonData) → Option (List (String × JsonData))
  | [] => none
  | (key, value) :: members =>
    if key = "children" then (change_children value).map fun value => (key, value) :: members
    else (change_children_field members).map ((key, value) :: ·)

def change_children : JsonData → Option JsonData
  | .array items => (change_first items).map .array
  | _ => none

def change_first : List JsonData → Option (List JsonData)
  | [] => none
  | child :: items =>
    match change_member child with
    | some child => some (child :: items)
    | none => (change_first items).map (child :: ·)

end

end FirstMember

def is_member_with (member_id : String) : JsonData → Bool
  | .object members => has_member_id member_id members
  | _ => false

section Removal

variable (member_id : String)

mutual

/-- The tree without the Member; `none` when it is not below the root. -/
def _remove_member : JsonData → Option JsonData
  | .object members => (remove_in_children_field members).map .object
  | _ => none

def remove_in_children_field : List (String × JsonData) → Option (List (String × JsonData))
  | [] => none
  | (key, value) :: members =>
    if key = "children" then (remove_in_children value).map fun value => (key, value) :: members
    else (remove_in_children_field members).map ((key, value) :: ·)

def remove_in_children : JsonData → Option JsonData
  | .array items => (remove_first items).map .array
  | _ => none

def remove_first : List JsonData → Option (List JsonData)
  | [] => none
  | child :: items =>
    if is_member_with member_id child then some items
    else
      match _remove_member child with
      | some child => some (child :: items)
      | none => (remove_first items).map (child :: ·)

end

end Removal

/-- `parent.setdefault("children", []).append(new_member)`; the `children` of a dump are always a list. -/
def append_child (new_member : JsonData) (parent : List (String × JsonData)) : List (String × JsonData) :=
  match parent.lookup "children" with
  | some (.array children) => set_item parent "children" (.array (children ++ [new_member]))
  | some _ => parent
  | none => parent ++ [("children", .array [new_member])]

def _missing_member (member_id : String) : WorkflowInputError :=
  workflow_input_error "operation.member_id" [.key "member_id"] ("Member '" ++ member_id ++ "' does not exist")

/-- Validate an edited draft while allowing other retired Members to remain repairable. -/
def _normalize_edited_workflow (payload : JsonData) : Except WorkflowEditError NormalizedWorkflow :=
  match normalize_workflow_object payload with
  | .ok workflow => .ok workflow
  | .error error =>
    if error.issues.isEmpty || error.issues.any fun issue => issue.source ≠ "provider.retired" then
      .error (.input error)
    else
      match NormalizedWorkflow.model_validate payload with
      | some workflow => .ok workflow
      | none => .error .validation

/-- The Workflow after one operation, and what the allocator draws from next. -/
def edit_normalized_workflow {σ : Type} (allocate_id : σ → String × σ) (drawn : σ) (workflow : NormalizedWorkflow) :
    DraftOperation → Except WorkflowEditError (NormalizedWorkflow × σ)
  | .update_workflow patch => do
    let edited ← _normalize_edited_workflow
      (.object (_apply_patch (workflow.payload_with_lead workflow.lead.dump) patch.dump))
    return (edited, drawn)
  | .add_member parent_member_id member => do
    let (new_member, next) := _new_member_payload allocate_id drawn member
    match change_member parent_member_id.val (append_child new_member) workflow.lead.dump with
    | none => throw (.input (_missing_member parent_member_id.val))
    | some lead => do
      let edited ← _normalize_edited_workflow (.object (workflow.payload_with_lead lead))
      return (edited, next)
  | .update_member member_id patch =>
    match change_member member_id.val (fun member => _apply_patch member patch.dump) workflow.lead.dump with
    | none => throw (.input (_missing_member member_id.val))
    | some lead => do
      let edited ← _normalize_edited_workflow (.object (workflow.payload_with_lead lead))
      return (edited, drawn)
  | .remove_member member_id =>
    if member_id = workflow.lead.fields.id then
      throw (.input (workflow_input_error "operation.remove_member" [.key "member_id"]
        "the lead Member cannot be removed"))
    else
      match _remove_member member_id.val workflow.lead.dump with
      | none => throw (.input (_missing_member member_id.val))
      | some lead => do
        let edited ← _normalize_edited_workflow (.object (workflow.payload_with_lead lead))
        return (edited, drawn)

/-- `allocate_member_id` of a draft: the text of the next number. -/
def allocate_member_id (next_member_sequence : Nat) : String × Nat :=
  ("member-" ++ toString next_member_sequence, next_member_sequence + 1)

/-- A new Workflow, whose Members are numbered from one. -/
def build_new_workflow (workflow_id : Identifier) (description : NonblankText 1024) (note : Option (BoundedText 8192))
    (lead : Option NewMember) : Except WorkflowEditError NormalizedWorkflow :=
  let (lead_payload, _) := _new_member_payload allocate_member_id 1 (lead.getD (.mk {} none))
  _normalize_edited_workflow (.object (
    [("kind", .string "workflow"), ("id", .string workflow_id.val), ("description", .string description.val),
      ("lead", lead_payload)] ++ new_field "note" .string (note.map Subtype.val)))

/-- The number of a `member-<number>` identifier. -/
def member_number (member_id : String) : Option Nat :=
  match member_id.toList with
  | 'm' :: 'e' :: 'm' :: 'b' :: 'e' :: 'r' :: '-' :: digits =>
    if digits ≠ [] ∧ digits.all Char.isDigit then some (Nat.ofDigitChars 10 digits 0) else none
  | _ => none

mutual

/-- `visit` of `next_workflow_member_sequence`. -/
def highest_member_number : NormalizedMember → Nat
  | .mk fields none => (member_number fields.id.val).getD 0
  | .mk fields (some children) => max ((member_number fields.id.val).getD 0) (highest_child_number children)

def highest_child_number : List NormalizedMember → Nat
  | [] => 0
  | child :: children => max (highest_member_number child) (highest_child_number children)

end

def next_workflow_member_sequence (workflow : NormalizedWorkflow) : Nat := highest_member_number workflow.lead + 1

def canonical_workflow_text (workflow : NormalizedWorkflow) : String := String.ofList (sort_keys workflow.dump).dumps

def canonical_workflow_hash (sha256 : String → BitVec 256) (workflow : NormalizedWorkflow) : String :=
  String.ofList (hexdigest (sha256 (canonical_workflow_text workflow)))

end OhMySubagents.Workflows
