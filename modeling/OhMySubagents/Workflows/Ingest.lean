import OhMySubagents.Text.ExactText
import OhMySubagents.Workflows.Contracts

open JsonData

namespace OhMySubagents.Workflows

open Contracts

def MAX_COLLECTION_DEPTH : Nat := 32

def MAX_COLLECTION_NODES : Nat := 4096

def MAX_MEMBERS : Nat := 256

def MAX_MEMBER_DEPTH : Nat := 12

/-- One step of a path below `$`. -/
inductive PathPart
  | key (name : String)
  | index (place : Nat)
  deriving DecidableEq, Repr

structure WorkflowValidationIssue where
  source : String
  path : List PathPart
  message : String
  deriving DecidableEq, Repr

structure WorkflowInputError where
  issues : List WorkflowValidationIssue
  deriving DecidableEq, Repr

def workflow_input_error (source : String) (path : List PathPart) (message : String) : WorkflowInputError :=
  ⟨[{ source, path, message }]⟩

/-- `f"{codepoint:04X}"`. -/
def format_codepoint (codepoint : Nat) : String :=
  String.ofList (((Nat.toDigits 16 codepoint).map Char.toUpper).leftpad 4 '0')

def _validate_text (value : String) (path : List PathPart) : Except WorkflowInputError Unit :=
  match value.toList.find? fun c => !is_xml_character c with
  | none => .ok ()
  | some c =>
    .error (workflow_input_error "input.character" path ("illegal text character U+" ++ format_codepoint c.toNat))

def check_collection_nodes (path : List PathPart) (collection_nodes : Nat) : Except WorkflowInputError Nat :=
  if MAX_COLLECTION_NODES < collection_nodes then
    .error (workflow_input_error "input.nodes" path ("collection node count exceeds " ++ toString MAX_COLLECTION_NODES))
  else .ok collection_nodes

def check_collection_depth (path : List PathPart) (depth : Nat) : Except WorkflowInputError Unit :=
  if MAX_COLLECTION_DEPTH < depth then
    .error (workflow_input_error "input.depth" path ("collection depth exceeds " ++ toString MAX_COLLECTION_DEPTH))
  else .ok ()

mutual

/-- `visit` of `_validate_json_shape`: the number of collections that were seen so far. -/
def visit_json (path : List PathPart) (depth collection_nodes : Nat) : JsonData → Except WorkflowInputError Nat
  | .object members => do
    check_collection_depth path depth
    let collection_nodes ← visit_json_members path depth (collection_nodes + 1) members
    check_collection_nodes path collection_nodes
  | .array items => do
    check_collection_depth path depth
    let collection_nodes ← visit_json_items path depth 0 (collection_nodes + 1) items
    check_collection_nodes path collection_nodes
  | .string value => do
    _validate_text value path
    check_collection_nodes path collection_nodes
  | .null | .bool _ | .int _ => check_collection_nodes path collection_nodes

def visit_json_members (path : List PathPart) (depth collection_nodes : Nat) :
    List (String × JsonData) → Except WorkflowInputError Nat
  | [] => .ok collection_nodes
  | (key, child) :: members => do
    _validate_text key (path ++ [.key key])
    let collection_nodes ← visit_json (path ++ [.key key]) (depth + 1) collection_nodes child
    visit_json_members path depth collection_nodes members

def visit_json_items (path : List PathPart) (depth index collection_nodes : Nat) :
    List JsonData → Except WorkflowInputError Nat
  | [] => .ok collection_nodes
  | child :: items => do
    let collection_nodes ← visit_json (path ++ [.index index]) (depth + 1) collection_nodes child
    visit_json_items path depth (index + 1) collection_nodes items

end

def _validate_json_shape (payload : JsonData) : Except WorkflowInputError Unit := do
  let _ ← visit_json [] 1 0 payload

mutual

/-- `_normalize_value`, of a payload whose texts `_validate_json_shape` has accepted. -/
def _normalize_value : JsonData → JsonData
  | .object members => .object (normalize_members members)
  | .array items => .array (normalize_items items)
  | .string value => .string (String.ofList (normalize_newlines value.toList))
  | other => other

def normalize_members : List (String × JsonData) → List (String × JsonData)
  | [] => []
  | (key, child) :: members => (key, _normalize_value child) :: normalize_members members

def normalize_items : List JsonData → List JsonData
  | [] => []
  | child :: items => _normalize_value child :: normalize_items items

end

def is_blank : JsonData → Bool
  | .null => true
  | .string value => value.toList.all Char.is_space
  | _ => false

def _omit_blank_optional (payload : List (String × JsonData)) (key : String) : List (String × JsonData) :=
  if (payload.lookup key).any is_blank then payload.filter fun member => member.1 ≠ key else payload

def _OPTIONAL_MEMBER_PROSE : List String := ["title", "description", "instruction"]

mutual

def _normalize_member_mapping : JsonData → JsonData
  | .object members => .object (_OPTIONAL_MEMBER_PROSE.foldl _omit_blank_optional (normalize_children_field members))
  | other => other

/-- The members of a Member's mapping, with the Members among its `children` normalized. -/
def normalize_children_field : List (String × JsonData) → List (String × JsonData)
  | [] => []
  | (key, value) :: members =>
    (key, if key = "children" then normalize_children value else value) :: normalize_children_field members

def normalize_children : JsonData → JsonData
  | .array items => .array (normalize_child_mappings items)
  | other => other

def normalize_child_mappings : List JsonData → List JsonData
  | [] => []
  | child :: items => _normalize_member_mapping child :: normalize_child_mappings items

end

def _normalize_workflow_mapping (payload : List (String × JsonData)) : List (String × JsonData) :=
  (_omit_blank_optional (normalize_members payload) "note").map fun member =>
    if member.1 = "lead" then (member.1, _normalize_member_mapping member.2) else member

/-- What `visit` of `_validate_workflow_semantics` checks of one Member, and the identifiers seen with its own. -/
def check_member (path : List PathPart) (depth : Nat) (seen_ids : List Identifier) (fields : MemberFields) :
    Except WorkflowInputError (List Identifier) :=
  if MAX_MEMBERS < seen_ids.length + 1 then
    .error (workflow_input_error "semantic.member_count" path
      ("Workflow exceeds " ++ toString MAX_MEMBERS ++ " Members"))
  else if MAX_MEMBER_DEPTH < depth then
    .error (workflow_input_error "semantic.member_depth" path
      ("Member tree depth exceeds " ++ toString MAX_MEMBER_DEPTH))
  else if fields.id ∈ seen_ids then
    .error (workflow_input_error "semantic.member_id" (path ++ [.key "id"])
      ("Member ID '" ++ fields.id.val ++ "' is duplicated"))
  else if (fields.capabilities.bind (·.human_request)).any fun kinds => !decide kinds.val.Nodup then
    .error (workflow_input_error "semantic.capabilities" (path ++ [.key "capabilities", .key "human_request"])
      "Human Request capability kinds must be unique")
  else .ok (fields.id :: seen_ids)

mutual

def visit_member (path : List PathPart) (depth : Nat) (seen_ids : List Identifier) :
    NormalizedMember → Except WorkflowInputError (List Identifier)
  | .mk fields none => check_member path depth seen_ids fields
  | .mk fields (some children) => do
    let seen_ids ← check_member path depth seen_ids fields
    visit_children path depth 0 seen_ids children

def visit_children (path : List PathPart) (depth index : Nat) (seen_ids : List Identifier) :
    List NormalizedMember → Except WorkflowInputError (List Identifier)
  | [] => .ok seen_ids
  | child :: children => do
    let seen_ids ← visit_member (path ++ [.key "children", .index index]) (depth + 1) seen_ids child
    visit_children path depth (index + 1) seen_ids children

end

def _validate_workflow_semantics (workflow : NormalizedWorkflow) : Except WorkflowInputError Unit := do
  let _ ← visit_member [.key "lead"] 1 [] workflow.lead

def _RETIRED_PROVIDER_MESSAGE : String :=
  "OpenClaw is retired; choose Codex, Claude, or remove the explicit provider"

def retired_provider_issue (path : List PathPart) (fields : MemberFields) : List WorkflowValidationIssue :=
  if fields.provider.any fun selection => selection.kind = .openclaw then
    [{ source := "provider.retired", path := path ++ [.key "provider", .key "kind"],
       message := _RETIRED_PROVIDER_MESSAGE }]
  else []

mutual

def _collect_retired_provider_issues (path : List PathPart) : NormalizedMember → List WorkflowValidationIssue
  | .mk fields none => retired_provider_issue path fields
  | .mk fields (some children) => retired_provider_issue path fields ++ collect_children_issues path 0 children

def collect_children_issues (path : List PathPart) (index : Nat) :
    List NormalizedMember → List WorkflowValidationIssue
  | [] => []
  | child :: children =>
    _collect_retired_provider_issues (path ++ [.key "children", .index index]) child ++
      collect_children_issues path (index + 1) children

end

/-- Exact readback paths for every retired provider selection. -/
def retired_provider_issues (workflow : NormalizedWorkflow) : List WorkflowValidationIssue :=
  _collect_retired_provider_issues [.key "lead"] workflow.lead

/-- Reject retired provider selections at active authoring boundaries. -/
def require_active_providers (workflow : NormalizedWorkflow) : Except WorkflowInputError Unit :=
  if (retired_provider_issues workflow).isEmpty then .ok () else .error ⟨retired_provider_issues workflow⟩

/-- What a refused model validation is reported as; what pydantic says of the value is not told apart. -/
def schema_error : WorkflowInputError :=
  workflow_input_error "schema.validation" [] "Workflow value does not match the authored schema"

def normalize_workflow_object (payload : JsonData) : Except WorkflowInputError NormalizedWorkflow := do
  _validate_json_shape payload
  match payload with
  | .object members =>
    match NormalizedWorkflow.model_validate (.object (_normalize_workflow_mapping members)) with
    | none => .error schema_error
    | some workflow => do
      _validate_workflow_semantics workflow
      require_active_providers workflow
      return workflow
  | _ => .error (workflow_input_error "schema.root" [] "Workflow input must be one object")

end OhMySubagents.Workflows
