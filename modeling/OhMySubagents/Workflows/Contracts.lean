import OhMySubagents.Replan.Replay.Calls
import OhMySubagents.Text.ExactText

open JsonData

namespace OhMySubagents.Workflows

open Contracts

def _MAX_DIRECT_CHILDREN : Nat := 32

/-- Whether a text has a character that is no blank, as the pattern `\S` asks. -/
def has_text (s : String) : Bool := s.toList.any fun c => !is_white_space c

/-- A text of at most `max_length` characters. -/
abbrev BoundedText (max_length : Nat) := {s : String // s.length ≤ max_length}

/-- A text of at most `max_length` characters that is not blank. -/
abbrev NonblankText (max_length : Nat) := {s : String // has_text s = true ∧ s.length ≤ max_length}

abbrev BoundedProviderValue := NonblankText 255

def BoundedText.codec (max_length : Nat) : Codec (BoundedText max_length) := Codec.string.check _

def NonblankText.codec (max_length : Nat) : Codec (NonblankText max_length) := Codec.string.check _

inductive StoredProviderKind
  | codex
  | claude
  | openclaw
  deriving DecidableEq, Repr

namespace StoredProviderKind

def text : StoredProviderKind → String
  | codex => "codex"
  | claude => "claude"
  | openclaw => "openclaw"

def codec : Codec StoredProviderKind := .enum text [codex, claude, openclaw] fun b => by cases b <;> decide

/-- `CodexEffort` and `ClaudeEffort`; a retired selection has no fields of its own. -/
def efforts : StoredProviderKind → List ProviderEffort
  | codex => [.none, .minimal, .low, .medium, .high, .xhigh, .max]
  | claude => [.low, .medium, .high, .xhigh, .max]
  | openclaw => []

end StoredProviderKind

/-- `StoredProviderSelection`: a Codex or Claude selection, or a retired one that is only read back. -/
structure StoredProviderSelection where
  kind : StoredProviderKind
  model : Option BoundedProviderValue
  effort : Option ProviderEffort
  sandbox : Option ProviderSandbox
  extension_mode : Option ManagedExtensionMode
  supported : (∀ level ∈ effort, level ∈ kind.efforts) ∧
    (kind = .openclaw → model = none ∧ sandbox = none ∧ extension_mode = none)
  deriving DecidableEq

/-- `ProviderSelection`: a selection that authoring accepts. -/
abbrev ProviderSelection := {selection : StoredProviderSelection // selection.kind ≠ .openclaw}

/-- The operations that a Member is granted, at least one of them. -/
structure MemberCapabilities where
  human_request : Option {kinds : List HumanRequestKind // 1 ≤ kinds.length ∧ kinds.length ≤ 4}
  command_run : Option Unit
  granted : human_request.isSome || command_run.isSome
  deriving DecidableEq

/-- What a Member says of itself. -/
structure MemberFields where
  id : Identifier
  title : Option (BoundedText 16384)
  description : Option (BoundedText 16384)
  instruction : Option (BoundedText 16384)
  provider : Option StoredProviderSelection
  capabilities : Option MemberCapabilities
  deriving DecidableEq

/-- A leaf has no `children` or an empty list of them. -/
inductive NormalizedMember
  | mk (fields : MemberFields) (children : Option (List NormalizedMember))

namespace NormalizedMember

def fields : NormalizedMember → MemberFields
  | mk fields _ => fields

def children : NormalizedMember → Option (List NormalizedMember)
  | mk _ children => children

mutual

/-- `enforce_hidden_direct_child_limit`, of a Member and of every Member below it. -/
def within_child_limit : NormalizedMember → Bool
  | mk _ none => true
  | mk _ (some children) => children.length ≤ _MAX_DIRECT_CHILDREN && all_within_child_limit children

def all_within_child_limit : List NormalizedMember → Bool
  | [] => true
  | child :: children => within_child_limit child && all_within_child_limit children

end

end NormalizedMember

structure NormalizedWorkflow where
  id : Identifier
  description : NonblankText 1024
  note : Option (BoundedText 8192)
  lead : NormalizedMember
  child_limit : lead.within_child_limit = true

/-! The texts of the smallest team. -/

theorem team_identifier : is_identifier "team" = true := by decide

theorem first_member_identifier : is_identifier "member-1" = true := by decide

theorem work_description : has_text "Does the work." = true ∧ "Does the work.".length ≤ 1024 := by decide

private theorem sandbox_key : ∀ k ∈ (Fields.settable "sandbox" ProviderSandbox.codec).keys,
    k ∉ (Fields.settable "extension_mode" ManagedExtensionMode.codec).keys := by decide

def StoredProviderSelection.codec : Codec StoredProviderSelection :=
  (((Fields.required "kind" StoredProviderKind.codec).and <|
    (Fields.settable "model" (NonblankText.codec 255)).and <|
    (Fields.settable "effort" ProviderEffort.codec).and <|
    (Fields.settable "sandbox" ProviderSandbox.codec).and
      (Fields.settable "extension_mode" ManagedExtensionMode.codec) sandbox_key).via
      (fun selection =>
        (selection.kind, selection.model, selection.effort, selection.sandbox, selection.extension_mode))
      (fun p =>
        if h : (∀ level ∈ p.2.2.1, level ∈ p.1.efforts) ∧
          (p.1 = .openclaw → p.2.1 = none ∧ p.2.2.2.1 = none ∧ p.2.2.2.2 = none)
        then some ⟨p.1, p.2.1, p.2.2.1, p.2.2.2.1, p.2.2.2.2, h⟩ else none)
      fun selection => by rw [dif_pos selection.supported]).object

def ProviderSelection.codec : Codec ProviderSelection := StoredProviderSelection.codec.check _

def MemberCapabilities.codec : Codec MemberCapabilities :=
  (((Fields.settable "human_request" (HumanRequestKind.codec.list.check _)).and <|
    Fields.settable "command_run" (Codec.literal "allow")).via
      (fun capabilities => (capabilities.human_request, capabilities.command_run))
      (fun p => if h : (p.1.isSome || p.2.isSome) = true then some ⟨p.1, p.2, h⟩ else none)
      fun capabilities => by rw [dif_pos capabilities.granted]).object

/-- The members of a Member's dump but for its `children`. A text may be `null`, the other fields may not. -/
def MemberFields.members : Fields MemberFields :=
  ((Fields.required "id" Identifier.codec).and <|
    (Fields.optional "title" (BoundedText.codec 16384) (Codec.check_ne_null Codec.string_ne_null)).and <|
    (Fields.optional "description" (BoundedText.codec 16384) (Codec.check_ne_null Codec.string_ne_null)).and <|
    (Fields.optional "instruction" (BoundedText.codec 16384) (Codec.check_ne_null Codec.string_ne_null)).and <|
    (Fields.settable "provider" StoredProviderSelection.codec).and <|
    Fields.settable "capabilities" MemberCapabilities.codec).via
      (fun fields => (fields.id, fields.title, fields.description, fields.instruction, fields.provider,
        fields.capabilities))
      (fun p => some ⟨p.1, p.2.1, p.2.2.1, p.2.2.2.1, p.2.2.2.2.1, p.2.2.2.2.2⟩) fun _ => rfl

namespace NormalizedMember

mutual

/-- `model_dump(mode="json", exclude_none=True)`. -/
def dump : NormalizedMember → JsonData
  | mk fields none => .object (MemberFields.members.encode fields)
  | mk fields (some children) =>
    .object (MemberFields.members.encode fields ++ [("children", .array (dump_members children))])

def dump_members : List NormalizedMember → List JsonData
  | [] => []
  | child :: children => dump child :: dump_members children

end

mutual

/-- `model_validate`, but for the child limits, which are checked for the whole tree at once. -/
def model_validate : JsonData → Option NormalizedMember
  | .object members =>
    if ∀ member ∈ members, member.1 = "children" ∨ member.1 ∈ MemberFields.members.keys then
      (MemberFields.members.decode fun key => members.lookup key).bind fun fields =>
        (validate_children_field members).map (mk fields)
    else none
  | _ => none

/-- The `children` of a Member, when there are any. -/
def validate_children_field : List (String × JsonData) → Option (Option (List NormalizedMember))
  | [] => some none
  | (key, value) :: members =>
    if key = "children" then (validate_children value).map some else validate_children_field members

def validate_children : JsonData → Option (List NormalizedMember)
  | .array items => validate_members items
  | _ => none

def validate_members : List JsonData → Option (List NormalizedMember)
  | [] => some []
  | item :: items => (model_validate item).bind fun member => (validate_members items).map (member :: ·)

end

end NormalizedMember

/-- The members of a Workflow's dump but for its `lead`. -/
def NormalizedWorkflow.members : Fields (Unit × Identifier × NonblankText 1024 × Option (BoundedText 8192)) :=
  (Fields.required "kind" (Codec.literal "workflow")).and <|
    (Fields.required "id" Identifier.codec).and <|
    (Fields.required "description" (NonblankText.codec 1024)).and <|
    Fields.optional "note" (BoundedText.codec 8192) (Codec.check_ne_null Codec.string_ne_null)

namespace NormalizedWorkflow

/-- The members of a Workflow's dump, with another `lead`. -/
def payload_with_lead (workflow : NormalizedWorkflow) (lead : JsonData) : List (String × JsonData) :=
  members.encode ((), workflow.id, workflow.description, workflow.note) ++ [("lead", lead)]

/-- `model_dump(mode="json", exclude_none=True)`. -/
def dump (workflow : NormalizedWorkflow) : JsonData := .object (workflow.payload_with_lead workflow.lead.dump)

def model_validate : JsonData → Option NormalizedWorkflow
  | .object payload => do
    guard (∀ member ∈ payload, member.1 = "lead" ∨ member.1 ∈ members.keys)
    let (_, id, description, note) ← members.decode fun key => payload.lookup key
    let lead ← (payload.lookup "lead").bind NormalizedMember.model_validate
    if child_limit : lead.within_child_limit = true then some { id, description, note, lead, child_limit } else none
  | _ => none

end NormalizedWorkflow

end OhMySubagents.Workflows
