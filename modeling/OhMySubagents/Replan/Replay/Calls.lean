import OhMySubagents.Json.Codec
import OhMySubagents.Replan.Planning

open JsonData

namespace OhMySubagents

namespace Contracts

def is_lower (c : Char) : Bool := 'a' ≤ c && c ≤ 'z'

/-- What may follow a letter or a digit of an identifier: more of them, with single separators between. -/
def identifier_tail : List Char → Bool
  | [] => true
  | '-' :: c :: rest | '_' :: c :: rest => (is_lower c || c.isDigit) && identifier_tail rest
  | c :: rest => (is_lower c || c.isDigit) && identifier_tail rest

def is_identifier (s : String) : Bool :=
  s.length ≤ 128 && match s.toList with
    | [] => false
    | c :: rest => is_lower c && identifier_tail rest

/-- `Identifier` of the Workflow contracts. -/
abbrev Identifier := {s : String // is_identifier s = true}

def Identifier.codec : Codec Identifier := Codec.string.check _

def Identifier.validate (s : String) : Option Identifier := if h : is_identifier s = true then some ⟨s, h⟩ else none

end Contracts

/-- The text of every Member identifier. -/
structure MemberNames where
  name : MemberId → String
  injective : Function.Injective name

namespace Contracts

inductive ProviderKind
  | codex
  | claude
  deriving DecidableEq, Repr

inductive ProviderEffort
  | none
  | minimal
  | low
  | medium
  | high
  | xhigh
  | max
  deriving DecidableEq, Repr

inductive SandboxMode
  | read_only
  | workspace_write
  | full_access
  deriving DecidableEq, Repr

inductive Access
  | allow
  | deny
  deriving DecidableEq, Repr

inductive ManagedExtensionMode
  | inherit
  | isolated
  deriving DecidableEq, Repr

inductive HumanRequestKind
  | direction
  | approval
  | input
  | review
  deriving DecidableEq, Repr

/-- Only some modes go with both kinds of network access. -/
structure ProviderSandbox where
  mode : SandboxMode
  network : Access
  portable : (mode = .read_only → network = .deny) ∧ (mode = .full_access → network = .allow)
  deriving DecidableEq, Repr

/-- `CodexProviderSelection` or `ClaudeProviderSelection`, which differ in the efforts that they accept. -/
structure ProviderSelection where
  kind : ProviderKind
  model : Option String
  effort : Option ProviderEffort
  sandbox : Option ProviderSandbox
  extension_mode : Option ManagedExtensionMode
  deriving DecidableEq, Repr

/-- The requested grants; `command_run` is granted or left out. -/
structure MemberCapabilities where
  human_request : Option (List HumanRequestKind)
  command_run : Option Unit
  deriving DecidableEq, Repr

/-- The configurable fields of one Member in a call: unset, set to `null` or set to a value. -/
structure MemberFields where
  title : Option (Option String)
  description : Option (Option String)
  instruction : Option (Option String)
  provider : Option (Option ProviderSelection)
  capabilities : Option (Option MemberCapabilities)
  deriving DecidableEq, Repr

/-- A new Member; no `children` when the list is empty, which a call may not say. -/
inductive ReplanNewMember
  | mk (fields : MemberFields) (children : List ReplanNewMember)

/-- One entry of a patch's `children`: a `ReplanExistingMemberPatch` or a new Member. -/
inductive ReplanChildPatch
  | existing (id : MemberId) (fields : MemberFields) (children : List ReplanChildPatch)
  | new (authored : ReplanNewMember)

structure ReplanMemberPatch where
  fields : MemberFields
  children : List ReplanChildPatch

/-- The request of one replan operation. -/
inductive ReplanCall
  | add_child (child : ReplanNewMember)
  | update_child (id : MemberId) (patch : ReplanMemberPatch)
  | remove_child (id : MemberId)

inductive ReplanOperation
  | add_child
  | update_child
  | remove_child
  deriving DecidableEq, Repr

namespace ProviderKind

def text : ProviderKind → String
  | codex => "codex"
  | claude => "claude"

def codec : Codec ProviderKind := .enum text [codex, claude] fun b => by cases b <;> decide

end ProviderKind

namespace ProviderEffort

def text : ProviderEffort → String
  | none => "none"
  | minimal => "minimal"
  | low => "low"
  | medium => "medium"
  | high => "high"
  | xhigh => "xhigh"
  | max => "max"

def codec : Codec ProviderEffort :=
  .enum text [none, minimal, low, medium, high, xhigh, max] fun b => by cases b <;> decide

end ProviderEffort

namespace SandboxMode

def text : SandboxMode → String
  | read_only => "read_only"
  | workspace_write => "workspace_write"
  | full_access => "full_access"

def codec : Codec SandboxMode := .enum text [read_only, workspace_write, full_access] fun b => by cases b <;> decide

end SandboxMode

namespace Access

def text : Access → String
  | allow => "allow"
  | deny => "deny"

def codec : Codec Access := .enum text [allow, deny] fun b => by cases b <;> decide

end Access

namespace ManagedExtensionMode

def text : ManagedExtensionMode → String
  | inherit => "inherit"
  | isolated => "isolated"

def codec : Codec ManagedExtensionMode := .enum text [inherit, isolated] fun b => by cases b <;> decide

end ManagedExtensionMode

namespace HumanRequestKind

def text : HumanRequestKind → String
  | direction => "direction"
  | approval => "approval"
  | input => "input"
  | review => "review"

def codec : Codec HumanRequestKind :=
  .enum text [direction, approval, input, review] fun b => by cases b <;> decide

end HumanRequestKind

namespace ReplanOperation

def text : ReplanOperation → String
  | add_child => "add_child"
  | update_child => "update_child"
  | remove_child => "remove_child"

def codec : Codec ReplanOperation :=
  .enum text [add_child, update_child, remove_child] fun b => by cases b <;> decide

end ReplanOperation

def ProviderSandbox.codec : Codec ProviderSandbox :=
  (((Fields.required "mode" SandboxMode.codec).and <| Fields.required "network" Access.codec).via
    (fun sandbox => (sandbox.mode, sandbox.network))
    (fun p => if h : (p.1 = .read_only → p.2 = .deny) ∧ (p.1 = .full_access → p.2 = .allow) then
      some ⟨p.1, p.2, h⟩ else none)
    fun sandbox => by simpa using sandbox.portable).object

def ProviderSelection.codec : Codec ProviderSelection :=
  (((Fields.required "kind" ProviderKind.codec).and <|
    (Fields.settable "model" .string).and <|
    (Fields.settable "effort" ProviderEffort.codec).and <|
    (Fields.settable "sandbox" ProviderSandbox.codec).and <|
    Fields.settable "extension_mode" ManagedExtensionMode.codec).via
      (fun selection =>
        (selection.kind, selection.model, selection.effort, selection.sandbox, selection.extension_mode))
      (fun p => some ⟨p.1, p.2.1, p.2.2.1, p.2.2.2.1, p.2.2.2.2⟩) fun _ => rfl).object

def MemberCapabilities.codec : Codec MemberCapabilities :=
  (((Fields.settable "human_request" HumanRequestKind.codec.list).and <|
    Fields.settable "command_run" (.enum (fun _ : Unit => "allow") [()] fun _ => by simp)).via
      (fun capabilities => (capabilities.human_request, capabilities.command_run)) (fun p => some ⟨p.1, p.2⟩)
      fun _ => rfl).object

/-- The members that the fields which were set dump to. -/
def MemberFields.members : Fields MemberFields :=
  ((Fields.settable "title" (.nullable .string Codec.string_ne_null)).and <|
    (Fields.settable "description" (.nullable .string Codec.string_ne_null)).and <|
    (Fields.settable "instruction" (.nullable .string Codec.string_ne_null)).and <|
    (Fields.settable "provider" (ProviderSelection.codec.nullable (Fields.object_ne_null _))).and <|
    Fields.settable "capabilities" (MemberCapabilities.codec.nullable (Fields.object_ne_null _))).via
      (fun fields => (fields.title, fields.description, fields.instruction, fields.provider, fields.capabilities))
      (fun p => some ⟨p.1, p.2.1, p.2.2.1, p.2.2.2.1, p.2.2.2.2⟩) fun _ => rfl

/-- `children` is dumped when it was set, which is when there are any. -/
def children_member (items : List JsonData) : List (String × JsonData) :=
  if items.isEmpty then [] else [("children", .array items)]

mutual

/-- `model_dump(mode="json", exclude_unset=True)`. -/
def ReplanNewMember.dump : ReplanNewMember → JsonData
  | .mk fields children => .object (MemberFields.members.encode fields ++ children_member (dump_new_members children))

def dump_new_members : List ReplanNewMember → List JsonData
  | [] => []
  | child :: children => child.dump :: dump_new_members children

end

mutual

def ReplanChildPatch.dump (names : MemberNames) : ReplanChildPatch → JsonData
  | .existing id fields children =>
    .object (("id", Codec.string.encode (names.name id)) ::
      (MemberFields.members.encode fields ++ children_member (dump_child_patches names children)))
  | .new authored => authored.dump

def dump_child_patches (names : MemberNames) : List ReplanChildPatch → List JsonData
  | [] => []
  | patch :: patches => patch.dump names :: dump_child_patches names patches

end

def ReplanMemberPatch.dump (names : MemberNames) (patch : ReplanMemberPatch) : JsonData :=
  .object (MemberFields.members.encode patch.fields ++ children_member (dump_child_patches names patch.children))

namespace ReplanCall

def operation : ReplanCall → ReplanOperation
  | add_child _ => .add_child
  | update_child _ _ => .update_child
  | remove_child _ => .remove_child

/-- The normalized request as it is stored and compared. -/
def dump (names : MemberNames) : ReplanCall → JsonData
  | add_child child => .object [("child", child.dump)]
  | update_child id patch => .object [("id", Codec.string.encode (names.name id)), ("patch", patch.dump names)]
  | remove_child id => .object [("id", Codec.string.encode (names.name id))]

end ReplanCall

/-- `_dump_optional`, as the text that a Member's content keeps. -/
def dump_optional {α : Type} (c : Codec α) (value : Option α) : Option String :=
  value.map fun value => String.ofList (c.encode value).dumps

def MemberFields.content (fields : MemberFields) : MemberContent where
  title := fields.title.join
  description := fields.description.join
  instruction := fields.instruction.join
  provider_json := dump_optional ProviderSelection.codec fields.provider.join
  capabilities_json := dump_optional MemberCapabilities.codec fields.capabilities.join

def MemberFields.patch (fields : MemberFields) : MemberPatchFields where
  title := fields.title
  description := fields.description
  instruction := fields.instruction
  provider := fields.provider.map (dump_optional ProviderSelection.codec)
  capabilities := fields.capabilities.map (dump_optional MemberCapabilities.codec)

mutual

/-- A new Member with the identifiers that are drawn for it and, by their places, for the Members below it. -/
def ReplanNewMember.planned (draw : List Nat → DrawnIdentity) : ReplanNewMember → OhMySubagents.ReplanNewMember
  | .mk fields children => .mk (draw []) fields.content (planned_new_members draw 0 children)

def planned_new_members (draw : List Nat → DrawnIdentity) (place : Nat) :
    List ReplanNewMember → List OhMySubagents.ReplanNewMember
  | [] => []
  | child :: children =>
    child.planned (fun path => draw (place :: path)) :: planned_new_members draw (place + 1) children

end

mutual

def ReplanChildPatch.planned (draw : List Nat → DrawnIdentity) : ReplanChildPatch → OhMySubagents.ReplanChildPatch
  | .existing id fields children => .existing id fields.patch (planned_child_patches draw 0 children)
  | .new authored => .new (authored.planned draw)

def planned_child_patches (draw : List Nat → DrawnIdentity) (place : Nat) :
    List ReplanChildPatch → List OhMySubagents.ReplanChildPatch
  | [] => []
  | patch :: patches =>
    patch.planned (fun path => draw (place :: path)) :: planned_child_patches draw (place + 1) patches

end

/-- The request that planning works on. -/
def ReplanCall.planned (draw : List Nat → DrawnIdentity) : ReplanCall → ReplanRequest
  | add_child child => .add_child (child.planned draw)
  | update_child id patch => .update_child id patch.fields.patch (planned_child_patches draw 0 patch.children)
  | remove_child id => .remove_child id

theorem children_member_inj {items items' : List JsonData} (h : children_member items = children_member items') :
    items = items' := by
  unfold children_member at h
  cases items <;> cases items' <;> simp_all

private theorem children_member_keys (items : List JsonData) :
    ∀ member ∈ children_member items, member.1 ∉ MemberFields.members.keys := by
  intro member hmember
  unfold children_member at hmember
  split at hmember
  · cases hmember
  · obtain rfl := List.mem_singleton.mp hmember
    exact (by decide : "children" ∉ MemberFields.members.keys)

/-- What a Member's own fields and its children dump to tells both. -/
private theorem member_dump_inj {fields fields' : MemberFields} {items items' : List JsonData}
    (h : MemberFields.members.encode fields ++ children_member items =
      MemberFields.members.encode fields' ++ children_member items') : fields = fields' ∧ items = items' := by
  obtain ⟨hfields, hchildren⟩ :=
    MemberFields.members.append_inj (children_member_keys items) (children_member_keys items') h
  exact ⟨hfields, children_member_inj hchildren⟩

mutual

theorem ReplanNewMember.dump_injective (member member' : ReplanNewMember) (h : member.dump = member'.dump) :
    member = member' := by
  obtain ⟨fields, children⟩ := member
  obtain ⟨fields', children'⟩ := member'
  simp only [ReplanNewMember.dump, JsonData.object.injEq] at h
  obtain ⟨rfl, hchildren⟩ := member_dump_inj h
  rw [dump_new_members_injective children children' hchildren]

theorem dump_new_members_injective (members members' : List ReplanNewMember)
    (h : dump_new_members members = dump_new_members members') : members = members' := by
  match members, members' with
  | [], [] => rfl
  | [], _ :: _ => simp [dump_new_members] at h
  | _ :: _, [] => simp [dump_new_members] at h
  | member :: members, member' :: members' =>
    simp only [dump_new_members, List.cons.injEq] at h
    rw [ReplanNewMember.dump_injective member member' h.1, dump_new_members_injective members members' h.2]

end

/-- A new Member's dump has no `id`, which an existing Member's always has. -/
private theorem existing_ne_new {names : MemberNames} {id : MemberId} {fields : MemberFields}
    {children : List ReplanChildPatch} {authored : ReplanNewMember} :
    (ReplanChildPatch.existing id fields children).dump names ≠ (ReplanChildPatch.new authored).dump names := by
  obtain ⟨fields', children'⟩ := authored
  intro h
  simp only [ReplanChildPatch.dump, ReplanNewMember.dump, JsonData.object.injEq] at h
  have hmem : ("id", Codec.string.encode (names.name id)) ∈
      MemberFields.members.encode fields' ++ children_member (dump_new_members children') := by
    rw [← h]
    exact List.mem_cons_self
  rcases List.mem_append.mp hmem with hmem | hmem
  · exact absurd (MemberFields.members.encode_keys fields' _ hmem) (by decide : "id" ∉ MemberFields.members.keys)
  · unfold children_member at hmem
    split at hmem <;> simp at hmem

mutual

theorem ReplanChildPatch.dump_injective (names : MemberNames) (patch patch' : ReplanChildPatch)
    (h : patch.dump names = patch'.dump names) : patch = patch' := by
  match patch, patch' with
  | .new authored, .new authored' =>
    rw [ReplanNewMember.dump_injective authored authored' (by simpa only [ReplanChildPatch.dump] using h)]
  | .existing id fields children, .new authored => exact absurd h existing_ne_new
  | .new authored, .existing id fields children => exact absurd h.symm existing_ne_new
  | .existing id fields children, .existing id' fields' children' =>
    simp only [ReplanChildPatch.dump, JsonData.object.injEq, List.cons.injEq, Prod.mk.injEq, true_and] at h
    obtain ⟨hid, hrest⟩ := h
    obtain ⟨rfl, hchildren⟩ := member_dump_inj hrest
    rw [names.injective (Codec.string.encode_injective hid),
      dump_child_patches_injective names children children' hchildren]

theorem dump_child_patches_injective (names : MemberNames) (patches patches' : List ReplanChildPatch)
    (h : dump_child_patches names patches = dump_child_patches names patches') : patches = patches' := by
  match patches, patches' with
  | [], [] => rfl
  | [], _ :: _ => simp [dump_child_patches] at h
  | _ :: _, [] => simp [dump_child_patches] at h
  | patch :: patches, patch' :: patches' =>
    simp only [dump_child_patches, List.cons.injEq] at h
    rw [ReplanChildPatch.dump_injective names patch patch' h.1,
      dump_child_patches_injective names patches patches' h.2]

end

/-- Two calls of one operation with equal normalized requests are the same call. -/
theorem ReplanCall.dump_injective {names : MemberNames} {call call' : ReplanCall}
    (hoperation : call.operation = call'.operation) (h : call.dump names = call'.dump names) : call = call' := by
  cases call <;> cases call' <;> first | cases hoperation; done | skip
  case add_child child child' =>
    simp only [dump, JsonData.object.injEq, List.cons.injEq, Prod.mk.injEq, true_and, and_true] at h
    rw [child.dump_injective child' h]
  case update_child id patch id' patch' =>
    obtain ⟨fields, children⟩ := patch
    obtain ⟨fields', children'⟩ := patch'
    simp only [dump, ReplanMemberPatch.dump, JsonData.object.injEq, List.cons.injEq, Prod.mk.injEq, true_and,
      and_true] at h
    obtain ⟨hid, hpatch⟩ := h
    obtain ⟨rfl, hchildren⟩ := member_dump_inj hpatch
    rw [names.injective (Codec.string.encode_injective hid),
      dump_child_patches_injective names children children' hchildren]
  case remove_child id id' =>
    simp only [dump, JsonData.object.injEq, List.cons.injEq, Prod.mk.injEq, true_and, and_true] at h
    rw [names.injective (Codec.string.encode_injective h)]

end Contracts

end OhMySubagents
