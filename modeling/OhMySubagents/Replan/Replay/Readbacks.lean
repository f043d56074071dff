import OhMySubagents.Replan.Replay.Calls
import OhMySubagents.Text.ExactText

open JsonData

namespace OhMySubagents

namespace Contracts

/-- `TeamReadIdentifier`. -/
abbrev TeamReadIdentifier := ConstrainedText 255

def TeamReadIdentifier.codec : Codec TeamReadIdentifier := ConstrainedText.codec 255

inductive MemberBehavior
  | manager
  | contributor
  deriving DecidableEq, Repr

def MemberBehavior.text : MemberBehavior → String
  | manager => "manager"
  | contributor => "contributor"

inductive MemberParticipation
  | required
  | satisfied
  deriving DecidableEq, Repr

def MemberParticipation.text : MemberParticipation → String
  | required => "required"
  | satisfied => "satisfied"

inductive MemberAvailability
  | available
  | busy
  deriving DecidableEq, Repr

def MemberAvailability.text : MemberAvailability → String
  | available => "available"
  | busy => "busy"

structure ResolvedSandboxRead where
  mode : TeamReadIdentifier
  network : TeamReadIdentifier
  deriving DecidableEq

structure ResolvedProviderRead where
  kind : TeamReadIdentifier
  model : Option TeamReadIdentifier
  effort : Option TeamReadIdentifier
  gateway_profile : Option TeamReadIdentifier
  sandbox : Option ResolvedSandboxRead
  deriving DecidableEq

structure EffectiveCapabilitiesRead where
  human_request : List HumanRequestKind
  command_run : Access
  deriving DecidableEq

structure DirectTeamMemberRead where
  id : TeamReadIdentifier
  title : Option String
  description : Option String
  instruction : Option String
  provider : ResolvedProviderRead
  capabilities : EffectiveCapabilitiesRead
  participation : MemberParticipation
  availability : MemberAvailability
  deriving DecidableEq

/-- The behaviour that a direct team makes. -/
def expected_behavior (direct_team : List DirectTeamMemberRead) : MemberBehavior :=
  if direct_team.isEmpty then .contributor else .manager

/-- The result of a committed replan; the fields after the removed identifiers show the Member afresh. -/
structure ReplanSuccess where
  operation : ReplanOperation
  created_ids : List Identifier
  updated_ids : List Identifier
  removed_ids : List Identifier
  direct_team : List DirectTeamMemberRead
  behavior : MemberBehavior
  effective_capabilities : EffectiveCapabilitiesRead
  available_actions : List Identifier
  fresh_member_view : behavior = expected_behavior direct_team ∧ available_actions.Nodup
  deriving DecidableEq

def MemberBehavior.codec : Codec MemberBehavior :=
  .enum MemberBehavior.text [.manager, .contributor] fun b => by cases b <;> decide

def MemberParticipation.codec : Codec MemberParticipation :=
  .enum MemberParticipation.text [.required, .satisfied] fun b => by cases b <;> decide

def MemberAvailability.codec : Codec MemberAvailability :=
  .enum MemberAvailability.text [.available, .busy] fun b => by cases b <;> decide

def ResolvedSandboxRead.codec : Codec ResolvedSandboxRead :=
  (((Fields.required "mode" TeamReadIdentifier.codec).and <|
    Fields.required "network" TeamReadIdentifier.codec).via
      (fun sandbox => (sandbox.mode, sandbox.network)) (fun p => some ⟨p.1, p.2⟩) fun _ => rfl).object

def ResolvedProviderRead.codec : Codec ResolvedProviderRead :=
  (((Fields.required "kind" TeamReadIdentifier.codec).and <|
    (Fields.optional "model" TeamReadIdentifier.codec ConstrainedText.ne_null).and <|
    (Fields.optional "effort" TeamReadIdentifier.codec ConstrainedText.ne_null).and <|
    (Fields.optional "gateway_profile" TeamReadIdentifier.codec ConstrainedText.ne_null).and <|
    Fields.optional "sandbox" ResolvedSandboxRead.codec (Fields.object_ne_null _)).via
      (fun provider => (provider.kind, provider.model, provider.effort, provider.gateway_profile, provider.sandbox))
      (fun p => some ⟨p.1, p.2.1, p.2.2.1, p.2.2.2.1, p.2.2.2.2⟩) fun _ => rfl).object

def EffectiveCapabilitiesRead.codec : Codec EffectiveCapabilitiesRead :=
  (((Fields.defaulted "human_request" HumanRequestKind.codec.list []).and <|
    Fields.defaulted "command_run" Access.codec .deny).via
      (fun read => (read.human_request, read.command_run)) (fun p => some ⟨p.1, p.2⟩) fun _ => rfl).object

def DirectTeamMemberRead.codec : Codec DirectTeamMemberRead :=
  (((Fields.required "id" TeamReadIdentifier.codec).and <|
    (Fields.optional "title" .string Codec.string_ne_null).and <|
    (Fields.optional "description" .string Codec.string_ne_null).and <|
    (Fields.optional "instruction" .string Codec.string_ne_null).and <|
    (Fields.required "provider" ResolvedProviderRead.codec).and <|
    (Fields.required "capabilities" EffectiveCapabilitiesRead.codec).and <|
    (Fields.required "participation" MemberParticipation.codec).and <|
    Fields.required "availability" MemberAvailability.codec).via
      (fun member => (member.id, member.title, member.description, member.instruction, member.provider,
        member.capabilities, member.participation, member.availability))
      (fun p => some ⟨p.1, p.2.1, p.2.2.1, p.2.2.2.1, p.2.2.2.2.1, p.2.2.2.2.2.1, p.2.2.2.2.2.2.1, p.2.2.2.2.2.2.2⟩)
      fun _ => rfl).object

/-- `model_dump(mode="json", exclude_none=True)` of a result, and `ReplanSuccess.model_validate`. -/
def ReplanSuccess.codec : Codec ReplanSuccess :=
  (((Fields.required "operation" ReplanOperation.codec).and <|
    (Fields.defaulted "created_ids" Identifier.codec.list []).and <|
    (Fields.defaulted "updated_ids" Identifier.codec.list []).and <|
    (Fields.defaulted "removed_ids" Identifier.codec.list []).and <|
    (Fields.required "direct_team" DirectTeamMemberRead.codec.list).and <|
    (Fields.required "behavior" MemberBehavior.codec).and <|
    (Fields.required "effective_capabilities" EffectiveCapabilitiesRead.codec).and <|
    (Fields.required "available_actions" Identifier.codec.list).and <|
    Fields.defaulted "must_stop" (Codec.bool.check (· = true)) ⟨true, rfl⟩).via
      (fun result => (result.operation, result.created_ids, result.updated_ids, result.removed_ids,
        result.direct_team, result.behavior, result.effective_capabilities, result.available_actions, ⟨true, rfl⟩))
      (fun ⟨operation, created_ids, updated_ids, removed_ids, direct_team, behavior, effective_capabilities,
          available_actions, _⟩ =>
        if h : behavior = expected_behavior direct_team ∧ available_actions.Nodup then
          some ⟨operation, created_ids, updated_ids, removed_ids, direct_team, behavior, effective_capabilities,
            available_actions, h⟩
        else none)
      fun result => by simpa using result.fresh_member_view).object

end Contracts

end OhMySubagents
