import OhMySubagents.Errors
import OhMySubagents.Relational.Forest
import OhMySubagents.Relational.Table
import OhMySubagents.Rows

open Relational

namespace OhMySubagents

def MAX_MEMBERS : Nat := 256
def MAX_MEMBER_DEPTH : Nat := 12

/-- One mutable member selection used to construct a complete successor Team. -/
structure PlannedMember where
  member_id : MemberId
  parent_member_id : Option MemberId
  content : MemberContent
  configuration_id : ConfigurationId
  branch_basis_id : BranchBasisId
  source_configuration_id : Option ConfigurationId
  children : List MemberId
  has_configuration_change : Bool := false
  has_branch_change : Bool := false
  is_new : Bool := false
  deriving DecidableEq, Repr

/-- The `members` dictionary of a replan, keyed by Member id. -/
abbrev PlannedMembers := Table MemberId PlannedMember

/-- The identifiers that `uuid4` draws while one new Member is appended. -/
structure DrawnIdentity where
  member_id : MemberId
  configuration_id : ConfigurationId
  branch_basis_id : BranchBasisId
  deriving DecidableEq, Repr

/-- `ReplanNewMember`, with the identifiers drawn for it. -/
inductive ReplanNewMember
  | mk (drawn : DrawnIdentity) (content : MemberContent) (children : List ReplanNewMember)

/-- The configurable fields of a patch; an unset field is `none`. -/
structure MemberPatchFields where
  title : Option (Option String) := none
  description : Option (Option String) := none
  instruction : Option (Option String) := none
  provider : Option (Option String) := none
  capabilities : Option (Option String) := none
  deriving DecidableEq, Repr

/-- One entry of a patch's `children`: a nested `ReplanExistingMemberPatch` or a new Member. -/
inductive ReplanChildPatch
  | existing (id : MemberId) (fields : MemberPatchFields) (children : List ReplanChildPatch)
  | new (authored : ReplanNewMember)

inductive ReplanRequest
  | add_child (child : ReplanNewMember)
  | update_child (id : MemberId) (fields : MemberPatchFields) (children : List ReplanChildPatch)
  | remove_child (id : MemberId)

/-- The identifiers that `uuid4` draws for retained Members while bases are refreshed. -/
structure RefreshDraws where
  configuration : MemberId → ConfigurationId
  branch_basis : MemberId → BranchBasisId

/-- A validated complete successor tree plus public mutation identities. -/
structure ReplanMutation where
  members : PlannedMembers
  root_member_id : MemberId
  created_ids : List MemberId
  updated_ids : List MemberId
  removed_ids : List MemberId
  affected_existing_ids : List MemberId

/-- The local variables that `build_replan_mutation` passes to its helpers by reference. -/
structure PlanState where
  members : PlannedMembers
  created : List MemberId := []
  updated : List MemberId := []
  branch_change_seeds : List MemberId := []

def invalid_target (summary : String) : RuntimeOperationError :=
  { code := .illegal_target_relation, summary }

def no_effect_update : RuntimeOperationError :=
  { code := .illegal_state, summary := "update_child does not change the current Team" }

def MemberPatchFields.apply (fields : MemberPatchFields) (content : MemberContent) : MemberContent where
  title := fields.title.getD content.title
  description := fields.description.getD content.description
  instruction := fields.instruction.getD content.instruction
  provider_json := fields.provider.getD content.provider_json
  capabilities_json := fields.capabilities.getD content.capabilities_json

/-- The direct children that a Member's entry lists. -/
def PlannedMembers.children (members : PlannedMembers) (member_id : MemberId) : List MemberId :=
  (members.get? member_id).elim [] PlannedMember.children

/-- The parent that a Member's entry names. -/
def PlannedMembers.parent (members : PlannedMembers) (member_id : MemberId) : Option MemberId :=
  (members.get? member_id).bind PlannedMember.parent_member_id

/-- Depth-first identifiers below one Member. A complete Team is at most `MAX_MEMBER_DEPTH` levels
    deep, which bounds the walk. -/
def preorder_ids (members : PlannedMembers) (member_id : MemberId) : List MemberId :=
  Forest.preorder (PlannedMembers.children members) MAX_MEMBER_DEPTH member_id

/-- Each call starts from entries that no mutation has marked yet. -/
def clone_members (loaded : PlannedMembers) : PlannedMembers :=
  loaded.mapRows fun _ member =>
    { member with has_configuration_change := false, has_branch_change := false, is_new := false }

/-- All Members strictly below one Member, or with it when `include_self`. -/
def descendant_ids (members : PlannedMembers) (member_id : MemberId) (include_self : Bool) :
    Result (List MemberId) := do
  require (members.get? member_id).isSome
    (invalid_target "current caller Member is absent from the Team")
  let ids := preorder_ids members member_id
  return if include_self then ids else ids.filter (· != member_id)

def require_descendant (member_id : MemberId) (descendants : List MemberId) : Result Unit :=
  require (descendants.contains member_id)
    (invalid_target "replan target must be inside the current caller's subtree")

/-- The entry of a new Member. -/
def planned_new_member (parent_id : MemberId) (drawn : DrawnIdentity) (content : MemberContent) :
    PlannedMember where
  member_id := drawn.member_id
  parent_member_id := some parent_id
  content := content
  configuration_id := drawn.configuration_id
  branch_basis_id := drawn.branch_basis_id
  source_configuration_id := none
  children := []
  has_configuration_change := true
  has_branch_change := true
  is_new := true

/-- Stage one new Member under its parent. A drawn identifier is never one already in use. -/
def append_new_member (state : PlanState) (parent_id : MemberId) (drawn : DrawnIdentity)
    (content : MemberContent) : Result PlanState := do
  let members ← require_some
    (state.members.insertNew drawn.member_id (planned_new_member parent_id drawn content))
    (internal_error "drawn Member identifier is already in use")
  let members ← require_some
    (members.updateWhere parent_id (fun _ => true) fun parent =>
      { parent with children := parent.children ++ [drawn.member_id] })
    (internal_error "KeyError")
  return { state with members := members, created := state.created ++ [drawn.member_id] }

mutual

def append_new_tree (state : PlanState) (parent_id : MemberId) : ReplanNewMember → Result PlanState
  | .mk drawn content children => do
    let state ← append_new_member state parent_id drawn content
    append_new_trees state drawn.member_id children

def append_new_trees (state : PlanState) (parent_id : MemberId) :
    List ReplanNewMember → Result PlanState
  | [] => .ok state
  | child :: children => do
    let state ← append_new_tree state parent_id child
    append_new_trees state parent_id children

end

/-- The entry of a Member after the configurable part of a patch. -/
def patched_member (member : PlannedMember) (fields : MemberPatchFields) : PlannedMember :=
  { member with
    content := fields.apply member.content
    has_configuration_change :=
      member.has_configuration_change || fields.apply member.content != member.content }

/-- The configurable part of one patch: rewrite the content and record a real change once. -/
def patch_member (state : PlanState) (member_id : MemberId) (fields : MemberPatchFields) :
    Result PlanState := do
  let member ← require_some (state.members.get? member_id) (internal_error "KeyError")
  if (patched_member member fields).has_configuration_change && !state.updated.contains member_id then
    return { state with
      members := state.members.set member_id (patched_member member fields)
      updated := state.updated ++ [member_id]
      branch_change_seeds := member_id :: state.branch_change_seeds }
  else
    return { state with members := state.members.set member_id (patched_member member fields) }

mutual

def apply_child_patch (state : PlanState) (member_id : MemberId) : ReplanChildPatch → Result PlanState
  | .new authored => do
    let state ← append_new_tree state member_id authored
    return { state with branch_change_seeds := member_id :: state.branch_change_seeds }
  | .existing child_id fields children => do
    let child ← require_some (state.members.get? child_id)
      (invalid_target "nested existing updates must identify a current direct child")
    require (child.parent_member_id == some member_id)
      (invalid_target "nested existing updates must identify a current direct child")
    let state ← patch_member state child_id fields
    apply_child_patches state child_id children

def apply_child_patches (state : PlanState) (member_id : MemberId) :
    List ReplanChildPatch → Result PlanState
  | [] => .ok state
  | patch :: patches => do
    let state ← apply_child_patch state member_id patch
    apply_child_patches state member_id patches

end

/-- Apply one patch tree rooted at an existing Member. -/
def apply_patch_tree (state : PlanState) (member_id : MemberId) (fields : MemberPatchFields)
    (children : List ReplanChildPatch) : Result PlanState := do
  let state ← patch_member state member_id fields
  apply_child_patches state member_id children

/-- Unlink one Member from its parent and drop it with everything below it. -/
def remove_subtree (members : PlannedMembers) (member_id : MemberId) : Result PlannedMembers := do
  let member ← require_some (members.get? member_id) (internal_error "KeyError")
  let parent_id ← require_some member.parent_member_id (internal_error "AssertionError")
  let members ← require_some
    (members.updateWhere parent_id (fun parent => parent.children.contains member_id) fun parent =>
      { parent with children := parent.children.erase member_id })
    (internal_error "ValueError")
  return (preorder_ids members member_id).foldl Table.delete members

/-- Walk from one seed to the root, recording every Member on the way. -/
def collect_changed_branch (members : PlannedMembers) :
    Nat → Option MemberId → List MemberId → Result (List MemberId)
  | 0, _, changed => .ok changed
  | _ + 1, none, changed => .ok changed
  | fuel + 1, some member_id, changed =>
    if changed.contains member_id then .ok changed
    else do
      let member ← require_some (members.get? member_id)
        (invalid_target "replan branch change has a missing ancestor")
      collect_changed_branch members fuel member.parent_member_id (member_id :: changed)

def collect_changed_branches (members : PlannedMembers) :
    List MemberId → List MemberId → Result (List MemberId)
  | [], changed => .ok changed
  | seed :: seeds, changed => do
    let changed ← collect_changed_branch members (members.entries.length + 1) (some seed) changed
    collect_changed_branches members seeds changed

/-- Give a changed retained Member its fresh identifiers. -/
def refresh_member (draws : RefreshDraws) (changed : List MemberId) (member_id : MemberId)
    (member : PlannedMember) : PlannedMember :=
  let has_branch_change := member.is_new || changed.contains member_id
  { member with
    has_branch_change := has_branch_change
    configuration_id :=
      if member.has_configuration_change && !member.is_new then draws.configuration member_id
      else member.configuration_id
    branch_basis_id :=
      if has_branch_change && !member.is_new then draws.branch_basis member_id
      else member.branch_basis_id }

def refresh_branch_bases (draws : RefreshDraws) (members : PlannedMembers)
    (branch_change_seeds : List MemberId) : Result PlannedMembers := do
  let changed ← collect_changed_branches members branch_change_seeds []
  return members.mapRows (refresh_member draws changed)

/-- The recursive `visit` of `_validate_complete_tree`; returns the Members seen so far. `fuel` is
    `MAX_MEMBER_DEPTH + 1 - depth`. -/
def validate_visit (members : PlannedMembers) :
    Nat → MemberId → List MemberId → Result (List MemberId)
  | 0, _, _ => .error (invalid_target "replan exceeds the maximum depth of 12")
  | fuel + 1, member_id, seen => do
    require (!seen.contains member_id)
      (invalid_target "replan candidate is cyclic or selects a Member twice")
    let member ← require_some (members.get? member_id) (internal_error "KeyError")
    require (member.children.length ≤ 32)
      (invalid_target "a Member cannot have more than 32 direct children")
    member.children.foldlM
      (fun seen child_id => do
        let child ← require_some (members.get? child_id)
          (invalid_target "replan candidate contains an invalid parent link")
        require (child.parent_member_id == some member_id)
          (invalid_target "replan candidate contains an invalid parent link")
        validate_visit members fuel child_id seen)
      (member_id :: seen)

def validate_complete_tree (members : PlannedMembers) (root_member_id : MemberId) : Result Unit := do
  let root ← require_some (members.get? root_member_id)
    (invalid_target "replan candidate must retain exactly one root")
  require root.parent_member_id.isNone
    (invalid_target "replan candidate must retain exactly one root")
  let seen ← validate_visit members MAX_MEMBER_DEPTH root_member_id []
  require (seen.length == members.entries.length)
    (invalid_target "replan candidate contains a disconnected Member")
  require (seen.length ≤ MAX_MEMBERS)
    (invalid_target "replan exceeds the maximum Team size of 256")

/-- The request-specific part of `build_replan_mutation`: the mutated candidate with the removed and
    the affected Members. -/
def apply_replan_request (members : PlannedMembers) (caller_member_id : MemberId)
    (descendants : List MemberId) :
    ReplanRequest → Result (PlanState × List MemberId × List MemberId)
  | .add_child child => do
    let state ← append_new_tree { members := members } caller_member_id child
    return ({ state with branch_change_seeds := [caller_member_id] }, [], [])
  | .update_child id fields children => do
    require_descendant id descendants
    let affected ← descendant_ids members id true
    let state ← apply_patch_tree { members := members } id fields children
    require (!(state.created.isEmpty && state.updated.isEmpty)) no_effect_update
    return (state, [], affected)
  | .remove_child id => do
    require_descendant id descendants
    let target ← require_some (members.get? id) (internal_error "KeyError")
    let parent_member_id ← require_some target.parent_member_id (internal_error "AssertionError")
    let removed := preorder_ids members id
    let members ← remove_subtree members id
    return ({ members := members, branch_change_seeds := [parent_member_id] }, removed, removed)

/-- Apply one bounded subtree mutation without changing historical member ids. -/
def build_replan_mutation (loaded : PlannedMembers) (root_member_id caller_member_id : MemberId)
    (request : ReplanRequest) (draws : RefreshDraws) : Result ReplanMutation := do
  let members := clone_members loaded
  let descendants ← descendant_ids members caller_member_id false
  let (state, removed, affected) ← apply_replan_request members caller_member_id descendants request
  let members ← refresh_branch_bases draws state.members state.branch_change_seeds
  validate_complete_tree members root_member_id
  return {
    members := members
    root_member_id := root_member_id
    created_ids := state.created
    updated_ids := state.updated
    removed_ids := removed
    affected_existing_ids := affected }

/-- The complete successor Team in stable parent-before-child order. -/
def successor_preorder (mutation : ReplanMutation) : List PlannedMember :=
  (preorder_ids mutation.members mutation.root_member_id).filterMap
    mutation.members.get?

end OhMySubagents
