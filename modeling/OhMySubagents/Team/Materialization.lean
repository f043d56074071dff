import OhMySubagents.Errors
import OhMySubagents.Replan.Successor
import OhMySubagents.Team.Currentness

open Relational

namespace OhMySubagents

/-- A Member of a published Workflow. -/
inductive NormalizedMember
  | mk (id : MemberId) (content : MemberContent) (children : List NormalizedMember)

def NormalizedMember.id : NormalizedMember → MemberId
  | .mk id _ _ => id

structure MaterializedMember where
  member_id : MemberId
  parent_member_id : Option MemberId
  member_configuration_id : ConfigurationId
  member_branch_basis_id : BranchBasisId
  parent_member_branch_basis_id : Option BranchBasisId
  preorder_index : Nat
  sibling_order : Nat
  content : MemberContent
  deriving DecidableEq, Repr

/-- The identifiers that `_stable_token` derives from the Task and a Member id. -/
structure StableIdentity where
  team_revision_id : RevisionId
  configuration : MemberId → ConfigurationId
  branch_basis : MemberId → BranchBasisId

def materialization_error (summary : String) : RuntimeOperationError :=
  internal_error ("TeamMaterializationError: " ++ summary)

def materialized_member (stable : StableIdentity) (id : MemberId) (content : MemberContent)
    (parent : Option MaterializedMember) (preorder_index sibling_order : Nat) : MaterializedMember where
  member_id := id
  parent_member_id := parent.map MaterializedMember.member_id
  member_configuration_id := stable.configuration id
  member_branch_basis_id := stable.branch_basis id
  parent_member_branch_basis_id := parent.map MaterializedMember.member_branch_basis_id
  preorder_index := preorder_index
  sibling_order := sibling_order
  content := content

/-- Plan one Member after the ones already planned; their ids are the `seen` set of the walk. -/
def plan_member (stable : StableIdentity) (planned : List MaterializedMember) (id : MemberId)
    (content : MemberContent) (parent : Option MaterializedMember) (sibling_order : Nat) :
    Result (List MaterializedMember) := do
  require (!(planned.map MaterializedMember.member_id).contains id)
    (materialization_error "Workflow member id is not unique in the complete tree")
  return planned ++ [materialized_member stable id content parent planned.length sibling_order]

mutual

/-- The recursive `visit` of `_build_initial_task_team`. -/
def plan_tree (stable : StableIdentity) (planned : List MaterializedMember)
    (parent : Option MaterializedMember) (sibling_order : Nat) :
    NormalizedMember → Result (List MaterializedMember)
  | .mk id content children => do
    let planned' ← plan_member stable planned id content parent sibling_order
    plan_trees stable planned' (materialized_member stable id content parent planned.length sibling_order)
      0 children

def plan_trees (stable : StableIdentity) (planned : List MaterializedMember) (parent : MaterializedMember)
    (sibling_order : Nat) : List NormalizedMember → Result (List MaterializedMember)
  | [] => .ok planned
  | child :: children => do
    let planned ← plan_tree stable planned (some parent) sibling_order child
    plan_trees stable planned parent (sibling_order + 1) children

end

/-- The walk of `_validate_complete_tree` over the planned Members: `seen` Members with the number of
    children counted for each of them so far. -/
def validate_materialized : List MaterializedMember → Nat → List MemberId → (MemberId → Nat) → Result Unit
  | [], _, _, _ => .ok ()
  | member :: members, index, seen, next_sibling_order => do
    require (member.preorder_index == index)
      (materialization_error "TeamRevision preorder indices must be contiguous")
    require (!seen.contains member.member_id)
      (materialization_error "TeamRevision selects one row per Member")
    match member.parent_member_id with
    | none => validate_materialized members (index + 1) (member.member_id :: seen) next_sibling_order
    | some parent_id => do
      require (seen.contains parent_id)
        (materialization_error "TeamRevision parent must precede its child")
      require (member.sibling_order == next_sibling_order parent_id)
        (materialization_error "TeamRevision sibling order must be contiguous")
      validate_materialized members (index + 1) (member.member_id :: seen)
        (Function.update next_sibling_order parent_id (next_sibling_order parent_id + 1))

/-- `_validate_complete_tree` for the planned Members of one Workflow. -/
def validate_initial_tree (members : List MaterializedMember) (root_member_id : MemberId) : Result Unit := do
  let root ← require_some members.head?
    (materialization_error "TeamRevision must start with its exact root Member")
  require (root.member_id == root_member_id)
    (materialization_error "TeamRevision must start with its exact root Member")
  require (root.parent_member_id.isNone && root.preorder_index == 0)
    (materialization_error "TeamRevision root has an invalid parent or order")
  validate_materialized members 0 [] fun _ => 0

/-- Build one deterministic complete preorder snapshot. -/
def build_initial_task_team (stable : StableIdentity) (lead : NormalizedMember) :
    Result (List MaterializedMember) := do
  let planned ← plan_tree stable [] none 0 lead
  validate_initial_tree planned lead.id
  return planned

def initial_selection (member : MaterializedMember) : TeamRevisionMember where
  member_id := member.member_id
  parent_member_id := member.parent_member_id
  member_configuration_id := member.member_configuration_id
  member_branch_basis_id := member.member_branch_basis_id

def initial_revision (lead : NormalizedMember) (planned : List MaterializedMember) : TeamRevision where
  revision_no := 1
  predecessor_team_revision_id := none
  root_member_id := lead.id
  members := planned.map initial_selection

/-- Stage the first complete Team. -/
def materialize_initial_task_team (db : TaskDb) (stable : StableIdentity) (lead : NormalizedMember) :
    Result TaskDb := do
  let planned ← build_initial_task_team stable lead
  let members ← require_some (db.members.insertAll (planned.map fun member => (member.member_id, ())))
    integrity_error
  let configurations ← require_some
    (db.member_configurations.insertAll (planned.map fun member => (member.member_configuration_id,
      { member_id := member.member_id
        predecessor_member_configuration_id := none
        content := member.content })))
    integrity_error
  let bases ← require_some
    (db.member_branch_bases.insertAll (planned.map fun member => (member.member_branch_basis_id,
      { member_id := member.member_id
        member_configuration_id := member.member_configuration_id
        parent_member_id := member.parent_member_id
        parent_member_branch_basis_id := member.parent_member_branch_basis_id })))
    integrity_error
  let revisions ← require_some
    (db.team_revisions.insertNew stable.team_revision_id (initial_revision lead planned))
    integrity_error
  return { db with
    members := members
    member_configurations := configurations
    member_branch_bases := bases
    team_revisions := revisions }

/-- A plan grows from its root, one new Member below an earlier one at a time. -/
inductive Grown (root : MemberId) : List MaterializedMember → Prop
  | root {member : MaterializedMember} (hid : member.member_id = root)
      (hparent : member.parent_member_id = none) : Grown root [member]
  | snoc {planned : List MaterializedMember} {member : MaterializedMember} {p : MemberId}
      (hplanned : Grown root planned) (hparent : member.parent_member_id = some p)
      (hp : p ∈ planned.map MaterializedMember.member_id)
      (hnew : member.member_id ∉ planned.map MaterializedMember.member_id) :
      Grown root (planned ++ [member])

mutual

/-- Planning one tree keeps every planned Member and grows the plan below the given parent. -/
theorem plan_tree_grown {stable : StableIdentity} {root : MemberId}
    {planned planned' : List MaterializedMember} {parent : MaterializedMember} {sibling_order : Nat}
    (tree : NormalizedMember) (hgrown : Grown root planned)
    (hparent : parent.member_id ∈ planned.map MaterializedMember.member_id)
    (h : plan_tree stable planned (some parent) sibling_order tree = .ok planned') :
    Grown root planned' ∧
      planned.map MaterializedMember.member_id ⊆ planned'.map MaterializedMember.member_id := by
  obtain ⟨id, content, children⟩ := tree
  rw [plan_tree, bind_eq_ok_iff] at h
  obtain ⟨middle, hmember, h⟩ := h
  rw [plan_member, bind_eq_ok_iff] at hmember
  obtain ⟨_, hnew, hmember⟩ := hmember
  rw [require_eq_ok_iff] at hnew
  cases hmember
  have hsnoc : Grown root (planned ++
      [materialized_member stable id content (some parent) planned.length sibling_order]) := by
    refine .snoc hgrown rfl hparent ?_
    simpa [materialized_member] using hnew
  obtain ⟨hgrown', hsub⟩ := plan_trees_grown children hsnoc (by simp) h
  refine ⟨hgrown', fun x hx => hsub ?_⟩
  rw [List.map_append]
  exact List.mem_append_left _ hx

theorem plan_trees_grown {stable : StableIdentity} {root : MemberId}
    {planned planned' : List MaterializedMember} {parent : MaterializedMember} {sibling_order : Nat}
    (trees : List NormalizedMember) (hgrown : Grown root planned)
    (hparent : parent.member_id ∈ planned.map MaterializedMember.member_id)
    (h : plan_trees stable planned parent sibling_order trees = .ok planned') :
    Grown root planned' ∧
      planned.map MaterializedMember.member_id ⊆ planned'.map MaterializedMember.member_id := by
  match trees with
  | [] =>
    rw [plan_trees] at h
    cases h
    exact ⟨hgrown, fun _ hx => hx⟩
  | tree :: trees =>
    rw [plan_trees, bind_eq_ok_iff] at h
    obtain ⟨middle, htree, h⟩ := h
    obtain ⟨hmiddle, hsub⟩ := plan_tree_grown tree hgrown hparent htree
    obtain ⟨hgrown', hsub'⟩ := plan_trees_grown trees hmiddle (hsub hparent) h
    exact ⟨hgrown', fun x hx => hsub' (hsub hx)⟩

end

theorem build_initial_task_team_grown {stable : StableIdentity} {lead : NormalizedMember}
    {planned : List MaterializedMember} (h : build_initial_task_team stable lead = .ok planned) :
    Grown lead.id planned := by
  rw [build_initial_task_team, bind_eq_ok_iff] at h
  obtain ⟨planned', hplan, h⟩ := h
  rw [bind_eq_ok_iff] at h
  obtain ⟨_, -, h⟩ := h
  cases h
  obtain ⟨id, content, children⟩ := lead
  rw [plan_tree, bind_eq_ok_iff] at hplan
  obtain ⟨middle, hmember, hplan⟩ := hplan
  rw [plan_member, bind_eq_ok_iff] at hmember
  obtain ⟨_, -, hmember⟩ := hmember
  cases hmember
  have hroot : Grown id [materialized_member stable id content none 0 0] := .root rfl rfl
  exact (plan_trees_grown children hroot (by simp) hplan).1

/-- Members selected in the order they were planned keep their ids. -/
private theorem map_initial_selection_ids (planned : List MaterializedMember) :
    (planned.map initial_selection).map TeamRevisionMember.member_id =
      planned.map MaterializedMember.member_id := by
  rw [List.map_map]
  rfl

theorem Grown.nodup {root : MemberId} {planned : List MaterializedMember} (h : Grown root planned) :
    (planned.map MaterializedMember.member_id).Nodup := by
  induction h with
  | root => simp
  | snoc _ _ _ hnew ih =>
    rw [List.map_append, List.map_singleton, List.nodup_append]
    refine ⟨ih, by simp, ?_⟩
    intro x hx y hy hxy
    rw [List.mem_singleton] at hy
    exact hnew (hy ▸ hxy ▸ hx)

/-- Every planned Member climbs to the root along planned parents. -/
theorem Grown.climb {root : MemberId} {planned : List MaterializedMember} (h : Grown root planned)
    {parent : MemberId → Option MemberId}
    (hparent : ∀ member ∈ planned, parent member.member_id = member.parent_member_id) :
    ∀ m ∈ planned.map MaterializedMember.member_id, Forest.BelowOrEq parent m root := by
  induction h with
  | root hid _ =>
    intro m hm
    rw [List.map_singleton, List.mem_singleton, hid] at hm
    exact hm ▸ .refl
  | @snoc planned member p _ hp hmem _ ih =>
    have hkept := ih fun other hother => hparent other (List.mem_append_left _ hother)
    intro m hm
    rw [List.map_append, List.map_singleton, List.mem_append, List.mem_singleton] at hm
    rcases hm with hm | rfl
    · exact hkept m hm
    · have hstep := hparent member (List.mem_append_right _ (List.mem_singleton.mpr rfl))
      exact .head (hstep.trans hp) (hkept p hmem)

/-- The parents that planned Members name are planned. -/
theorem Grown.parent_mem {root : MemberId} {planned : List MaterializedMember} (h : Grown root planned)
    {member : MaterializedMember} {p : MemberId} (hmem : member ∈ planned)
    (hp : member.parent_member_id = some p) : p ∈ planned.map MaterializedMember.member_id := by
  induction h with
  | root _ hnone =>
    rw [List.mem_singleton] at hmem
    subst hmem
    rw [hnone] at hp
    cases hp
  | snoc _ hparent hparentMem _ ih =>
    rw [List.map_append]
    refine List.mem_append_left _ ?_
    rcases List.mem_append.mp hmem with hmem | hmem
    · exact ih hmem
    · rw [List.mem_singleton] at hmem
      subst hmem
      rw [hparent] at hp
      cases hp
      exact hparentMem

theorem Grown.head {root : MemberId} {planned : List MaterializedMember} (h : Grown root planned) :
    ∃ member ∈ planned, member.member_id = root ∧ member.parent_member_id = none := by
  induction h with
  | root hid hparent => exact ⟨_, List.mem_singleton.mpr rfl, hid, hparent⟩
  | snoc _ _ _ _ ih =>
    obtain ⟨member, hmem, hid, hparent⟩ := ih
    exact ⟨member, List.mem_append_left _ hmem, hid, hparent⟩

theorem initial_revision_wellFormed {lead : NormalizedMember} {planned : List MaterializedMember}
    (h : Grown lead.id planned) : (initial_revision lead planned).WellFormed := by
  have hnodup : ((initial_revision lead planned).members.map TeamRevisionMember.member_id).Nodup := by
    rw [initial_revision, map_initial_selection_ids]
    exact h.nodup
  have hselect : ∀ member ∈ planned,
      (initial_revision lead planned).select member.member_id = some (initial_selection member) := fun member hm =>
    TeamRevision.select_of_mem hnodup (List.mem_map_of_mem hm)
  have hparent : ∀ member ∈ planned,
      (initial_revision lead planned).parent member.member_id = member.parent_member_id := by
    intro member hm
    rw [TeamRevision.parent, hselect member hm, Option.bind_some, initial_selection]
  have hplanned : ∀ m s, (initial_revision lead planned).select m = some s →
      ∃ member ∈ planned, initial_selection member = s ∧ member.member_id = m := by
    intro m s hs
    obtain ⟨member, hmem, rfl⟩ := List.mem_map.mp (TeamRevision.mem_of_select hs)
    exact ⟨member, hmem, rfl, TeamRevision.select_member_id hs⟩
  refine ⟨hnodup, ?_, ?_, ?_⟩
  · obtain ⟨member, hmem, hid, hnone⟩ := h.head
    refine ⟨initial_selection member, ?_, hnone⟩
    have := hselect member hmem
    rwa [hid] at this
  · intro m p hp
    obtain ⟨s, hs, hsp⟩ := TeamRevision.parent_eq_some_iff.mp hp
    obtain ⟨member, hmem, rfl, -⟩ := hplanned m s hs
    obtain ⟨parent, hparentMem, rfl⟩ := List.mem_map.mp (h.parent_mem hmem hsp)
    rw [hselect parent hparentMem]
    rfl
  · intro m hm
    obtain ⟨s, hs⟩ := Option.isSome_iff_exists.mp hm
    obtain ⟨member, hmem, -, rfl⟩ := hplanned m s hs
    exact h.climb hparent _ (List.mem_map_of_mem hmem)

/-- The first Team is a well-formed tree whose selections are recorded, and nothing but its rows was
    staged. -/
theorem materialize_initial_task_team_success {db db' : TaskDb} {stable : StableIdentity}
    {lead : NormalizedMember} (h : materialize_initial_task_team db stable lead = .ok db') :
    ∃ planned, (initial_revision lead planned).WellFormed ∧ (initial_revision lead planned).Recorded db'.toTeamTables ∧
      db' = { db with
        members := db'.members
        member_configurations := db'.member_configurations
        member_branch_bases := db'.member_branch_bases
        team_revisions := db.team_revisions.set stable.team_revision_id (initial_revision lead planned) } := by
  unfold materialize_initial_task_team at h
  simp only [bind_eq_ok_iff, require_some_eq_ok_iff] at h
  obtain ⟨planned, hplan, members, hmembers, configurations, hconfigurations, bases, hbases,
    revisions, hrevisions, h⟩ := h
  rw [Table.insertNew_eq_some] at hrevisions
  obtain ⟨-, rfl⟩ := hrevisions
  cases h
  refine ⟨planned, initial_revision_wellFormed (build_initial_task_team_grown hplan), ?_, rfl⟩
  intro m s hs
  obtain ⟨member, hmem, rfl⟩ := List.mem_map.mp (TeamRevision.mem_of_select hs)
  have hid : member.member_id = m := TeamRevision.select_member_id hs
  refine ⟨?_, ⟨_, ((Table.insertAll_eq_some hconfigurations).1 _ _).mpr
    (.inr (List.mem_map.mpr ⟨member, hmem, rfl⟩)), hid⟩, ?_⟩
  · have hget := ((Table.insertAll_eq_some hmembers).1 m ()).mpr
      (.inr (List.mem_map.mpr ⟨member, hmem, by rw [hid]⟩))
    rw [hget]
    rfl
  · have hget := ((Table.insertAll_eq_some hbases).1 _ _).mpr
      (.inr (List.mem_map.mpr ⟨member, hmem, rfl⟩))
    exact Option.isSome_iff_exists.mpr ⟨_, hget⟩

end OhMySubagents
