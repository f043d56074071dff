import OhMySubagents.Replan.Outcome
import OhMySubagents.System.Reachable

open Relational

namespace OhMySubagents

/-- The fields that a patch omits are as before. -/
structure OmittedKept (fields : MemberPatchFields) (content content' : MemberContent) : Prop where
  title : fields.title = none → content'.title = content.title
  description : fields.description = none → content'.description = content.description
  instruction : fields.instruction = none → content'.instruction = content.instruction
  provider : fields.provider = none → content'.provider_json = content.provider_json
  capabilities : fields.capabilities = none → content'.capabilities_json = content.capabilities_json

theorem MemberPatchFields.omittedKept (fields : MemberPatchFields) (content : MemberContent) :
    OmittedKept fields content (fields.apply content) := by
  refine ⟨?_, ?_, ?_, ?_, ?_⟩ <;> intro hnone <;> simp [apply, hnone]

/-- The successor of a valid Team under a request: again a valid Team with the same root, in which retained Members
    keep their order and their configurations except for what a patch sets. -/
structure TeamPreserved (loaded : PlannedMembers) (root : MemberId) (request : ReplanRequest)
    (mutation : ReplanMutation) : Prop where
  same_root : mutation.root_member_id = root
  valid : ValidTeam mutation.members root
  listed : ∀ m r, mutation.members.get? m = some r ↔ r ∈ successor_preorder mutation ∧ r.member_id = m
  listed_once : ((successor_preorder mutation).map PlannedMember.member_id).Nodup
  parents_first : (successor_preorder mutation).Pairwise fun r p => r.parent_member_id ≠ some p.member_id
  siblings : ∀ m r0 r, loaded.get? m = some r0 → mutation.members.get? m = some r →
    ∃ new, r.children = (r0.children.filter fun c => (mutation.members.get? c).isSome) ++ new ∧
      ∀ c ∈ new, loaded.get? c = none
  unpatched : ∀ m r0 r, loaded.get? m = some r0 → mutation.members.get? m = some r → request.fields_for m = none →
    r.content = r0.content ∧ r.configuration_id = r0.configuration_id
  patched : ∀ m r0 r fields, loaded.get? m = some r0 → mutation.members.get? m = some r →
    request.fields_for m = some fields → r.content = fields.apply r0.content ∧ OmittedKept fields r0.content r.content

/-- Wherever a staged successor is the current Team, the next replan reads it as it was planned. -/
def ReadsBack (db : TaskDb) (context : ReplanCommitContext) (mutation : ReplanMutation) : Prop :=
  ∀ (heads staged later : TaskDb) (successor_team_id : RevisionId) (authority : NodeOperationAuthority),
    heads.member_configurations = db.member_configurations →
    stage_replan_successor_rows heads context.team_revision_id context.team_revision mutation successor_team_id =
      .ok staged →
    later.team_revisions.get? successor_team_id = staged.team_revisions.get? successor_team_id →
    (∀ c r, staged.member_configurations.get? c = some r → later.member_configurations.get? c = some r) →
    later.task.current_team_revision_id = successor_team_id → later.task.status = .running →
    later.task.control_revision = authority.task_control_revision →
    current_team_selects_member later authority.selection = true →
    ∃ reloaded, read_replan_context later authority = .ok reloaded ∧
      reloaded.team_revision.root_member_id = mutation.root_member_id ∧
      Reloads mutation.members reloaded.members ∧ reloaded.team_revision.WellFormed ∧
      ValidTeam reloaded.members reloaded.team_revision.root_member_id

section Preservation

variable {loaded : PlannedMembers} {root caller : MemberId} {request : ReplanRequest} {mutation : ReplanMutation}

/-- The successor in preorder. -/
private theorem successor_preorder_ids (htree : CompleteTree mutation.members mutation.root_member_id)
    (hkeyed : ∀ m r, mutation.members.get? m = some r → r.member_id = m) :
    (successor_preorder mutation).map PlannedMember.member_id =
      preorder_ids mutation.members mutation.root_member_id := by
  have hsome : ∀ m ∈ preorder_ids mutation.members mutation.root_member_id,
      (mutation.members.get? m).isSome := fun m hm => (htree.mem_iff m).mp hm
  unfold successor_preorder
  generalize preorder_ids mutation.members mutation.root_member_id = ids at hsome
  induction ids with
  | nil => rfl
  | cons id ids ih =>
    obtain ⟨r, hr⟩ := Option.isSome_iff_exists.mp (hsome id List.mem_cons_self)
    rw [List.filterMap_cons, hr, List.map_cons, ih fun m hm => hsome m (List.mem_cons_of_mem _ hm), hkeyed id r hr]

theorem ReplanOutcome.teamPreserved (h : ReplanOutcome loaded root caller request mutation)
    (hkeyed : ∀ m r, mutation.members.get? m = some r → r.member_id = m) :
    TeamPreserved loaded root request mutation := by
  have htree : CompleteTree mutation.members mutation.root_member_id := h.same_root ▸ h.valid.toCompleteTree
  have hids := successor_preorder_ids htree hkeyed
  have hlisted : ∀ m r, mutation.members.get? m = some r ↔ r ∈ successor_preorder mutation ∧ r.member_id = m := by
    intro m r
    constructor
    · intro hr
      exact ⟨List.mem_filterMap.mpr ⟨m, (htree.mem_iff m).mpr (by simp [hr]), hr⟩, hkeyed m r hr⟩
    · rintro ⟨hr, rfl⟩
      obtain ⟨m, -, hm⟩ := List.mem_filterMap.mp hr
      rwa [hkeyed m r hm]
  refine
    { same_root := h.same_root
      valid := h.valid
      listed := hlisted
      listed_once := by rw [hids]; exact htree.nodup
      parents_first := ?_
      siblings := fun m r0 r hr0 hr => ?_
      unpatched := fun m r0 r hr0 hr hnone => ?_
      patched := fun m r0 r fields hr0 hr hsome => ?_ }
  · have hfirst := htree.parents_first
    rw [← hids, List.pairwise_map] at hfirst
    refine hfirst.imp_of_mem fun {r p} hr _ hlink hparent => hlink ?_
    have hget := (hlisted r.member_id r).mpr ⟨hr, rfl⟩
    exact PlannedMembers.parent_eq_some_iff.mpr ⟨r, hget, hparent⟩
  · obtain ⟨-, -, -, -, new, hchildren, hnew⟩ := h.retained m r0 r hr0 hr
    exact ⟨new, hchildren, fun c hc => ((h.created c).mp (hnew c hc)).1⟩
  · obtain ⟨-, -, hcontent, hid, -⟩ := h.retained m r0 r hr0 hr
    rw [hnone] at hcontent
    exact ⟨hcontent, hid hcontent⟩
  · obtain ⟨-, -, hcontent, -, -⟩ := h.retained m r0 r hr0 hr
    rw [hsome] at hcontent
    have hcontent : r.content = fields.apply r0.content := hcontent
    exact ⟨hcontent, hcontent ▸ fields.omittedKept r0.content⟩

end Preservation

/-- Replan preserves a valid Team tree, and what it stages is read back as it was planned. -/
theorem replan_preserves_team {db : TaskDb} {authority : NodeOperationAuthority} {context : ReplanCommitContext}
    {caller : MemberId} {request : ReplanRequest} {draws : RefreshDraws} {mutation : ReplanMutation}
    (hread : read_replan_context db authority = .ok context) (hrev : context.team_revision.WellFormed)
    (hteam : ValidTeam context.members context.team_revision.root_member_id) (hrequest : request.Valid)
    (h : build_replan_mutation context.members context.team_revision.root_member_id caller request draws =
      .ok mutation) :
    TeamPreserved context.members context.team_revision.root_member_id request mutation ∧
      ReadsBack db context mutation := by
  obtain ⟨-, -, hmembers⟩ := read_replan_context_success hread
  have houtcome := build_replan_mutation_outcome hteam.toCompleteTree hrequest h
  obtain ⟨hroot, hspec⟩ := build_replan_mutation_spec hteam.closed hteam.links h
  have hkeyed := planned_keyed hrev hmembers hspec
  have htree : CompleteTree mutation.members mutation.root_member_id := hroot ▸ hspec.tree
  refine ⟨houtcome.teamPreserved hkeyed, ?_⟩
  intro heads staged later successor_team_id authority' hheads hstaged hrevision hkept hcurrent hrunning hcontrol
    hselects
  unfold stage_replan_successor_rows at hstaged
  simp only [bind_eq_ok_iff, require_some_eq_ok_iff, Table.insertNew_eq_some] at hstaged
  obtain ⟨history, hhistory, revisions, ⟨-, rfl⟩, hstaged⟩ := hstaged
  cases hstaged
  obtain ⟨reloaded, hreload, hreloads⟩ := successor_reads_back context.team_revision_id hrev hmembers
    hteam.toCompleteTree h hheads hhistory hkept
  rw [Table.get?_set_self] at hrevision
  refine ⟨⟨successor_team_id, successor_revision context.team_revision_id context.team_revision mutation, reloaded⟩,
    ?_, rfl, hreloads, successor_wellFormed _ _ htree hkeyed, ?_⟩
  · unfold read_replan_context
    rw [hcurrent, hrevision, hrunning, hcontrol, hselects]
    simp only [beq_self_eq_true, Bool.and_self]
    exact bind_eq_ok_iff.mpr ⟨(), rfl, bind_eq_ok_iff.mpr ⟨_, rfl, bind_eq_ok_iff.mpr ⟨_, hreload, rfl⟩⟩⟩
  · have hvalid : ValidTeam mutation.members mutation.root_member_id := by
      rw [hroot]
      exact houtcome.valid
    exact hreloads.validTeam hvalid

/-- Manager 2 gets a title, its Member 4 an instruction and its branch a new Member 6. -/
def retitled_manager : ReplanRequest :=
  .update_child 2 { title := some (some "Lead") }
    [.existing 4 { instruction := some (some "Review") } [], .new (.mk ⟨6, 6, 6⟩ two_managers.plain [])]

def retitled_draws : RefreshDraws where
  configuration := fun m => 10 + m
  branch_basis := fun m => 10 + m

theorem retitled_manager_valid : retitled_manager.Valid := by
  refine ⟨fun id fields children h => ?_, ?_⟩
  · cases h
    simp [existing_children, child_patches_name_once, ReplanChildPatch.names_once]
  · decide

/-- The lead of `two_managers` may send it. -/
theorem retitled_manager_accepted :
    ∃ authority context mutation, read_replan_context (replayed [] replay_start) authority = .ok context ∧
      context.team_revision.WellFormed ∧ ValidTeam context.members context.team_revision.root_member_id ∧
      build_replan_mutation context.members context.team_revision.root_member_id 1 retitled_manager retitled_draws =
        .ok mutation := by
  have hrun : ((read_node_operation_authority (replayed [] replay_start) ⟨1, none⟩).toOption.any fun authority =>
      (read_replan_context (replayed [] replay_start) authority).toOption.any fun context =>
        (validate_complete_tree context.members context.team_revision.root_member_id).toOption.isSome &&
          (build_replan_mutation context.members context.team_revision.root_member_id 1 retitled_manager
            retitled_draws).toOption.isSome) = true := by
    decide +kernel
  obtain ⟨authority, -, hrun⟩ := (Option.any_eq_true _ _).mp hrun
  obtain ⟨context, hcontext, hrun⟩ := (Option.any_eq_true _ _).mp hrun
  rw [Bool.and_eq_true] at hrun
  obtain ⟨_, hvalid⟩ := Option.isSome_iff_exists.mp hrun.1
  obtain ⟨mutation, hbuild⟩ := Option.isSome_iff_exists.mp hrun.2
  rw [toOption_eq_some_iff] at hcontext hvalid hbuild
  have hsound : Sound (replayed [] replay_start) := Controller.sound (replayed_reachable _)
  obtain ⟨-, hrev, -⟩ := read_replan_context_success hcontext
  exact ⟨authority, context, mutation, hcontext, hsound.lanes.selection.history.well_formed _ _ hrev,
    validate_complete_tree_valid hvalid, hbuild⟩

theorem replan_preserves_two_managers :
    ∃ authority context mutation, read_replan_context (replayed [] replay_start) authority = .ok context ∧
      TeamPreserved context.members context.team_revision.root_member_id retitled_manager mutation ∧
      ReadsBack (replayed [] replay_start) context mutation := by
  obtain ⟨authority, context, mutation, hread, hrev, hteam, hbuild⟩ := retitled_manager_accepted
  exact ⟨authority, context, mutation, hread,
    replan_preserves_team hread hrev hteam retitled_manager_valid hbuild⟩

/-- What an accepted replan leaves alone in a Member that is not strictly below the caller. -/
structure KeptOutside (loaded : PlannedMembers) (caller m : MemberId) (r0 r : PlannedMember) : Prop where
  member_id : r.member_id = r0.member_id
  parent : r.parent_member_id = r0.parent_member_id
  content : r.content = r0.content
  configuration_id : r.configuration_id = r0.configuration_id
  branch_basis : r.branch_basis_id ≠ r0.branch_basis_id → Forest.BelowOrEq loaded.parent caller m
  children : ¬ Forest.BelowOrEq loaded.parent m caller → r.children = r0.children

/-- An accepted replan acts strictly below the caller, and reports exactly the Members that it acted on. -/
structure ReplanConfined (loaded : PlannedMembers) (caller : MemberId) (mutation : ReplanMutation) : Prop where
  outside : ∀ m r0, loaded.get? m = some r0 → ¬ Forest.Below loaded.parent m caller →
    ∃ r, mutation.members.get? m = some r ∧ KeptOutside loaded caller m r0 r
  created_below : ∀ m ∈ mutation.created_ids, Forest.Below mutation.members.parent m caller
  updated_below : ∀ m ∈ mutation.updated_ids, Forest.Below loaded.parent m caller
  removed_below : ∀ m ∈ mutation.removed_ids, Forest.Below loaded.parent m caller
  created : ∀ m, m ∈ mutation.created_ids ↔ loaded.get? m = none ∧ (mutation.members.get? m).isSome
  updated : ∀ m, m ∈ mutation.updated_ids ↔
    ∃ r0 r, loaded.get? m = some r0 ∧ mutation.members.get? m = some r ∧ r.content ≠ r0.content
  reconfigured : ∀ m r0 r, loaded.get? m = some r0 → mutation.members.get? m = some r →
    m ∉ mutation.updated_ids → r.configuration_id = r0.configuration_id
  removed : ∀ m, m ∈ mutation.removed_ids ↔ (loaded.get? m).isSome ∧ mutation.members.get? m = none
  created_nodup : mutation.created_ids.Nodup
  updated_nodup : mutation.updated_ids.Nodup
  removed_nodup : mutation.removed_ids.Nodup

/-- Replan authority is confined to the caller's subtree. -/
theorem replan_confined {loaded : PlannedMembers} {root caller : MemberId} {request : ReplanRequest}
    {draws : RefreshDraws} {mutation : ReplanMutation} (hteam : ValidTeam loaded root) (hrequest : request.Valid)
    (h : build_replan_mutation loaded root caller request draws = .ok mutation) :
    ReplanConfined loaded caller mutation := by
  have houtcome := build_replan_mutation_outcome hteam.toCompleteTree hrequest h
  obtain ⟨-, hspec⟩ := build_replan_mutation_spec hteam.closed hteam.links h
  have hremoved : ∀ m ∈ mutation.removed_ids, Forest.Below loaded.parent m caller := by
    intro m hm
    obtain ⟨hsome, hnone⟩ := (houtcome.removed m).mp hm
    exact hspec.dropped m hsome hnone
  refine
    { outside := fun m r0 hr0 hm => ?_
      created_below := houtcome.placed
      updated_below := fun m hm => ?_
      removed_below := hremoved
      created := houtcome.created
      updated := houtcome.updated
      reconfigured := fun m r0 r hr0 hr hm => ?_
      removed := houtcome.removed
      created_nodup := houtcome.created_nodup
      updated_nodup := houtcome.updated_nodup
      removed_nodup := houtcome.removed_nodup }
  · cases hr : mutation.members.get? m with
    | none => exact absurd (hspec.dropped m (by simp [hr0]) hr) hm
    | some r =>
      obtain ⟨hold, hparent, hcontent, hid, new, hchildren, hnew⟩ := houtcome.retained m r0 r hr0 hr
      obtain ⟨r0', hr0', hret⟩ := hspec.retained m r hr hold
      obtain rfl := Option.some.inj (hr0.symm.trans hr0')
      have hunpatched : request.fields_for m = none := by
        by_contra hpatched
        exact hm (houtcome.named m hpatched)
      rw [hunpatched] at hcontent
      have hcontent : r.content = r0.content := hcontent
      refine ⟨r, rfl, hret.member_id, hparent, hcontent, hid hcontent, fun hbasis => ?_, fun houtside => ?_⟩
      · -- a renewed basis comes from a seed below both the caller and this Member
        have hchanged : r.has_branch_change = true := by
          by_contra hsame
          rw [hret.basis, if_neg hsame] at hbasis
          exact hbasis rfl
        obtain ⟨s, rs, hrs, hsold, hpath, hcaller, -⟩ := hspec.origin m r hr hold hchanged
        have hup := belowOrEq_loaded hteam.closed hspec hrs hsold (by simp [hr]) hpath
        rcases hcaller.comparable hup with hle | hle
        · exact hle
        · rcases hle.eq_or_below with rfl | hbelow
          · exact .refl
          · exact absurd hbelow hm
      · have hkept : (r0.children.filter fun c => (mutation.members.get? c).isSome) = r0.children := by
          refine List.filter_eq_self.mpr fun c hc => ?_
          have hlink := hteam.links m c (PlannedMembers.mem_children_iff.mpr ⟨r0, hr0, hc⟩)
          obtain ⟨rc, hrc, -⟩ := PlannedMembers.parent_eq_some_iff.mp hlink
          cases hgone : mutation.members.get? c with
          | some _ => rfl
          | none =>
            obtain ⟨p, hp, hle⟩ := (hspec.dropped c (by simp [hrc]) hgone).parent
            obtain rfl := Option.some.inj (hlink.symm.trans hp)
            exact absurd hle houtside
        have hnone : new = [] := by
          refine List.eq_nil_iff_forall_not_mem.mpr fun c hc => houtside ?_
          have hmem : c ∈ mutation.members.children m := by
            rw [PlannedMembers.mem_children_iff]
            exact ⟨r, hr, by rw [hchildren]; exact List.mem_append_right _ hc⟩
          obtain ⟨p, hp, hle⟩ := (houtcome.placed c (hnew c hc)).parent
          obtain rfl := Option.some.inj ((hspec.tree.links m c hmem).symm.trans hp)
          have hcaller : (mutation.members.get? caller).isSome := by
            rcases hle.eq_or_below with rfl | hbelow
            · simp [hr]
            · obtain ⟨q, -, hq⟩ := Relation.TransGen.tail'_iff.mp hbelow
              exact hspec.tree.closed q caller hq
          exact belowOrEq_loaded hteam.closed hspec hr hold hcaller hle
        rw [hchildren, hkept, hnone, List.append_nil]
  · obtain ⟨r0, r, hr0, hr, hne⟩ := (houtcome.updated m).mp hm
    obtain ⟨-, -, hcontent, -, -⟩ := houtcome.retained m r0 r hr0 hr
    refine houtcome.named m fun hnone => hne ?_
    rw [hcontent, hnone]
    rfl
  · obtain ⟨-, -, -, hid, -⟩ := houtcome.retained m r0 r hr0 hr
    refine hid ?_
    by_contra hne
    exact hm ((houtcome.updated m).mpr ⟨r0, r, hr0, hr, hne⟩)

theorem replan_confined_two_managers :
    ∃ authority context mutation, read_replan_context (replayed [] replay_start) authority = .ok context ∧
      ReplanConfined context.members 1 mutation := by
  obtain ⟨authority, context, mutation, hread, -, hteam, hbuild⟩ := retitled_manager_accepted
  exact ⟨authority, context, mutation, hread, replan_confined hteam retitled_manager_valid hbuild⟩

end OhMySubagents
