import OhMySubagents.Replan.Context
import OhMySubagents.Replan.Planning.Result
import OhMySubagents.Replan.Staging
import OhMySubagents.Team.Currentness

open Relational

namespace OhMySubagents

/-- Every selection of a revision names recorded history rows. -/
def TeamRevision.Recorded (tables : TeamTables) (rev : TeamRevision) : Prop :=
  ∀ m s, rev.select m = some s → (tables.members.get? m).isSome ∧
    (∃ c, tables.member_configurations.get? s.member_configuration_id = some c ∧ c.member_id = m) ∧
    (tables.member_branch_bases.get? s.member_branch_basis_id).isSome

/-- What one accepted replan by `caller` does to the current Team. `fresh` holds of the bases that no
    earlier revision can name. -/
structure ReplanStep (rev rev' : TeamRevision) (caller : MemberId) (fresh : BranchBasisId → Prop) :
    Prop where
  well_formed : rev'.WellFormed
  root : rev'.root_member_id = rev.root_member_id
  parent : ∀ m s s', rev.select m = some s → rev'.select m = some s' →
    s'.parent_member_id = s.parent_member_id
  added : ∀ m s', rev'.select m = some s' → rev.select m = none → fresh s'.member_branch_basis_id
  dropped : ∀ m, (rev.select m).isSome → rev'.select m = none → Forest.Below rev.parent m caller
  agree : rev.Agree rev'
  changed : ∀ m s s', rev.select m = some s → rev'.select m = some s' →
    s.member_branch_basis_id ≠ s'.member_branch_basis_id →
    fresh s'.member_branch_basis_id ∧ rev.BranchDiffers rev' m ∧
      ∃ q, Forest.BelowOrEq rev.parent q caller ∧ Forest.BelowOrEq rev.parent q m

section LoadedTeam

variable {db : TaskDb} {rev : TeamRevision} {loaded : PlannedMembers}

theorem loaded_parent (hrev : rev.WellFormed)
    (hread : read_planned_members db.member_configurations rev = .ok loaded)
    (hrecorded : rev.Recorded db.toTeamTables) : loaded.parent = rev.parent := by
  funext m
  unfold PlannedMembers.parent TeamRevision.parent
  cases hm : loaded.get? m with
  | some r =>
    obtain ⟨s, c, hs, -, rfl⟩ := (read_planned_members_get? hrev hread m r).mp hm
    rw [hs]
    rfl
  | none =>
    cases hs : rev.select m with
    | none => rfl
    | some s =>
      obtain ⟨-, ⟨c, hc, -⟩, -⟩ := hrecorded m s hs
      rw [(read_planned_members_get? hrev hread m _).mpr ⟨s, c, hs, hc, rfl⟩] at hm
      cases hm

theorem loaded_get?_isSome (hrev : rev.WellFormed)
    (hread : read_planned_members db.member_configurations rev = .ok loaded)
    (hrecorded : rev.Recorded db.toTeamTables) (m : MemberId) : (loaded.get? m).isSome = (rev.select m).isSome := by
  cases hs : rev.select m with
  | some s =>
    obtain ⟨-, ⟨c, hc, -⟩, -⟩ := hrecorded m s hs
    rw [(read_planned_members_get? hrev hread m _).mpr ⟨s, c, hs, hc, rfl⟩]
    rfl
  | none =>
    cases hm : loaded.get? m with
    | none => rfl
    | some r =>
      obtain ⟨s, c, hs', -⟩ := (read_planned_members_get? hrev hread m r).mp hm
      rw [hs] at hs'
      cases hs'

theorem loaded_parentClosed (hrev : rev.WellFormed)
    (hread : read_planned_members db.member_configurations rev = .ok loaded)
    (hrecorded : rev.Recorded db.toTeamTables) : ParentClosed loaded := by
  intro x p hp
  rw [loaded_parent hrev hread hrecorded] at hp
  rw [loaded_get?_isSome hrev hread hrecorded]
  exact hrev.closed x p hp

theorem loaded_links (hrev : rev.WellFormed)
    (hread : read_planned_members db.member_configurations rev = .ok loaded)
    (hrecorded : rev.Recorded db.toTeamTables) : ∀ x, ∀ c ∈ loaded.children x, loaded.parent c = some x := by
  intro x c hc
  obtain ⟨r, hr, hcr⟩ := PlannedMembers.mem_children_iff.mp hc
  obtain ⟨s, cfg, hs, -, rfl⟩ := (read_planned_members_get? hrev hread x r).mp hr
  rw [loaded_parent hrev hread hrecorded]
  have hid := TeamRevision.select_member_id hs
  rw [planned_member] at hcr
  simp only [hid] at hcr
  exact hrev.mem_children_iff.mp hcr

end LoadedTeam

section Successor

variable (source_id : RevisionId) (source : TeamRevision) {mutation : ReplanMutation}

/-- Looking a Member up in the staged successor finds its entry of the mutation. -/
theorem successor_select (htree : CompleteTree mutation.members mutation.root_member_id)
    (hkeyed : ∀ m r, mutation.members.get? m = some r → r.member_id = m) :
    ((successor_revision source_id source mutation).members.map TeamRevisionMember.member_id).Nodup ∧
      ∀ m, (successor_revision source_id source mutation).select m =
        (mutation.members.get? m).map planned_selection := by
  have hids : (successor_revision source_id source mutation).members.map TeamRevisionMember.member_id =
      preorder_ids mutation.members mutation.root_member_id := by
    unfold successor_revision successor_preorder
    have hsome : ∀ m ∈ preorder_ids mutation.members mutation.root_member_id,
        (mutation.members.get? m).isSome := fun m hm => (htree.mem_iff m).mp hm
    generalize preorder_ids mutation.members mutation.root_member_id = ids at hsome
    induction ids with
    | nil => rfl
    | cons id ids ih =>
      obtain ⟨r, hr⟩ := Option.isSome_iff_exists.mp (hsome id List.mem_cons_self)
      have ih := ih fun m hm => hsome m (List.mem_cons_of_mem _ hm)
      simp only [List.filterMap_cons, hr, List.map_cons] at ih ⊢
      rw [ih, planned_selection]
      simp only [hkeyed id r hr]
  have hnodup : ((successor_revision source_id source mutation).members.map
      TeamRevisionMember.member_id).Nodup := by
    rw [hids]
    exact htree.nodup
  refine ⟨hnodup, fun m => ?_⟩
  cases hm : mutation.members.get? m with
  | some r =>
    have hmem : planned_selection r ∈ (successor_revision source_id source mutation).members := by
      refine List.mem_map.mpr ⟨r, List.mem_filterMap.mpr ⟨m, ?_, hm⟩, rfl⟩
      exact (htree.mem_iff m).mpr (by rw [hm]; rfl)
    have hselect := TeamRevision.select_of_mem hnodup hmem
    rw [planned_selection, hkeyed m r hm] at hselect
    rw [hselect]
    simp [planned_selection, hkeyed m r hm]
  | none =>
    cases hs : (successor_revision source_id source mutation).select m with
    | none => rfl
    | some s =>
      exfalso
      have hid := TeamRevision.select_member_id hs
      have hmem : m ∈ preorder_ids mutation.members mutation.root_member_id := by
        rw [← hids, ← hid]
        exact List.mem_map_of_mem (TeamRevision.mem_of_select hs)
      rw [htree.mem_iff, hm] at hmem
      cases hmem

theorem successor_parent (htree : CompleteTree mutation.members mutation.root_member_id)
    (hkeyed : ∀ m r, mutation.members.get? m = some r → r.member_id = m) :
    (successor_revision source_id source mutation).parent = mutation.members.parent := by
  funext m
  unfold TeamRevision.parent PlannedMembers.parent
  rw [(successor_select source_id source htree hkeyed).2]
  cases mutation.members.get? m <;> rfl

/-- Reading the children of a Member back from the staged rows gives the children of its entry. -/
theorem successor_children (htree : CompleteTree mutation.members mutation.root_member_id)
    (hkeyed : ∀ m r, mutation.members.get? m = some r → r.member_id = m) (m : MemberId) :
    (successor_revision source_id source mutation).children m = mutation.members.children m := by
  have hfilter : (successor_revision source_id source mutation).children m =
      (preorder_ids mutation.members mutation.root_member_id).filter fun c =>
        mutation.members.parent c = some m := by
    unfold TeamRevision.children successor_revision successor_preorder
    have hsome : ∀ m ∈ preorder_ids mutation.members mutation.root_member_id,
        (mutation.members.get? m).isSome := fun m hm => (htree.mem_iff m).mp hm
    generalize preorder_ids mutation.members mutation.root_member_id = ids at hsome
    induction ids with
    | nil => rfl
    | cons id ids ih =>
      obtain ⟨r, hr⟩ := Option.isSome_iff_exists.mp (hsome id List.mem_cons_self)
      have ih := ih fun m hm => hsome m (List.mem_cons_of_mem _ hm)
      have hparent : mutation.members.parent id = r.parent_member_id := by
        rw [PlannedMembers.parent, hr, Option.bind_some]
      have hid := hkeyed id r hr
      simp only [List.filterMap_cons, hr, List.map_cons, List.filter_cons, hparent] at ih ⊢
      by_cases hm : r.parent_member_id = some m
      · simp only [planned_selection, hm, beq_self_eq_true, decide_true, if_true, List.map_cons, hid]
        exact congrArg _ ih
      · simp only [planned_selection, beq_iff_eq, hm, decide_false, if_false, Bool.false_eq_true]
        exact ih
  rw [hfilter]
  obtain ⟨root, hroot, hrootParent⟩ := htree.root_parent
  obtain ⟨tail, htail⟩ := Forest.preorder_of_within htree.within
  have htailFilter := Forest.filter_parent_preorder_tail htree.links htree.within htree.nodup m
  have hrootNone : mutation.members.parent mutation.root_member_id = none := by
    rw [PlannedMembers.parent, hroot, Option.bind_some, hrootParent]
  have hdrop : ((preorder_ids mutation.members mutation.root_member_id).filter fun c =>
      mutation.members.parent c = some m) =
      ((Forest.preorder mutation.members.children MAX_MEMBER_DEPTH mutation.root_member_id).tail.filter
        fun c => mutation.members.parent c = some m) := by
    rw [preorder_ids, htail, List.tail_cons, List.filter_cons, hrootNone]
    simp
  rw [hdrop, htailFilter]
  split
  · rfl
  · next hnot =>
    have hnone : mutation.members.get? m = none := by
      rw [← Option.not_isSome_iff_eq_none, ← htree.mem_iff]
      exact hnot
    rw [PlannedMembers.children, hnone, Option.elim_none]

theorem successor_wellFormed (htree : CompleteTree mutation.members mutation.root_member_id)
    (hkeyed : ∀ m r, mutation.members.get? m = some r → r.member_id = m) :
    (successor_revision source_id source mutation).WellFormed := by
  obtain ⟨hnodup, hselect⟩ := successor_select source_id source htree hkeyed
  have hparent := successor_parent source_id source htree hkeyed
  have hreach : ∀ m, (mutation.members.get? m).isSome →
      Forest.BelowOrEq mutation.members.parent m mutation.root_member_id := fun m hm =>
    Forest.belowOrEq_of_mem_preorder htree.links ((htree.mem_iff m).mpr hm)
  obtain ⟨root, hroot, hrootParent⟩ := htree.root_parent
  refine ⟨hnodup, ?_, ?_, ?_⟩
  · refine ⟨planned_selection root, ?_, hrootParent⟩
    rw [hselect]
    exact congrArg _ hroot
  · intro m p hp
    rw [hparent] at hp
    rw [hselect, Option.isSome_map]
    have hm : (mutation.members.get? m).isSome := by
      obtain ⟨r, hr, -⟩ := PlannedMembers.parent_eq_some_iff.mp hp
      rw [hr]; rfl
    -- the parent is the first step of the climb to the root
    rcases (hreach m hm).eq_or_below with rfl | hbelow
    · rw [PlannedMembers.parent, hroot, Option.bind_some, hrootParent] at hp
      cases hp
    · obtain ⟨q, hq, hrest⟩ := hbelow.parent
      rw [hp] at hq
      cases hq
      rcases hrest.eq_or_below with rfl | hrest
      · rw [hroot]; rfl
      · obtain ⟨q, hq, -⟩ := hrest.parent
        obtain ⟨r, hr, -⟩ := PlannedMembers.parent_eq_some_iff.mp hq
        rw [hr]; rfl
  · intro m hm
    rw [hselect, Option.isSome_map] at hm
    rw [hparent]
    exact hreach m hm

end Successor

/-- A path that climbs from a retained Member through the successor already led upwards before. -/
theorem belowOrEq_loaded {loaded members : PlannedMembers} {root caller : MemberId}
    {draws : RefreshDraws} (hclosed : ParentClosed loaded)
    (hspec : Replanned loaded root caller draws members) {s m : MemberId} {rs : PlannedMember}
    (hs : members.get? s = some rs) (hold : rs.is_new = false) (hm : (members.get? m).isSome)
    (hpath : Forest.BelowOrEq members.parent s m) : Forest.BelowOrEq loaded.parent s m := by
  induction hpath using Relation.ReflTransGen.head_induction_on generalizing rs with
  | refl => exact .refl
  | head hstep hrest ih =>
    rename_i a b
    obtain ⟨r0, hr0, hret⟩ := hspec.retained a rs hs hold
    obtain ⟨rs', hrs', hparent⟩ := PlannedMembers.parent_eq_some_iff.mp hstep
    rw [hs] at hrs'
    cases hrs'
    have hloaded : loaded.parent a = some b :=
      PlannedMembers.parent_eq_some_iff.mpr ⟨r0, hr0, hret.parent.symm.trans hparent⟩
    have hb : (members.get? b).isSome := by
      rcases Relation.ReflTransGen.cases_head hrest with rfl | ⟨d, hd, -⟩
      · exact hm
      · obtain ⟨rb, hrb, -⟩ := PlannedMembers.parent_eq_some_iff.mp hd
        rw [hrb]; rfl
    obtain ⟨rb, hrb⟩ := Option.isSome_iff_exists.mp hb
    refine .head hloaded (ih hrb ?_)
    by_contra hnew
    obtain ⟨hnone, -⟩ := hspec.fresh b rb hrb (by simpa using hnew)
    have hsome := hclosed a b hloaded
    rw [hnone] at hsome
    cases hsome

/-- One accepted replan: the Team it started from, the entries it loaded, what it made of them and the history rows it
    staged. -/
structure PlannedReplan (db staged : TaskDb) (rev : TeamRevision) (loaded : PlannedMembers) (caller : MemberId)
    (draws : RefreshDraws) (mutation : ReplanMutation) : Prop where
  well_formed : rev.WellFormed
  recorded : rev.Recorded db.toTeamTables
  loads : read_planned_members db.member_configurations rev = .ok loaded
  root : mutation.root_member_id = rev.root_member_id
  replanned : Replanned loaded rev.root_member_id caller draws mutation.members
  history : HistoryStaged db staged (successor_preorder mutation)

/-- What the entry of a Member that was loaded says: it keeps its place, and unless its flags say otherwise its basis,
    its configuration and its children; what the flags renew is new. -/
structure RetainedSelection (db : TaskDb) (rev : TeamRevision) (m : MemberId) (s : TeamRevisionMember)
    (r : PlannedMember) : Prop where
  is_old : r.is_new = false
  parent : r.parent_member_id = s.parent_member_id
  configuration : r.has_configuration_change = false → r.configuration_id = s.member_configuration_id
  basis : r.has_branch_change = false → r.branch_basis_id = s.member_branch_basis_id
  children : r.has_branch_change = false → r.children = rev.children m
  reconfigured : r.has_configuration_change = true → r.has_branch_change = true
  new_basis : r.has_branch_change = true → db.member_branch_bases.get? r.branch_basis_id = none
  new_configuration : r.has_configuration_change = true → db.member_configurations.get? r.configuration_id = none

namespace PlannedReplan

variable {db staged : TaskDb} {rev : TeamRevision} {loaded : PlannedMembers} {caller m : MemberId}
  {draws : RefreshDraws} {mutation : ReplanMutation} {source_id : RevisionId} {s s' : TeamRevisionMember}
  {r : PlannedMember}

theorem tree (h : PlannedReplan db staged rev loaded caller draws mutation) :
    CompleteTree mutation.members mutation.root_member_id := h.root ▸ h.replanned.tree

/-- An entry that is not new was loaded from a selection. -/
theorem loaded_selection (h : PlannedReplan db staged rev loaded caller draws mutation)
    (hr : mutation.members.get? m = some r) (hold : r.is_new = false) :
    ∃ s c, rev.select m = some s ∧ RetainedMember draws m r (planned_member rev s c) := by
  obtain ⟨r0, hr0, hret⟩ := h.replanned.retained m r hr hold
  obtain ⟨s, c, hs, -, rfl⟩ := (read_planned_members_get? h.well_formed h.loads m r0).mp hr0
  exact ⟨s, c, hs, hret⟩

theorem is_new_iff (h : PlannedReplan db staged rev loaded caller draws mutation)
    (hr : mutation.members.get? m = some r) : r.is_new = true ↔ rev.select m = none := by
  have hsome := loaded_get?_isSome h.well_formed h.loads h.recorded m
  constructor
  · intro hnew
    rw [(h.replanned.fresh m r hr hnew).1] at hsome
    exact Option.not_isSome_iff_eq_none.mp (by simp [← hsome])
  · intro hnone
    by_contra hold
    obtain ⟨s, -, hs, -⟩ := h.loaded_selection hr (by simpa using hold)
    rw [hnone] at hs
    cases hs

theorem keyed (h : PlannedReplan db staged rev loaded caller draws mutation) :
    ∀ m r, mutation.members.get? m = some r → r.member_id = m := by
  intro m r hr
  cases hnew : r.is_new with
  | true => exact (h.replanned.fresh m r hr hnew).2.1
  | false =>
    obtain ⟨s, c, hs, hret⟩ := h.loaded_selection hr hnew
    exact hret.member_id.trans (TeamRevision.select_member_id hs)

theorem ordered (h : PlannedReplan db staged rev loaded caller draws mutation)
    (hr : mutation.members.get? m = some r) : r ∈ successor_preorder mutation :=
  List.mem_filterMap.mpr ⟨m, (h.tree.mem_iff m).mpr (by rw [hr]; rfl), hr⟩

theorem select_eq (h : PlannedReplan db staged rev loaded caller draws mutation) (m : MemberId) :
    (successor_revision source_id rev mutation).select m = (mutation.members.get? m).map planned_selection :=
  (successor_select source_id rev h.tree h.keyed).2 m

theorem select_eq_some (h : PlannedReplan db staged rev loaded caller draws mutation)
    (hs : (successor_revision source_id rev mutation).select m = some s') :
    ∃ r, mutation.members.get? m = some r ∧ planned_selection r = s' := by
  rwa [h.select_eq, Option.map_eq_some_iff] at hs

theorem retained (h : PlannedReplan db staged rev loaded caller draws mutation) (hs : rev.select m = some s)
    (hr : mutation.members.get? m = some r) : RetainedSelection db rev m s r := by
  have hold : r.is_new = false := by
    by_contra hnew
    rw [(h.is_new_iff hr).mp (by simpa using hnew)] at hs
    cases hs
  obtain ⟨s', c, hs', hret⟩ := h.loaded_selection hr hold
  obtain rfl := Option.some.inj (hs.symm.trans hs')
  have hbasis := hret.basis
  have hconfiguration := hret.configuration
  exact
    { is_old := hold
      parent := hret.parent
      configuration := fun hsame => by rw [hsame] at hconfiguration; exact hconfiguration
      basis := fun hsame => by rw [hsame] at hbasis; exact hbasis
      children := fun hsame => (hret.children hsame).trans (by rw [planned_member, TeamRevision.select_member_id hs])
      reconfigured := hret.reconfigured
      new_basis := fun hchange => (h.history.new_basis r (h.ordered hr) hchange).1
      new_configuration := fun hchange => (h.history.new_configuration r (h.ordered hr) hchange).1 }

/-- A shared basis rules out a branch change, because renewed bases are fresh. -/
theorem branch_unchanged (h : PlannedReplan db staged rev loaded caller draws mutation) (hs : rev.select m = some s)
    (hr : mutation.members.get? m = some r) (hbasis : s.member_branch_basis_id = r.branch_basis_id) :
    r.has_branch_change = false := by
  by_contra hchange
  have hnone := (h.retained hs hr).new_basis (by simpa using hchange)
  have hsome := (h.recorded m s hs).2.2
  rw [hbasis, hnone] at hsome
  cases hsome

/-- A branch change comes up to the parent, so below an unchanged branch every basis is as it was. -/
theorem child_unchanged (h : PlannedReplan db staged rev loaded caller draws mutation) {c : MemberId}
    {rc : PlannedMember} (hr : mutation.members.get? m = some r) (hsame : r.has_branch_change = false)
    (hc : c ∈ mutation.members.children m) (hrc : mutation.members.get? c = some rc) :
    rc.has_branch_change = false := by
  by_contra hchange
  obtain ⟨rm, hrm, hup⟩ := h.replanned.upward c m ⟨rc, hrc, by simpa using hchange⟩ (h.tree.links m c hc)
  rw [hr] at hrm
  cases hrm
  rw [hsame] at hup
  cases hup

theorem agree (h : PlannedReplan db staged rev loaded caller draws mutation) :
    rev.Agree (successor_revision source_id rev mutation) := by
  intro m s s' hs hs' hbasis
  obtain ⟨r, hr, rfl⟩ := h.select_eq_some hs'
  have hsame := h.branch_unchanged hs hr hbasis
  have hret := h.retained hs hr
  have hunconfigured : r.has_configuration_change = false := by
    by_contra hchange
    rw [hret.reconfigured (by simpa using hchange)] at hsame
    cases hsame
  have hchildren := successor_children source_id rev h.tree h.keyed
  have hkids : rev.children m = (successor_revision source_id rev mutation).children m := by
    rw [hchildren, PlannedMembers.children, hr, Option.elim_some]
    exact (hret.children hsame).symm
  refine ⟨(hret.configuration hunconfigured).symm, hkids, fun c hc => ?_⟩
  obtain ⟨sc, hsc⟩ := h.well_formed.select_child hc
  rw [hkids] at hc
  obtain ⟨sc', hsc'⟩ := (successor_wellFormed source_id rev h.tree h.keyed).select_child hc
  obtain ⟨rc, hrc, rfl⟩ := h.select_eq_some hsc'
  rw [hchildren] at hc
  exact ⟨sc, _, hsc, hsc', ((h.retained hsc hrc).basis (h.child_unchanged hr hsame hc hrc)).symm⟩

/-- A Member that joins the Team gets a new basis. -/
theorem added (h : PlannedReplan db staged rev loaded caller draws mutation)
    (hs' : (successor_revision source_id rev mutation).select m = some s') (hs : rev.select m = none) :
    db.member_branch_bases.get? s'.member_branch_basis_id = none := by
  obtain ⟨r, hr, rfl⟩ := h.select_eq_some hs'
  have hfresh := h.replanned.fresh m r hr ((h.is_new_iff hr).mpr hs)
  exact (h.history.new_basis r (h.ordered hr) hfresh.2.2.2.1).1

theorem dropped (h : PlannedReplan db staged rev loaded caller draws mutation) (hsome : (rev.select m).isSome)
    (hnone : (successor_revision source_id rev mutation).select m = none) : Forest.Below rev.parent m caller := by
  rw [h.select_eq, Option.map_eq_none_iff] at hnone
  rw [← loaded_parent h.well_formed h.loads h.recorded]
  exact h.replanned.dropped m (by rwa [loaded_get?_isSome h.well_formed h.loads h.recorded]) hnone

/-- Below a Member that a real change comes up to, the two revisions differ. -/
theorem branch_differs (h : PlannedReplan db staged rev loaded caller draws mutation) {q : MemberId}
    {rq : PlannedMember} (hrq : mutation.members.get? q = some rq) (hold : rq.is_new = false)
    (hpath : Forest.BelowOrEq mutation.members.parent q m) (hup : Forest.BelowOrEq rev.parent q m)
    (hreal : ReallyChanged loaded mutation.members q) :
    rev.BranchDiffers (successor_revision source_id rev mutation) m := by
  rcases hreal with ⟨rq', hrq', hcfg⟩ | ⟨c, rc, hrc, hnew, hpc⟩ | ⟨c, hc, hgone⟩
  · -- the seed itself was reconfigured
    refine ⟨q, .inl hup, ?_⟩
    rw [hrq] at hrq'
    cases hrq'
    obtain ⟨sq, -, hsq, -⟩ := h.loaded_selection hrq hold
    have hnone := (h.retained hsq hrq).new_configuration hcfg
    obtain ⟨-, ⟨cq, hcq, -⟩, -⟩ := h.recorded q sq hsq
    rw [hsq, h.select_eq, hrq, Option.map_some, Option.map_some, Option.map_some]
    intro heq
    rw [Option.some.inj heq, planned_selection, hnone] at hcq
    cases hcq
  · -- the seed gained a new child
    have hcq : mutation.members.parent c = some q := PlannedMembers.parent_eq_some_iff.mpr ⟨rc, hrc, hpc⟩
    refine ⟨c, .inr ?_, ?_⟩
    · rw [successor_parent source_id rev h.tree h.keyed]
      exact .head hcq hpath
    · rw [(h.is_new_iff hrc).mp hnew, h.select_eq, hrc]
      simp
  · -- the seed lost a child
    rw [loaded_parent h.well_formed h.loads h.recorded] at hc
    refine ⟨c, .inl (.head hc hup), ?_⟩
    obtain ⟨sc, hsc, -⟩ := TeamRevision.parent_eq_some_iff.mp hc
    rw [hsc, h.select_eq, hgone]
    simp

/-- A basis is renewed where a change below the caller comes up to, and the new one is fresh. -/
theorem changed (h : PlannedReplan db staged rev loaded caller draws mutation) (hs : rev.select m = some s)
    (hs' : (successor_revision source_id rev mutation).select m = some s')
    (hdiffers : s.member_branch_basis_id ≠ s'.member_branch_basis_id) :
    db.member_branch_bases.get? s'.member_branch_basis_id = none ∧
      rev.BranchDiffers (successor_revision source_id rev mutation) m ∧
      ∃ q, Forest.BelowOrEq rev.parent q caller ∧ Forest.BelowOrEq rev.parent q m := by
  obtain ⟨r, hr, rfl⟩ := h.select_eq_some hs'
  have hret := h.retained hs hr
  have hchange : r.has_branch_change = true := by
    by_contra hsame
    exact hdiffers (hret.basis (by simpa using hsame)).symm
  have hparent := loaded_parent h.well_formed h.loads h.recorded
  obtain ⟨q, rq, hrq, hold, hpath, hbelow, hreal⟩ := h.replanned.origin m r hr hret.is_old hchange
  have hup : Forest.BelowOrEq rev.parent q m := by
    rw [← hparent]
    exact belowOrEq_loaded (loaded_parentClosed h.well_formed h.loads h.recorded) h.replanned hrq hold
      (by rw [hr]; rfl) hpath
  exact ⟨hret.new_basis hchange, h.branch_differs hrq hold hpath hup hreal, q, by rwa [← hparent], hup⟩

/-- The selection of a Member that was loaded names history rows, old ones or those that its flags had staged. -/
theorem recorded_retained (h : PlannedReplan db staged rev loaded caller draws mutation) (hs : rev.select m = some s)
    (hr : mutation.members.get? m = some r) : (staged.members.get? m).isSome ∧
      (∃ c, staged.member_configurations.get? r.configuration_id = some c ∧ c.member_id = m) ∧
      (staged.member_branch_bases.get? r.branch_basis_id).isSome := by
  have hret := h.retained hs hr
  have hmem := h.ordered hr
  obtain ⟨hmember, ⟨c, hc, hcm⟩, hbasis⟩ := h.recorded m s hs
  obtain ⟨u, hu⟩ := Option.isSome_iff_exists.mp hmember
  refine ⟨by rw [h.history.members_kept m u hu]; rfl, ?_, ?_⟩
  · cases hcfg : r.has_configuration_change with
    | true =>
      obtain ⟨-, c', hc', hid⟩ := h.history.new_configuration r hmem hcfg
      exact ⟨c', hc', hid.trans (h.keyed m r hr)⟩
    | false =>
      rw [hret.configuration hcfg]
      exact ⟨c, h.history.configurations_kept _ c hc, hcm⟩
  · cases hchange : r.has_branch_change with
    | true => exact (h.history.new_basis r hmem hchange).2
    | false =>
      obtain ⟨b, hb⟩ := Option.isSome_iff_exists.mp hbasis
      rw [hret.basis hchange, h.history.bases_kept _ b hb]
      rfl

/-- The selection of a new Member names rows that were staged for it. -/
theorem recorded_new (h : PlannedReplan db staged rev loaded caller draws mutation)
    (hr : mutation.members.get? m = some r) (hnew : r.is_new = true) : (staged.members.get? m).isSome ∧
      (∃ c, staged.member_configurations.get? r.configuration_id = some c ∧ c.member_id = m) ∧
      (staged.member_branch_bases.get? r.branch_basis_id).isSome := by
  have hmem := h.ordered hr
  obtain ⟨-, hid, hcfg, hbranch, -⟩ := h.replanned.fresh m r hr hnew
  obtain ⟨-, c, hc, hcid⟩ := h.history.new_configuration r hmem hcfg
  refine ⟨?_, ⟨c, hc, hcid.trans hid⟩, (h.history.new_basis r hmem hbranch).2⟩
  rw [← hid]
  exact (h.history.new_member r hmem hnew).2

theorem successor_recorded (h : PlannedReplan db staged rev loaded caller draws mutation) :
    (successor_revision source_id rev mutation).Recorded staged.toTeamTables := by
  intro m s' hs'
  obtain ⟨r, hr, rfl⟩ := h.select_eq_some hs'
  cases hs : rev.select m with
  | some s => exact h.recorded_retained hs hr
  | none => exact h.recorded_new hr ((h.is_new_iff hr).mpr hs)

end PlannedReplan

/-- Everything the runtime relies on about one accepted replan: the successor is a well-formed tree
    whose selections are recorded, Members outside the caller's branch keep their selection, and a
    selection is renewed exactly where the branch below it changed. -/
theorem replan_step {db staged : TaskDb} (source_id : RevisionId) {rev : TeamRevision}
    {loaded : PlannedMembers} {caller : MemberId} {request : ReplanRequest} {draws : RefreshDraws}
    {mutation : ReplanMutation} (hrev : rev.WellFormed) (hrecorded : rev.Recorded db.toTeamTables)
    (hread : read_planned_members db.member_configurations rev = .ok loaded)
    (hbuild : build_replan_mutation loaded rev.root_member_id caller request draws = .ok mutation)
    (hstaged : HistoryStaged db staged (successor_preorder mutation)) :
    ReplanStep rev (successor_revision source_id rev mutation) caller
        (fun b => db.member_branch_bases.get? b = none) ∧
      (successor_revision source_id rev mutation).Recorded staged.toTeamTables := by
  obtain ⟨hroot, hspec⟩ := build_replan_mutation_spec (loaded_parentClosed hrev hread hrecorded)
    (loaded_links hrev hread hrecorded) hbuild
  have hplanned : PlannedReplan db staged rev loaded caller draws mutation :=
    ⟨hrev, hrecorded, hread, hroot, hspec, hstaged⟩
  refine ⟨?_, hplanned.successor_recorded⟩
  exact
    { well_formed := successor_wellFormed source_id rev hplanned.tree hplanned.keyed
      root := hroot
      parent := fun m s s' hs hs' => by
        obtain ⟨r, hr, rfl⟩ := hplanned.select_eq_some hs'
        exact (hplanned.retained hs hr).parent
      added := fun m s' hs' hs => hplanned.added hs' hs
      dropped := fun m hsome hnone => hplanned.dropped hsome hnone
      agree := hplanned.agree
      changed := fun m s s' hs hs' hdiffers => hplanned.changed hs hs' hdiffers }

end OhMySubagents
