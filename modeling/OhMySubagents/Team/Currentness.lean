import OhMySubagents.Relational.Forest
import OhMySubagents.Rows
import OhMySubagents.TaskDb

open Relational

namespace OhMySubagents

/-- The selection of one Member in a Team revision. -/
def TeamRevision.select (rev : TeamRevision) (m : MemberId) : Option TeamRevisionMember :=
  rev.members.find? fun s => s.member_id == m

/-- The parent of a selected Member. -/
def TeamRevision.parent (rev : TeamRevision) (m : MemberId) : Option MemberId :=
  (rev.select m).bind TeamRevisionMember.parent_member_id

/-- The direct children of a Member, in sibling order. -/
def TeamRevision.children (rev : TeamRevision) (m : MemberId) : List MemberId :=
  (rev.members.filter fun s => s.parent_member_id == some m).map TeamRevisionMember.member_id

/-- A Team revision is one tree: Members are selected once, below one root, by selected parents. -/
structure TeamRevision.WellFormed (rev : TeamRevision) : Prop where
  nodup : (rev.members.map TeamRevisionMember.member_id).Nodup
  root : ∃ s, rev.select rev.root_member_id = some s ∧ s.parent_member_id = none
  closed : ∀ m p, rev.parent m = some p → (rev.select p).isSome
  rooted : ∀ m, (rev.select m).isSome → Forest.BelowOrEq rev.parent m rev.root_member_id

theorem TeamRevision.select_member_id {rev : TeamRevision} {m : MemberId} {s : TeamRevisionMember}
    (h : rev.select m = some s) : s.member_id = m := by
  simpa using List.find?_some h

theorem TeamRevision.mem_of_select {rev : TeamRevision} {m : MemberId} {s : TeamRevisionMember}
    (h : rev.select m = some s) : s ∈ rev.members :=
  List.mem_of_find?_eq_some h

/-- Selections have distinct Members, so looking one up finds it. -/
theorem TeamRevision.select_of_mem {rev : TeamRevision}
    (hnodup : (rev.members.map TeamRevisionMember.member_id).Nodup) {s : TeamRevisionMember}
    (h : s ∈ rev.members) : rev.select s.member_id = some s := by
  cases hfind : rev.select s.member_id with
  | none =>
    have hnone := List.find?_eq_none.mp hfind s h
    simp at hnone
  | some s' =>
    have hid := select_member_id hfind
    rw [List.inj_on_of_nodup_map hnodup (mem_of_select hfind) h hid]

theorem TeamRevision.parent_eq_some_iff {rev : TeamRevision} {m p : MemberId} :
    rev.parent m = some p ↔ ∃ s, rev.select m = some s ∧ s.parent_member_id = some p := by
  unfold TeamRevision.parent
  cases rev.select m <;> simp

theorem TeamRevision.WellFormed.mem_children_iff {rev : TeamRevision} (hrev : rev.WellFormed)
    {m c : MemberId} : c ∈ rev.children m ↔ rev.parent c = some m := by
  unfold TeamRevision.children
  rw [List.mem_map, TeamRevision.parent_eq_some_iff]
  constructor
  · rintro ⟨s, hs, rfl⟩
    obtain ⟨hmem, hparent⟩ := List.mem_filter.mp hs
    exact ⟨s, TeamRevision.select_of_mem hrev.nodup hmem, by simpa using hparent⟩
  · rintro ⟨s, hs, hparent⟩
    refine ⟨s, List.mem_filter.mpr ⟨TeamRevision.mem_of_select hs, by simp [hparent]⟩, ?_⟩
    exact TeamRevision.select_member_id hs

/-- The exact values that a Dispatch, a prompt or a Wave pins of one Member selection. -/
structure MemberSelection where
  member_id : MemberId
  member_configuration_id : ConfigurationId
  member_branch_basis_id : BranchBasisId
  deriving DecidableEq, Repr

def DispatchTurn.selection (dispatch : DispatchTurn) : MemberSelection where
  member_id := dispatch.member_id
  member_configuration_id := dispatch.member_configuration_id
  member_branch_basis_id := dispatch.member_branch_basis_id

/-- Whether a Team revision selects one Member with exactly these values. -/
def TeamRevision.selects (rev : TeamRevision) (selection : MemberSelection) : Bool :=
  (rev.select selection.member_id).any fun selected =>
    selected.member_configuration_id == selection.member_configuration_id &&
      selected.member_branch_basis_id == selection.member_branch_basis_id

def team_revision_selects_member (db : TaskDb) (team_revision_id : RevisionId)
    (selection : MemberSelection) : Bool :=
  (db.team_revisions.get? team_revision_id).any fun rev => rev.selects selection

/-- Return whether the current Team retains one exact member selection. -/
def current_team_selects_member (db : TaskDb) (selection : MemberSelection) : Bool :=
  team_revision_selects_member db db.task.current_team_revision_id selection

theorem TeamRevision.selects_iff {rev : TeamRevision} {selection : MemberSelection} :
    rev.selects selection = true ↔ ∃ selected, rev.select selection.member_id = some selected ∧
      selected.member_configuration_id = selection.member_configuration_id ∧
      selected.member_branch_basis_id = selection.member_branch_basis_id := by
  unfold TeamRevision.selects
  cases rev.select selection.member_id <;> simp

theorem team_revision_selects_member_iff {db : TaskDb} {team_revision_id : RevisionId}
    {selection : MemberSelection} :
    team_revision_selects_member db team_revision_id selection = true ↔
      ∃ rev, db.team_revisions.get? team_revision_id = some rev ∧ rev.selects selection = true := by
  unfold team_revision_selects_member
  cases db.team_revisions.get? team_revision_id <;> simp

def TeamRevisionMember.selection (selected : TeamRevisionMember) : MemberSelection where
  member_id := selected.member_id
  member_configuration_id := selected.member_configuration_id
  member_branch_basis_id := selected.member_branch_basis_id

/-- The selections directly below one Member, in sibling order. -/
def TeamRevision.child_members (rev : TeamRevision) (member_id : MemberId) : List TeamRevisionMember :=
  rev.members.filter fun selected => selected.parent_member_id == some member_id

/-- Return whether exact current Member basis has an accepted green return. -/
def read_accepted_green_participation (db : TaskDb) (selection : MemberSelection) : Bool :=
  db.accepted_boundaries.any fun source_dispatch_id boundary => boundary.outcome == .green &&
    (db.dispatches.get? source_dispatch_id).any fun dispatch => dispatch.selection == selection

theorem read_accepted_green_participation_iff {db : TaskDb} {selection : MemberSelection} :
    read_accepted_green_participation db selection = true ↔ ∃ d boundary dispatch,
      db.accepted_boundaries.get? d = some boundary ∧ boundary.outcome = .green ∧
        db.dispatches.get? d = some dispatch ∧ dispatch.selection = selection := by
  unfold read_accepted_green_participation
  simp only [Table.any_eq_true_iff, Bool.and_eq_true, beq_iff_eq, Option.any_eq_true]
  constructor
  · rintro ⟨d, boundary, hrow, hgreen, dispatch, hdispatch, hselection⟩
    exact ⟨d, boundary, dispatch, hrow, hgreen, hdispatch, hselection⟩
  · rintro ⟨d, boundary, dispatch, hrow, hgreen, hdispatch, hselection⟩
    exact ⟨d, boundary, hrow, hgreen, dispatch, hdispatch, hselection⟩

/-- A Member with everything below it, as one Team revision shows it. -/
inductive MemberTree
  | node (member_id : MemberId) (configuration_id : ConfigurationId) (branch_basis_id : BranchBasisId)
      (children : List MemberTree)

/-- The subtree of one Member, down to `fuel` levels. -/
def TeamRevision.subtree (rev : TeamRevision) : Nat → MemberId → Option MemberTree
  | 0, _ => none
  | fuel + 1, m => (rev.select m).map fun s =>
    .node s.member_id s.member_configuration_id s.member_branch_basis_id
      ((rev.children m).filterMap (rev.subtree fuel))

/-- Two revisions agree when a basis they share at some Member fixes that Member's configuration, its
    children with their order, and the bases of those children. -/
def TeamRevision.Agree (rev rev' : TeamRevision) : Prop :=
  ∀ m s s', rev.select m = some s → rev'.select m = some s' →
    s.member_branch_basis_id = s'.member_branch_basis_id →
    s.member_configuration_id = s'.member_configuration_id ∧ rev.children m = rev'.children m ∧
      ∀ c ∈ rev.children m, ∃ sc sc', rev.select c = some sc ∧ rev'.select c = some sc' ∧
        sc.member_branch_basis_id = sc'.member_branch_basis_id

/-- Every child a well-formed revision lists is selected. -/
theorem TeamRevision.WellFormed.select_child {rev : TeamRevision} (hrev : rev.WellFormed)
    {m c : MemberId} (hc : c ∈ rev.children m) : ∃ s, rev.select c = some s := by
  rw [hrev.mem_children_iff, TeamRevision.parent_eq_some_iff] at hc
  obtain ⟨s, hs, -⟩ := hc
  exact ⟨s, hs⟩

theorem TeamRevision.WellFormed.agree_self {rev : TeamRevision} (hrev : rev.WellFormed) :
    rev.Agree rev := by
  intro m s s' hs hs' _
  rw [hs] at hs'
  cases hs'
  refine ⟨rfl, rfl, fun c hc => ?_⟩
  obtain ⟨sc, hsc⟩ := hrev.select_child hc
  exact ⟨sc, sc, hsc, hsc, rfl⟩

theorem TeamRevision.Agree.symm {rev rev' : TeamRevision} (h : rev.Agree rev') : rev'.Agree rev := by
  intro m s' s hs' hs hbasis
  obtain ⟨hcfg, hchildren, hbases⟩ := h m s s' hs hs' hbasis.symm
  refine ⟨hcfg.symm, hchildren.symm, fun c hc => ?_⟩
  obtain ⟨sc, sc', hsc, hsc', hsame⟩ := hbases c (hchildren ▸ hc)
  exact ⟨sc', sc, hsc', hsc, hsame.symm⟩

/-- In agreeing revisions a shared basis shows one and the same subtree, to every depth. -/
theorem TeamRevision.Agree.subtree_eq {rev rev' : TeamRevision} (h : rev.Agree rev') (fuel : Nat)
    {m : MemberId} {s s' : TeamRevisionMember} (hs : rev.select m = some s)
    (hs' : rev'.select m = some s') (hbasis : s.member_branch_basis_id = s'.member_branch_basis_id) :
    rev.subtree fuel m = rev'.subtree fuel m := by
  induction fuel generalizing m s s' with
  | zero => rfl
  | succ fuel ih =>
    obtain ⟨hcfg, hchildren, hbases⟩ := h m s s' hs hs' hbasis
    have hid : s.member_id = s'.member_id :=
      (TeamRevision.select_member_id hs).trans (TeamRevision.select_member_id hs').symm
    have hsub : (rev.children m).filterMap (rev.subtree fuel) =
        (rev.children m).filterMap (rev'.subtree fuel) := by
      apply List.filterMap_congr
      intro c hc
      obtain ⟨sc, sc', hsc, hsc', hsame⟩ := hbases c hc
      exact ih hsc hsc' hsame
    rw [TeamRevision.subtree, TeamRevision.subtree, hs, hs', Option.map_some, Option.map_some, hid, hcfg,
      hbasis, hsub, hchildren]

/-- Below a shared basis every Member is selected in both revisions, with a shared basis of its own. -/
theorem TeamRevision.Agree.select_below {rev rev' : TeamRevision} (hrev : rev.WellFormed)
    (h : rev.Agree rev') {d m : MemberId} (hbelow : Forest.BelowOrEq rev.parent d m)
    {s s' : TeamRevisionMember} (hs : rev.select m = some s) (hs' : rev'.select m = some s')
    (hbasis : s.member_branch_basis_id = s'.member_branch_basis_id) :
    ∃ sd sd', rev.select d = some sd ∧ rev'.select d = some sd' ∧
      sd.member_branch_basis_id = sd'.member_branch_basis_id ∧
      sd.member_configuration_id = sd'.member_configuration_id := by
  induction hbelow using Relation.ReflTransGen.head_induction_on with
  | refl => exact ⟨s, s', hs, hs', hbasis, (h m s s' hs hs' hbasis).1⟩
  | head hstep _ ih =>
    obtain ⟨sp, sp', hsp, hsp', hsame, -⟩ := ih
    obtain ⟨-, -, hbases⟩ := h _ sp sp' hsp hsp' hsame
    obtain ⟨sc, sc', hsc, hsc', hsame'⟩ := hbases _ (hrev.mem_children_iff.mpr hstep)
    exact ⟨sc, sc', hsc, hsc', hsame', (h _ sc sc' hsc hsc' hsame').1⟩

/-- Something in the subtree of `m` differs between two revisions: a Member at or below `m` was added,
    removed or reconfigured. -/
def TeamRevision.BranchDiffers (rev rev' : TeamRevision) (m : MemberId) : Prop :=
  ∃ d, (Forest.BelowOrEq rev.parent d m ∨ Forest.BelowOrEq rev'.parent d m) ∧
    (rev.select d).map TeamRevisionMember.member_configuration_id ≠
      (rev'.select d).map TeamRevisionMember.member_configuration_id

theorem TeamRevision.Agree.not_branchDiffers {rev rev' : TeamRevision} (hrev : rev.WellFormed)
    (hrev' : rev'.WellFormed) (h : rev.Agree rev') {m : MemberId} {s s' : TeamRevisionMember}
    (hs : rev.select m = some s) (hs' : rev'.select m = some s')
    (hbasis : s.member_branch_basis_id = s'.member_branch_basis_id) : ¬ rev.BranchDiffers rev' m := by
  rintro ⟨d, hbelow | hbelow, hdiffers⟩
  · obtain ⟨sd, sd', hsd, hsd', -, hcfg⟩ := h.select_below hrev hbelow hs hs' hbasis
    rw [hsd, hsd', Option.map_some, Option.map_some, hcfg] at hdiffers
    exact hdiffers rfl
  · obtain ⟨sd', sd, hsd', hsd, -, hcfg⟩ := h.symm.select_below hrev' hbelow hs' hs hbasis.symm
    rw [hsd, hsd', Option.map_some, Option.map_some, hcfg] at hdiffers
    exact hdiffers rfl

end OhMySubagents
