import OhMySubagents.Replan.Planning.Mutation
import OhMySubagents.Replan.Planning.Validation

open Relational

namespace OhMySubagents

/-- Why a seed's own branch differs from before. -/
def ReallyChanged (base members : PlannedMembers) (s : MemberId) : Prop :=
  (∃ r, members.get? s = some r ∧ r.has_configuration_change = true) ∨
    (∃ c, NewChild members c s) ∨ ∃ c, base.parent c = some s ∧ members.get? c = none

/-- The candidate after the request-specific mutation and before bases are refreshed. -/
structure Candidate (base : PlannedMembers) (caller : MemberId) (members : PlannedMembers)
    (seeds : List MemberId) : Prop where
  retained : ∀ m r, members.get? m = some r → r.is_new = false →
    ∃ r0, base.get? m = some r0 ∧ Retained r r0 (m ∈ seeds) False
  fresh : ∀ m r, members.get? m = some r → r.is_new = true →
    base.get? m = none ∧ (r.has_configuration_change = true ∧ r.member_id = m) ∧
      ∃ p, r.parent_member_id = some p ∧ (IsNew members p ∨ p ∈ seeds)
  seeds : ∀ s ∈ seeds, ∀ r, members.get? s = some r → r.is_new = false →
    Forest.BelowOrEq base.parent s caller ∧ ReallyChanged base members s
  dropped : ∀ m, (base.get? m).isSome → members.get? m = none → Forest.Below base.parent m caller

theorem MutatedFrom.candidate {base : PlannedMembers} {caller : MemberId} {state : PlanState}
    (hinv : MutatedFrom base caller (fun _ => False) state) :
    Candidate base caller state.members state.branch_change_seeds where
  retained := hinv.retained
  fresh := by
    intro m r hr hnew
    obtain ⟨hbase, hcfg, p, hp, hwhy⟩ := hinv.fresh m r hr hnew
    refine ⟨hbase, hcfg, p, hp, ?_⟩
    rcases hwhy with hwhy | hwhy | hwhy
    · exact .inl hwhy
    · exact .inr hwhy
    · exact hwhy.elim
  seeds := by
    intro s hs r hr hold
    obtain ⟨r', hr', hreal⟩ := hinv.seeds s hs
    rw [hr] at hr'
    cases hr'
    obtain ⟨hbelow, hwhy⟩ := hreal hold
    refine ⟨hbelow, ?_⟩
    rcases hwhy with hcfg | hchild
    · exact .inl ⟨r, hr, hcfg⟩
    · exact .inr (.inl hchild)
  dropped := by
    intro m hbase hnone
    obtain ⟨r0, hr0⟩ := Option.isSome_iff_exists.mp hbase
    obtain ⟨r, hr, -⟩ := hinv.kept m r0 hr0
    rw [hnone] at hr
    cases hr

/-- A Team as it is loaded for a replan: parents are selected, children and parents agree, and nothing
    is marked as changed. -/
structure LoadedTeam (base : PlannedMembers) : Prop where
  closed : ParentClosed base
  links : ∀ x, ∀ c ∈ base.children x, base.parent c = some x
  unmarked : ∀ m r, base.get? m = some r → r.is_new = false ∧ r.has_configuration_change = false

theorem LoadedTeam.mutatedFrom {base : PlannedMembers} (hbase : LoadedTeam base) (caller : MemberId) :
    MutatedFrom base caller (fun _ => False) { members := base } where
  kept := fun m r0 hr0 => ⟨r0, hr0, (hbase.unmarked m r0 hr0).1⟩
  retained := by
    intro m r hr hold
    refine ⟨r, hr, ⟨rfl, rfl, rfl, rfl, rfl, fun _ => rfl, ?_, .inl rfl⟩⟩
    intro hchange
    rw [(hbase.unmarked m r hr).2] at hchange
    cases hchange
  fresh := by
    intro m r hr hnew
    rw [(hbase.unmarked m r hr).1] at hnew
    cases hnew
  seeds := by simp
  updated := by simp

private theorem get?_foldl_delete (ids : List MemberId) (members : PlannedMembers) (m : MemberId) :
    (ids.foldl Table.delete members).get? m = if m ∈ ids then none else members.get? m := by
  induction ids generalizing members with
  | nil => simp
  | cons id ids ih =>
    rw [List.foldl_cons, ih, Table.get?_delete]
    by_cases hm : m ∈ ids
    · simp [hm]
    · by_cases hid : m = id <;> simp [hm, hid]

theorem descendant_ids_spec {members : PlannedMembers} {m : MemberId} {include_self : Bool}
    {ids : List MemberId} (h : descendant_ids members m include_self = .ok ids) :
    (members.get? m).isSome ∧
      ids = if include_self then preorder_ids members m
        else (preorder_ids members m).filter (· != m) := by
  unfold descendant_ids at h
  rw [bind_eq_ok_iff] at h
  obtain ⟨_, hsome, h⟩ := h
  rw [require_eq_ok_iff] at hsome
  cases h
  exact ⟨hsome, rfl⟩

/-- A Member among the caller's proper descendants lies strictly below the caller. -/
theorem LoadedTeam.below_of_mem_descendants {base : PlannedMembers} (hbase : LoadedTeam base)
    {caller id : MemberId} {descendants : List MemberId}
    (hdesc : descendant_ids base caller false = .ok descendants) (hid : id ∈ descendants) :
    Forest.Below base.parent id caller := by
  obtain ⟨-, rfl⟩ := descendant_ids_spec hdesc
  rw [if_neg (by simp), List.mem_filter] at hid
  obtain ⟨hmem, hne⟩ := hid
  rcases (Forest.belowOrEq_of_mem_preorder hbase.links hmem).eq_or_below with rfl | hbelow
  · simp at hne
  · exact hbelow

private theorem add_child_candidate {base : PlannedMembers} (hbase : LoadedTeam base)
    {caller : MemberId} {child : ReplanNewMember} {state : PlanState}
    (hcaller : (base.get? caller).isSome)
    (h : append_new_tree { members := base } caller child = .ok state) :
    Candidate base caller state.members [caller] := by
  have hstart := (hbase.mutatedFrom caller).startGrowth fun x => x = caller
  obtain ⟨hinv, hkeeps, hchild, hseeds⟩ := append_new_tree_mutatedFrom child hstart (.inr ⟨rfl, hcaller⟩) h
  obtain ⟨row, hrow⟩ := Option.isSome_iff_exists.mp hcaller
  have htarget : Patchable base caller base caller := ⟨row, hrow, fun _ => .refl⟩
  have hdone := hinv.recordGrowth (htarget.of_keepsEntries (hstart.keepsEntries hinv hkeeps)) hchild
    [caller] (by intro s; rw [hseeds]; simp)
  exact hdone.candidate

private theorem update_child_candidate {base : PlannedMembers} (hbase : LoadedTeam base)
    {caller id : MemberId} {fields : MemberPatchFields} {children : List ReplanChildPatch}
    {state : PlanState} (hbelow : Forest.Below base.parent id caller)
    (h : apply_patch_tree { members := base } id fields children = .ok state) :
    Candidate base caller state.members state.branch_change_seeds := by
  unfold apply_patch_tree at h
  rw [bind_eq_ok_iff] at h
  obtain ⟨patched, hpatch, h⟩ := h
  have hstart := hbase.mutatedFrom caller
  obtain ⟨member, hmember, -⟩ := patch_member_success hpatch hstart.updated
  have htarget : Patchable base caller base id := ⟨member, hmember, fun _ => hbelow.to_reflTransGen⟩
  obtain ⟨hinv, hkeeps⟩ := patch_member_mutatedFrom hstart htarget hpatch
  obtain ⟨hinv', -⟩ := apply_child_patches_mutatedFrom children hbase.closed hinv
    (htarget.of_keepsEntries (hstart.keepsEntries hinv hkeeps)) h
  exact hinv'.candidate

theorem remove_subtree_success {base members : PlannedMembers} {id : MemberId}
    (h : remove_subtree base id = .ok members) :
    ∃ row parent_id parent, base.get? id = some row ∧ row.parent_member_id = some parent_id ∧
      base.get? parent_id = some parent ∧
      ∀ m, members.get? m =
        if m ∈ preorder_ids (base.set parent_id
            { parent with children := parent.children.erase id }) id then none
        else if m = parent_id then some { parent with children := parent.children.erase id }
        else base.get? m := by
  unfold remove_subtree at h
  rw [bind_eq_ok_iff] at h
  obtain ⟨row, hrow, h⟩ := h
  rw [bind_eq_ok_iff] at h
  obtain ⟨parent_id, hparent, h⟩ := h
  rw [bind_eq_ok_iff] at h
  obtain ⟨unlinked, hunlink, h⟩ := h
  rw [require_some_eq_ok_iff] at hrow hparent hunlink
  rw [Table.updateWhere_eq_some] at hunlink
  obtain ⟨parent, hget, -, rfl⟩ := hunlink
  cases h
  refine ⟨row, parent_id, parent, hrow, hparent, hget, ?_⟩
  intro m
  rw [get?_foldl_delete, Table.get?_set]

private theorem remove_child_candidate {base : PlannedMembers} (hbase : LoadedTeam base)
    {caller id parent_member_id : MemberId} {target : PlannedMember} {members : PlannedMembers}
    (hbelow : Forest.Below base.parent id caller) (htarget : base.get? id = some target)
    (hparent : target.parent_member_id = some parent_member_id)
    (h : remove_subtree base id = .ok members) :
    Candidate base caller members [parent_member_id] := by
  obtain ⟨row, parent_id, parent, hrow, hrowParent, hget, hget'⟩ := remove_subtree_success h
  rw [htarget] at hrow
  cases hrow
  rw [hparent] at hrowParent
  cases hrowParent
  have hlink : base.parent id = some parent_member_id :=
    PlannedMembers.parent_eq_some_iff.mpr ⟨target, htarget, hparent⟩
  generalize hunlinked : base.set parent_member_id
    { parent with children := parent.children.erase id } = unlinked at hget'
  have hentry : ∀ m, unlinked.get? m =
      if m = parent_member_id then some { parent with children := parent.children.erase id }
      else base.get? m := by
    intro m
    rw [← hunlinked, Table.get?_set]
  have hlinks : ∀ x, ∀ c ∈ PlannedMembers.children unlinked x, base.parent c = some x := by
    intro x c hc
    obtain ⟨r, hr, hcr⟩ := PlannedMembers.mem_children_iff.mp hc
    rw [hentry] at hr
    by_cases hx : x = parent_member_id
    · rw [if_pos hx] at hr
      cases hr
      exact hbase.links x c (PlannedMembers.mem_children_iff.mpr
        ⟨parent, by rw [hx]; exact hget, List.mem_of_mem_erase hcr⟩)
    · rw [if_neg hx] at hr
      exact hbase.links x c (PlannedMembers.mem_children_iff.mpr ⟨r, hr, hcr⟩)
  have hremoved : members.get? id = none := by
    have hself : id ∈ preorder_ids unlinked id := Forest.mem_preorder_self _ _ _
    rw [hget', if_pos hself]
  refine ⟨?_, ?_, ?_, ?_⟩
  · intro m r hr hold
    rw [hget'] at hr
    split at hr
    · cases hr
    · split at hr
      · next hm =>
        cases hr
        refine ⟨parent, by rw [hm]; exact hget, ⟨rfl, rfl, rfl, rfl, rfl, fun _ => rfl, ?_, ?_⟩⟩
        · exact fun _ => by rw [hm]; exact List.mem_cons_self
        · exact .inr (.inl (by rw [hm]; exact List.mem_cons_self))
      · refine ⟨r, hr, ⟨rfl, rfl, rfl, rfl, rfl, fun _ => rfl, ?_, .inl rfl⟩⟩
        intro hchange
        rw [(hbase.unmarked m r hr).2] at hchange
        cases hchange
  · intro m r hr hnew
    exfalso
    rw [hget'] at hr
    split at hr
    · cases hr
    · split at hr
      · cases hr
        rw [(hbase.unmarked _ parent hget).1] at hnew
        cases hnew
      · rw [(hbase.unmarked m r hr).1] at hnew
        cases hnew
  · intro s hs r hr hold
    rw [List.mem_singleton] at hs
    subst hs
    obtain ⟨p, hp, hle⟩ := hbelow.parent
    rw [hlink] at hp
    cases hp
    exact ⟨hle, .inr (.inr ⟨id, hlink, hremoved⟩)⟩
  · intro m hsome hnone
    rw [hget'] at hnone
    split at hnone
    · next hmem =>
      exact .trans_right (Forest.belowOrEq_of_mem_preorder hlinks hmem) hbelow
    · split at hnone
      · cases hnone
      · rw [hnone] at hsome
        cases hsome

/-- Every kind of request yields a candidate that differs from the loaded Team only inside the
    caller's subtree. -/
theorem apply_replan_request_candidate {base : PlannedMembers} (hbase : LoadedTeam base)
    {caller : MemberId} {descendants removed affected : List MemberId} {request : ReplanRequest}
    {state : PlanState} (hdesc : descendant_ids base caller false = .ok descendants)
    (h : apply_replan_request base caller descendants request = .ok (state, removed, affected)) :
    Candidate base caller state.members state.branch_change_seeds := by
  cases request with
  | add_child child =>
    rw [apply_replan_request, bind_eq_ok_iff] at h
    obtain ⟨appended, happend, h⟩ := h
    cases h
    have hcandidate := add_child_candidate hbase (descendant_ids_spec hdesc).1 happend
    exact hcandidate
  | update_child id fields children =>
    rw [apply_replan_request, bind_eq_ok_iff] at h
    obtain ⟨_, hinside, h⟩ := h
    rw [require_descendant, require_eq_ok_iff, List.contains_iff_mem] at hinside
    rw [bind_eq_ok_iff] at h
    obtain ⟨_, -, h⟩ := h
    rw [bind_eq_ok_iff] at h
    obtain ⟨patched, hpatch, h⟩ := h
    rw [bind_eq_ok_iff] at h
    obtain ⟨_, -, h⟩ := h
    cases h
    exact update_child_candidate hbase (hbase.below_of_mem_descendants hdesc hinside) hpatch
  | remove_child id =>
    rw [apply_replan_request, bind_eq_ok_iff] at h
    obtain ⟨_, hinside, h⟩ := h
    rw [require_descendant, require_eq_ok_iff, List.contains_iff_mem] at hinside
    rw [bind_eq_ok_iff] at h
    obtain ⟨target, htarget, h⟩ := h
    rw [require_some_eq_ok_iff] at htarget
    rw [bind_eq_ok_iff] at h
    obtain ⟨parent_member_id, hparent, h⟩ := h
    rw [require_some_eq_ok_iff] at hparent
    rw [bind_eq_ok_iff] at h
    obtain ⟨members, hmembers, h⟩ := h
    cases h
    exact remove_child_candidate hbase (hbase.below_of_mem_descendants hdesc hinside) htarget hparent hmembers

/-- What a validated mutation did to one retained Member. -/
structure RetainedMember (draws : RefreshDraws) (m : MemberId) (r r0 : PlannedMember) : Prop where
  member_id : r.member_id = r0.member_id
  parent : r.parent_member_id = r0.parent_member_id
  source : r.source_configuration_id = r0.source_configuration_id
  content : r.has_configuration_change = false → r.content = r0.content
  configuration : r.configuration_id =
    if r.has_configuration_change then draws.configuration m else r0.configuration_id
  basis : r.branch_basis_id = if r.has_branch_change then draws.branch_basis m else r0.branch_basis_id
  reconfigured : r.has_configuration_change = true → r.has_branch_change = true
  children : r.has_branch_change = false → r.children = r0.children

/-- The Members whose branch changed in a mutation. -/
def BranchChanged (members : PlannedMembers) (m : MemberId) : Prop :=
  ∃ r, members.get? m = some r ∧ r.has_branch_change = true

/-- Specification of `build_replan_mutation`: the successor is one complete tree; a retained Member
    keeps its place; it keeps its basis, configuration and children unless its branch changed; a changed
    branch changes every ancestor; and each change originates inside the caller's subtree. -/
structure Replanned (loaded : PlannedMembers) (root caller : MemberId) (draws : RefreshDraws)
    (members : PlannedMembers) : Prop where
  tree : CompleteTree members root
  retained : ∀ m r, members.get? m = some r → r.is_new = false →
    ∃ r0, loaded.get? m = some r0 ∧ RetainedMember draws m r r0
  fresh : ∀ m r, members.get? m = some r → r.is_new = true →
    loaded.get? m = none ∧ r.member_id = m ∧ r.has_configuration_change = true ∧
      r.has_branch_change = true ∧ r.parent_member_id ≠ none
  upward : ∀ m p, BranchChanged members m → members.parent m = some p → BranchChanged members p
  origin : ∀ m r, members.get? m = some r → r.is_new = false → r.has_branch_change = true →
    ∃ s rs, members.get? s = some rs ∧ rs.is_new = false ∧ Forest.BelowOrEq members.parent s m ∧
      Forest.BelowOrEq loaded.parent s caller ∧ ReallyChanged loaded members s
  dropped : ∀ m, (loaded.get? m).isSome → members.get? m = none → Forest.Below loaded.parent m caller

theorem get?_clone_members (loaded : PlannedMembers) (m : MemberId) :
    (clone_members loaded).get? m = (loaded.get? m).map fun member =>
      { member with has_configuration_change := false, has_branch_change := false, is_new := false } :=
  Table.get?_mapRows _ _ _

theorem parent_clone_members (loaded : PlannedMembers) :
    (clone_members loaded).parent = loaded.parent := by
  funext m
  unfold PlannedMembers.parent
  rw [get?_clone_members]
  cases loaded.get? m <;> rfl

theorem children_clone_members (loaded : PlannedMembers) :
    (clone_members loaded).children = loaded.children := by
  funext m
  unfold PlannedMembers.children
  rw [get?_clone_members]
  cases loaded.get? m <;> rfl

/-- The entries that a call starts from. -/
theorem loadedTeam_clone_members {loaded : PlannedMembers} (hclosed : ParentClosed loaded)
    (hlinks : ∀ x, ∀ c ∈ loaded.children x, loaded.parent c = some x) : LoadedTeam (clone_members loaded) := by
  refine ⟨?_, ?_, ?_⟩
  · intro x p hp
    rw [parent_clone_members] at hp
    rw [get?_clone_members, Option.isSome_map]
    exact hclosed x p hp
  · intro x c hc
    rw [children_clone_members] at hc
    rw [parent_clone_members]
    exact hlinks x c hc
  · intro m r hr
    rw [get?_clone_members, Option.map_eq_some_iff] at hr
    obtain ⟨r0, -, rfl⟩ := hr
    exact ⟨rfl, rfl⟩

/-- A changed branch that starts at a new Member reaches a retained seed before any other retained
    Member. -/
private theorem Candidate.retained_seed {base members : PlannedMembers} {caller : MemberId}
    {seeds : List MemberId} (hcand : Candidate base caller members seeds) {s m : MemberId}
    {r rs : PlannedMember} (hm : members.get? m = some r) (hold : r.is_new = false)
    (hs : members.get? s = some rs) (hwhy : rs.is_new = true ∨ s ∈ seeds)
    (hpath : Forest.BelowOrEq members.parent s m) :
    ∃ q rq, members.get? q = some rq ∧ rq.is_new = false ∧ q ∈ seeds ∧
      Forest.BelowOrEq members.parent q m := by
  induction hpath using Relation.ReflTransGen.head_induction_on generalizing rs with
  | refl =>
    rw [hm] at hs
    cases hs
    rcases hwhy with hnew | hseed
    · rw [hold] at hnew
      cases hnew
    · exact ⟨m, r, hm, hold, hseed, .refl⟩
  | head hstep hrest ih =>
    rename_i a c
    cases hnew : rs.is_new with
    | false =>
      rw [hnew] at hwhy
      rcases hwhy with hwhy | hseed
      · cases hwhy
      · exact ⟨a, rs, hs, hnew, hseed, .head hstep hrest⟩
    | true =>
      obtain ⟨-, -, p, hp, hnext⟩ := hcand.fresh a rs hs hnew
      obtain ⟨rs', hrs', hp'⟩ := PlannedMembers.parent_eq_some_iff.mp hstep
      rw [hs] at hrs'
      cases hrs'
      rw [hp] at hp'
      cases hp'
      -- the parent is in the candidate: it is new, or the path continues from it, or it is `m`
      have hparent : ∃ rp, members.get? c = some rp := by
        rcases Relation.ReflTransGen.cases_head hrest with rfl | ⟨d, hd, -⟩
        · exact ⟨r, hm⟩
        · obtain ⟨rp, hrp, -⟩ := PlannedMembers.parent_eq_some_iff.mp hd
          exact ⟨rp, hrp⟩
      obtain ⟨rp, hrp⟩ := hparent
      refine ih hrp ?_
      rcases hnext with ⟨q, rp', hrp', hnewp, -⟩ | hseed
      · rw [hrp] at hrp'
        cases hrp'
        exact .inl hnewp
      · exact .inr hseed

theorem build_replan_mutation_spec {loaded : PlannedMembers} {root caller : MemberId}
    {request : ReplanRequest} {draws : RefreshDraws} {mutation : ReplanMutation}
    (hclosed : ParentClosed loaded) (hlinks : ∀ x, ∀ c ∈ loaded.children x, loaded.parent c = some x)
    (h : build_replan_mutation loaded root caller request draws = .ok mutation) :
    mutation.root_member_id = root ∧ Replanned loaded root caller draws mutation.members := by
  unfold build_replan_mutation at h
  rw [bind_eq_ok_iff] at h
  obtain ⟨descendants, hdesc, h⟩ := h
  rw [bind_eq_ok_iff] at h
  obtain ⟨⟨state, removed, affected⟩, hrequest, h⟩ := h
  rw [bind_eq_ok_iff] at h
  obtain ⟨refreshed, hrefresh, h⟩ := h
  rw [bind_eq_ok_iff] at h
  obtain ⟨_, hvalid, h⟩ := h
  cases h
  have hbase := loadedTeam_clone_members hclosed hlinks
  have hcand := apply_replan_request_candidate hbase hdesc hrequest
  obtain ⟨changed, hchanged, rfl⟩ := refresh_branch_bases_spec hrefresh
  refine ⟨rfl, ?_⟩
  have hparent := parent_mapRows_refresh draws state.members changed
  have hget : ∀ m r, Table.get? (state.members.mapRows (refresh_member draws changed)) m = some r ↔
      ∃ r1, state.members.get? m = some r1 ∧ refresh_member draws changed m r1 = r := by
    intro m r
    rw [Table.get?_mapRows, Option.map_eq_some_iff]
  have hbranch : ∀ m r1, state.members.get? m = some r1 →
      ((refresh_member draws changed m r1).has_branch_change = true ↔ r1.is_new = true ∨ m ∈ changed) := by
    intro m r1 hr1
    simp [refresh_member]
  have hcloned : ∀ m r0, (clone_members loaded).get? m = some r0 → ∃ l, loaded.get? m = some l ∧
      r0 = { l with has_configuration_change := false, has_branch_change := false, is_new := false } := by
    intro m r0 hr0
    rw [get?_clone_members, Option.map_eq_some_iff] at hr0
    obtain ⟨l, hl, rfl⟩ := hr0
    exact ⟨l, hl, rfl⟩
  have hnone : ∀ m, (clone_members loaded).get? m = none → loaded.get? m = none := by
    intro m hm
    rw [get?_clone_members, Option.map_eq_none_iff] at hm
    exact hm
  refine ⟨validate_complete_tree_spec hvalid, ?_, ?_, ?_, ?_, ?_⟩
  · intro m r hr hold
    obtain ⟨r1, hr1, rfl⟩ := (hget m r).mp hr
    obtain ⟨r0, hr0, hret⟩ := hcand.retained m r1 hr1 hold
    obtain ⟨l, hl, rfl⟩ := hcloned m r0 hr0
    have hold1 : r1.is_new = false := hold
    refine ⟨l, hl, ⟨hret.member_id, hret.parent, hret.source, hret.content, ?_, ?_, ?_, ?_⟩⟩
    · have hcfg := hret.configuration
      simp only [refresh_member, hold1, Bool.not_false, Bool.and_true]
      simp only at hcfg
      rw [hcfg]
    · have hbasis := hret.basis
      simp only [refresh_member, hold1, Bool.not_false, Bool.and_true]
      simp only at hbasis
      rw [hbasis]
    · intro hchange
      exact (hbranch m r1 hr1).mpr (.inr (hchanged.seeds_mem m (hret.reconfigured hchange)))
    · intro hsame
      rcases hret.children with hchildren | hseed | hfalse
      · exact hchildren
      · have htrue := (hbranch m r1 hr1).mpr (.inr (hchanged.seeds_mem m hseed))
        rw [hsame] at htrue
        cases htrue
      · exact hfalse.elim
  · intro m r hr hnew
    obtain ⟨r1, hr1, rfl⟩ := (hget m r).mp hr
    obtain ⟨hbaseNone, ⟨hcfg, hid⟩, p, hp, -⟩ := hcand.fresh m r1 hr1 hnew
    refine ⟨hnone m hbaseNone, hid, hcfg, (hbranch m r1 hr1).mpr (.inl hnew), ?_⟩
    intro hnoparent
    rw [refresh_member] at hnoparent
    rw [hp] at hnoparent
    cases hnoparent
  · intro m p ⟨r, hr, hchange⟩ hp
    obtain ⟨r1, hr1, rfl⟩ := (hget m r).mp hr
    rw [hparent] at hp
    have hmem : IsNew state.members p ∨ p ∈ changed := by
      rcases (hbranch m r1 hr1).mp hchange with hnew | hmem
      · obtain ⟨-, -, q, hq, hwhy⟩ := hcand.fresh m r1 hr1 hnew
        obtain ⟨r1', hr1', hp'⟩ := PlannedMembers.parent_eq_some_iff.mp hp
        rw [hr1] at hr1'
        cases hr1'
        rw [hq] at hp'
        cases hp'
        exact hwhy.imp_right (hchanged.seeds_mem p)
      · exact .inr (hchanged.upward m hmem p hp)
    rcases hmem with ⟨q, rp, hrp, hnew, -⟩ | hmem
    · exact ⟨_, (hget p _).mpr ⟨rp, hrp, rfl⟩, (hbranch p rp hrp).mpr (.inl hnew)⟩
    · obtain ⟨rp, hrp⟩ := Option.isSome_iff_exists.mp (hchanged.known p hmem)
      exact ⟨_, (hget p _).mpr ⟨rp, hrp, rfl⟩, (hbranch p rp hrp).mpr (.inr hmem)⟩
  · intro m r hr hold hchange
    obtain ⟨r1, hr1, rfl⟩ := (hget m r).mp hr
    have hold1 : r1.is_new = false := hold
    rcases (hbranch m r1 hr1).mp hchange with hnew | hmem
    · rw [hold1] at hnew
      cases hnew
    · obtain ⟨s, hs, hpath⟩ := hchanged.origin m hmem
      obtain ⟨rs, hrs⟩ := Option.isSome_iff_exists.mp (hchanged.known s (hchanged.seeds_mem s hs))
      obtain ⟨q, rq, hrq, holdq, hseed, hpath'⟩ :=
        hcand.retained_seed hr1 hold1 hrs (.inr hs) hpath
      obtain ⟨hbelow, hreal⟩ := hcand.seeds q hseed rq hrq holdq
      rw [parent_clone_members] at hbelow
      refine ⟨q, _, (hget q _).mpr ⟨rq, hrq, rfl⟩, holdq, by rw [hparent]; exact hpath', hbelow, ?_⟩
      rcases hreal with ⟨r', hr', hcfg⟩ | ⟨c, rc, hrc, hnew, hpc⟩ | ⟨c, hc, hgone⟩
      · exact .inl ⟨_, (hget q _).mpr ⟨r', hr', rfl⟩, hcfg⟩
      · exact .inr (.inl ⟨c, _, (hget c _).mpr ⟨rc, hrc, rfl⟩, hnew, hpc⟩)
      · refine .inr (.inr ⟨c, by rwa [parent_clone_members] at hc, ?_⟩)
        rw [Table.get?_mapRows, hgone, Option.map_none]
  · intro m hsome hgone
    rw [Table.get?_mapRows, Option.map_eq_none_iff] at hgone
    have hbelow := hcand.dropped m (by rwa [get?_clone_members, Option.isSome_map]) hgone
    rwa [parent_clone_members] at hbelow

end OhMySubagents
