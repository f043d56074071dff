import OhMySubagents.Replan.Planning.Branches

open Relational

namespace OhMySubagents

/-- `c` is a new Member placed directly under `p`. -/
def NewChild (members : PlannedMembers) (c p : MemberId) : Prop :=
  ∃ r, members.get? c = some r ∧ r.is_new = true ∧ r.parent_member_id = some p

def IsNew (members : PlannedMembers) (m : MemberId) : Prop :=
  ∃ p, NewChild members m p

/-- What one retained entry keeps from the entry it was cloned from. Its children may differ only
    when the Member is a seed, or is still about to become one. -/
structure Retained (r r0 : PlannedMember) (isSeed mayGrow : Prop) : Prop where
  member_id : r.member_id = r0.member_id
  parent : r.parent_member_id = r0.parent_member_id
  source : r.source_configuration_id = r0.source_configuration_id
  configuration : r.configuration_id = r0.configuration_id
  basis : r.branch_basis_id = r0.branch_basis_id
  content : r.has_configuration_change = false → r.content = r0.content
  reconfigured : r.has_configuration_change = true → isSeed
  children : r.children = r0.children ∨ isSeed ∨ mayGrow

/-- Invariant of the candidate while new Members are appended and patches are applied. `pending`
    holds of the Members whose children grew and that are not yet recorded as seeds. -/
structure MutatedFrom (base : PlannedMembers) (caller : MemberId) (pending : MemberId → Prop)
    (state : PlanState) : Prop where
  kept : ∀ m r0, base.get? m = some r0 → ∃ r, state.members.get? m = some r ∧ r.is_new = false
  retained : ∀ m r, state.members.get? m = some r → r.is_new = false →
    ∃ r0, base.get? m = some r0 ∧ Retained r r0 (m ∈ state.branch_change_seeds) (pending m)
  fresh : ∀ m r, state.members.get? m = some r → r.is_new = true →
    base.get? m = none ∧ (r.has_configuration_change = true ∧ r.member_id = m) ∧
      ∃ p, r.parent_member_id = some p ∧
        (IsNew state.members p ∨ p ∈ state.branch_change_seeds ∨ pending p)
  seeds : ∀ s ∈ state.branch_change_seeds, ∃ r, state.members.get? s = some r ∧
    (r.is_new = false → Forest.BelowOrEq base.parent s caller ∧
      (r.has_configuration_change = true ∨ ∃ c, NewChild state.members c s))
  updated : ∀ m ∈ state.updated, m ∈ state.branch_change_seeds

/-- New Members stay where they were placed. -/
def KeepsNew (members members' : PlannedMembers) : Prop :=
  ∀ c p, NewChild members c p → NewChild members' c p

theorem KeepsNew.refl (members : PlannedMembers) : KeepsNew members members := fun _ _ h => h

theorem KeepsNew.trans {members members' members'' : PlannedMembers}
    (h : KeepsNew members members') (h' : KeepsNew members' members'') : KeepsNew members members'' :=
  fun c p hc => h' c p (h c p hc)

theorem KeepsNew.isNew {members members' : PlannedMembers} (h : KeepsNew members members')
    {m : MemberId} (hm : IsNew members m) : IsNew members' m := by
  obtain ⟨p, hp⟩ := hm
  exact ⟨p, h m p hp⟩

/-- The two entries that appending one new Member writes. -/
theorem append_new_member_success {state state' : PlanState} {parent_id : MemberId}
    {drawn : DrawnIdentity} {content : MemberContent}
    (h : append_new_member state parent_id drawn content = .ok state')
    (hparent : (state.members.get? parent_id).isSome) :
    ∃ parent, state.members.get? parent_id = some parent ∧ parent_id ≠ drawn.member_id ∧
      state.members.get? drawn.member_id = none ∧
      state'.branch_change_seeds = state.branch_change_seeds ∧ state'.updated = state.updated ∧
      ∀ m, state'.members.get? m =
        if m = parent_id then some { parent with children := parent.children ++ [drawn.member_id] }
        else if m = drawn.member_id then some (planned_new_member parent_id drawn content)
        else state.members.get? m := by
  unfold append_new_member at h
  rw [bind_eq_ok_iff] at h
  obtain ⟨inserted, hinsert, h⟩ := h
  rw [bind_eq_ok_iff] at h
  obtain ⟨updated, hupdate, h⟩ := h
  rw [require_some_eq_ok_iff, Table.insertNew_eq_some] at hinsert
  rw [require_some_eq_ok_iff, Table.updateWhere_eq_some] at hupdate
  obtain ⟨hfree, rfl⟩ := hinsert
  obtain ⟨parent, hget, -, rfl⟩ := hupdate
  cases h
  have hne : parent_id ≠ drawn.member_id := by
    rintro rfl
    rw [hfree] at hparent
    cases hparent
  rw [Table.get?_set_ne _ hne] at hget
  refine ⟨parent, hget, hne, hfree, rfl, rfl, ?_⟩
  intro m
  rw [Table.get?_set, Table.get?_set]

/-- Appending one new Member under a Member that may grow keeps the invariant. -/
theorem append_new_member_mutatedFrom {base : PlannedMembers} {caller : MemberId}
    {pending : MemberId → Prop} {state state' : PlanState} {parent_id : MemberId}
    {drawn : DrawnIdentity} {content : MemberContent}
    (hinv : MutatedFrom base caller pending state)
    (hparent : IsNew state.members parent_id ∨ (pending parent_id ∧ (state.members.get? parent_id).isSome))
    (h : append_new_member state parent_id drawn content = .ok state') :
    MutatedFrom base caller pending state' ∧ KeepsNew state.members state'.members ∧
      NewChild state'.members drawn.member_id parent_id ∧
      state'.branch_change_seeds = state.branch_change_seeds := by
  have hsome : (state.members.get? parent_id).isSome := by
    rcases hparent with ⟨p, r, hr, -⟩ | ⟨-, hsome⟩
    · rw [hr]; rfl
    · exact hsome
  obtain ⟨parent, hget, hne, hfree, hseeds, hupdated, hget'⟩ := append_new_member_success h hsome
  -- every old entry survives; the parent's entry only gains a child
  have hsurvive : ∀ m r, state.members.get? m = some r → ∃ r', state'.members.get? m = some r' ∧
      r'.is_new = r.is_new ∧ r'.parent_member_id = r.parent_member_id ∧
      r'.has_configuration_change = r.has_configuration_change := by
    intro m r hr
    rw [hget']
    by_cases hmp : m = parent_id
    · subst hmp
      rw [if_pos rfl]
      rw [hget] at hr
      cases hr
      exact ⟨_, rfl, rfl, rfl, rfl⟩
    · rw [if_neg hmp]
      by_cases hmd : m = drawn.member_id
      · rw [hmd, hfree] at hr
        cases hr
      · rw [if_neg hmd]
        exact ⟨r, hr, rfl, rfl, rfl⟩
  have hkeeps : KeepsNew state.members state'.members := by
    rintro c p ⟨r, hr, hnew, hp⟩
    obtain ⟨r', hr', hnew', hp', -⟩ := hsurvive c r hr
    exact ⟨r', hr', hnew'.trans hnew, hp'.trans hp⟩
  have hplaced : NewChild state'.members drawn.member_id parent_id := by
    refine ⟨planned_new_member parent_id drawn content, ?_, rfl, rfl⟩
    rw [hget', if_neg (Ne.symm hne), if_pos rfl]
  refine ⟨⟨?_, ?_, ?_, ?_, by rw [hseeds, hupdated]; exact hinv.updated⟩, hkeeps, hplaced, hseeds⟩
  · intro m r0 hr0
    obtain ⟨r, hr, hold⟩ := hinv.kept m r0 hr0
    obtain ⟨r', hr', hnew', -⟩ := hsurvive m r hr
    exact ⟨r', hr', hnew'.trans hold⟩
  · intro m r hr hold
    rw [hget'] at hr
    rw [hseeds]
    by_cases hmp : m = parent_id
    · subst hmp
      rw [if_pos rfl] at hr
      cases hr
      obtain ⟨r0, hr0, hret⟩ := hinv.retained m parent hget hold
      have hgrow : pending m := by
        rcases hparent with ⟨p, r, hr, hnew, -⟩ | ⟨hpending, -⟩
        · rw [hget] at hr
          cases hr
          rw [hnew] at hold
          cases hold
        · exact hpending
      exact ⟨r0, hr0, ⟨hret.member_id, hret.parent, hret.source, hret.configuration, hret.basis, hret.content,
        hret.reconfigured, .inr (.inr hgrow)⟩⟩
    · rw [if_neg hmp] at hr
      by_cases hmd : m = drawn.member_id
      · rw [if_pos hmd] at hr
        cases hr
        cases hold
      · rw [if_neg hmd] at hr
        exact hinv.retained m r hr hold
  · intro m r hr hnew
    rw [hget'] at hr
    rw [hseeds]
    by_cases hmp : m = parent_id
    · subst hmp
      rw [if_pos rfl] at hr
      cases hr
      obtain ⟨hbase, hcfg, p, hp, hwhy⟩ := hinv.fresh m parent hget hnew
      exact ⟨hbase, hcfg, p, hp, hwhy.imp_left hkeeps.isNew⟩
    · rw [if_neg hmp] at hr
      by_cases hmd : m = drawn.member_id
      · rw [if_pos hmd] at hr
        cases hr
        refine ⟨?_, ⟨rfl, hmd.symm⟩, parent_id, rfl, ?_⟩
        · by_contra hbase
          obtain ⟨r0, hr0⟩ := Option.ne_none_iff_exists'.mp hbase
          obtain ⟨r, hr, -⟩ := hinv.kept m r0 hr0
          rw [hmd, hfree] at hr
          cases hr
        · rcases hparent with hnewp | ⟨hpending, -⟩
          · exact .inl (hkeeps.isNew hnewp)
          · exact .inr (.inr hpending)
      · rw [if_neg hmd] at hr
        obtain ⟨hbase, hcfg, p, hp, hwhy⟩ := hinv.fresh m r hr hnew
        exact ⟨hbase, hcfg, p, hp, hwhy.imp_left hkeeps.isNew⟩
  · intro s hs
    rw [hseeds] at hs
    obtain ⟨r, hr, hreal⟩ := hinv.seeds s hs
    obtain ⟨r', hr', hnew', -, hcfg'⟩ := hsurvive s r hr
    refine ⟨r', hr', fun hold => ?_⟩
    obtain ⟨hbelow, hwhy⟩ := hreal (hnew'.symm.trans hold)
    refine ⟨hbelow, ?_⟩
    rcases hwhy with hcfg | ⟨c, hc⟩
    · exact .inl (hcfg'.trans hcfg)
    · exact .inr ⟨c, hkeeps c s hc⟩

mutual

/-- Appending a whole new subtree keeps the invariant and places a new child under the parent. -/
theorem append_new_tree_mutatedFrom {base : PlannedMembers} {caller : MemberId}
    {pending : MemberId → Prop} {state state' : PlanState} {parent_id : MemberId}
    (authored : ReplanNewMember) (hinv : MutatedFrom base caller pending state)
    (hparent : IsNew state.members parent_id ∨ (pending parent_id ∧ (state.members.get? parent_id).isSome))
    (h : append_new_tree state parent_id authored = .ok state') :
    MutatedFrom base caller pending state' ∧ KeepsNew state.members state'.members ∧
      (∃ c, NewChild state'.members c parent_id) ∧
      state'.branch_change_seeds = state.branch_change_seeds := by
  obtain ⟨drawn, content, children⟩ := authored
  rw [append_new_tree, bind_eq_ok_iff] at h
  obtain ⟨appended, happend, h⟩ := h
  obtain ⟨hinv', hkeeps, hchild, hseeds⟩ := append_new_member_mutatedFrom hinv hparent happend
  obtain ⟨hinv'', hkeeps', hseeds'⟩ := append_new_trees_mutatedFrom children hinv'
    ⟨parent_id, hchild⟩ h
  exact ⟨hinv'', hkeeps.trans hkeeps', ⟨_, hkeeps' _ _ hchild⟩, hseeds'.trans hseeds⟩

theorem append_new_trees_mutatedFrom {base : PlannedMembers} {caller : MemberId}
    {pending : MemberId → Prop} {state state' : PlanState} {parent_id : MemberId}
    (children : List ReplanNewMember) (hinv : MutatedFrom base caller pending state)
    (hparent : IsNew state.members parent_id)
    (h : append_new_trees state parent_id children = .ok state') :
    MutatedFrom base caller pending state' ∧ KeepsNew state.members state'.members ∧
      state'.branch_change_seeds = state.branch_change_seeds := by
  match children with
  | [] =>
    rw [append_new_trees] at h
    cases h
    exact ⟨hinv, .refl _, rfl⟩
  | child :: children =>
    rw [append_new_trees, bind_eq_ok_iff] at h
    obtain ⟨appended, happend, h⟩ := h
    obtain ⟨hinv', hkeeps, -, hseeds⟩ := append_new_tree_mutatedFrom child hinv (.inl hparent) happend
    obtain ⟨hinv'', hkeeps', hseeds'⟩ := append_new_trees_mutatedFrom children hinv'
      (hkeeps.isNew hparent) h
    exact ⟨hinv'', hkeeps.trans hkeeps', hseeds'.trans hseeds⟩

end

/-- Every parent that the current Team names is itself selected. -/
def ParentClosed (members : PlannedMembers) : Prop :=
  ∀ x p, members.parent x = some p → (members.get? p).isSome

/-- A Member a nested patch may address: it is new, or it lies below the caller. -/
def Patchable (base : PlannedMembers) (caller : MemberId) (members : PlannedMembers) (m : MemberId) : Prop :=
  ∃ r, members.get? m = some r ∧ (r.is_new = false → Forest.BelowOrEq base.parent m caller)

/-- Entries survive with their parents and their novelty. -/
def KeepsEntries (members members' : PlannedMembers) : Prop :=
  ∀ m r, members.get? m = some r → ∃ r', members'.get? m = some r' ∧ r'.is_new = r.is_new

theorem Patchable.of_keepsEntries {base members members' : PlannedMembers} {caller m : MemberId}
    (h : Patchable base caller members m) (hkeeps : KeepsEntries members members') :
    Patchable base caller members' m := by
  obtain ⟨r, hr, hbelow⟩ := h
  obtain ⟨r', hr', hnew⟩ := hkeeps m r hr
  exact ⟨r', hr', fun hold => hbelow (hnew.symm.trans hold)⟩

/-- No candidate forgets an entry: an old Member is kept as old, a new one as new. -/
theorem MutatedFrom.keepsEntries {base : PlannedMembers} {caller : MemberId}
    {pending pending' : MemberId → Prop} {state state' : PlanState}
    (hinv : MutatedFrom base caller pending state) (hinv' : MutatedFrom base caller pending' state')
    (hkeeps : KeepsNew state.members state'.members) : KeepsEntries state.members state'.members := by
  intro m r hr
  cases hnew : r.is_new with
  | false =>
    obtain ⟨r0, hr0, -⟩ := hinv.retained m r hr hnew
    exact hinv'.kept m r0 hr0
  | true =>
    obtain ⟨-, -, p, hp, -⟩ := hinv.fresh m r hr hnew
    obtain ⟨r', hr', hnew', -⟩ := hkeeps m p ⟨r, hr, hnew, hp⟩
    exact ⟨r', hr', hnew'⟩

/-- The entry and the seeds that patching one Member writes. -/
theorem patch_member_success {state state' : PlanState} {member_id : MemberId}
    {fields : MemberPatchFields} (h : patch_member state member_id fields = .ok state')
    (hupdated : ∀ m ∈ state.updated, m ∈ state.branch_change_seeds) :
    ∃ member, state.members.get? member_id = some member ∧
      state'.members = state.members.set member_id (patched_member member fields) ∧
      (∀ m ∈ state.branch_change_seeds, m ∈ state'.branch_change_seeds) ∧
      (∀ m ∈ state'.branch_change_seeds, m ∈ state.branch_change_seeds ∨
        m = member_id ∧ (patched_member member fields).has_configuration_change = true) ∧
      ((patched_member member fields).has_configuration_change = true →
        member_id ∈ state'.branch_change_seeds) ∧
      ∀ m ∈ state'.updated, m ∈ state'.branch_change_seeds := by
  unfold patch_member at h
  rw [bind_eq_ok_iff] at h
  obtain ⟨member, hmember, h⟩ := h
  rw [require_some_eq_ok_iff] at hmember
  refine ⟨member, hmember, ?_⟩
  split at h
  · next hcond =>
    rw [Bool.and_eq_true] at hcond
    cases h
    refine ⟨rfl, fun m hm => List.mem_cons_of_mem _ hm, ?_, fun _ => List.mem_cons_self, ?_⟩
    · intro m hm
      rcases List.mem_cons.mp hm with rfl | hm
      · exact .inr ⟨rfl, hcond.1⟩
      · exact .inl hm
    · intro m hm
      rcases List.mem_append.mp hm with hm | hm
      · exact List.mem_cons_of_mem _ (hupdated m hm)
      · rw [List.mem_singleton.mp hm]
        exact List.mem_cons_self
  · next hcond =>
    cases h
    refine ⟨rfl, fun _ hm => hm, fun m hm => .inl hm, ?_, hupdated⟩
    intro hchanged
    by_contra hnot
    apply hcond
    have hmem : member_id ∉ state.updated := fun hmem => hnot (hupdated _ hmem)
    simp [hchanged, hmem]

/-- Patching the content of one Member keeps the invariant. -/
theorem patch_member_mutatedFrom {base : PlannedMembers} {caller : MemberId}
    {pending : MemberId → Prop} {state state' : PlanState} {member_id : MemberId}
    {fields : MemberPatchFields} (hinv : MutatedFrom base caller pending state)
    (htarget : Patchable base caller state.members member_id)
    (h : patch_member state member_id fields = .ok state') :
    MutatedFrom base caller pending state' ∧ KeepsNew state.members state'.members := by
  obtain ⟨member, hmember, hmembers, hkeep, horigin, hseed, hupdated⟩ :=
    patch_member_success h hinv.updated
  have hget : ∀ m, state'.members.get? m =
      if m = member_id then some (patched_member member fields) else state.members.get? m := by
    intro m
    rw [hmembers, Table.get?_set]
  have hsurvive : ∀ m r, state.members.get? m = some r → ∃ r', state'.members.get? m = some r' ∧
      r'.is_new = r.is_new ∧ r'.parent_member_id = r.parent_member_id ∧
      (r.has_configuration_change = true → r'.has_configuration_change = true) := by
    intro m r hr
    rw [hget]
    by_cases hm : m = member_id
    · subst hm
      rw [if_pos rfl]
      rw [hmember] at hr
      cases hr
      exact ⟨_, rfl, rfl, rfl, fun hchange => by simp [patched_member, hchange]⟩
    · rw [if_neg hm]
      exact ⟨r, hr, rfl, rfl, fun hchange => hchange⟩
  have hkeeps : KeepsNew state.members state'.members := by
    rintro c p ⟨r, hr, hnew, hp⟩
    obtain ⟨r', hr', hnew', hp', -⟩ := hsurvive c r hr
    exact ⟨r', hr', hnew'.trans hnew, hp'.trans hp⟩
  refine ⟨⟨?_, ?_, ?_, ?_, hupdated⟩, hkeeps⟩
  · intro m r0 hr0
    obtain ⟨r, hr, hold⟩ := hinv.kept m r0 hr0
    obtain ⟨r', hr', hnew', -⟩ := hsurvive m r hr
    exact ⟨r', hr', hnew'.trans hold⟩
  · intro m r hr hold
    rw [hget] at hr
    by_cases hm : m = member_id
    · subst hm
      rw [if_pos rfl] at hr
      cases hr
      obtain ⟨r0, hr0, hret⟩ := hinv.retained m member hmember hold
      refine ⟨r0, hr0, ⟨hret.member_id, hret.parent, hret.source, hret.configuration, hret.basis, ?_, hseed, ?_⟩⟩
      · intro hsame
        obtain ⟨hold', hsame'⟩ := Bool.or_eq_false_iff.mp hsame
        exact (by simpa using hsame' : fields.apply member.content = member.content).trans
          (hret.content hold')
      · exact hret.children.imp_right fun hwhy => hwhy.imp_left (hkeep m)
    · rw [if_neg hm] at hr
      obtain ⟨r0, hr0, hret⟩ := hinv.retained m r hr hold
      exact ⟨r0, hr0, ⟨hret.member_id, hret.parent, hret.source, hret.configuration, hret.basis, hret.content,
        fun hchange => hkeep m (hret.reconfigured hchange),
        hret.children.imp_right fun hwhy => hwhy.imp_left (hkeep m)⟩⟩
  · intro m r hr hnew
    have hfresh : ∀ r, state.members.get? m = some r → r.is_new = true →
        base.get? m = none ∧ ∃ p, r.parent_member_id = some p ∧
          (IsNew state'.members p ∨ p ∈ state'.branch_change_seeds ∨ pending p) := by
      intro r hr hnew
      obtain ⟨hbase, -, p, hp, hwhy⟩ := hinv.fresh m r hr hnew
      refine ⟨hbase, p, hp, ?_⟩
      rcases hwhy with hwhy | hwhy | hwhy
      · exact .inl (hkeeps.isNew hwhy)
      · exact .inr (.inl (hkeep p hwhy))
      · exact .inr (.inr hwhy)
    rw [hget] at hr
    by_cases hm : m = member_id
    · subst hm
      rw [if_pos rfl] at hr
      cases hr
      obtain ⟨hbase, hwhy⟩ := hfresh member hmember hnew
      obtain ⟨hchange, hid⟩ := (hinv.fresh m member hmember hnew).2.1
      exact ⟨hbase, ⟨by simp [patched_member, hchange], hid⟩, hwhy⟩
    · rw [if_neg hm] at hr
      obtain ⟨hbase, hwhy⟩ := hfresh r hr hnew
      exact ⟨hbase, (hinv.fresh m r hr hnew).2.1, hwhy⟩
  · intro s hs
    rcases horigin s hs with hs | ⟨rfl, hchange⟩
    · obtain ⟨r, hr, hreal⟩ := hinv.seeds s hs
      obtain ⟨r', hr', hnew', -, hchange'⟩ := hsurvive s r hr
      refine ⟨r', hr', fun hold => ?_⟩
      obtain ⟨hbelow, hwhy⟩ := hreal (hnew'.symm.trans hold)
      refine ⟨hbelow, ?_⟩
      rcases hwhy with hcfg | ⟨c, hc⟩
      · exact .inl (hchange' hcfg)
      · exact .inr ⟨c, hkeeps c s hc⟩
    · obtain ⟨r, hr, hbelow⟩ := htarget
      rw [hmember] at hr
      cases hr
      refine ⟨patched_member member fields, by rw [hget, if_pos rfl], fun hold => ?_⟩
      exact ⟨hbelow hold, .inl hchange⟩

/-- A Member may start to grow before it is recorded as a seed. -/
theorem MutatedFrom.startGrowth {base : PlannedMembers} {caller : MemberId} {state : PlanState}
    (hinv : MutatedFrom base caller (fun _ => False) state) (pending : MemberId → Prop) :
    MutatedFrom base caller pending state where
  kept := hinv.kept
  retained := by
    intro m r hr hold
    obtain ⟨r0, hr0, hret⟩ := hinv.retained m r hr hold
    exact ⟨r0, hr0, ⟨hret.member_id, hret.parent, hret.source, hret.configuration, hret.basis, hret.content,
      hret.reconfigured, hret.children.imp_right fun hwhy => hwhy.imp_right False.elim⟩⟩
  fresh := by
    intro m r hr hnew
    obtain ⟨hbase, hcfg, p, hp, hwhy⟩ := hinv.fresh m r hr hnew
    exact ⟨hbase, hcfg, p, hp, hwhy.imp_right fun hwhy => hwhy.imp_right False.elim⟩
  seeds := hinv.seeds
  updated := hinv.updated

/-- Recording the grown Member as a seed closes the gap that its growth opened. -/
theorem MutatedFrom.recordGrowth {base : PlannedMembers} {caller : MemberId} {state : PlanState}
    {m : MemberId} (hinv : MutatedFrom base caller (fun x => x = m) state)
    (htarget : Patchable base caller state.members m) (hchild : ∃ c, NewChild state.members c m)
    (seeds : List MemberId) (hseeds : ∀ s, s ∈ seeds ↔ s = m ∨ s ∈ state.branch_change_seeds) :
    MutatedFrom base caller (fun _ => False) { state with branch_change_seeds := seeds } where
  kept := hinv.kept
  retained := by
    intro x r hr hold
    obtain ⟨r0, hr0, hret⟩ := hinv.retained x r hr hold
    refine ⟨r0, hr0, ⟨hret.member_id, hret.parent, hret.source, hret.configuration, hret.basis, hret.content,
      fun hchange => (hseeds x).mpr (.inr (hret.reconfigured hchange)), ?_⟩⟩
    rcases hret.children with hsame | hseed | hgrown
    · exact .inl hsame
    · exact .inr (.inl ((hseeds x).mpr (.inr hseed)))
    · exact .inr (.inl ((hseeds x).mpr (.inl hgrown)))
  fresh := by
    intro x r hr hnew
    obtain ⟨hbase, hcfg, p, hp, hwhy⟩ := hinv.fresh x r hr hnew
    refine ⟨hbase, hcfg, p, hp, ?_⟩
    rcases hwhy with hwhy | hseed | hgrown
    · exact .inl hwhy
    · exact .inr (.inl ((hseeds p).mpr (.inr hseed)))
    · exact .inr (.inl ((hseeds p).mpr (.inl hgrown)))
  seeds := by
    intro s hs
    rcases (hseeds s).mp hs with rfl | hs
    · obtain ⟨r, hr, hbelow⟩ := htarget
      exact ⟨r, hr, fun hold => ⟨hbelow hold, .inr hchild⟩⟩
    · exact hinv.seeds s hs
  updated := fun x hx => (hseeds x).mpr (.inr (hinv.updated x hx))

/-- A direct child that a nested patch addresses is itself patchable. -/
theorem MutatedFrom.patchable_child {base : PlannedMembers} {caller : MemberId}
    {pending : MemberId → Prop} {state : PlanState} {m child_id : MemberId} {child : PlannedMember}
    (hclosed : ParentClosed base) (hinv : MutatedFrom base caller pending state)
    (htarget : Patchable base caller state.members m) (hchild : state.members.get? child_id = some child)
    (hparent : child.parent_member_id = some m) : Patchable base caller state.members child_id := by
  refine ⟨child, hchild, fun hold => ?_⟩
  obtain ⟨r0, hr0, hret⟩ := hinv.retained child_id child hchild hold
  have hbase : base.parent child_id = some m :=
    PlannedMembers.parent_eq_some_iff.mpr ⟨r0, hr0, hret.parent.symm.trans hparent⟩
  obtain ⟨r, hr, hbelow⟩ := htarget
  refine .head hbase (hbelow ?_)
  by_contra hnew
  obtain ⟨hnone, -⟩ := hinv.fresh m r hr (by simpa using hnew)
  have hsome := hclosed child_id m hbase
  rw [hnone] at hsome
  cases hsome

mutual

/-- One nested patch keeps the invariant. -/
theorem apply_child_patch_mutatedFrom {base : PlannedMembers} {caller : MemberId}
    {state state' : PlanState} {m : MemberId} (patch : ReplanChildPatch) (hclosed : ParentClosed base)
    (hinv : MutatedFrom base caller (fun _ => False) state)
    (htarget : Patchable base caller state.members m)
    (h : apply_child_patch state m patch = .ok state') :
    MutatedFrom base caller (fun _ => False) state' ∧ KeepsNew state.members state'.members := by
  match patch with
  | .new authored =>
    rw [apply_child_patch, bind_eq_ok_iff] at h
    obtain ⟨appended, happend, h⟩ := h
    cases h
    have hgrow := hinv.startGrowth fun x => x = m
    obtain ⟨r, hr, -⟩ := id htarget
    obtain ⟨hinv', hkeeps, hchild, -⟩ := append_new_tree_mutatedFrom authored hgrow
      (.inr ⟨rfl, by rw [hr]; rfl⟩) happend
    have htarget' := htarget.of_keepsEntries (hgrow.keepsEntries hinv' hkeeps)
    exact ⟨hinv'.recordGrowth htarget' hchild _ (fun _ => List.mem_cons), hkeeps⟩
  | .existing child_id fields children =>
    rw [apply_child_patch, bind_eq_ok_iff] at h
    obtain ⟨child, hchild, h⟩ := h
    rw [require_some_eq_ok_iff] at hchild
    rw [bind_eq_ok_iff] at h
    obtain ⟨_, hparent, h⟩ := h
    rw [require_eq_ok_iff, beq_iff_eq] at hparent
    rw [bind_eq_ok_iff] at h
    obtain ⟨patched, hpatch, h⟩ := h
    have hpatchable := hinv.patchable_child hclosed htarget hchild hparent
    obtain ⟨hinv', hkeeps⟩ := patch_member_mutatedFrom hinv hpatchable hpatch
    obtain ⟨hinv'', hkeeps'⟩ := apply_child_patches_mutatedFrom children hclosed hinv'
      (hpatchable.of_keepsEntries (hinv.keepsEntries hinv' hkeeps)) h
    exact ⟨hinv'', hkeeps.trans hkeeps'⟩

theorem apply_child_patches_mutatedFrom {base : PlannedMembers} {caller : MemberId}
    {state state' : PlanState} {m : MemberId} (patches : List ReplanChildPatch)
    (hclosed : ParentClosed base) (hinv : MutatedFrom base caller (fun _ => False) state)
    (htarget : Patchable base caller state.members m)
    (h : apply_child_patches state m patches = .ok state') :
    MutatedFrom base caller (fun _ => False) state' ∧ KeepsNew state.members state'.members := by
  match patches with
  | [] =>
    rw [apply_child_patches] at h
    cases h
    exact ⟨hinv, .refl _⟩
  | patch :: patches =>
    rw [apply_child_patches, bind_eq_ok_iff] at h
    obtain ⟨patched, hpatch, h⟩ := h
    obtain ⟨hinv', hkeeps⟩ := apply_child_patch_mutatedFrom patch hclosed hinv htarget hpatch
    obtain ⟨hinv'', hkeeps'⟩ := apply_child_patches_mutatedFrom patches hclosed hinv'
      (htarget.of_keepsEntries (hinv.keepsEntries hinv' hkeeps)) h
    exact ⟨hinv'', hkeeps.trans hkeeps'⟩

end

end OhMySubagents
