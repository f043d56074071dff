import OhMySubagents.Replan.Planning.Effects
import OhMySubagents.Replan.Planning.Result

open Relational

namespace OhMySubagents

/-- What a request did to the entries of the loaded Team before bases are refreshed. -/
structure RequestEffect (base : PlannedMembers) (caller : MemberId) (request : ReplanRequest) (state : PlanState)
    (removed : List MemberId) : Prop where
  retained : ∀ m r0, base.get? m = some r0 → m ∉ removed → ∃ r, state.members.get? m = some r ∧ r.is_new = false ∧
    r.content = patched_content (request.fields_for m) r0.content ∧
    r.has_configuration_change = (r.content != r0.content) ∧
    ∃ new, r.children = (r0.children.filter fun c => decide (c ∉ removed)) ++ new ∧ ∀ c ∈ new, c ∈ state.created
  dropped : ∀ m ∈ removed, (base.get? m).isSome ∧ state.members.get? m = none
  created : ∀ m ∈ state.created, base.get? m = none ∧ ∃ r, state.members.get? m = some r ∧ r.is_new = true
  origin : ∀ m r, state.members.get? m = some r → base.get? m = none → m ∈ state.created
  updated : ∀ m, m ∈ state.updated ↔
    ∃ r, state.members.get? m = some r ∧ r.is_new = false ∧ r.has_configuration_change = true
  named : ∀ m, request.fields_for m ≠ none → Forest.Below base.parent m caller
  created_nodup : state.created.Nodup
  updated_nodup : state.updated.Nodup
  removed_nodup : removed.Nodup

/-- A request that only patches and appends. -/
private theorem PatchEffect.request_effect {base : PlannedMembers} (hbase : LoadedTeam base) {caller : MemberId}
    {request : ReplanRequest} {added : List MemberId} {state : PlanState}
    (h : PatchEffect (fun m => request.fields_for m) added { members := base } state)
    (hnamed : ∀ m, request.fields_for m ≠ none → Forest.Below base.parent m caller) :
    RequestEffect base caller request state [] := by
  have hcreated : state.created = added := by
    rw [h.created]
    rfl
  have hretained : ∀ m r0, base.get? m = some r0 → ∃ r, state.members.get? m = some r ∧ r.is_new = false ∧
      r.content = patched_content (request.fields_for m) r0.content ∧
      r.has_configuration_change = (r.content != r0.content) ∧
      ∃ new, r.children = r0.children ++ new ∧ ∀ c ∈ new, c ∈ state.created := by
    intro m r0 hr0
    obtain ⟨hold, hsame⟩ := hbase.unmarked m r0 hr0
    obtain ⟨r, hr, hentry⟩ := h.entry m r0 hr0
    refine ⟨r, hr, hentry.is_new.trans hold, hentry.content, ?_, ?_⟩
    · rw [hentry.changed, hsame, Bool.false_or]
    · rw [hcreated]
      exact hentry.children
  refine
    { retained := ?_
      dropped := by simp
      created := ?_
      origin := fun m r hr hnone => by rw [hcreated]; exact h.origin m r hr hnone
      updated := fun m => ?_
      named := hnamed
      created_nodup := by rw [hcreated]; exact h.nodup
      updated_nodup := h.updated_nodup List.nodup_nil
      removed_nodup := List.nodup_nil }
  · intro m r0 hr0 _
    simpa using hretained m r0 hr0
  · rw [hcreated]
    exact fun m hm => h.fresh m hm
  · rw [h.updated]
    simp only [List.not_mem_nil, false_or]
    constructor
    · rintro ⟨hfields, r, hr, hchanged⟩
      obtain ⟨r0, hr0⟩ := Option.isSome_iff_exists.mp (h.named m hfields)
      obtain ⟨r', hr', hold, -⟩ := hretained m r0 hr0
      obtain rfl := Option.some.inj (hr.symm.trans hr')
      exact ⟨r, hr, hold, hchanged⟩
    · rintro ⟨r, hr, hold, hchanged⟩
      refine ⟨fun hnone => ?_, r, hr, hchanged⟩
      -- without a patch the content is as loaded
      cases hr0 : base.get? m with
      | none =>
        obtain ⟨-, r', hr', hnew⟩ := h.fresh m (h.origin m r hr hr0)
        obtain rfl := Option.some.inj (hr.symm.trans hr')
        rw [hold] at hnew
        cases hnew
      | some r0 =>
        obtain ⟨r', hr', -, hcontent, hflag, -⟩ := hretained m r0 hr0
        obtain rfl := Option.some.inj (hr.symm.trans hr')
        rw [hflag, hcontent, hnone] at hchanged
        simp [patched_content] at hchanged

private theorem update_child_effect {base : PlannedMembers} {root caller id : MemberId} (hbase : LoadedTeam base)
    (htree : CompleteTree base root) {fields : MemberPatchFields} {children : List ReplanChildPatch}
    (hvalid : (ReplanRequest.update_child id fields children).Valid) (hbelow : Forest.Below base.parent id caller)
    {state : PlanState} (h : apply_patch_tree { members := base } id fields children = .ok state) :
    RequestEffect base caller (.update_child id fields children) state [] := by
  unfold apply_patch_tree at h
  rw [bind_eq_ok_iff] at h
  obtain ⟨patched, hpatch, h⟩ := h
  have hlookup : ∀ x, (ReplanRequest.update_child id fields children).fields_for x =
      ((if id = x then some fields else none) <|> child_patches_fields_for x children) := by
    intro x
    rw [ReplanRequest.fields_for]
    split <;> simp
  have hundrawn := hvalid.undrawn
  simp only [hlookup, Option.orElse_eq_none, ReplanRequest.drawn_ids] at hundrawn
  have hplaced : Placed base (fun x => x ∈ child_patches_drawn_ids children) { members := base } := by
    intro m r hr _
    have hr : base.get? m = some r := hr
    rw [PlannedMembers.parent, hr, Option.bind_some]
  have hfirst := patch_member_effect hpatch
  obtain ⟨member, hmember⟩ := Option.isSome_iff_exists.mp (hfirst.named id (by simp))
  obtain ⟨r₁, hr₁, -⟩ := hfirst.entry id member hmember
  obtain ⟨hnodup, honce⟩ := hvalid.names_once id fields children rfl
  obtain ⟨hsecond, hreach⟩ := apply_child_patches_effect children htree.acyclic (hplaced.effect hfirst (by simp))
    (by simp [hr₁]) hnodup honce (fun _ hx => hx) (fun x hx => (hundrawn x hx).2) h
  have hself : child_patches_fields_for id children = none := by
    by_contra hne
    obtain ⟨child, -, hlink, hle⟩ := hreach id hne
    exact htree.acyclic id (.tail' hle hlink)
  have heffect := hfirst.trans hsecond (fun x hx => by
    by_cases heq : id = x
    · rwa [← heq]
    · rw [if_neg heq] at hx
      exact absurd rfl hx) (by simp)
  simp only [← hlookup] at heffect
  refine heffect.request_effect hbase fun x hx => ?_
  by_cases heq : id = x
  · rwa [← heq]
  · have hx : child_patches_fields_for x children ≠ none := by simpa [hlookup, heq] using hx
    obtain ⟨child, -, hlink, hle⟩ := hreach x hx
    exact .trans_right hle (.head hlink hbelow)

/-- Removing a branch drops exactly the branch and unlinks it from its parent. -/
private theorem remove_child_effect {base : PlannedMembers} {root caller id : MemberId} (hbase : LoadedTeam base)
    (htree : CompleteTree base root) {target : PlannedMember} (htarget : base.get? id = some target)
    {members : PlannedMembers} {seeds : List MemberId} (h : remove_subtree base id = .ok members) :
    RequestEffect base caller (.remove_child id) { members := members, branch_change_seeds := seeds }
      (preorder_ids base id) := by
  obtain ⟨row, p, parent, hrow, hrowParent, hget, hget'⟩ := remove_subtree_success h
  have hlink : base.parent id = some p := PlannedMembers.parent_eq_some_iff.mpr ⟨row, hrow, hrowParent⟩
  have hbranch : ∀ x, x ∈ preorder_ids base id ↔ Forest.BelowOrEq base.parent x id := fun x =>
    htree.mem_branch (by simp [htarget])
  have hparentOut : p ∉ preorder_ids base id := fun hp =>
    htree.acyclic id (.head' hlink ((hbranch p).mp hp))
  have hwalk : preorder_ids (base.set p { parent with children := parent.children.erase id }) id =
      preorder_ids base id := by
    refine Forest.preorder_congr fun y hy => ?_
    have hne : y ≠ p := fun heq => hparentOut (heq ▸ hy)
    rw [PlannedMembers.children, PlannedMembers.children, Table.get?_set, if_neg hne]
  rw [hwalk] at hget'
  have hkept : ∀ m, m ∉ preorder_ids base id → m ≠ p → members.get? m = base.get? m := by
    intro m hm hne
    rw [hget', if_neg hm, if_neg hne]
  have hrow : ∀ m r, members.get? m = some r → ∃ r0, base.get? m = some r0 ∧ r.is_new = false ∧
      r.has_configuration_change = false := by
    intro m r hr
    rw [hget'] at hr
    split at hr
    · cases hr
    · split at hr
      · next heq =>
        cases hr
        obtain ⟨hold, hsame⟩ := hbase.unmarked p parent hget
        exact ⟨parent, by rw [heq]; exact hget, hold, hsame⟩
      · exact ⟨r, hr, hbase.unmarked m r hr⟩
  refine
    { retained := fun m r0 hr0 hm => ?_
      dropped := fun m hm => ⟨(htree.mem_iff m).mp ?_, by rw [hget', if_pos hm]⟩
      created := by simp
      origin := fun m r hr hnone => ?_
      updated := fun m => ?_
      named := fun m hm => absurd rfl hm
      created_nodup := List.nodup_nil
      updated_nodup := List.nodup_nil
      removed_nodup := htree.branch_nodup (by simp [htarget]) }
  · have hchild : ∀ c ∈ r0.children, base.parent c = some m := fun c hc =>
      hbase.links m c (PlannedMembers.mem_children_iff.mpr ⟨r0, hr0, hc⟩)
    by_cases heq : m = p
    · subst heq
      obtain rfl := Option.some.inj (hget.symm.trans hr0)
      refine ⟨{ parent with children := parent.children.erase id }, by rw [hget', if_neg hm, if_pos rfl],
        (hbase.unmarked m parent hget).1, rfl, ?_, [], ?_, by simp⟩
      · rw [(hbase.unmarked m parent hget).2]
        simp
      · have hnodup : parent.children.Nodup := by
          simpa [PlannedMembers.children, hget] using htree.children_nodup m
        rw [hnodup.erase_eq_filter, List.append_nil]
        refine List.filter_congr fun c hc => ?_
        -- of the parent's children only the removed one lies in its branch
        have hiff : c ∈ preorder_ids base id ↔ c = id := by
          rw [hbranch]
          exact ⟨fun hle => htree.acyclic.siblings (hchild c hc) hlink .refl hle, fun heq => heq ▸ .refl⟩
        rw [Bool.eq_iff_iff]
        simp [hiff]
    · rw [← hkept m hm heq] at hr0
      obtain ⟨r0', hr0', hold, hsame⟩ := hrow m r0 hr0
      refine ⟨r0, hr0, hold, rfl, by rw [hsame]; simp, [], ?_, by simp⟩
      rw [List.append_nil]
      refine (List.filter_eq_self.mpr fun c hc => ?_).symm
      rw [decide_eq_true_eq, hbranch]
      intro hle
      rcases hle.eq_or_below with rfl | hbelow
      · exact heq (Option.some.inj ((hchild c hc).symm.trans hlink))
      · obtain ⟨q, hq, hle'⟩ := hbelow.parent
        obtain rfl := Option.some.inj ((hchild c hc).symm.trans hq)
        exact hm ((hbranch m).mpr hle')
  · have hle := (hbranch m).mp hm
    rcases hle.eq_or_below with rfl | hbelow
    · exact (htree.mem_iff m).mpr (by simp [htarget])
    · obtain ⟨q, hq, -⟩ := hbelow.parent
      obtain ⟨r, hr, -⟩ := PlannedMembers.parent_eq_some_iff.mp hq
      exact (htree.mem_iff m).mpr (by simp [hr])
  · obtain ⟨r0, hr0, -⟩ := hrow m r hr
    rw [hnone] at hr0
    cases hr0
  · refine ⟨fun hm => absurd hm List.not_mem_nil, ?_⟩
    rintro ⟨r, hr, -, hchanged⟩
    obtain ⟨-, -, -, hsame⟩ := hrow m r hr
    rw [hchanged] at hsame
    cases hsame

/-- Every accepted request has the effect that its patches describe. -/
theorem apply_replan_request_effect {base : PlannedMembers} {root caller : MemberId} (hbase : LoadedTeam base)
    (htree : CompleteTree base root) {descendants removed affected : List MemberId} {request : ReplanRequest}
    {state : PlanState} (hvalid : request.Valid) (hdesc : descendant_ids base caller false = .ok descendants)
    (h : apply_replan_request base caller descendants request = .ok (state, removed, affected)) :
    RequestEffect base caller request state removed := by
  cases request with
  | add_child child =>
    rw [apply_replan_request, bind_eq_ok_iff] at h
    obtain ⟨appended, happend, h⟩ := h
    cases h
    have heffect : PatchEffect (fun m => (ReplanRequest.add_child child).fields_for m) child.drawn_ids
        { members := base } { appended with branch_change_seeds := [caller] } :=
      (append_new_tree_effect child (descendant_ids_spec hdesc).1 happend).set_seeds [caller]
    exact heffect.request_effect hbase fun m hm => absurd rfl hm
  | update_child id fields children =>
    simp only [apply_replan_request, bind_eq_ok_iff, require_descendant, require_eq_ok_iff,
      List.contains_iff_mem] at h
    obtain ⟨_, hinside, _, -, patched, hpatch, _, -, h⟩ := h
    cases h
    exact update_child_effect hbase htree hvalid (hbase.below_of_mem_descendants hdesc hinside) hpatch
  | remove_child id =>
    simp only [apply_replan_request, bind_eq_ok_iff, require_descendant, require_eq_ok_iff,
      require_some_eq_ok_iff] at h
    obtain ⟨_, -, target, htarget, parent_member_id, -, members, hmembers, h⟩ := h
    cases h
    exact remove_child_effect hbase htree htarget hmembers

end OhMySubagents
