import Mathlib.Data.Option.Basic
import OhMySubagents.Replan.Planning.Mutation
import OhMySubagents.Replan.Planning.Validation

open Relational

namespace OhMySubagents

mutual

/-- The Members that appending a subtree draws, in the order in which they are created. -/
def ReplanNewMember.drawn_ids : ReplanNewMember → List MemberId
  | .mk drawn _ children => drawn.member_id :: new_members_drawn_ids children

def new_members_drawn_ids : List ReplanNewMember → List MemberId
  | [] => []
  | child :: children => child.drawn_ids ++ new_members_drawn_ids children

end

mutual

def ReplanChildPatch.drawn_ids : ReplanChildPatch → List MemberId
  | .existing _ _ children => child_patches_drawn_ids children
  | .new authored => authored.drawn_ids

def child_patches_drawn_ids : List ReplanChildPatch → List MemberId
  | [] => []
  | patch :: patches => patch.drawn_ids ++ child_patches_drawn_ids patches

end

mutual

/-- The fields that a nested patch sets for one Member. -/
def ReplanChildPatch.fields_for (m : MemberId) : ReplanChildPatch → Option MemberPatchFields
  | .existing id fields children => if id = m then some fields else child_patches_fields_for m children
  | .new _ => none

def child_patches_fields_for (m : MemberId) : List ReplanChildPatch → Option MemberPatchFields
  | [] => none
  | patch :: patches => patch.fields_for m <|> child_patches_fields_for m patches

end

/-- The existing Members that a patch's `children` name. -/
def existing_children : List ReplanChildPatch → List MemberId
  | [] => []
  | .existing id _ _ :: patches => id :: existing_children patches
  | .new _ :: patches => existing_children patches

mutual

/-- `_reject_duplicate_existing_children`, at every level below. -/
def ReplanChildPatch.names_once : ReplanChildPatch → Prop
  | .existing _ _ children => (existing_children children).Nodup ∧ child_patches_name_once children
  | .new _ => True

def child_patches_name_once : List ReplanChildPatch → Prop
  | [] => True
  | patch :: patches => patch.names_once ∧ child_patches_name_once patches

end

/-- The fields that a request sets for one Member. -/
def ReplanRequest.fields_for (m : MemberId) : ReplanRequest → Option MemberPatchFields
  | .add_child _ => none
  | .update_child id fields children => if id = m then some fields else child_patches_fields_for m children
  | .remove_child _ => none

def ReplanRequest.drawn_ids : ReplanRequest → List MemberId
  | .add_child child => child.drawn_ids
  | .update_child _ _ children => child_patches_drawn_ids children
  | .remove_child _ => []

/-- A request as it reaches planning: its patches name no existing child twice, and nothing that it names is an
    identifier that `uuid4` only draws while it is planned. -/
structure ReplanRequest.Valid (request : ReplanRequest) : Prop where
  names_once : ∀ id fields children, request = .update_child id fields children →
    (existing_children children).Nodup ∧ child_patches_name_once children
  undrawn : ∀ m ∈ request.drawn_ids, request.fields_for m = none

/-- The content of a Member under the patch that it gets, if any. -/
def patched_content (fields : Option MemberPatchFields) (content : MemberContent) : MemberContent :=
  fields.elim content fun fields => fields.apply content

/-- One entry before and after patches and additions: its content is patched, a real change is marked, and new
    children stand behind the old. -/
structure PatchedEntry (fields : Option MemberPatchFields) (added : List MemberId) (r r' : PlannedMember) : Prop where
  is_new : r'.is_new = r.is_new
  parent : r'.parent_member_id = r.parent_member_id
  content : r'.content = patched_content fields r.content
  changed : r'.has_configuration_change = (r.has_configuration_change || r'.content != r.content)
  children : ∃ new, r'.children = r.children ++ new ∧ ∀ c ∈ new, c ∈ added

/-- What patches and additions do to the candidate and to the reported identities. -/
structure PatchEffect (fields_for : MemberId → Option MemberPatchFields) (added : List MemberId)
    (state state' : PlanState) : Prop where
  entry : ∀ m r, state.members.get? m = some r → ∃ r', state'.members.get? m = some r' ∧
    PatchedEntry (fields_for m) added r r'
  origin : ∀ m r', state'.members.get? m = some r' → state.members.get? m = none → m ∈ added
  fresh : ∀ m ∈ added, state.members.get? m = none ∧ ∃ r', state'.members.get? m = some r' ∧ r'.is_new = true
  nodup : added.Nodup
  named : ∀ m, fields_for m ≠ none → (state.members.get? m).isSome = true
  created : state'.created = state.created ++ added
  updated : ∀ m, m ∈ state'.updated ↔ m ∈ state.updated ∨
    (fields_for m ≠ none ∧ ∃ r', state'.members.get? m = some r' ∧ r'.has_configuration_change = true)
  updated_nodup : state.updated.Nodup → state'.updated.Nodup

theorem PatchedEntry.refl (added : List MemberId) (r : PlannedMember) : PatchedEntry none added r r :=
  ⟨rfl, rfl, rfl, by simp, [], by simp, by simp⟩

theorem PatchEffect.refl (state : PlanState) : PatchEffect (fun _ => none) [] state state :=
  ⟨fun m r hr => ⟨r, hr, .refl _ r⟩, fun m r' hr' hnone => by simp [hnone] at hr', by simp, List.nodup_nil,
    fun m hm => absurd rfl hm, by simp, by simp, fun h => h⟩

/-- The recorded seeds play no part in it. -/
theorem PatchEffect.set_seeds {fields_for : MemberId → Option MemberPatchFields} {added : List MemberId}
    {state state' : PlanState} (h : PatchEffect fields_for added state state') (seeds : List MemberId) :
    PatchEffect fields_for added state { state' with branch_change_seeds := seeds } :=
  ⟨h.entry, h.origin, h.fresh, h.nodup, h.named, h.created, h.updated, h.updated_nodup⟩

/-- Two effects that patch different Members make one. -/
theorem PatchEffect.trans {first second : MemberId → Option MemberPatchFields} {added added' : List MemberId}
    {state middle state' : PlanState} (h : PatchEffect first added state middle)
    (h' : PatchEffect second added' middle state') (hdisjoint : ∀ m, first m ≠ none → second m = none)
    (hundrawn : ∀ m ∈ added, second m = none) :
    PatchEffect (fun m => first m <|> second m) (added ++ added') state state' := by
  have hsurvive : ∀ m, state.members.get? m = none → middle.members.get? m = none ∨ m ∈ added := by
    intro m hnone
    cases hmiddle : middle.members.get? m with
    | none => exact .inl rfl
    | some r => exact .inr (h.origin m r hmiddle hnone)
  refine ⟨fun m r hr => ?_, fun m r' hr' hnone => ?_, fun m hm => ?_, ?_, fun m hm => ?_, ?_, fun m => ?_, fun hn =>
    h'.updated_nodup (h.updated_nodup hn)⟩
  · obtain ⟨r₁, hr₁, hentry⟩ := h.entry m r hr
    obtain ⟨r', hr', hentry'⟩ := h'.entry m r₁ hr₁
    obtain ⟨new, hnew, hmem⟩ := hentry.children
    obtain ⟨new', hnew', hmem'⟩ := hentry'.children
    refine ⟨r', hr', hentry'.is_new.trans hentry.is_new, hentry'.parent.trans hentry.parent, ?_, ?_,
      new ++ new', ?_, ?_⟩
    · cases hfirst : first m with
      | none => rw [hentry'.content, hentry.content, hfirst]; rfl
      | some fields =>
        rw [hentry'.content, hentry.content, hdisjoint m (by simp [hfirst]), hfirst]
        rfl
    · cases hfirst : first m with
      | none =>
        have hsame : r₁.content = r.content := by rw [hentry.content, hfirst]; rfl
        rw [hentry'.changed, hentry.changed, hsame]
        simp
      | some fields =>
        have hsame : r'.content = r₁.content := by
          rw [hentry'.content, hdisjoint m (by simp [hfirst])]
          rfl
        rw [hentry'.changed, hentry.changed, hsame]
        simp
    · rw [hnew', hnew, List.append_assoc]
    · intro c hc
      rcases List.mem_append.mp hc with hc | hc
      · exact List.mem_append_left _ (hmem c hc)
      · exact List.mem_append_right _ (hmem' c hc)
  · rcases hsurvive m hnone with hmiddle | hmem
    · exact List.mem_append_right _ (h'.origin m r' hr' hmiddle)
    · exact List.mem_append_left _ hmem
  · rcases List.mem_append.mp hm with hm | hm
    · obtain ⟨hnone, r₁, hr₁, hnew⟩ := h.fresh m hm
      obtain ⟨r', hr', hentry⟩ := h'.entry m r₁ hr₁
      exact ⟨hnone, r', hr', hentry.is_new.trans hnew⟩
    · obtain ⟨hmiddle, hnew⟩ := h'.fresh m hm
      refine ⟨?_, hnew⟩
      cases hstate : state.members.get? m with
      | none => rfl
      | some r =>
        obtain ⟨r₁, hr₁, -⟩ := h.entry m r hstate
        rw [hmiddle] at hr₁
        cases hr₁
  · refine List.nodup_append.mpr ⟨h.nodup, h'.nodup, fun m hm m' hm' heq => ?_⟩
    subst heq
    obtain ⟨-, r₁, hr₁, -⟩ := h.fresh m hm
    rw [(h'.fresh m hm').1] at hr₁
    cases hr₁
  · cases hfirst : first m with
    | some fields => exact h.named m (by simp [hfirst])
    | none =>
      simp only [hfirst] at hm
      have hsome := h'.named m (by simpa using hm)
      cases hstate : state.members.get? m with
      | some r => rfl
      | none =>
        rcases hsurvive m hstate with hmiddle | hmem
        · rw [hmiddle] at hsome
          cases hsome
        · rw [hundrawn m hmem] at hm
          exact absurd rfl hm
  · rw [h'.created, h.created, List.append_assoc]
  · -- a Member that the first effect patched is not touched by the second
    rw [h'.updated, h.updated]
    cases hfirst : first m with
    | none => simp
    | some fields =>
      have hsecond := hdisjoint m (by simp [hfirst])
      have hflag : (∃ r₁, middle.members.get? m = some r₁ ∧ r₁.has_configuration_change = true) ↔
          ∃ r', state'.members.get? m = some r' ∧ r'.has_configuration_change = true := by
        obtain ⟨r, hr⟩ := Option.isSome_iff_exists.mp (h.named m (by simp [hfirst]))
        obtain ⟨r₁, hr₁, -⟩ := h.entry m r hr
        obtain ⟨r', hr', hentry⟩ := h'.entry m r₁ hr₁
        have hsame : r'.content = r₁.content := by rw [hentry.content, hsecond]; rfl
        have hchanged : r'.has_configuration_change = r₁.has_configuration_change := by
          rw [hentry.changed, hsame]
          simp
        simp [hr₁, hr', hchanged]
      simp [hsecond, hflag]

/-- The effect of patching one Member. -/
theorem patch_member_effect {state state' : PlanState} {id : MemberId} {fields : MemberPatchFields}
    (h : patch_member state id fields = .ok state') :
    PatchEffect (fun m => if id = m then some fields else none) [] state state' := by
  unfold patch_member at h
  rw [bind_eq_ok_iff] at h
  obtain ⟨member, hmember, h⟩ := h
  rw [require_some_eq_ok_iff] at hmember
  have hmembers : state'.members = state.members.set id (patched_member member fields) ∧
      state'.created = state.created := by
    split at h <;> cases h <;> exact ⟨rfl, rfl⟩
  have hget : ∀ m, state'.members.get? m =
      if m = id then some (patched_member member fields) else state.members.get? m := by
    intro m
    rw [hmembers.1, Table.get?_set]
  refine ⟨fun m r hr => ?_, fun m r' hr' hnone => ?_, by simp, List.nodup_nil, fun m hm => ?_, by simp [hmembers.2],
    fun m => ?_, fun hnodup => ?_⟩
  · rw [hget]
    by_cases hm : m = id
    · subst hm
      obtain rfl := Option.some.inj (hmember.symm.trans hr)
      rw [if_pos rfl, if_pos rfl]
      exact ⟨_, rfl, rfl, rfl, rfl, rfl, [], by simp [patched_member], by simp⟩
    · rw [if_neg hm, if_neg (Ne.symm hm)]
      exact ⟨r, hr, .refl _ r⟩
  · rw [hget, hnone] at hr'
    split at hr'
    · next heq =>
      rw [heq, hmember] at hnone
      cases hnone
    · cases hr'
  · by_cases heq : id = m
    · rw [← heq, hmember]
      rfl
    · rw [if_neg heq] at hm
      exact absurd rfl hm
  · rw [hget]
    by_cases heq : m = id
    · subst heq
      simp only [if_true, ne_eq, reduceCtorEq, not_false_eq_true, Option.some.injEq, exists_eq_left', true_and]
      split at h
      · next hchanged =>
        cases h
        rw [Bool.and_eq_true] at hchanged
        simp [hchanged.1]
      · next hsame =>
        cases h
        constructor
        · exact .inl
        · rintro (hmem | hchanged)
          · exact hmem
          · by_contra hnot
            exact hsame (by simp [hchanged, hnot])
    · simp only [if_neg heq, if_neg (Ne.symm heq), ne_eq, not_true_eq_false, false_and, or_false]
      split at h
      · cases h
        simp [heq]
      · cases h
        exact Iff.rfl
  · split at h
    · next hchanged =>
      cases h
      rw [Bool.and_eq_true, Bool.not_eq_true', List.contains_eq_mem, decide_eq_false_iff_not] at hchanged
      refine List.nodup_append.mpr ⟨hnodup, by simp, fun a ha b hb heq => hchanged.2 ?_⟩
      rw [List.mem_singleton] at hb
      rwa [← hb, ← heq]
    · cases h
      exact hnodup

/-- The effect of appending one new Member. -/
theorem append_new_member_effect {state state' : PlanState} {parent_id : MemberId} {drawn : DrawnIdentity}
    {content : MemberContent} (hparent : (state.members.get? parent_id).isSome)
    (h : append_new_member state parent_id drawn content = .ok state') :
    PatchEffect (fun _ => none) [drawn.member_id] state state' ∧ (state'.members.get? drawn.member_id).isSome := by
  have hcreated : state'.created = state.created ++ [drawn.member_id] := by
    unfold append_new_member at h
    rw [bind_eq_ok_iff] at h
    obtain ⟨_, -, h⟩ := h
    rw [bind_eq_ok_iff] at h
    obtain ⟨_, -, h⟩ := h
    cases h
    rfl
  obtain ⟨parent, hget, hne, hfree, -, hupdated, hget'⟩ := append_new_member_success h hparent
  have hnew : state'.members.get? drawn.member_id = some (planned_new_member parent_id drawn content) := by
    rw [hget', if_neg (Ne.symm hne), if_pos rfl]
  refine ⟨⟨fun m r hr => ?_, fun m r' hr' hnone => ?_, fun m hm => ?_, by simp, fun m hm => absurd rfl hm, hcreated,
    by simp [hupdated], by simp [hupdated]⟩, by simp [hnew]⟩
  · rw [hget']
    by_cases hm : m = parent_id
    · subst hm
      obtain rfl := Option.some.inj (hget.symm.trans hr)
      rw [if_pos rfl]
      exact ⟨_, rfl, rfl, rfl, rfl, by simp, [drawn.member_id], rfl, by simp⟩
    · rw [if_neg hm, if_neg fun heq => by rw [heq, hfree] at hr; cases hr]
      exact ⟨r, hr, .refl _ r⟩
  · rw [hget'] at hr'
    split at hr'
    · next heq =>
      rw [heq, hget] at hnone
      cases hnone
    · split at hr'
      · next heq => exact List.mem_singleton.mpr heq
      · rw [hnone] at hr'
        cases hr'
  · obtain rfl := List.mem_singleton.mp hm
    exact ⟨hfree, _, hnew, rfl⟩

mutual

/-- The effect of appending a subtree. -/
theorem append_new_tree_effect {state state' : PlanState} {parent_id : MemberId} (authored : ReplanNewMember)
    (hparent : (state.members.get? parent_id).isSome) (h : append_new_tree state parent_id authored = .ok state') :
    PatchEffect (fun _ => none) authored.drawn_ids state state' := by
  obtain ⟨drawn, content, children⟩ := authored
  rw [append_new_tree, bind_eq_ok_iff] at h
  obtain ⟨appended, happend, h⟩ := h
  obtain ⟨heffect, hself⟩ := append_new_member_effect hparent happend
  exact heffect.trans (append_new_trees_effect children hself h) (fun _ _ => rfl) fun _ _ => rfl

theorem append_new_trees_effect {state state' : PlanState} {parent_id : MemberId} (children : List ReplanNewMember)
    (hparent : (state.members.get? parent_id).isSome) (h : append_new_trees state parent_id children = .ok state') :
    PatchEffect (fun _ => none) (new_members_drawn_ids children) state state' := by
  match children with
  | [] =>
    rw [append_new_trees] at h
    cases h
    exact .refl state
  | child :: children =>
    rw [append_new_trees, bind_eq_ok_iff] at h
    obtain ⟨appended, happend, h⟩ := h
    have heffect := append_new_tree_effect child hparent happend
    obtain ⟨r, hr⟩ := Option.isSome_iff_exists.mp hparent
    obtain ⟨r', hr', -⟩ := heffect.entry parent_id r hr
    exact heffect.trans (append_new_trees_effect children (by simp [hr']) h) (fun _ _ => rfl) fun _ _ => rfl

end

/-- Every entry whose identifier was not drawn has the parent that it was loaded with. -/
def Placed (base : PlannedMembers) (drawn : MemberId → Prop) (state : PlanState) : Prop :=
  ∀ m r, state.members.get? m = some r → ¬ drawn m → base.parent m = r.parent_member_id

theorem Placed.effect {base : PlannedMembers} {drawn : MemberId → Prop} {state state' : PlanState}
    {fields_for : MemberId → Option MemberPatchFields} {added : List MemberId} (h : Placed base drawn state)
    (heffect : PatchEffect fields_for added state state') (hadded : ∀ m ∈ added, drawn m) :
    Placed base drawn state' := by
  intro m r' hr' hnot
  cases hstate : state.members.get? m with
  | none => exact absurd (hadded m (heffect.origin m r' hr' hstate)) hnot
  | some r =>
    obtain ⟨r₁, hr₁, hentry⟩ := heffect.entry m r hstate
    obtain rfl := Option.some.inj (hr'.symm.trans hr₁)
    rw [h m r hstate hnot, hentry.parent]

mutual

/-- The effect of one nested patch: it reaches only the child that it names and what is below. -/
theorem apply_child_patch_effect {base : PlannedMembers} {drawn : MemberId → Prop} {state state' : PlanState}
    {m : MemberId} (patch : ReplanChildPatch) (hacyclic : Acyclic base) (hplaced : Placed base drawn state)
    (hm : (state.members.get? m).isSome) (honce : patch.names_once) (hdrawn : ∀ x ∈ patch.drawn_ids, drawn x)
    (hundrawn : ∀ x, drawn x → patch.fields_for x = none) (h : apply_child_patch state m patch = .ok state') :
    PatchEffect (fun x => patch.fields_for x) patch.drawn_ids state state' ∧
      ∀ x, patch.fields_for x ≠ none → ∃ id ∈ existing_children [patch], base.parent id = some m ∧
        Forest.BelowOrEq base.parent x id := by
  match patch with
  | .new authored =>
    rw [apply_child_patch, bind_eq_ok_iff] at h
    obtain ⟨appended, happend, h⟩ := h
    cases h
    have heffect := (append_new_tree_effect authored hm happend).set_seeds (m :: appended.branch_change_seeds)
    refine ⟨?_, fun x hx => absurd (by rw [ReplanChildPatch.fields_for]) hx⟩
    have hnone : (fun x => ReplanChildPatch.fields_for x (.new authored)) = fun _ => none := by
      funext x
      rw [ReplanChildPatch.fields_for]
    rw [hnone, ReplanChildPatch.drawn_ids]
    exact heffect
  | .existing child_id fields children =>
    rw [apply_child_patch, bind_eq_ok_iff] at h
    obtain ⟨child, hchild, h⟩ := h
    rw [require_some_eq_ok_iff] at hchild
    rw [bind_eq_ok_iff] at h
    obtain ⟨_, hparent, h⟩ := h
    rw [require_eq_ok_iff, beq_iff_eq] at hparent
    rw [bind_eq_ok_iff] at h
    obtain ⟨patched, hpatch, h⟩ := h
    have hlookup : ∀ x, ReplanChildPatch.fields_for x (.existing child_id fields children) =
        ((if child_id = x then some fields else none) <|> child_patches_fields_for x children) := by
      intro x
      rw [ReplanChildPatch.fields_for]
      split <;> simp
    have hnot : ¬ drawn child_id := fun hdrawn_child => by
      have hnone := hundrawn child_id hdrawn_child
      simp [hlookup] at hnone
    have hlink : base.parent child_id = some m := (hplaced child_id child hchild hnot).trans hparent
    have hfirst := patch_member_effect hpatch
    obtain ⟨r₁, hr₁, -⟩ := hfirst.entry child_id child hchild
    rw [ReplanChildPatch.names_once] at honce
    rw [ReplanChildPatch.drawn_ids] at hdrawn
    obtain ⟨hsecond, hbelow⟩ := apply_child_patches_effect children hacyclic
      (hplaced.effect hfirst (by simp)) (by simp [hr₁]) honce.1 honce.2 hdrawn (fun x hx => by
        have hnone := hundrawn x hx
        rw [hlookup, Option.orElse_eq_none] at hnone
        exact hnone.2) h
    -- nothing below the child is the child itself
    have hself : child_patches_fields_for child_id children = none := by
      by_contra hne
      obtain ⟨id, -, hid, hle⟩ := hbelow child_id hne
      exact hacyclic child_id (.tail' hle hid)
    have heffect := hfirst.trans hsecond (fun x hx => by
      by_cases heq : child_id = x
      · rwa [← heq]
      · rw [if_neg heq] at hx
        exact absurd rfl hx) (by simp)
    refine ⟨?_, fun x hx => ⟨child_id, by simp [existing_children], hlink, ?_⟩⟩
    · rw [ReplanChildPatch.drawn_ids]
      simpa only [← hlookup, List.nil_append] using heffect
    · by_cases heq : child_id = x
      · rw [heq]
      · have hx : child_patches_fields_for x children ≠ none := by simpa [hlookup, heq] using hx
        obtain ⟨id, -, hid, hle⟩ := hbelow x hx
        exact hle.tail hid

theorem apply_child_patches_effect {base : PlannedMembers} {drawn : MemberId → Prop} {state state' : PlanState}
    {m : MemberId} (patches : List ReplanChildPatch) (hacyclic : Acyclic base) (hplaced : Placed base drawn state)
    (hm : (state.members.get? m).isSome) (hnodup : (existing_children patches).Nodup)
    (honce : child_patches_name_once patches) (hdrawn : ∀ x ∈ child_patches_drawn_ids patches, drawn x)
    (hundrawn : ∀ x, drawn x → child_patches_fields_for x patches = none)
    (h : apply_child_patches state m patches = .ok state') :
    PatchEffect (fun x => child_patches_fields_for x patches) (child_patches_drawn_ids patches) state state' ∧
      ∀ x, child_patches_fields_for x patches ≠ none → ∃ id ∈ existing_children patches,
        base.parent id = some m ∧ Forest.BelowOrEq base.parent x id := by
  match patches with
  | [] =>
    rw [apply_child_patches] at h
    cases h
    simp only [child_patches_fields_for, child_patches_drawn_ids]
    exact ⟨.refl state, fun x hx => absurd rfl hx⟩
  | patch :: patches =>
    rw [apply_child_patches, bind_eq_ok_iff] at h
    obtain ⟨middle, hpatch, h⟩ := h
    have hsplit : existing_children (patch :: patches) = existing_children [patch] ++ existing_children patches := by
      cases patch <;> rfl
    rw [hsplit, List.nodup_append] at hnodup
    rw [child_patches_name_once] at honce
    simp only [child_patches_drawn_ids, List.mem_append] at hdrawn
    simp only [child_patches_fields_for, Option.orElse_eq_none] at hundrawn
    obtain ⟨hfirst, hbelow⟩ := apply_child_patch_effect patch hacyclic hplaced hm honce.1
      (fun x hx => hdrawn x (.inl hx)) (fun x hx => (hundrawn x hx).1) hpatch
    obtain ⟨r, hr⟩ := Option.isSome_iff_exists.mp hm
    obtain ⟨r₁, hr₁, -⟩ := hfirst.entry m r hr
    obtain ⟨hsecond, hbelow'⟩ := apply_child_patches_effect patches hacyclic
      (hplaced.effect hfirst fun x hx => hdrawn x (.inl hx)) (by simp [hr₁]) hnodup.2.1 honce.2
      (fun x hx => hdrawn x (.inr hx)) (fun x hx => (hundrawn x hx).2) h
    simp only [child_patches_fields_for, child_patches_drawn_ids]
    refine ⟨hfirst.trans hsecond (fun x hx => ?_) fun x hx => (hundrawn x (hdrawn x (.inl hx))).2, fun x hx => ?_⟩
    · by_contra hne
      obtain ⟨id, hid, hlink, hle⟩ := hbelow x hx
      obtain ⟨id', hid', hlink', hle'⟩ := hbelow' x hne
      exact hnodup.2.2 id hid id' hid' (hacyclic.siblings hlink hlink' hle hle')
    · rw [hsplit]
      cases hfound : patch.fields_for x with
      | some fields =>
        obtain ⟨id, hid, hlink, hle⟩ := hbelow x (by simp [hfound])
        exact ⟨id, List.mem_append_left _ hid, hlink, hle⟩
      | none =>
        have hx : child_patches_fields_for x patches ≠ none := by
          simpa [child_patches_fields_for, hfound] using hx
        obtain ⟨id, hid, hlink, hle⟩ := hbelow' x hx
        exact ⟨id, List.mem_append_right _ hid, hlink, hle⟩

end

end OhMySubagents
