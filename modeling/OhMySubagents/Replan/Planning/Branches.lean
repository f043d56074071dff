import Mathlib.Data.List.Perm.Subperm
import OhMySubagents.Replan.Planning

open Relational

namespace OhMySubagents

theorem PlannedMembers.parent_eq_some_iff {members : PlannedMembers} {x p : MemberId} :
    members.parent x = some p ↔ ∃ r, members.get? x = some r ∧ r.parent_member_id = some p := by
  unfold PlannedMembers.parent
  cases members.get? x <;> simp

theorem PlannedMembers.mem_children_iff {members : PlannedMembers} {x c : MemberId} :
    c ∈ members.children x ↔ ∃ r, members.get? x = some r ∧ c ∈ r.children := by
  unfold PlannedMembers.children
  cases members.get? x <;> simp

/-- A set of Members that contains the parent of each of its elements. -/
def UpwardClosed (members : PlannedMembers) (changed : List MemberId) : Prop :=
  ∀ x ∈ changed, ∀ p, members.parent x = some p → p ∈ changed

/-- What one walk guarantees about the branch it recorded: a set closed except for the Member still
    to visit becomes closed, contains that Member, and gains only its ancestors. -/
private theorem collect_changed_branch_spec {members : PlannedMembers} {fuel : Nat}
    {next : Option MemberId} {changed result : List MemberId}
    (h : collect_changed_branch members fuel next changed = .ok result)
    (hfuel : members.entries.length < fuel + changed.length)
    (hnodup : changed.Nodup) (hknown : ∀ x ∈ changed, (members.get? x).isSome)
    (hclosed : ∀ x ∈ changed, ∀ p, members.parent x = some p → p ∈ changed ∨ next = some p) :
    UpwardClosed members result ∧ result.Nodup ∧ (∀ x ∈ result, (members.get? x).isSome) ∧
      (∀ x ∈ changed, x ∈ result) ∧ (∀ m, next = some m → m ∈ result) ∧
      ∀ x ∈ result, x ∈ changed ∨ ∃ m, next = some m ∧ Forest.BelowOrEq members.parent m x := by
  induction fuel generalizing next changed with
  | zero =>
    -- the recorded Members are distinct keys, so there cannot be more of them than keys
    exfalso
    have hsub : changed ⊆ members.keys := fun x hx => by
      have hsome := hknown x hx
      rw [Table.get?, AList.lookup_isSome, AList.mem_keys] at hsome
      exact hsome
    have hle := (List.subperm_of_subset hnodup hsub).length_le
    have hkeys : members.keys.length = members.entries.length := by
      simp [AList.keys, List.keys]
    omega
  | succ fuel ih =>
    cases next with
    | none =>
      rw [collect_changed_branch] at h
      cases h
      refine ⟨?_, hnodup, hknown, fun _ hx => hx, by simp, fun x hx => .inl hx⟩
      intro x hx p hp
      rcases hclosed x hx p hp with hmem | hnone
      · exact hmem
      · cases hnone
    | some m =>
      rw [collect_changed_branch] at h
      split at h
      · next hmem =>
        cases h
        have hm : m ∈ result := by simpa using hmem
        refine ⟨?_, hnodup, hknown, fun _ hx => hx, ?_, fun x hx => .inl hx⟩
        · intro x hx p hp
          rcases hclosed x hx p hp with hp' | hp'
          · exact hp'
          · rw [← Option.some.inj hp']
            exact hm
        · intro m' hm'
          rw [← Option.some.inj hm']
          exact hm
      · next hmem =>
        have hm : m ∉ changed := by simpa using hmem
        rw [bind_eq_ok_iff] at h
        obtain ⟨member, hmember, h⟩ := h
        rw [require_some_eq_ok_iff] at hmember
        have hparent : members.parent m = member.parent_member_id := by
          rw [PlannedMembers.parent, hmember, Option.bind_some]
        obtain ⟨hup, hnd, hkn, hkeep, hnext, horigin⟩ := ih h
          (by rw [List.length_cons]; omega)
          (List.nodup_cons.mpr ⟨hm, hnodup⟩)
          (by
            intro x hx
            rcases List.mem_cons.mp hx with rfl | hx
            · rw [hmember]; rfl
            · exact hknown x hx)
          (by
            intro x hx p hp
            rcases List.mem_cons.mp hx with rfl | hx
            · rw [hparent] at hp
              exact .inr hp
            · rcases hclosed x hx p hp with hp' | hp'
              · exact .inl (List.mem_cons_of_mem _ hp')
              · rw [← Option.some.inj hp']
                exact .inl List.mem_cons_self)
        refine ⟨hup, hnd, hkn, fun x hx => hkeep x (List.mem_cons_of_mem _ hx), ?_, ?_⟩
        · intro m' hm'
          rw [← Option.some.inj hm']
          exact hkeep m List.mem_cons_self
        · intro x hx
          rcases horigin x hx with hx | ⟨p, hp, hle⟩
          · rcases List.mem_cons.mp hx with rfl | hx
            · exact .inr ⟨x, rfl, .refl⟩
            · exact .inl hx
          · exact .inr ⟨m, rfl, .head (hparent.trans hp) hle⟩

/-- The Members recorded from a set of seeds are exactly closed under parents, contain every seed
    and are all ancestors of a seed. -/
theorem collect_changed_branches_spec {members : PlannedMembers} {seeds changed result : List MemberId}
    (h : collect_changed_branches members seeds changed = .ok result)
    (hnodup : changed.Nodup) (hknown : ∀ x ∈ changed, (members.get? x).isSome)
    (hclosed : UpwardClosed members changed) :
    UpwardClosed members result ∧ (∀ x ∈ changed, x ∈ result) ∧ (∀ s ∈ seeds, s ∈ result) ∧
      (∀ x ∈ result, (members.get? x).isSome) ∧
      ∀ x ∈ result, x ∈ changed ∨ ∃ s ∈ seeds, Forest.BelowOrEq members.parent s x := by
  induction seeds generalizing changed with
  | nil =>
    rw [collect_changed_branches] at h
    cases h
    exact ⟨hclosed, fun _ hx => hx, by simp, hknown, fun x hx => .inl hx⟩
  | cons seed seeds ih =>
    rw [collect_changed_branches, bind_eq_ok_iff] at h
    obtain ⟨branch, hbranch, h⟩ := h
    obtain ⟨hup, hnd, hkn, hkeep, hseed, horigin⟩ := collect_changed_branch_spec hbranch
      (by omega) hnodup hknown (fun x hx p hp => .inl (hclosed x hx p hp))
    obtain ⟨hup', hkeep', hseeds', hkn', horigin'⟩ := ih h hnd hkn hup
    refine ⟨hup', fun x hx => hkeep' x (hkeep x hx), ?_, hkn', ?_⟩
    · intro s hs
      rcases List.mem_cons.mp hs with rfl | hs
      · exact hkeep' s (hseed s rfl)
      · exact hseeds' s hs
    · intro x hx
      rcases horigin' x hx with hx | ⟨s, hs, hle⟩
      · rcases horigin x hx with hx | ⟨s, hs, hle⟩
        · exact .inl hx
        · rw [Option.some.injEq] at hs
          exact .inr ⟨s, hs ▸ List.mem_cons_self, hle⟩
      · exact .inr ⟨s, List.mem_cons_of_mem _ hs, hle⟩

/-- The Members whose branch a refresh marks as changed. -/
structure ChangedBranches (members : PlannedMembers) (seeds changed : List MemberId) : Prop where
  upward : UpwardClosed members changed
  seeds_mem : ∀ s ∈ seeds, s ∈ changed
  known : ∀ x ∈ changed, (members.get? x).isSome
  origin : ∀ x ∈ changed, ∃ s ∈ seeds, Forest.BelowOrEq members.parent s x

theorem refresh_branch_bases_spec {draws : RefreshDraws} {members refreshed : PlannedMembers}
    {seeds : List MemberId} (h : refresh_branch_bases draws members seeds = .ok refreshed) :
    ∃ changed, ChangedBranches members seeds changed ∧
      refreshed = members.mapRows (refresh_member draws changed) := by
  rw [refresh_branch_bases, bind_eq_ok_iff] at h
  obtain ⟨changed, hchanged, h⟩ := h
  cases h
  obtain ⟨hup, -, hseeds, hknown, horigin⟩ := collect_changed_branches_spec hchanged
    List.nodup_nil (by simp) (by simp [UpwardClosed])
  refine ⟨changed, ⟨hup, hseeds, hknown, ?_⟩, rfl⟩
  intro x hx
  simpa using horigin x hx

/-- Refreshing keeps every parent link. -/
theorem parent_mapRows_refresh (draws : RefreshDraws) (members : PlannedMembers) (changed : List MemberId) :
    PlannedMembers.parent (members.mapRows (refresh_member draws changed)) = members.parent := by
  funext x
  unfold PlannedMembers.parent
  rw [Table.get?_mapRows]
  cases members.get? x <;> rfl

end OhMySubagents
