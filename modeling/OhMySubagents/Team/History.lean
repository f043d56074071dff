import OhMySubagents.Replan.Successor

open Relational

namespace OhMySubagents

/-- What one accepted replan adds to the history of a Team. -/
structure TeamReplanned (team team' : TeamTables) (source_id : RevisionId) (rev : TeamRevision)
    (successor_id : RevisionId) (caller : MemberId) (rev' : TeamRevision) : Prop where
  free : team.team_revisions.get? successor_id = none
  revisions : team'.team_revisions = team.team_revisions.set successor_id rev'
  predecessor : rev'.predecessor_team_revision_id = some source_id
  step : ReplanStep rev rev' caller fun b => team.member_branch_bases.get? b = none
  recorded : rev'.Recorded team'
  members_kept : ∀ m u, team.members.get? m = some u → team'.members.get? m = some u
  configurations_kept : ∀ c r, team.member_configurations.get? c = some r →
    team'.member_configurations.get? c = some r
  bases_kept : ∀ b r, team.member_branch_bases.get? b = some r →
    team'.member_branch_bases.get? b = some r

/-- The history of a Team: every revision is one recorded tree, a basis means the same subtree
    wherever it is selected, and a revision renews a basis only where the branch changed. -/
structure TeamHistory (team : TeamTables) : Prop where
  well_formed : ∀ r rev, team.team_revisions.get? r = some rev → rev.WellFormed
  recorded : ∀ r rev, team.team_revisions.get? r = some rev → rev.Recorded team
  agree : ∀ r rev r' rev', team.team_revisions.get? r = some rev →
    team.team_revisions.get? r' = some rev' → rev.Agree rev'
  renewed : ∀ r rev p, team.team_revisions.get? r = some rev →
    rev.predecessor_team_revision_id = some p → ∃ before, team.team_revisions.get? p = some before ∧
      ∀ m s s', before.select m = some s → rev.select m = some s' →
        s.member_branch_basis_id ≠ s'.member_branch_basis_id → before.BranchDiffers rev m

/-- One recorded tree is a Team history. -/
theorem TeamHistory.initial {team : TeamTables} {id : RevisionId} {rev : TeamRevision}
    (revisions : ∀ r, team.team_revisions.get? r = if r = id then some rev else none) (well_formed : rev.WellFormed)
    (recorded : rev.Recorded team) (first : rev.predecessor_team_revision_id = none) : TeamHistory team := by
  have hrev : ∀ r rev', team.team_revisions.get? r = some rev' → rev' = rev := by
    intro r rev' h
    rw [revisions] at h
    split at h
    · exact (Option.some.inj h).symm
    · cases h
  refine ⟨fun r rev' h => hrev r rev' h ▸ well_formed, fun r rev' h => hrev r rev' h ▸ recorded, ?_, ?_⟩
  · intro r rev' r' rev'' h h'
    rw [hrev r rev' h, hrev r' rev'' h']
    exact well_formed.agree_self
  · intro r rev' p h hp
    rw [hrev r rev' h, first] at hp
    cases hp

theorem TeamRevision.Recorded.mono {team team' : TeamTables} {rev : TeamRevision}
    (h : rev.Recorded team)
    (hmembers : ∀ m u, team.members.get? m = some u → team'.members.get? m = some u)
    (hconfigurations : ∀ c r, team.member_configurations.get? c = some r →
      team'.member_configurations.get? c = some r)
    (hbases : ∀ b r, team.member_branch_bases.get? b = some r →
      team'.member_branch_bases.get? b = some r) : rev.Recorded team' := by
  intro m s hs
  obtain ⟨hmember, ⟨c, hc, hid⟩, hbasis⟩ := h m s hs
  obtain ⟨u, hu⟩ := Option.isSome_iff_exists.mp hmember
  obtain ⟨b, hb⟩ := Option.isSome_iff_exists.mp hbasis
  exact ⟨by rw [hmembers m u hu]; rfl, ⟨c, hconfigurations _ c hc, hid⟩, by rw [hbases _ b hb]; rfl⟩

/-- An older revision that agrees with the source of a replan agrees with its successor: a basis they
    share was not freshly drawn, so the source selected it too. -/
theorem ReplanStep.agree_older {team : TeamTables} {older rev rev' : TeamRevision} {caller : MemberId}
    (hstep : ReplanStep rev rev' caller fun b => team.member_branch_bases.get? b = none)
    (hrecorded : older.Recorded team) (hagree : older.Agree rev) : older.Agree rev' := by
  intro m s s' hs hs' hbasis
  have hold : ¬ team.member_branch_bases.get? s'.member_branch_basis_id = none := by
    obtain ⟨-, -, hsome⟩ := hrecorded m s hs
    rw [← hbasis]
    intro hnone
    rw [hnone] at hsome
    cases hsome
  cases hm : rev.select m with
  | none => exact absurd (hstep.added m s' hs' hm) hold
  | some t =>
    have hsame : t.member_branch_basis_id = s'.member_branch_basis_id := by
      by_contra hne
      exact hold (hstep.changed m t s' hm hs' hne).1
    obtain ⟨hcfg, hchildren, hbases⟩ := hagree m s t hs hm (hbasis.trans hsame.symm)
    obtain ⟨hcfg', hchildren', hbases'⟩ := hstep.agree m t s' hm hs' hsame
    refine ⟨hcfg.trans hcfg', hchildren.trans hchildren', fun c hc => ?_⟩
    obtain ⟨sc, tc, hsc, htc, hst⟩ := hbases c hc
    obtain ⟨tc', sc', htc', hsc', hts⟩ := hbases' c (hchildren ▸ hc)
    rw [htc] at htc'
    cases htc'
    exact ⟨sc, sc', hsc, hsc', hst.trans hts⟩

/-- An accepted replan keeps the history. -/
theorem TeamHistory.replanned {team team' : TeamTables} {source_id successor_id : RevisionId}
    {rev rev' : TeamRevision} {caller : MemberId} (h : TeamHistory team)
    (hsource : team.team_revisions.get? source_id = some rev)
    (hstep : TeamReplanned team team' source_id rev successor_id caller rev') : TeamHistory team' := by
  have hget : ∀ r q, team'.team_revisions.get? r = some q ↔
      r = successor_id ∧ q = rev' ∨ team.team_revisions.get? r = some q := by
    intro r q
    rw [hstep.revisions, Table.get?_set]
    split
    · next hr =>
      subst hr
      simp [hstep.free, eq_comm]
    · next hr => simp [hr]
  have hwf := hstep.step.well_formed
  have hrecorded : ∀ r q, team.team_revisions.get? r = some q → q.Recorded team' := fun r q hq =>
    (h.recorded r q hq).mono hstep.members_kept hstep.configurations_kept hstep.bases_kept
  have hnew : ∀ r q, team.team_revisions.get? r = some q → q.Agree rev' := fun r q hq =>
    hstep.step.agree_older (h.recorded r q hq) (h.agree r q source_id rev hq hsource)
  refine ⟨?_, ?_, ?_, ?_⟩
  · intro r q hq
    rcases (hget r q).mp hq with ⟨-, rfl⟩ | hq
    · exact hwf
    · exact h.well_formed r q hq
  · intro r q hq
    rcases (hget r q).mp hq with ⟨-, rfl⟩ | hq
    · exact hstep.recorded
    · exact hrecorded r q hq
  · intro r q r' q' hq hq'
    rcases (hget r q).mp hq with ⟨-, rfl⟩ | hq <;> rcases (hget r' q').mp hq' with ⟨-, rfl⟩ | hq'
    · exact hwf.agree_self
    · exact (hnew r' q' hq').symm
    · exact hnew r q hq
    · exact h.agree r q r' q' hq hq'
  · intro r q p hq hp
    rcases (hget r q).mp hq with ⟨-, rfl⟩ | hq
    · rw [hstep.predecessor] at hp
      cases hp
      refine ⟨rev, (hget _ _).mpr (.inr hsource), fun m s s' hs hs' hne => ?_⟩
      exact (hstep.step.changed m s s' hs hs' hne).2.1
    · obtain ⟨before, hbefore, hrenewed⟩ := h.renewed r q p hq hp
      exact ⟨before, (hget _ _).mpr (.inr hbefore), hrenewed⟩

/-- Consecutive revisions renew the basis of a retained Member exactly where its branch changed. -/
theorem TeamHistory.basis_changes_iff {team : TeamTables} (h : TeamHistory team) {r p : RevisionId}
    {rev before : TeamRevision} (hrev : team.team_revisions.get? r = some rev)
    (hpredecessor : rev.predecessor_team_revision_id = some p)
    (hbefore : team.team_revisions.get? p = some before) {m : MemberId} {s s' : TeamRevisionMember}
    (hs : before.select m = some s) (hs' : rev.select m = some s') :
    s.member_branch_basis_id ≠ s'.member_branch_basis_id ↔ before.BranchDiffers rev m := by
  constructor
  · intro hne
    obtain ⟨before', hbefore', hrenewed⟩ := h.renewed r rev p hrev hpredecessor
    rw [hbefore] at hbefore'
    cases hbefore'
    exact hrenewed m s s' hs hs' hne
  · intro hdiffers hsame
    exact (h.agree p before r rev hbefore hrev).not_branchDiffers (h.well_formed p before hbefore)
      (h.well_formed r rev hrev) hs hs' hsame hdiffers

end OhMySubagents
