import OhMySubagents.Lanes.Later
import OhMySubagents.Lanes.Lineage
import OhMySubagents.Lanes.Quiescence

open Relational

namespace OhMySubagents

namespace Lanes

section

/-- Some green boundary was authored under exactly this selection. -/
def Accepted (lanes : Lanes) (selection : MemberSelection) : Prop :=
  ∃ d b q, lanes.boundaries d = some b ∧ b.outcome = .green ∧ lanes.dispatches d = some q ∧
    q.selection = selection

/-- What every green boundary rests on. -/
structure Participation (lanes : Lanes) : Prop where
  participated : ∀ d b q, lanes.boundaries d = some b → b.outcome = .green → lanes.dispatches d = some q →
    lanes.Participated q
  result : lanes.status = .completed → ∃ d b q, lanes.result_boundary_id = some d ∧
    lanes.boundaries d = some b ∧ lanes.dispatches d = some q ∧ lanes.SelectedNow q.selection ∧
      q.assignment_id = lanes.root_assignment_id

variable {lanes lanes' : Lanes} {q q' : LaneDispatch} {d : DispatchId}

theorem Later.accepted (h : lanes.Later lanes') {selection : MemberSelection} (ha : lanes.Accepted selection) :
    lanes'.Accepted selection := by
  obtain ⟨d, b, q, hb, hgreen, hq, hselection⟩ := ha
  obtain ⟨b', hb', rfl⟩ := h.boundaries d b hb
  obtain ⟨q', hq', hlater⟩ := h.dispatches d q hq
  exact ⟨d, b, q', hb', hgreen, hq', by rw [hlater.same, ← hselection]⟩

theorem participated_iff : lanes.Participated q ↔
    ∀ rev, lanes.team.team_revisions.get? q.team_revision_id = some rev →
      ∀ child ∈ rev.children q.selection.member_id, ∃ selected, rev.select child = some selected ∧
        lanes.Accepted ⟨child, selected.member_configuration_id, selected.member_branch_basis_id⟩ := by
  unfold Participated Accepted
  constructor
  · intro h rev hrev child hchild
    obtain ⟨selected, d', b', q', hsel, hb, hgreen, hq, hq'⟩ := h rev hrev child hchild
    exact ⟨selected, hsel, d', b', q', hb, hgreen, hq, hq'⟩
  · intro h rev hrev child hchild
    obtain ⟨selected, hsel, d', b', q', hb, hgreen, hq, hq'⟩ := h rev hrev child hchild
    exact ⟨selected, d', b', q', hsel, hb, hgreen, hq, hq'⟩

/-- What a Dispatch rested on it still rests on later. -/
theorem Participated.later (hp : lanes.Participated q) (hs : lanes.Selection) (h : lanes.Later lanes')
    (dispatch : lanes.dispatches d = some q) (hq : q.Later q') : lanes'.Participated q' := by
  obtain ⟨rev, hrev, -⟩ := hs.own_selected d q dispatch
  rw [participated_iff] at hp ⊢
  intro rev' hrev' child hchild
  obtain ⟨_, hkept, rfl⟩ := h.revisions _ rev hrev
  rw [hq.same] at hrev' hchild
  rw [hkept] at hrev'
  cases hrev'
  obtain ⟨selected, hsel, haccepted⟩ := hp rev hrev child hchild
  exact ⟨selected, hsel, h.accepted haccepted⟩

/-- A step accepts a green boundary only from a live Dispatch whose children participated. -/
theorem Step.green_boundary (hstep : Step lanes lanes') {b : LaneBoundary} (fresh : lanes.boundaries d = none)
    (hb : lanes'.boundaries d = some b) (hgreen : b.outcome = .green) :
    ∃ q, lanes.dispatches d = some q ∧ q.closed_reason = none ∧ lanes.Participated q := by
  cases hstep with
  | @complete d' a q r c outcome wave k x holds _ _ _ _ _ _ participated =>
    by_cases hd : d = d'
    · subst hd
      simp only [putWaveMember_boundaries, putBoundary_boundaries, Function.update_self, Option.some.injEq] at hb
      subst hb
      exact ⟨q, holds.dispatch, holds.live, participated (by cases outcome <;> simp_all [TerminalOutcome.boundary])⟩
    · simp [hd, fresh] at hb
  | @complete_root d' a q r c outcome holds _ _ _ _ participated _ _ =>
    by_cases hd : d = d'
    · subst hd
      simp only [putStatus_boundaries, putBoundary_boundaries, Function.update_self, Option.some.injEq] at hb
      subst hb
      exact ⟨q, holds.dispatch, holds.live, participated (by cases outcome <;> simp_all [TerminalOutcome.boundary])⟩
    · simp [hd, fresh] at hb
  | @retry d' a q r c a' d'' q' holds _ _ _ _ _ _ =>
    by_cases hd : d = d'
    · subst hd
      simp only [occupy_boundaries, putBoundary_boundaries, Function.update_self, Option.some.injEq] at hb
      subst hb
      cases hgreen
    · simp [hd, fresh] at hb
  | _ => simp [fresh] at hb

/-- A completed Task was completed by a live Dispatch of its root. -/
theorem Step.completed (hstep : Step lanes lanes') (hs : lanes.Selection) (hcompleted : lanes'.status = .completed) :
    ∃ d b q, lanes'.result_boundary_id = some d ∧ lanes'.boundaries d = some b ∧
      lanes'.dispatches d = some q ∧ lanes'.SelectedNow q.selection ∧
        q.assignment_id = lanes'.root_assignment_id := by
  cases hstep with
  | @complete_root d a q r c outcome holds serves root fresh _ _ _ _ =>
    refine ⟨d, ⟨r.assignment_id, a, outcome.boundary⟩, q.close .boundary, rfl, by simp, by simp, ?_, ?_⟩
    · obtain ⟨rev, hrev, hselects⟩ := hs.live_selected d q holds.dispatch holds.live
      exact ⟨rev, by simpa [current_team] using hrev, hselects⟩
    · exact holds.dispatch_assignment.trans (by simpa using root)
  | suspend holds => simp [holds.running] at hcompleted
  | add_child running => simp [running] at hcompleted
  | complete holds => simp [holds.running] at hcompleted
  | retry holds => simp [holds.running] at hcompleted
  | replan holds => simp [holds.running] at hcompleted
  | replace holds => simp [holds.running] at hcompleted
  | halt holds => simp [holds.running] at hcompleted
  | settle active =>
    rcases active with hstatus | hstatus <;> simp [hstatus] at hcompleted
  | open_successor running => simp [running] at hcompleted
  | open_tail running => simp [running] at hcompleted
  | pause => cases hcompleted
  | resume => cases hcompleted
  | cancel => cases hcompleted
  | drop_wait cancelled => simp [cancelled] at hcompleted
  | drop_lanes cancelled => simp [cancelled] at hcompleted
  | drop_source cancelled => simp [cancelled] at hcompleted

/-- Every step keeps what green boundaries rest on. -/
theorem Participation.step (h : lanes.Participation) (hl : lanes.Lineage) (hp : lanes.Pointers)
    (hs : lanes.Selection) (hstep : Step lanes lanes') : lanes'.Participation := by
  have hlater := hstep.later hp
  refine ⟨fun d b q' hb hgreen hq' => ?_, hstep.completed hs⟩
  have hold : ∃ q, lanes.dispatches d = some q ∧ lanes.Participated q := by
    cases hfresh : lanes.boundaries d with
    | none =>
      obtain ⟨q, hq, -, hparticipated⟩ := hstep.green_boundary hfresh hb hgreen
      exact ⟨q, hq, hparticipated⟩
    | some b' =>
      obtain ⟨_, hkept, rfl⟩ := hlater.boundaries d b' hfresh
      rw [hb] at hkept
      cases hkept
      obtain ⟨q, hq, -⟩ := hl.boundary_row d b hfresh
      exact ⟨q, hq, h.participated d b q hfresh hgreen hq⟩
  obtain ⟨q, hq, hparticipated⟩ := hold
  obtain ⟨q'', hq'', hsame⟩ := hlater.dispatches d q hq
  rw [hq'] at hq''
  cases hq''
  exact hparticipated.later hs hlater hq hsame

/-- A selection that the current Team still shows carries its participation over from the revision
    that its Dispatch ran under. -/
theorem Selection.children_accepted (hs : lanes.Selection) {rev : TeamRevision}
    (hrev : lanes.current_team = some rev) (dispatch : lanes.dispatches d = some q)
    (hselects : rev.selects q.selection = true) (hp : lanes.Participated q) {child : MemberId}
    (hchild : child ∈ rev.children q.selection.member_id) :
    ∃ selected, rev.select child = some selected ∧
      lanes.Accepted ⟨child, selected.member_configuration_id, selected.member_branch_basis_id⟩ := by
  obtain ⟨own, hown, howns⟩ := hs.own_selected d q dispatch
  obtain ⟨s, hsel, -, hbasis⟩ := TeamRevision.selects_iff.mp hselects
  obtain ⟨s₀, hsel₀, -, hbasis₀⟩ := TeamRevision.selects_iff.mp howns
  have hagree := hs.history.agree _ own _ rev hown hrev
  obtain ⟨-, hchildren, hbases⟩ := hagree _ s₀ s hsel₀ hsel (hbasis₀.trans hbasis.symm)
  rw [← hchildren] at hchild
  obtain ⟨selected₀, hselected₀, haccepted⟩ := participated_iff.mp hp own hown child hchild
  obtain ⟨t₀, t, ht₀, ht, hsame⟩ := hbases child hchild
  rw [hselected₀] at ht₀
  cases ht₀
  refine ⟨t, ht, ?_⟩
  rw [← hsame, ← (hagree child selected₀ t hselected₀ ht hsame).1]
  exact haccepted

/-- **Sound acceptance.** Below an accepted selection of the current Team, every Member has a green
    boundary authored under exactly the values that the current Team selects. -/
theorem Participation.accepted_below (h : lanes.Participation) (hs : lanes.Selection) {rev : TeamRevision}
    (hrev : lanes.current_team = some rev) {m n : MemberId} (hbelow : Forest.BelowOrEq rev.parent n m)
    {s : TeamRevisionMember} (hsel : rev.select m = some s)
    (haccepted : lanes.Accepted ⟨m, s.member_configuration_id, s.member_branch_basis_id⟩) :
    ∃ t, rev.select n = some t ∧
      lanes.Accepted ⟨n, t.member_configuration_id, t.member_branch_basis_id⟩ := by
  induction hbelow using Relation.ReflTransGen.head_induction_on with
  | refl => exact ⟨s, hsel, haccepted⟩
  | head hstep _ ih =>
    obtain ⟨t, ht, d, b, q, hb, hgreen, hq, hselection⟩ := ih
    have hwf := hs.history.well_formed _ rev hrev
    have hselects : rev.selects q.selection = true := by
      rw [hselection]
      exact TeamRevision.selects_iff.mpr ⟨t, ht, rfl, rfl⟩
    refine hs.children_accepted hrev hq hselects (h.participated d b q hb hgreen hq) ?_
    rw [hselection]
    exact hwf.mem_children_iff.mpr hstep

end

/-- Everything that holds of the lanes in every reachable state. -/
structure Invariant (lanes : Lanes) : Prop where
  pointers : lanes.Pointers
  lineage : lanes.Lineage
  waiting : lanes.Waiting
  selection : lanes.Selection
  quiescence : lanes.Quiescence
  participation : lanes.Participation

/-- The changes that one committed transaction makes. -/
abbrev Steps : Lanes → Lanes → Prop := Relation.ReflTransGen Step

variable {lanes lanes' : Lanes}

theorem Invariant.step (h : lanes.Invariant) (hstep : Step lanes lanes') : lanes'.Invariant where
  pointers := h.pointers.step hstep
  lineage := h.lineage.step h.pointers hstep
  waiting := h.waiting.step hstep
  selection := h.selection.step h.pointers h.quiescence hstep
  quiescence := h.quiescence.step h.pointers h.selection hstep
  participation := h.participation.step h.lineage h.pointers h.selection hstep

theorem Invariant.steps (h : lanes.Invariant) (hsteps : Steps lanes lanes') : lanes'.Invariant := by
  induction hsteps with
  | refl => exact h
  | tail _ hstep ih => exact ih.step hstep

/-- Whatever has ended stays as it ended over any number of steps. -/
theorem Steps.later (h : lanes.Invariant) (hsteps : Steps lanes lanes') : lanes.Later lanes' := by
  induction hsteps with
  | refl => exact .refl lanes
  | tail hbefore hstep ih => exact ih.trans (hstep.later (h.steps hbefore).pointers)

end Lanes

end OhMySubagents
