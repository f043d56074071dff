import OhMySubagents.Lanes.Lineage

open Relational

namespace OhMySubagents

namespace Lanes

/-- How waits, the sources they name and the members of Waves belong together. -/
structure Waiting (lanes : Lanes) : Prop where
  unresolved_waits : ∀ s x, lanes.Active → lanes.sources s = some x → x.phase = .unresolved →
    ∃ w v, lanes.waits w = some v ∧ v.source.source_id = s
  wait_source : ∀ w v, lanes.Active → lanes.waits w = some v →
    ∃ x, lanes.sources v.source.source_id = some x ∧ x.phase = .unresolved ∧
      x.attempt_id = v.attempt_id ∧ x.assignment_id = v.assignment_id ∧
      x.source_dispatch_id = some v.source_dispatch_id
  wait_unique : ∀ w v w' v', lanes.waits w = some v → lanes.waits w' = some v' →
    v.source.source_id = v'.source.source_id → w = w'
  joined : ∀ wave x k m, lanes.sources (.delegation_wave wave) = some x →
    x.phase = .resolved ∨ (∃ d, x.phase = .consumed d) → lanes.wave_members (wave, k) = some m →
    m.status.is_settled = true
  member_boundary : ∀ k m b o, lanes.wave_members k = some m → m.status = .settled b o →
    ∃ row, lanes.boundaries b = some row ∧ row.assignment_id = m.child_assignment_id ∧
      row.outcome = o.boundary

attribute [local grind] Active
attribute [local grind =] WaveMemberStatus.is_settled

namespace Waiting

variable {lanes lanes' : Lanes} {a : AttemptId} {r : LaneAttempt} {s : SourceId} {x : LaneSource}

theorem congr (h : lanes.Waiting) (hstatus : lanes'.status = lanes.status ∨ lanes.Active ∨ ¬ lanes'.Active)
    (hwaits : lanes'.waits = lanes.waits) (hsources : lanes'.sources = lanes.sources)
    (hmembers : lanes'.wave_members = lanes.wave_members) (hboundaries : lanes'.boundaries = lanes.boundaries) :
    lanes'.Waiting := by
  obtain ⟨h1, h2, h3, h4, h5⟩ := h
  have hactive : lanes'.Active → lanes.Active := by grind
  refine ⟨fun s x hactive' => ?_, fun w v hactive' => ?_, ?_, ?_, ?_⟩
  · simpa only [hwaits, hsources] using h1 s x (hactive hactive')
  · simpa only [hwaits, hsources] using h2 w v (hactive hactive')
  · simpa only [hwaits]
  · simpa only [hsources, hmembers]
  · simpa only [hmembers, hboundaries]

/-- A lane starts to wait for a fresh source. -/
theorem suspend (h : lanes.Waiting) {d : DispatchId} {w : WaitId} {source : WaitSource}
    (active : lanes.Active) (fresh_wait : lanes.waits w = none)
    (fresh_source : lanes.sources source.source_id = none) :
    ((lanes.putWait w (some ⟨r.assignment_id, a, d, source⟩)).putSource source.source_id
      ⟨r.assignment_id, a, some d, .unresolved⟩).Waiting := by
  obtain ⟨h1, h2, h3, h4, h5⟩ := h
  constructor <;> grind

/-- A fresh member joins a Wave that is still waited for. -/
theorem add_member (h : lanes.Waiting) {wave : WaveId} {k : Nat} {c : AssignmentId}
    (source : lanes.sources (.delegation_wave wave) = some x) (unresolved : x.phase = .unresolved) :
    (lanes.putWaveMember (wave, k) ⟨c, .pending⟩).Waiting := by
  obtain ⟨h1, h2, h3, h4, h5⟩ := h
  constructor <;> grind

theorem add_boundary (h : lanes.Waiting) {d : DispatchId} {b : LaneBoundary}
    (fresh : lanes.boundaries d = none) : (lanes.putBoundary d b).Waiting := by
  obtain ⟨h1, h2, h3, h4, h5⟩ := h
  constructor <;> grind

theorem settle_member (h : lanes.Waiting) {d : DispatchId} {b : LaneBoundary} (wave : WaveId) (k : Nat)
    {c : AssignmentId} {o : TerminalOutcome} (row : lanes.boundaries d = some b)
    (hb : b.assignment_id = c ∧ b.outcome = o.boundary) :
    (lanes.putWaveMember (wave, k) ⟨c, .settled d o⟩).Waiting := by
  obtain ⟨h1, h2, h3, h4, h5⟩ := h
  constructor <;> grind

/-- A source that nothing waits for changes its phase. -/
theorem putSource (h : lanes.Waiting) (phase : SourcePhase)
    (hresolved : lanes.Active → x.phase = .resolved) (row : lanes.sources s = some x)
    (hphase : lanes.Active → phase ≠ .unresolved)
    (hjoined : phase = .resolved ∨ (∃ d, phase = .consumed d) →
      x.phase = .resolved ∨ ∀ wave, s ≠ .delegation_wave wave) :
    (lanes.putSource s { x with phase := phase }).Waiting := by
  obtain ⟨h1, h2, h3, h4, h5⟩ := h
  constructor
  case joined =>
    intro wave x' k m hx' hphase' hm
    by_cases hs : SourceId.delegation_wave wave = s
    · have hx : x'.phase = phase := by grind
      rw [hx] at hphase'
      rcases hjoined hphase' with hold | hnot
      · exact h4 wave x k m (hs ▸ row) (.inl hold) (by grind)
      · exact absurd hs.symm (hnot wave)
    · exact h4 wave x' k m (by grind) hphase' (by grind)
  all_goals grind

/-- A source is settled together with the wait for it. -/
theorem settle (h : lanes.Waiting) {w : WaitId} {v : AttemptWait} (phase : SourcePhase)
    (wait : lanes.waits w = some v) (row : lanes.sources v.source.source_id = some x)
    (hphase : lanes.Active → phase ≠ .unresolved) (hnot : ∀ d, phase ≠ .consumed d)
    (joined : phase = .resolved → ∀ wave k m, v.source.source_id = .delegation_wave wave →
      lanes.wave_members (wave, k) = some m → m.status.is_settled = true) :
    ((lanes.putWait w none).putSource v.source.source_id { x with phase := phase }).Waiting := by
  obtain ⟨h1, h2, h3, h4, h5⟩ := h
  constructor <;> grind

theorem add_source (h : lanes.Waiting) (fresh : lanes.sources s = none) (hphase : x.phase = .resolved)
    (hs : ∀ wave, s ≠ .delegation_wave wave) : (lanes.putSource s x).Waiting := by
  obtain ⟨h1, h2, h3, h4, h5⟩ := h
  constructor <;> grind

theorem drop_lanes (h : lanes.Waiting) : lanes.drop_lanes.Waiting := by
  obtain ⟨h1, h2, h3, h4, h5⟩ := h
  constructor <;> grind [LaneWaveMember.cancel, Option.map_eq_some_iff]

end Waiting

/-- Every step keeps waits, sources and Waves together. -/
theorem Waiting.step {lanes lanes' : Lanes} (h : lanes.Waiting) (hstep : Step lanes lanes') :
    lanes'.Waiting := by
  cases hstep with
  | @suspend d a q r w source reason holds fresh_wait fresh_source _ =>
    have hparked := h.suspend (a := a) (r := r) (d := d) (.inl holds.running) fresh_wait fresh_source
    exact hparked.congr (.inl (by simp)) (by simp) (by simp) (by simp) (by simp)
  | @add_child i p r w v wave x k c ca cd q member selected rev _ _ _ _ _ _ source unresolved =>
    have hmember := h.add_member (k := k) (c := c) source unresolved
    exact hmember.congr (.inl (by simp)) (by simp) (by simp) (by simp) (by simp)
  | @complete d a q r c outcome wave k x _ _ _ fresh _ _ _ _ =>
    have hrow : (lanes.putBoundary d ⟨r.assignment_id, a, outcome.boundary⟩).boundaries d =
        some ⟨r.assignment_id, a, outcome.boundary⟩ := by grind
    have hsettled := (h.add_boundary fresh).settle_member (c := r.assignment_id) (o := outcome) wave k
      hrow ⟨rfl, rfl⟩
    exact hsettled.congr (.inl (by simp)) (by simp) (by simp) (by simp) (by simp)
  | @complete_root d a q r c outcome _ _ _ fresh _ _ _ _ =>
    have hboundary := h.add_boundary (b := ⟨r.assignment_id, a, outcome.boundary⟩) fresh
    refine hboundary.congr (.inr (.inr ?_)) (by simp) (by simp) (by simp) (by simp)
    rintro (hstatus | hstatus) <;> cases hstatus
  | @retry d a q r c a' d' q' _ _ fresh _ _ _ _ =>
    have hboundary := h.add_boundary (b := ⟨r.assignment_id, a, .retry⟩) fresh
    exact hboundary.congr (.inl (by simp)) (by simp) (by simp) (by simp) (by simp)
  | @replan d a q r t rev rev' successor_id team' _ fresh _ _ =>
    have hsource := h.add_source (x := ⟨r.assignment_id, a, some d, .resolved⟩) fresh rfl (by simp)
    exact hsource.congr (.inl (by simp)) (by simp) (by simp) (by simp) (by simp)
  | @settle w v a r source x _ wait _ _ _ hsource row _ joined =>
    subst hsource
    have hsettled := h.settle .resolved wait row (by simp) (by simp) fun _ => joined
    exact hsettled.congr (.inl (by simp)) (by simp) (by simp) (by simp) (by simp)
  | @open_successor s x a r c d q _ row resolved =>
    have hopened := h.putSource (.consumed d) (fun _ => resolved) row (by simp) fun _ => .inl resolved
    exact hopened.congr (.inl (by simp)) (by simp) (by simp) (by simp) (by simp)
  | open_tail => exact h.congr (.inl (by simp)) (by simp) (by simp) (by simp) (by simp)
  | replace => exact h.congr (.inl (by simp)) (by simp) (by simp) (by simp) (by simp)
  | halt => exact h.congr (.inl (by simp)) (by simp) (by simp) (by simp) (by simp)
  | pause running => exact h.congr (.inr (.inl (.inl running))) (by simp) (by simp) (by simp) (by simp)
  | resume paused => exact h.congr (.inr (.inl (.inr paused))) (by simp) (by simp) (by simp) (by simp)
  | cancel active => exact h.congr (.inr (.inl active)) (by simp) (by simp) (by simp) (by simp)
  | @drop_wait w v a r x phase cancelled wait _ _ _ row _ hphase =>
    have hinactive : ¬ lanes.Active := by simp [Active, cancelled]
    have hdropped := h.settle phase wait row (fun h' => absurd h' hinactive)
      (by rcases hphase with rfl | rfl | ⟨rfl, -⟩ <;> simp) fun hresolved wave k m hs => by
        rcases hphase with rfl | rfl | ⟨-, request, hsource⟩
        · cases hresolved
        · cases hresolved
        · rw [hsource] at hs
          cases hs
    exact hdropped.congr (.inl (by simp)) (by simp) (by simp) (by simp) (by simp)
  | drop_lanes => exact h.drop_lanes
  | @drop_source s x phase cancelled row hphase =>
    have hinactive : ¬ lanes.Active := by simp [Active, cancelled]
    refine h.putSource phase (fun h' => absurd h' hinactive) row (fun h' => absurd h' hinactive) ?_
    rcases hphase with ⟨rfl, -⟩ | ⟨rfl, -, run, rfl⟩ <;> simp

end Lanes

/-- A Member that is not below the caller keeps its place. -/
theorem ReplanStep.select_outside {rev rev' : TeamRevision} {caller m : MemberId} {fresh : BranchBasisId → Prop}
    (h : ReplanStep rev rev' caller fresh) {s : TeamRevisionMember} (hs : rev.select m = some s)
    (hbelow : ¬ Forest.Below rev.parent m caller) :
    ∃ s', rev'.select m = some s' ∧ s'.parent_member_id = s.parent_member_id := by
  cases hs' : rev'.select m with
  | none => exact absurd (h.dropped m (by simp [hs]) hs') hbelow
  | some s' => exact ⟨s', rfl, h.parent m s s' hs hs'⟩

/-- A Member apart from the caller's branch and its ancestors keeps its exact selection. -/
theorem ReplanStep.selects_apart {rev rev' : TeamRevision} {caller : MemberId} {fresh : BranchBasisId → Prop}
    (h : ReplanStep rev rev' caller fresh) {selection : MemberSelection} (hs : rev.selects selection = true)
    (hbelow : ¬ Forest.BelowOrEq rev.parent selection.member_id caller)
    (habove : ¬ Forest.BelowOrEq rev.parent caller selection.member_id) : rev'.selects selection = true := by
  obtain ⟨s, hselect, hcfg, hbasis⟩ := TeamRevision.selects_iff.mp hs
  obtain ⟨s', hs', -⟩ := h.select_outside hselect fun hb => hbelow hb.to_reflTransGen
  have hsame : s.member_branch_basis_id = s'.member_branch_basis_id := by
    by_contra hne
    obtain ⟨-, -, q, hq, hqm⟩ := h.changed _ s s' hselect hs' hne
    rcases hq.comparable hqm with hle | hle
    · exact habove hle
    · exact hbelow hle
  refine TeamRevision.selects_iff.mpr ⟨s', hs', ?_, hsame.symm.trans hbasis⟩
  exact (h.agree _ s s' hselect hs' hsame).1.symm.trans hcfg

namespace Lanes

/-- What the Team selects for the lanes: the history behind it, and which revisions show the exact
    selection that a Dispatch pinned. -/
structure Selection (lanes : Lanes) : Prop where
  history : TeamHistory lanes.team
  dispatch_member : ∀ d q, lanes.dispatches d = some q →
    ∃ c, lanes.assignments q.assignment_id = some c ∧ c.member_id = q.selection.member_id
  own_selected : ∀ d q, lanes.dispatches d = some q →
    ∃ rev, lanes.team.team_revisions.get? q.team_revision_id = some rev ∧ rev.selects q.selection = true
  live_selected : ∀ d q, lanes.dispatches d = some q → q.closed_reason = none → lanes.SelectedNow q.selection
  root_member : ∃ c rev, lanes.assignments lanes.root_assignment_id = some c ∧
    lanes.current_team = some rev ∧ c.member_id = rev.root_member_id
  root_parent : ∀ i c, lanes.assignments i = some c → c.parent_assignment_id = none →
    i = lanes.root_assignment_id

attribute [local grind =] LaneDispatch.close Lanes.current_team Lanes.SelectedNow

namespace Selection

variable {lanes lanes' : Lanes} {d : DispatchId} {q : LaneDispatch} {i : AssignmentId} {c : LaneAssignment}

/-- Only the Team, the Assignments and the Dispatches matter. -/
theorem congr (h : lanes.Selection) (hteam : lanes'.team = lanes.team)
    (hcurrent : lanes'.current_team_revision_id = lanes.current_team_revision_id)
    (hroot : lanes'.root_assignment_id = lanes.root_assignment_id)
    (hassignments : lanes'.assignments = lanes.assignments) (hdispatches : lanes'.dispatches = lanes.dispatches) :
    lanes'.Selection := by
  obtain ⟨h1, h2, h3, h4, h5, h6⟩ := h
  constructor <;>
    simpa only [current_team, SelectedNow, hteam, hcurrent, hroot, hassignments, hdispatches]

theorem close (h : lanes.Selection) (dispatch : lanes.dispatches d = some q) (reason : DispatchClosedReason) :
    (lanes.putDispatch d (q.close reason)).Selection := by
  obtain ⟨h1, h2, h3, h4, h5, h6⟩ := h
  constructor <;> grind

/-- A Dispatch opens with what the current Team selects. -/
theorem dispatch (h : lanes.Selection) (row : lanes.assignments q.assignment_id = some c)
    (revision : q.team_revision_id = lanes.current_team_revision_id) (selected : lanes.SelectedNow q.selection)
    (member : q.selection.member_id = c.member_id) : (lanes.putDispatch d q).Selection := by
  have hown : ∃ rev, lanes.team.team_revisions.get? q.team_revision_id = some rev ∧
      rev.selects q.selection = true := by
    obtain ⟨rev, hrev, hselects⟩ := selected
    exact ⟨rev, by rw [revision]; exact hrev, hselects⟩
  obtain ⟨h1, h2, h3, h4, h5, h6⟩ := h
  constructor <;> grind

theorem add_assignment (h : lanes.Selection) (fresh : lanes.assignments i = none)
    (child : c.parent_assignment_id.isSome) :
    (lanes.putAssignment i c).Selection := by
  obtain ⟨h1, h2, h3, h4, h5, h6⟩ := h
  constructor <;> grind

/-- An Assignment changes, but neither its Member nor its parent. -/
theorem keep_assignment (h : lanes.Selection) {e : LaneAssignment} (row : lanes.assignments i = some c)
    (hmember : e.member_id = c.member_id) (hparent : e.parent_assignment_id = c.parent_assignment_id) :
    (lanes.putAssignment i e).Selection := by
  obtain ⟨h1, h2, h3, h4, h5, h6⟩ := h
  constructor <;> grind

/-- A successor Team keeps the selection of every live Dispatch outside the branch that changed. -/
theorem replan (h : lanes.Selection) {rev rev' : TeamRevision} {successor_id : RevisionId} {caller : MemberId}
    {team' : TeamTables} (current : lanes.current_team = some rev)
    (staged : TeamReplanned lanes.team team' lanes.current_team_revision_id rev successor_id caller rev')
    (apart : ∀ d q, lanes.dispatches d = some q → q.closed_reason = none →
      ¬ Forest.BelowOrEq rev.parent q.selection.member_id caller ∧
        ¬ Forest.BelowOrEq rev.parent caller q.selection.member_id) :
    (lanes.putTeam team' successor_id).Selection := by
  have hnew : team'.team_revisions.get? successor_id = some rev' := by simp [staged.revisions]
  have hold : ∀ r before, lanes.team.team_revisions.get? r = some before →
      team'.team_revisions.get? r = some before := by
    intro r before hr
    rw [staged.revisions, Table.get?_set, if_neg, hr]
    rintro rfl
    rw [staged.free] at hr
    cases hr
  obtain ⟨h1, h2, h3, h4, ⟨c, rev₀, hc, hrev₀, hroot⟩, h6⟩ := h
  rw [current] at hrev₀
  cases hrev₀
  refine ⟨h1.replanned current staged, h2, ?_, ?_, ⟨c, rev', hc, hnew, ?_⟩, h6⟩
  · intro d q hq
    obtain ⟨before, hbefore, hselects⟩ := h3 d q hq
    exact ⟨before, hold _ _ hbefore, hselects⟩
  · intro d q hq hlive
    obtain ⟨before, hbefore, hselects⟩ := h4 d q hq hlive
    rw [current] at hbefore
    cases hbefore
    exact ⟨rev', hnew, staged.step.selects_apart hselects (apart d q hq hlive).1 (apart d q hq hlive).2⟩
  · rw [hroot, staged.step.root]

end Selection

end Lanes

end OhMySubagents
