import OhMySubagents.Lanes.Waiting

open Relational

namespace OhMySubagents

namespace Lanes

/-- Open Assignments form chains up to the root: every open child is awaited by its open parent, which
    stands directly above it in the current Team. -/
structure Quiescence (lanes : Lanes) : Prop where
  open_unique : ∀ i c i' c', lanes.Active → lanes.assignments i = some c → lanes.assignments i' = some c' →
    c.terminal_outcome = none → c'.terminal_outcome = none → c.member_id = c'.member_id → i = i'
  open_parent : ∀ i c p, lanes.Active → lanes.assignments i = some c → c.terminal_outcome = none →
    c.parent_assignment_id = some p → ∃ cp, lanes.assignments p = some cp ∧ cp.terminal_outcome = none ∧
      ∀ rev, lanes.current_team = some rev → rev.parent c.member_id = some cp.member_id
  awaited : ∀ i c p cp r, lanes.Active → lanes.assignments i = some c → c.terminal_outcome = none →
    c.parent_assignment_id = some p → lanes.assignments p = some cp →
    lanes.attempts cp.current_attempt_id = some r → r.current_wait_id ≠ none
  awaited_wave : ∀ i c p cp r w v, lanes.Active → lanes.assignments i = some c → c.terminal_outcome = none →
    c.parent_assignment_id = some p → lanes.assignments p = some cp →
    lanes.attempts cp.current_attempt_id = some r → r.current_wait_id = some w → lanes.waits w = some v →
    ∃ wave k, v.source = .delegation_wave wave ∧ lanes.wave_members (wave, k) = some ⟨i, .pending⟩

/-- Nothing open below an Attempt needs it. -/
def Unawaited (lanes : Lanes) (a : AttemptId) : Prop :=
  ∀ i c p cp, lanes.Active → lanes.assignments i = some c → c.terminal_outcome = none →
    c.parent_assignment_id = some p → lanes.assignments p = some cp → cp.current_attempt_id ≠ a

attribute [local grind =] Active Lanes.current_team

namespace Quiescence

variable {lanes lanes' : Lanes} {d : DispatchId} {a : AttemptId} {q : LaneDispatch} {r : LaneAttempt}
  {c : LaneAssignment} {i : AssignmentId}

/-- Only the open Assignments and what they wait for matter. -/
theorem congr (h : lanes.Quiescence) (hactive : lanes'.Active → lanes.Active)
    (hteam : lanes'.current_team = lanes.current_team) (hassignments : lanes'.assignments = lanes.assignments)
    (hattempts : lanes'.attempts = lanes.attempts) (hwaits : lanes'.waits = lanes.waits)
    (hmembers : lanes'.wave_members = lanes.wave_members) : lanes'.Quiescence := by
  obtain ⟨h1, h2, h3, h4⟩ := h
  refine ⟨fun i c i' c' h => ?_, fun i c p h => ?_, fun i c p cp r h => ?_, fun i c p cp r w v h => ?_⟩
  · simpa only [hassignments] using h1 i c i' c' (hactive h)
  · simpa only [hassignments, hteam] using h2 i c p (hactive h)
  · simpa only [hassignments, hattempts] using h3 i c p cp r (hactive h)
  · simpa only [hassignments, hattempts, hwaits, hmembers] using h4 i c p cp r w v (hactive h)

/-- An Attempt changes while nothing below it is open. -/
theorem putAttempt (h : lanes.Quiescence) (unawaited : lanes.Unawaited a) (r' : LaneAttempt) :
    (lanes.putAttempt a r').Quiescence := by
  obtain ⟨h1, h2, h3, h4⟩ := h
  refine ⟨by grind, by grind, ?_, ?_⟩
  · intro i c p cp r₀ active hi ho hp hcp
    have hne : cp.current_attempt_id ≠ a := unawaited i c p cp active hi ho hp hcp
    simpa [putAttempt_fields, hne] using h3 i c p cp r₀ active hi ho hp hcp
  · intro i c p cp r₀ w v active hi ho hp hcp
    have hne : cp.current_attempt_id ≠ a := unawaited i c p cp active hi ho hp hcp
    simpa [putAttempt_fields, hne] using h4 i c p cp r₀ w v active hi ho hp hcp

/-- An Attempt changes without a change of what it waits for. -/
theorem keep_wait (h : lanes.Quiescence) {s : LaneAttempt} (attempt : lanes.attempts a = some r)
    (hsame : s.current_wait_id = r.current_wait_id) : (lanes.putAttempt a s).Quiescence := by
  obtain ⟨h1, h2, h3, h4⟩ := h
  refine ⟨by grind, by grind, ?_, ?_⟩
  · intro i c p cp r₀ active hi ho hp hcp hr₀
    by_cases ha : cp.current_attempt_id = a
    · have hr : r₀ = s := by simpa [putAttempt_fields, ha] using hr₀.symm
      rw [hr, hsame]
      exact h3 i c p cp r active hi ho hp hcp (ha ▸ attempt)
    · exact h3 i c p cp r₀ active hi ho hp hcp (by simpa [putAttempt_fields, ha] using hr₀)
  · intro i c p cp r₀ w v active hi ho hp hcp hr₀ hw hv
    by_cases ha : cp.current_attempt_id = a
    · have hr : r₀ = s := by simpa [putAttempt_fields, ha] using hr₀.symm
      exact h4 i c p cp r w v active hi ho hp hcp (ha ▸ attempt) (hsame ▸ hr ▸ hw) hv
    · exact h4 i c p cp r₀ w v active hi ho hp hcp (by simpa [putAttempt_fields, ha] using hr₀) hw hv

theorem putWait (h : lanes.Quiescence) {w : WaitId} (row : Option AttemptWait)
    (unused : ∀ a r, lanes.attempts a = some r → r.current_wait_id ≠ some w) :
    (lanes.putWait w row).Quiescence := by
  obtain ⟨h1, h2, h3, h4⟩ := h
  refine ⟨h1, h2, h3, ?_⟩
  intro i c p cp r₀ w' v active hi ho hp hcp hr₀ hw hv
  have hne : w' ≠ w := fun heq => unused _ r₀ hr₀ (heq ▸ hw)
  exact h4 i c p cp r₀ w' v active hi ho hp hcp hr₀ hw (by simpa [putWait_fields, hne] using hv)

/-- A member of a Wave changes that no open Assignment stands for. -/
theorem putWaveMember (h : lanes.Quiescence) {k : WaveId × Nat} {m : LaneWaveMember}
    (closed : ∀ i c, lanes.Active → lanes.assignments i = some c → c.terminal_outcome = none →
      lanes.wave_members k ≠ some ⟨i, .pending⟩) :
    (lanes.putWaveMember k m).Quiescence := by
  obtain ⟨h1, h2, h3, h4⟩ := h
  refine ⟨h1, h2, h3, ?_⟩
  intro i c p cp r₀ w v active hi ho hp hcp hr₀ hw hv
  obtain ⟨wave, k', hsource, hmember⟩ := h4 i c p cp r₀ w v active hi ho hp hcp hr₀ hw hv
  have hne : (wave, k') ≠ k := by
    rintro rfl
    exact closed i c active hi ho hmember
  exact ⟨wave, k', hsource, by simpa [putWaveMember_fields, hne] using hmember⟩

/-- The Assignment of a lane changes while nothing below it is open, and no Assignment opens. -/
theorem putAssignment (h : lanes.Quiescence) {e : LaneAssignment} (row : lanes.assignments i = some c)
    (unawaited : lanes.Unawaited c.current_attempt_id) (hmember : e.member_id = c.member_id)
    (hparent : e.parent_assignment_id = c.parent_assignment_id)
    (hopen : e.terminal_outcome = none → c.terminal_outcome = none) :
    (lanes.putAssignment i e).Quiescence := by
  obtain ⟨h1, h2, h3, h4⟩ := h
  -- an open row is an old one, with the same Member and parent, and its parent is not this Assignment
  have hold : ∀ j cj, (lanes.putAssignment i e).assignments j = some cj → cj.terminal_outcome = none →
      ∃ cj', lanes.assignments j = some cj' ∧ cj'.terminal_outcome = none ∧ cj.member_id = cj'.member_id ∧
        cj.parent_assignment_id = cj'.parent_assignment_id := by
    clear h1 h2 h3 h4
    grind
  have hne : ∀ j cj p, lanes.Active → lanes.assignments j = some cj → cj.terminal_outcome = none →
      cj.parent_assignment_id = some p → p ≠ i := by
    rintro j cj p active hj ho hp rfl
    exact unawaited j cj p c active hj ho hp row rfl
  refine ⟨?_, ?_, ?_, ?_⟩
  · intro j cj j' cj' active hj hj' ho ho' hsame
    obtain ⟨e, he, heo, hem, -⟩ := hold j cj hj ho
    obtain ⟨e', he', heo', hem', -⟩ := hold j' cj' hj' ho'
    exact h1 j e j' e' active he he' heo heo' (hem ▸ hem' ▸ hsame)
  · intro j cj p active hj ho hp
    obtain ⟨e, he, heo, hem, hep⟩ := hold j cj hj ho
    rw [hep] at hp
    rw [hem]
    obtain ⟨cp, hcp, hcpo, hup⟩ := h2 j e p active he heo hp
    exact ⟨cp, by simpa [putAssignment_fields, hne j e p active he heo hp] using hcp, hcpo, hup⟩
  · intro j cj p cp r₀ active hj ho hp hcp
    obtain ⟨e, he, heo, -, hep⟩ := hold j cj hj ho
    rw [hep] at hp
    have hpi := hne j e p active he heo hp
    exact h3 j e p cp r₀ active he heo hp (by simpa [putAssignment_fields, hpi] using hcp)
  · intro j cj p cp r₀ w v active hj ho hp hcp
    obtain ⟨e, he, heo, -, hep⟩ := hold j cj hj ho
    rw [hep] at hp
    have hpi := hne j e p active he heo hp
    exact h4 j e p cp r₀ w v active he heo hp (by simpa [putAssignment_fields, hpi] using hcp)

/-- A child starts below an Assignment that waits for it. -/
theorem add_child (h : lanes.Quiescence) {p : LaneAssignment} {v : AttemptWait} {w : WaitId} {n : WaveId}
    {k : Nat} {j : AssignmentId} (fresh : lanes.assignments j = none) (hc : c.parent_assignment_id = some i)
    (parent : lanes.Serves i p.current_attempt_id p)
    (attempt : lanes.attempts p.current_attempt_id = some r) (waiting : r.current_wait_id = some w)
    (wait : lanes.waits w = some v) (hsource : v.source = .delegation_wave n)
    (member : lanes.wave_members (n, k) = some ⟨j, .pending⟩)
    (unassigned : ∀ i' c', lanes.assignments i' = some c' → c'.terminal_outcome = none →
      c'.member_id ≠ c.member_id)
    (team : ∀ rev, lanes.current_team = some rev → rev.parent c.member_id = some p.member_id) :
    (lanes.putAssignment j c).Quiescence := by
  obtain ⟨h1, h2, h3, h4⟩ := h
  have hij : i ≠ j := by
    rintro rfl
    rw [parent.row] at fresh
    cases fresh
  have hcp : (lanes.putAssignment j c).assignments i = some p := by
    simpa [putAssignment_fields, hij] using parent.row
  have hold : ∀ j' cj, j' ≠ j → (lanes.putAssignment j c).assignments j' = some cj →
      lanes.assignments j' = some cj := by
    intro j' cj hne hj
    simpa [putAssignment_fields, hne] using hj
  have hnew : ∀ cj, (lanes.putAssignment j c).assignments j = some cj → cj = c := by
    intro cj hj
    simpa [putAssignment_fields] using hj.symm
  have hrow : ∀ j' cj q, lanes.Active → lanes.assignments j' = some cj → cj.terminal_outcome = none →
      cj.parent_assignment_id = some q → q ≠ j := by
    rintro j' cj q active hj ho hq rfl
    obtain ⟨cq, hcq, -⟩ := h2 j' cj q active hj ho hq
    rw [hcq] at fresh
    cases fresh
  refine ⟨?_, ?_, ?_, ?_⟩
  · intro j₁ c₁ j₂ c₂ active hj₁ hj₂ ho₁ ho₂ hsame
    by_cases h₁ : j₁ = j <;> by_cases h₂ : j₂ = j
    · rw [h₁, h₂]
    · subst h₁
      rw [hnew c₁ hj₁] at hsame
      exact absurd hsame.symm (unassigned j₂ c₂ (hold j₂ c₂ h₂ hj₂) ho₂)
    · subst h₂
      rw [hnew c₂ hj₂] at hsame
      exact absurd hsame (unassigned j₁ c₁ (hold j₁ c₁ h₁ hj₁) ho₁)
    · exact h1 j₁ c₁ j₂ c₂ active (hold j₁ c₁ h₁ hj₁) (hold j₂ c₂ h₂ hj₂) ho₁ ho₂ hsame
  · intro j' cj q active hj ho hq
    by_cases hj' : j' = j
    · subst hj'
      rw [hnew cj hj] at hq ⊢
      rw [hc] at hq
      cases hq
      exact ⟨p, hcp, parent.is_open, team⟩
    · obtain ⟨cq, hcq, hoq, hup⟩ := h2 j' cj q active (hold j' cj hj' hj) ho hq
      have hqj := hrow j' cj q active (hold j' cj hj' hj) ho hq
      exact ⟨cq, by simpa [putAssignment_fields, hqj] using hcq, hoq, hup⟩
  · intro j' cj q cq r₀ active hj ho hq hcq hr₀
    by_cases hj' : j' = j
    · subst hj'
      rw [hnew cj hj, hc] at hq
      cases hq
      rw [hcp] at hcq
      cases hcq
      rw [show lanes.attempts p.current_attempt_id = some r₀ from hr₀] at attempt
      cases attempt
      simp [waiting]
    · have hqj := hrow j' cj q active (hold j' cj hj' hj) ho hq
      exact h3 j' cj q cq r₀ active (hold j' cj hj' hj) ho hq (hold q cq hqj hcq) hr₀
  · intro j' cj q cq r₀ w₀ v₀ active hj ho hq hcq hr₀ hw₀ hv₀
    by_cases hj' : j' = j
    · subst hj'
      rw [hnew cj hj, hc] at hq
      cases hq
      rw [hcp] at hcq
      cases hcq
      rw [show lanes.attempts p.current_attempt_id = some r₀ from hr₀] at attempt
      cases attempt
      rw [waiting] at hw₀
      cases hw₀
      rw [show lanes.waits w = some v₀ from hv₀] at wait
      cases wait
      exact ⟨n, k, hsource, member⟩
    · have hqj := hrow j' cj q active (hold j' cj hj' hj) ho hq
      exact h4 j' cj q cq r₀ w₀ v₀ active (hold j' cj hj' hj) ho hq (hold q cq hqj hcq) hr₀ hw₀ hv₀

theorem inactive (hstatus : ¬ lanes.Active) : lanes.Quiescence :=
  ⟨fun _ _ _ _ active => absurd active hstatus, fun _ _ _ active => absurd active hstatus,
    fun _ _ _ _ _ active => absurd active hstatus, fun _ _ _ _ _ _ _ active => absurd active hstatus⟩

/-- Nothing open needs an Attempt that does not wait. -/
theorem unawaited (h : lanes.Quiescence) (attempt : lanes.attempts a = some r) (no_wait : r.current_wait_id = none) :
    lanes.Unawaited a := by
  rintro i c p cp active hi ho hp hcp rfl
  exact h.awaited i c p cp r active hi ho hp hcp attempt no_wait

/-- Nothing open needs an Attempt that does not exist. -/
theorem unawaited_fresh (h : lanes.Quiescence) (hpointers : lanes.Pointers) (fresh : lanes.attempts a = none) :
    lanes.Unawaited a := by
  rintro i c p cp active hi ho hp hcp rfl
  obtain ⟨cp', hcp', hop, -⟩ := h.open_parent i c p active hi ho hp
  rw [hcp] at hcp'
  cases hcp'
  obtain ⟨r, hr, -⟩ := hpointers.open_assignment p cp active hcp hop
  rw [hr] at fresh
  cases fresh

/-- Nothing open needs an Attempt once the Wave it waits for is complete. -/
theorem unawaited_settled (h : lanes.Quiescence) {w : WaitId} {v : AttemptWait}
    (attempt : lanes.attempts a = some r) (waiting : r.current_wait_id = some w) (wait : lanes.waits w = some v)
    (joined : ∀ wave k m, v.source.source_id = .delegation_wave wave → lanes.wave_members (wave, k) = some m →
      m.status.is_settled = true) : lanes.Unawaited a := by
  rintro i c p cp active hi ho hp hcp rfl
  obtain ⟨wave, k, hsource, hmember⟩ := h.awaited_wave i c p cp r w v active hi ho hp hcp attempt waiting wait
  have hsettled := joined wave k _ (by rw [hsource]; rfl) hmember
  cases hsettled

/-- An open Assignment with a Member above its own is awaited there. -/
theorem climb_one (h : lanes.Quiescence) (hs : lanes.Selection) (active : lanes.Active) {rev : TeamRevision}
    (hrev : lanes.current_team = some rev) {m : MemberId} (row : lanes.assignments i = some c)
    (is_open : c.terminal_outcome = none) (hparent : rev.parent c.member_id = some m) :
    ∃ p cp, c.parent_assignment_id = some p ∧ lanes.assignments p = some cp ∧ cp.terminal_outcome = none ∧
      cp.member_id = m := by
  cases hp : c.parent_assignment_id with
  | none =>
    obtain ⟨c₀, rev₀, hc₀, hrev₀, hroot⟩ := hs.root_member
    rw [← hs.root_parent i c row hp, row] at hc₀
    cases hc₀
    rw [hrev] at hrev₀
    cases hrev₀
    obtain ⟨s, hsel, hnone⟩ := (hs.history.well_formed _ rev hrev).root
    obtain ⟨s', hsel', hsome⟩ := TeamRevision.parent_eq_some_iff.mp hparent
    rw [hroot, hsel] at hsel'
    cases hsel'
    rw [hnone] at hsome
    cases hsome
  | some p =>
    obtain ⟨cp, hcp, hop, hup⟩ := h.open_parent i c p active row is_open hp
    refine ⟨p, cp, rfl, hcp, hop, ?_⟩
    rw [hup rev hrev] at hparent
    exact Option.some.inj hparent

/-- Whatever is open below a Member is awaited at that Member. -/
theorem climb (h : lanes.Quiescence) (hs : lanes.Selection) (active : lanes.Active) {rev : TeamRevision}
    (hrev : lanes.current_team = some rev) {n m : MemberId} (hbelow : Forest.Below rev.parent n m)
    (row : lanes.assignments i = some c) (is_open : c.terminal_outcome = none) (hn : c.member_id = n) :
    ∃ j cj p cp, lanes.assignments j = some cj ∧ cj.terminal_outcome = none ∧
      cj.parent_assignment_id = some p ∧ lanes.assignments p = some cp ∧ cp.terminal_outcome = none ∧
      cp.member_id = m := by
  induction hbelow using Relation.TransGen.head_induction_on generalizing i c with
  | single hstep =>
    obtain ⟨p, cp, hp, hcp, hop, hup⟩ := h.climb_one hs active hrev row is_open (hn ▸ hstep)
    exact ⟨i, c, p, cp, row, is_open, hp, hcp, hop, hup⟩
  | head hstep _ ih =>
    obtain ⟨p, cp, hp, hcp, hop, hup⟩ := h.climb_one hs active hrev row is_open (hn ▸ hstep)
    exact ih hcp hop hup

/-- **Quiescence.** Below a Member whose lane does not wait, no Assignment is open. -/
theorem quiescent (h : lanes.Quiescence) (hs : lanes.Selection) (active : lanes.Active) {rev : TeamRevision}
    (hrev : lanes.current_team = some rev) (serves : lanes.Serves i a c) (unawaited : lanes.Unawaited a)
    {i' : AssignmentId} {c' : LaneAssignment} (row : lanes.assignments i' = some c')
    (is_open : c'.terminal_outcome = none) : ¬ Forest.Below rev.parent c'.member_id c.member_id := by
  intro hbelow
  obtain ⟨j, cj, p, cp, hj, hoj, hp, hcp, hop, hm⟩ := h.climb hs active hrev hbelow row is_open rfl
  have hpi : p = i := h.open_unique p cp i c active hcp serves.row hop serves.is_open hm
  subst hpi
  exact unawaited j cj p c active hj hoj hp serves.row serves.attempt

/-- A successor Team keeps the place of everything open. -/
theorem replan (h : lanes.Quiescence) (hs : lanes.Selection) (active : lanes.Active) {rev rev' : TeamRevision}
    {successor_id : RevisionId} {team' : TeamTables} (current : lanes.current_team = some rev)
    (staged : TeamReplanned lanes.team team' lanes.current_team_revision_id rev successor_id c.member_id rev')
    (serves : lanes.Serves i a c) (unawaited : lanes.Unawaited a) :
    (lanes.putTeam team' successor_id).Quiescence := by
  have hnew : team'.team_revisions.get? successor_id = some rev' := by simp [staged.revisions]
  refine ⟨h.open_unique, ?_, h.awaited, h.awaited_wave⟩
  intro j cj p active' hj ho hp
  obtain ⟨cp, hcp, hop, hup⟩ := h.open_parent j cj p active' hj ho hp
  refine ⟨cp, hcp, hop, fun rev'' hrev'' => ?_⟩
  rw [show (lanes.putTeam team' successor_id).current_team = some rev' from hnew] at hrev''
  cases hrev''
  obtain ⟨s, hsel, hparent⟩ := TeamRevision.parent_eq_some_iff.mp (hup rev current)
  have hbelow := h.quiescent hs active current serves unawaited hj ho
  obtain ⟨s', hsel', hsame⟩ := staged.step.select_outside hsel hbelow
  exact TeamRevision.parent_eq_some_iff.mpr ⟨s', hsel', hsame.trans hparent⟩

end Quiescence

/-- **Non-interference.** A live Dispatch stands apart from every other live Dispatch's branch. -/
theorem Quiescence.apart {lanes : Lanes} (h : lanes.Quiescence) (hp : lanes.Pointers) (hs : lanes.Selection)
    {rev : TeamRevision} (hrev : lanes.current_team = some rev) {d d' : DispatchId} {q q' : LaneDispatch}
    (dispatch : lanes.dispatches d = some q) (live : q.closed_reason = none)
    (dispatch' : lanes.dispatches d' = some q') (live' : q'.closed_reason = none) (hne : d' ≠ d) :
    ¬ Forest.BelowOrEq rev.parent q'.selection.member_id q.selection.member_id := by
  obtain ⟨r, c, holds, serves⟩ := hp.holds_of_live dispatch live
  obtain ⟨r', c', holds', serves'⟩ := hp.holds_of_live dispatch' live'
  have hmember : c.member_id = q.selection.member_id := by
    obtain ⟨c₀, hc₀, hm⟩ := hs.dispatch_member d q dispatch
    rw [holds.dispatch_assignment, serves.row] at hc₀
    cases hc₀
    exact hm
  have hmember' : c'.member_id = q'.selection.member_id := by
    obtain ⟨c₀, hc₀, hm⟩ := hs.dispatch_member d' q' dispatch'
    rw [holds'.dispatch_assignment, serves'.row] at hc₀
    cases hc₀
    exact hm
  intro hbelow
  have hactive : lanes.Active := .inl holds.running
  rcases hbelow.eq_or_below with heq | hbelow
  · -- one Member has one open Assignment, which runs one Attempt, which holds one Dispatch
    have hsame := h.open_unique _ c' _ c hactive serves'.row serves.row serves'.is_open serves.is_open
      (by rw [hmember, hmember', heq])
    have hattempt : q'.attempt_id = q.attempt_id := by
      have hrow := serves'.row
      rw [hsame, serves.row] at hrow
      cases hrow
      rw [← serves.attempt, ← serves'.attempt]
    have hrow := holds'.attempt
    rw [hattempt, holds.attempt] at hrow
    cases hrow
    have hcurrent := holds'.current
    rw [holds.current] at hcurrent
    cases hcurrent
    exact hne rfl
  · have hunawaited := h.unawaited holds.attempt holds.no_wait
    exact h.quiescent hs hactive hrev serves hunawaited serves'.row serves'.is_open
      (by rw [hmember, hmember']; exact hbelow)

/-- The branch of the Member that a live Dispatch works for. -/
theorem Selection.serves_member {lanes : Lanes} (hs : lanes.Selection) {d : DispatchId} {a : AttemptId}
    {q : LaneDispatch} {r : LaneAttempt} {c : LaneAssignment} (holds : lanes.Holds d a q r)
    (serves : lanes.Serves r.assignment_id a c) : c.member_id = q.selection.member_id := by
  obtain ⟨c', hc', hmember⟩ := hs.dispatch_member d q holds.dispatch
  rw [holds.dispatch_assignment, serves.row] at hc'
  cases hc'
  exact hmember

/-- Every step keeps what the Team selects for the lanes. -/
theorem Selection.step {lanes lanes' : Lanes} (hs : lanes.Selection) (hp : lanes.Pointers)
    (hq : lanes.Quiescence) (hstep : Step lanes lanes') : lanes'.Selection := by
  cases hstep with
  | @suspend d a q r w source reason holds _ _ _ =>
    exact (hs.close holds.dispatch reason).congr (by simp) (by simp) (by simp) (by simp) (by simp)
  | @add_child i p r w v wave x k c ca cd q member selected rev _ _ _ _ _ _ _ _ _ fresh _ fits hq _ _ _ _ _ =>
    have hadded := hs.add_assignment (c := ⟨member, some i, ca, none⟩) fresh rfl
    have hrow : (lanes.putAssignment c ⟨member, some i, ca, none⟩).assignments q.assignment_id =
        some ⟨member, some i, ca, none⟩ := by simp [hq.1]
    have hopened := hadded.dispatch (d := cd) hrow fits.revision fits.selected fits.member
    exact hopened.congr (by simp) (by simp) (by simp) (by simp) (by simp)
  | @complete d a q r c outcome wave k x holds serves _ _ _ _ _ _ =>
    have hclosed := (hs.close holds.dispatch .boundary).keep_assignment (i := r.assignment_id)
      (e := { c with terminal_outcome := some outcome }) serves.row rfl rfl
    exact hclosed.congr (by simp) (by simp) (by simp) (by simp) (by simp)
  | @complete_root d a q r c outcome holds serves _ _ _ _ _ _ =>
    have hclosed := (hs.close holds.dispatch .boundary).keep_assignment (i := r.assignment_id)
      (e := { c with terminal_outcome := some outcome }) serves.row rfl rfl
    exact hclosed.congr (by simp) (by simp) (by simp) (by simp) (by simp)
  | @retry d a q r c a' d' q' holds serves _ _ fits hq _ =>
    have hhanded := (hs.close holds.dispatch .boundary).keep_assignment (i := r.assignment_id)
      (e := { c with current_attempt_id := a' }) serves.row rfl rfl
    have hopened := hhanded.dispatch (d := d') (q := q') (c := { c with current_attempt_id := a' })
      (by simp [hq.1]) fits.revision fits.selected fits.member
    exact hopened.congr (by simp) (by simp) (by simp) (by simp) (by simp)
  | @replan d a q r t rev rev' successor_id team' holds fresh current staged =>
    have hreplanned := (hs.close holds.dispatch .structural_replan).replan current staged ?_
    · exact hreplanned.congr (by simp) (by simp) (by simp) (by simp) (by simp)
    intro d' q' hd' hlive'
    have hne : d' ≠ d := by
      rintro rfl
      rw [putDispatch_dispatches, Function.update_self] at hd'
      cases hd'
      cases hlive'
    rw [putDispatch_dispatches, Function.update_of_ne hne] at hd'
    exact ⟨hq.apart hp hs current holds.dispatch holds.live hd' hlive' hne,
      hq.apart hp hs current hd' hlive' holds.dispatch holds.live hne.symm⟩
  | settle => exact hs.congr (by simp) (by simp) (by simp) (by simp) (by simp)
  | @open_successor s x a r c d q _ _ _ _ _ attempt _ serves fits hq _ =>
    have hrow := serves.row
    rw [← hq.1] at hrow
    exact (hs.dispatch (d := d) hrow fits.revision fits.selected fits.member).congr (by simp) (by simp) (by simp)
      (by simp) (by simp)
  | @open_tail p qp reason a r c d q _ _ _ _ _ _ _ serves fits hq _ =>
    have hrow := serves.row
    rw [← hq.1] at hrow
    exact (hs.dispatch (d := d) hrow fits.revision fits.selected fits.member).congr (by simp) (by simp) (by simp)
      (by simp) (by simp)
  | @replace d a q r c d' q' holds serves fits hq _ =>
    have hrow := serves.row
    rw [← hq.1] at hrow
    have hopened := (hs.close holds.dispatch .watchdog_superseded).dispatch (d := d') (q := q') hrow
      fits.revision fits.selected fits.member
    exact hopened.congr (by simp) (by simp) (by simp) (by simp) (by simp)
  | @halt d a q r reason holds _ =>
    exact (hs.close holds.dispatch reason).congr (by simp) (by simp) (by simp) (by simp) (by simp)
  | pause => exact hs.congr (by simp) (by simp) (by simp) (by simp) (by simp)
  | resume => exact hs.congr (by simp) (by simp) (by simp) (by simp) (by simp)
  | cancel => exact hs.congr (by simp) (by simp) (by simp) (by simp) (by simp)
  | drop_wait => exact hs.congr (by simp) (by simp) (by simp) (by simp) (by simp)
  | drop_lanes => exact hs.congr (by simp) (by simp) (by simp) (by simp) (by simp)
  | drop_source => exact hs.congr (by simp) (by simp) (by simp) (by simp) (by simp)

/-- Every step keeps the open Assignments in chains. -/
theorem Quiescence.step {lanes lanes' : Lanes} (h : lanes.Quiescence) (hp : lanes.Pointers)
    (hs : lanes.Selection) (hstep : Step lanes lanes') : lanes'.Quiescence := by
  cases hstep with
  | @suspend d a q r w source reason holds fresh_wait _ _ =>
    have hunused : ∀ a r, lanes.attempts a = some r → r.current_wait_id ≠ some w := by
      intro a' r' hr' hw'
      obtain ⟨-, v, hv, -⟩ := hp.wait_pointer a' r' w hr' hw'
      rw [hv] at fresh_wait
      cases fresh_wait
    have hput := h.putWait (some ⟨r.assignment_id, a, d, source⟩) hunused
    have hunawaited := h.unawaited holds.attempt holds.no_wait
    exact (hput.putAttempt hunawaited { r.free with current_wait_id := some w }).congr (by simp [Active])
      (by simp [current_team]) (by simp) (by simp) (by simp) (by simp)
  | @add_child i p r w v wave x k c ca cd q member selected rev running parent attempt waiting wait hsource _ _
      fresh_member fresh fresh_attempt fits hq _ unassigned team hselected hparent =>
    have hmember := h.putWaveMember (k := (wave, k)) (m := ⟨c, .pending⟩) fun _ _ _ _ _ => by
      rw [fresh_member]
      simp
    have hstart := hmember.putAttempt (a := ca) (h.unawaited_fresh hp fresh_attempt)
      { LaneAttempt.start c with current_dispatch_id := some cd }
    have hne : p.current_attempt_id ≠ ca := by
      rintro rfl
      rw [attempt] at fresh_attempt
      cases fresh_attempt
    have hchild := hstart.add_child (c := ⟨member, some i, ca, none⟩) (n := wave) (k := k) fresh rfl
      ⟨parent.row, rfl, parent.is_open⟩ (by simpa [hne] using attempt) waiting wait hsource (by simp) unassigned
      fun rev' hrev' => by
        rw [show rev' = rev from Option.some.inj (hrev'.symm.trans team)]
        exact TeamRevision.parent_eq_some_iff.mpr ⟨selected, hselected, hparent⟩
    exact hchild.congr (by simp [Active]) (by simp [current_team]) (by simp) (by simp)
      (by simp) (by simp)
  | @complete d a q r c outcome wave k x holds serves _ _ member _ _ _ =>
    have hunawaited := h.unawaited holds.attempt holds.no_wait
    have hended := h.putAttempt hunawaited { r.free with status := .completed }
    have hclosed := hended.putAssignment (e := { c with terminal_outcome := some outcome }) serves.row
      (serves.attempt ▸ hunawaited) rfl rfl (by simp)
    have hsettled := hclosed.putWaveMember (k := (wave, k)) (m := ⟨r.assignment_id, .settled d outcome⟩) <| by
      intro i' c' _ hi' ho' hm'
      rw [show lanes.wave_members (wave, k) = some ⟨i', .pending⟩ from hm'] at member
      cases member
      rw [putAssignment_assignments, Function.update_self] at hi'
      cases hi'
      cases ho'
    exact hsettled.congr (by simp [Active]) (by simp [current_team]) (by simp) (by simp)
      (by simp) (by simp)
  | complete_root => exact inactive (by simp [Active])
  | @retry d a q r c a' d' q' holds serves _ fresh_attempt fits hq _ =>
    have hunawaited := h.unawaited holds.attempt holds.no_wait
    have hended := h.putAttempt hunawaited { r.free with status := .completed }
    have hstarted := hended.putAttempt (a := a') (h.unawaited_fresh hp fresh_attempt)
      { LaneAttempt.start r.assignment_id with current_dispatch_id := some d' }
    have hhanded := hstarted.putAssignment (e := { c with current_attempt_id := a' }) serves.row
      (serves.attempt ▸ hunawaited) rfl rfl fun _ => serves.is_open
    exact hhanded.congr (by simp [Active]) (by simp [current_team]) (by simp) (by simp)
      (by simp) (by simp)
  | @replan d a q r t rev rev' successor_id team' holds fresh current staged =>
    have hunawaited := h.unawaited holds.attempt holds.no_wait
    obtain ⟨_, c, holds', serves⟩ := hp.holds_of_live holds.dispatch holds.live
    rw [← hs.serves_member holds' serves] at staged
    have hreplanned := (h.replan hs (.inl holds.running) current staged serves
      (holds.dispatch_attempt ▸ hunawaited)).putAttempt hunawaited r.free
    exact hreplanned.congr (by simp [Active]) (by simp [current_team]) (by simp) (by simp)
      (by simp) (by simp)
  | @settle w v a r source x _ wait attempt hattempt waiting hsource _ _ joined =>
    have hunawaited := h.unawaited_settled attempt waiting wait (hsource ▸ joined)
    have hput := h.putAttempt hunawaited { r with current_wait_id := none }
    have hunused : ∀ a' r', (lanes.putAttempt a { r with current_wait_id := none }).attempts a' = some r' →
        r'.current_wait_id ≠ some w := by
      intro a' r' hr' hw'
      by_cases ha : a' = a
      · subst ha
        rw [putAttempt_attempts, Function.update_self] at hr'
        cases hr'
        cases hw'
      · rw [putAttempt_attempts, Function.update_of_ne ha] at hr'
        obtain ⟨-, v', hv', howner⟩ := hp.wait_pointer a' r' w hr' hw'
        rw [wait] at hv'
        cases hv'
        exact ha (howner.symm.trans hattempt)
    exact (hput.putWait none hunused).congr (by simp [Active]) (by simp [current_team]) (by simp) (by simp)
      (by simp) (by simp)
  | @open_successor s x a r c d q _ _ _ _ _ attempt _ _ _ _ _ =>
    exact (h.keep_wait (s := { r with current_dispatch_id := some d }) attempt rfl).congr (by simp [Active])
      (by simp [current_team]) (by simp) (by simp) (by simp) (by simp)
  | @open_tail p qp reason a r c d q _ _ _ _ _ attempt _ _ _ _ _ =>
    exact (h.keep_wait (s := { r with current_dispatch_id := some d }) attempt rfl).congr (by simp [Active])
      (by simp [current_team]) (by simp) (by simp) (by simp) (by simp)
  | @replace d a q r c d' q' holds _ _ _ _ =>
    exact (h.keep_wait (s := { r with current_dispatch_id := some d' }) holds.attempt rfl).congr (by simp [Active])
      (by simp [current_team]) (by simp) (by simp) (by simp) (by simp)
  | @halt d a q r reason holds _ =>
    exact (h.keep_wait (s := r.free) holds.attempt rfl).congr (by simp [Active]) (by simp [current_team])
      (by simp) (by simp) (by simp) (by simp)
  | pause running =>
    exact h.congr (fun _ => .inl running) (by simp [current_team]) (by simp) (by simp) (by simp) (by simp)
  | resume paused =>
    exact h.congr (fun _ => .inr paused) (by simp [current_team]) (by simp) (by simp) (by simp) (by simp)
  | cancel => exact inactive (by simp [Active])
  | drop_wait cancelled => exact inactive (by simp [Active, cancelled])
  | drop_lanes cancelled => exact inactive (by simp [Active, cancelled])
  | drop_source cancelled => exact inactive (by simp [Active, cancelled])

end Lanes

end OhMySubagents
