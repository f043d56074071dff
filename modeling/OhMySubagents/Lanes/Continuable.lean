import OhMySubagents.Lanes.Tails

open Relational

namespace OhMySubagents

/-- The close reasons that stop a lane without a consequence. -/
def DispatchClosedReason.is_halt : DispatchClosedReason → Bool
  | .paused | .control_failed | .cancelled => true
  | _ => false

namespace Lanes

/-- A free lane has a resolved source of its own, which its next Dispatch follows. -/
def HasSource (lanes : Lanes) (a : AttemptId) : Prop :=
  ∃ s x, lanes.sources s = some x ∧ x.attempt_id = a ∧ x.phase = .resolved

/-- Every free lane can go on. -/
def Continuable (lanes : Lanes) : Prop :=
  lanes.Active → ∀ a r, lanes.attempts a = some r → r.Idle → lanes.HasSource a

/-- Whatever Dispatch is stopped without a consequence was stopped before. -/
def Unhalted (lanes lanes' : Lanes) : Prop :=
  ∀ d q' reason, lanes'.dispatches d = some q' → q'.closed_reason = some reason → reason.is_halt = true →
    ∃ q, lanes.dispatches d = some q ∧ q.closed_reason = some reason

variable {lanes lanes' : Lanes}

namespace Continuable

variable {a : AttemptId} {r : LaneAttempt} {s : SourceId} {x : LaneSource}

/-- Every lane that is free now was free before, and keeps its source, or has a source. -/
theorem of_idle (h : lanes.Continuable) (hactive : lanes'.Active → lanes.Active)
    (hidle : ∀ a r, lanes'.attempts a = some r → r.Idle → lanes'.HasSource a ∨ ∃ r₀,
      lanes.attempts a = some r₀ ∧ r₀.Idle ∧
      ∀ s x, lanes.sources s = some x → x.attempt_id = a → x.phase = .resolved → lanes'.sources s = some x) :
    lanes'.Continuable := by
  intro hactive' a r hr hidle'
  obtain hsource | ⟨r₀, hr₀, hidle₀, hkeep⟩ := hidle a r hr hidle'
  · exact hsource
  · obtain ⟨s, x, hx, ha, hphase⟩ := h (hactive hactive') a r₀ hr₀ hidle₀
    exact ⟨s, x, hkeep s x hx ha hphase, ha, hphase⟩

/-- The lanes that are free now were free before, and no resolved source went. -/
theorem of_same (h : lanes.Continuable) (hactive : lanes'.Active → lanes.Active)
    (hattempts : ∀ a r, lanes'.attempts a = some r → r.Idle → lanes.attempts a = some r)
    (hsources : ∀ s x, lanes.sources s = some x → x.phase = .resolved → lanes'.sources s = some x) :
    lanes'.Continuable :=
  h.of_idle hactive fun a r hr hidle =>
    .inr ⟨r, hattempts a r hr hidle, hidle, fun s x hx _ hphase => hsources s x hx hphase⟩

end Continuable

attribute [local grind] Active
attribute [local grind =] release occupy park unpark finish hand_over enlist LaneAttempt.free LaneAttempt.start
  LaneDispatch.close
attribute [local grind cases] Holds Serves LaneAttempt.Idle

/-- Every step that stops no Dispatch without a consequence lets the lanes go on. -/
theorem Continuable.step (h : lanes.Continuable) (hw : lanes.Waiting) (hstep : Step lanes lanes')
    (hunhalted : lanes.Unhalted lanes') : lanes'.Continuable := by
  cases hstep with
  | @suspend d a q r w source reason holds fresh_wait fresh_source =>
    exact h.of_same (by grind) (by grind) (by grind)
  | @add_child i p r w v wave x k c ca cd q member selected rev =>
    exact h.of_same (by grind) (by grind) (by grind)
  | complete holds => exact h.of_same (by grind) (by grind) (by grind)
  | complete_root holds => exact h.of_same (by grind) (by grind) (by grind)
  | @retry d a q r c a' d' q' holds serves fresh fresh_attempt =>
    exact h.of_same (by grind) (by grind) (by grind)
  | @replan d a q r t rev rev' successor_id team' holds fresh =>
    refine h.of_idle (by grind) fun a' r' hr' hidle => ?_
    by_cases ha : a' = a
    · subst ha
      exact .inl ⟨.replan_transition t, ⟨r.assignment_id, a', some d, .resolved⟩, by grind, rfl, rfl⟩
    · exact .inr ⟨r', by grind, hidle, by grind⟩
  | @settle w v a r source x active wait attempt hattempt waiting hsource row unresolved =>
    subst hsource
    obtain ⟨x', hx', -, howner, -⟩ := hw.wait_source w v active wait
    obtain rfl := Option.some.inj (row.symm.trans hx')
    refine h.of_idle (by grind) fun a' r' hr' hidle => ?_
    by_cases ha : a' = a
    · subst ha
      exact .inl ⟨v.source.source_id, { x with phase := .resolved }, by grind, howner.trans hattempt, rfl⟩
    · exact .inr ⟨r', by grind, hidle, by grind⟩
  | @open_successor s x a r c d q running row resolved hattempt =>
    refine h.of_idle (by grind) fun a' r' hr' hidle => .inr ⟨r', by grind, hidle, fun s' x' hx' hattempt' _ => ?_⟩
    -- the source that is consumed belongs to the lane that opens
    have ha : a' ≠ a := by grind
    have hs : s' ≠ s := by grind
    grind
  | open_tail => exact h.of_same (by grind) (by grind) (by grind)
  | replace holds => exact h.of_same (by grind) (by grind) (by grind)
  | @halt d a q r reason holds hreason =>
    obtain ⟨q₀, hq₀, hclosed⟩ := hunhalted d (q.close reason) reason (by grind) rfl
      (by rcases hreason with rfl | rfl | rfl <;> rfl)
    obtain rfl := Option.some.inj (holds.dispatch.symm.trans hq₀)
    rw [holds.live] at hclosed
    cases hclosed
  | pause running => exact h.of_same (by grind) (by grind) (by grind)
  | resume paused => exact h.of_same (by grind) (by grind) (by grind)
  | cancel active => exact h.of_same (by grind) (by grind) (by grind)
  | drop_wait cancelled | drop_lanes cancelled | drop_source cancelled =>
    intro hactive
    rcases hactive with hstatus | hstatus <;> cases cancelled.symm.trans hstatus

theorem Continuable.steps (h : lanes.Continuable) (hinv : lanes.Invariant) (hsteps : Steps lanes lanes')
    (hunhalted : lanes.Unhalted lanes') : lanes'.Continuable := by
  induction hsteps with
  | refl => exact h
  | @tail middle last hbefore hstep ih =>
    have hmiddle := hinv.steps hbefore
    have hfirst := Steps.later hinv hbefore
    have hlast := hstep.later hmiddle.pointers
    refine (ih fun d q reason hq hreason hhalt => ?_).step hmiddle.waiting hstep fun d q reason hq hreason hhalt => ?_
    · obtain ⟨q', hq', hlater⟩ := hlast.dispatches d q hq
      exact hunhalted d q' reason hq' ((hlater.closed (by simp [hreason])).trans hreason) hhalt
    · obtain ⟨q₀, hq₀, hclosed⟩ := hunhalted d q reason hq hreason hhalt
      obtain ⟨q', hq', hlater⟩ := hfirst.dispatches d q₀ hq₀
      exact ⟨q', hq', (hlater.closed (by simp [hclosed])).trans hclosed⟩

/-! # One way to go on -/

/-- What leaves a resolved source behind is the last Dispatch of its Attempt. -/
theorem Lineage.unfollowed_of_resolved (h : lanes.Lineage) {s : SourceId} {x : LaneSource} {p : DispatchId}
    (row : lanes.sources s = some x) (resolved : x.phase = .resolved) (hsource : x.source_dispatch_id = some p) :
    lanes.Unfollowed p := by
  intro d q hq hp
  cases resolved.symm.trans (h.followed d q p s x hq hp row hsource)

/-- A resolved source of a Task that has started was left behind by a Dispatch. -/
theorem Tails.source_dispatch (h : lanes.Tails) (hl : lanes.Lineage) {s : SourceId} {x : LaneSource}
    (row : lanes.sources s = some x) (resolved : x.phase = .resolved) :
    ∃ p q, x.source_dispatch_id = some p ∧ lanes.dispatches p = some q ∧ q.attempt_id = x.attempt_id ∧
      q.closed_reason ≠ none := by
  have hs : s ≠ .task_start := by
    rintro rfl
    obtain ⟨d, hconsumed⟩ := h.started x row
    cases resolved.symm.trans hconsumed
  obtain ⟨reason, hreason⟩ : ∃ reason, s.closed_reason = some reason := by
    cases s <;> first | exact absurd rfl hs | exact ⟨_, rfl⟩
  obtain ⟨p, hp⟩ := hl.source_dispatch s x reason row hreason
  obtain ⟨q, hq, ha, -, -, hclosed⟩ := hl.source_row s x p row hp
  exact ⟨p, q, hp, hq, ha, hclosed⟩

/-- A lane has at most one resolved source. -/
theorem Tails.resolved_unique (h : lanes.Tails) (hl : lanes.Lineage) {s s' : SourceId} {x x' : LaneSource}
    (row : lanes.sources s = some x) (row' : lanes.sources s' = some x') (resolved : x.phase = .resolved)
    (resolved' : x'.phase = .resolved) (hsame : x.attempt_id = x'.attempt_id) : s = s' := by
  obtain ⟨p, q, hp, hq, ha, -⟩ := h.source_dispatch hl row resolved
  obtain ⟨p', q', hp', hq', ha', -⟩ := h.source_dispatch hl row' resolved'
  obtain rfl : p = p' := h.unique p q p' q' hq hq' (ha.trans (hsame.trans ha'.symm))
    (hl.unfollowed_of_resolved row resolved hp) (hl.unfollowed_of_resolved row' resolved' hp')
  exact hl.source_unique s x s' x' p row row' hp hp'

/-- The running Attempt of a resolved source is free. -/
theorem Tails.idle_of_resolved (h : lanes.Tails) (hinv : lanes.Invariant) (hactive : lanes.Active) {s : SourceId}
    {x : LaneSource} {r : LaneAttempt} (row : lanes.sources s = some x) (resolved : x.phase = .resolved)
    (attempt : lanes.attempts x.attempt_id = some r) (running : r.status = .running) : r.Idle := by
  obtain ⟨p, q, hp, hq, ha, hclosed⟩ := h.source_dispatch hinv.lineage row resolved
  have hunfollowed := hinv.lineage.unfollowed_of_resolved row resolved hp
  refine ⟨running, ?_, ?_⟩
  · cases hcurrent : r.current_dispatch_id with
    | none => rfl
    | some d =>
      obtain ⟨-, -, -, q', hq', ha', hlive⟩ := hinv.pointers.dispatch_pointer _ r d attempt hcurrent
      obtain rfl := h.unique p q d q' hq hq' (ha.trans ha'.symm) hunfollowed
        (hinv.lineage.unfollowed_of_live hq' hlive)
      obtain rfl := Option.some.inj (hq.symm.trans hq')
      exact absurd hlive hclosed
  · cases hwait : r.current_wait_id with
    | none => rfl
    | some w =>
      obtain ⟨-, v, hv, ha'⟩ := hinv.pointers.wait_pointer _ r w attempt hwait
      obtain ⟨x', hx', hunresolved, howner, -, hsource⟩ := hinv.waiting.wait_source w v hactive hv
      obtain ⟨q', hq', hqa, -⟩ := hinv.lineage.source_row _ x' _ hx' hsource
      have hfree : lanes.Unfollowed v.source_dispatch_id := by
        intro d q₁ hq₁ hp₁
        cases hunresolved.symm.trans (hinv.lineage.followed d q₁ _ _ x' hq₁ hp₁ hx' hsource)
      obtain rfl := h.unique p q _ q' hq hq' (ha.trans (ha'.symm.trans (howner.symm.trans hqa.symm))) hunfollowed hfree
      obtain rfl := hinv.lineage.source_unique _ _ _ _ _ row hx' hp hsource
      obtain rfl := Option.some.inj (row.symm.trans hx')
      cases resolved.symm.trans hunresolved

/-! # The members of a Wave -/

/-- Every member of a Wave has a child Assignment of its own below the lane that waits, which stays open until the
    member is settled. -/
structure Enlisted (lanes : Lanes) : Prop where
  child : ∀ k m, lanes.wave_members k = some m → ∃ x c, lanes.sources (.delegation_wave k.1) = some x ∧
    lanes.assignments m.child_assignment_id = some c ∧ c.parent_assignment_id = some x.assignment_id
  child_unique : ∀ k m k' m', lanes.wave_members k = some m → lanes.wave_members k' = some m' →
    m.child_assignment_id = m'.child_assignment_id → k = k'
  unsettled : ∀ k m c, lanes.Active → lanes.wave_members k = some m → m.status.is_settled = false →
    lanes.assignments m.child_assignment_id = some c → m.status = .pending ∧ c.terminal_outcome = none

attribute [local grind =] WaveMemberStatus.is_settled

/-- What stays of the rows that members name. -/
structure KeepsChildren (lanes lanes' : Lanes) : Prop where
  active : lanes'.Active → lanes.Active
  sources : ∀ wave x, lanes.sources (.delegation_wave wave) = some x → ∃ x',
    lanes'.sources (.delegation_wave wave) = some x' ∧ x'.assignment_id = x.assignment_id
  assignments : ∀ i c, lanes.assignments i = some c → ∃ c', lanes'.assignments i = some c' ∧
    c'.parent_assignment_id = c.parent_assignment_id

namespace Enlisted

/-- The members that are left keep their children, and the others only settle. -/
theorem settle (h : lanes.Enlisted) (hkeeps : lanes.KeepsChildren lanes')
    (hmembers : ∀ k m', lanes'.wave_members k = some m' →
      ∃ m, lanes.wave_members k = some m ∧ m.child_assignment_id = m'.child_assignment_id)
    (hleft : ∀ k m' c', lanes'.Active → lanes'.wave_members k = some m' → m'.status.is_settled = false →
      lanes'.assignments m'.child_assignment_id = some c' → lanes.wave_members k = some m' ∧
        ∃ c, lanes.assignments m'.child_assignment_id = some c ∧ c'.terminal_outcome = c.terminal_outcome) :
    lanes'.Enlisted where
  child k m' hm' := by
    obtain ⟨m, hm, hchild⟩ := hmembers k m' hm'
    obtain ⟨x, c, hx, hc, hparent⟩ := h.child k m hm
    obtain ⟨x', hx', hassignment⟩ := hkeeps.sources k.1 x hx
    obtain ⟨c', hc', hparent'⟩ := hkeeps.assignments _ c hc
    exact ⟨x', c', hx', hchild ▸ hc', hparent'.trans (hassignment.symm ▸ hparent)⟩
  child_unique k m k' m' hm hm' hsame := by
    obtain ⟨m₀, hm₀, hchild⟩ := hmembers k m hm
    obtain ⟨m₀', hm₀', hchild'⟩ := hmembers k' m' hm'
    exact h.child_unique k m₀ k' m₀' hm₀ hm₀' (hchild.trans (hsame.trans hchild'.symm))
  unsettled k m' c' hactive hm' hnot hc' := by
    obtain ⟨hm, c, hc, hsame⟩ := hleft k m' c' hactive hm' hnot hc'
    obtain ⟨hpending, hopen⟩ := h.unsettled k m' c (hkeeps.active hactive) hm hnot hc
    exact ⟨hpending, hsame.trans hopen⟩

/-- Every step keeps the members and their children together. -/
theorem step (h : lanes.Enlisted) (hp : lanes.Pointers) (hw : lanes.Waiting) (hstep : Step lanes lanes') :
    lanes'.Enlisted := by
  cases hstep with
  | @add_child i p r w v wave x k c ca cd q member selected rev running parent attempt waiting wait hsource source =>
    have hassignment : x.assignment_id = i := by
      obtain ⟨x', hx', -, -, hx, -⟩ := hw.wait_source w v (.inl running) wait
      obtain ⟨r', hr', -, hv⟩ := hp.wait_row w v wait
      obtain ⟨-, v', hv', ha⟩ := hp.wait_pointer _ r w attempt waiting
      obtain ⟨r₀, hr₀, hi, -⟩ := hp.open_assignment i p (.inl running) parent.row parent.is_open
      rw [hsource] at hx'
      obtain rfl := Option.some.inj (source.symm.trans hx')
      grind
    obtain ⟨h1, h2, h3⟩ := h
    refine ⟨fun k' m hm => ?_, ?_, ?_⟩
    · by_cases hk : k' = (wave, k)
      · subst hk
        exact ⟨x, ⟨member, some i, ca, none⟩, by grind, by grind, by grind⟩
      · obtain ⟨x', c', hx', hc', hparent⟩ := h1 k' m (by grind)
        exact ⟨x', c', by grind, by grind, hparent⟩
    · intro k₁ m₁ k₂ m₂ hm₁ hm₂ hsame
      have hchild : ∀ k₀ m₀, lanes.wave_members k₀ = some m₀ → m₀.child_assignment_id ≠ c := by
        intro k₀ m₀ hm₀ hc
        obtain ⟨_, c₀, -, hc₀, -⟩ := h1 k₀ m₀ hm₀
        grind
      by_cases hk₁ : k₁ = (wave, k) <;> by_cases hk₂ : k₂ = (wave, k) <;> grind
    · grind
  | @complete d a q r c outcome wave k x holds serves child fresh member =>
    refine h.settle ⟨by grind, by grind, fun i c' hc' => ?_⟩ (fun k' m' hm' => ?_) fun k' m' c' hactive hm'
      hnot hc' => ?_
    · by_cases hi : i = r.assignment_id <;> grind
    · by_cases hk : k' = (wave, k) <;> grind
    · have hk : k' ≠ (wave, k) := by grind
      have hchild : m'.child_assignment_id ≠ r.assignment_id := fun hsame =>
        hk (h.child_unique k' m' _ _ (by grind) member hsame)
      grind
  | @complete_root d a q r c outcome holds serves | @retry d a q r c a' d' q' holds serves =>
    refine h.settle ⟨by grind, by grind, fun i c' hc' => ?_⟩ (by grind) fun k' m' c' hactive hm' hnot hc' => ?_
    · by_cases hi : i = r.assignment_id <;> grind
    · by_cases hi : m'.child_assignment_id = r.assignment_id <;> grind
  | drop_lanes cancelled =>
    refine h.settle ⟨id, fun wave x hx => ⟨x, hx, rfl⟩, fun i c hc => ⟨c, hc, rfl⟩⟩ (fun k m' hm' => ?_)
      fun k m' c' hactive => ?_
    · rw [drop_lanes_wave_members] at hm'
      obtain ⟨m, hm, rfl⟩ := Option.map_eq_some_iff.mp hm'
      exact ⟨m, hm, by unfold LaneWaveMember.cancel; split <;> rfl⟩
    · rcases hactive with hstatus | hstatus <;> cases cancelled.symm.trans hstatus
  | suspend | settle | open_successor | open_tail | replan | replace | halt | drop_wait | drop_source | pause | resume |
      cancel =>
    exact h.settle ⟨by grind, by grind, fun i c hc => ⟨c, by grind, rfl⟩⟩ (by grind) (by grind)

theorem steps (h : lanes.Enlisted) (hinv : lanes.Invariant) (hsteps : Steps lanes lanes') : lanes'.Enlisted := by
  induction hsteps with
  | refl => exact h
  | tail hbefore hstep ih =>
    have hmiddle := hinv.steps hbefore
    exact ih.step hmiddle.pointers hmiddle.waiting hstep

end Enlisted

end Lanes

end OhMySubagents
