import OhMySubagents.Lanes.Pointers

open Relational

namespace OhMySubagents

/-- The close reasons that leave a source behind. -/
def DispatchClosedReason.leaves_source : DispatchClosedReason → Bool
  | .delegation | .human_request_wait | .command_run_wait | .structural_replan => true
  | _ => false

namespace Lanes

/-- Where every Dispatch came from, and what every closed Dispatch left behind. -/
structure Lineage (lanes : Lanes) : Prop where
  source_row : ∀ s x d, lanes.sources s = some x → x.source_dispatch_id = some d →
    ∃ q, lanes.dispatches d = some q ∧ q.attempt_id = x.attempt_id ∧
      q.assignment_id = x.assignment_id ∧ q.closed_reason = s.closed_reason ∧ q.closed_reason ≠ none
  source_dispatch : ∀ s x reason, lanes.sources s = some x → s.closed_reason = some reason →
    ∃ d, x.source_dispatch_id = some d
  source_unique : ∀ s x s' x' d, lanes.sources s = some x → lanes.sources s' = some x' →
    x.source_dispatch_id = some d → x'.source_dispatch_id = some d → s = s'
  source_exists : ∀ d q reason, lanes.dispatches d = some q → q.closed_reason = some reason →
    reason.leaves_source = true → ∃ s x, lanes.sources s = some x ∧ x.source_dispatch_id = some d
  boundary_row : ∀ d b, lanes.boundaries d = some b → ∃ q, lanes.dispatches d = some q ∧
    q.closed_reason = some .boundary ∧ q.attempt_id = b.attempt_id ∧ q.assignment_id = b.assignment_id
  boundary_exists : ∀ d q, lanes.dispatches d = some q → q.closed_reason = some .boundary →
    (lanes.boundaries d).isSome
  consumed : ∀ s x d', lanes.sources s = some x → x.phase = .consumed d' →
    ∃ q', lanes.dispatches d' = some q' ∧ q'.attempt_id = x.attempt_id ∧
      q'.assignment_id = x.assignment_id ∧ q'.predecessor_dispatch_id = x.source_dispatch_id
  predecessor : ∀ d' q' p, lanes.dispatches d' = some q' → q'.predecessor_dispatch_id = some p →
    ∃ q, lanes.dispatches p = some q ∧ q.attempt_id = q'.attempt_id ∧
      q.assignment_id = q'.assignment_id ∧ q.closed_reason ≠ none
  predecessor_unique : ∀ d₁ q₁ d₂ q₂ p, lanes.dispatches d₁ = some q₁ → lanes.dispatches d₂ = some q₂ →
    q₁.predecessor_dispatch_id = some p → q₂.predecessor_dispatch_id = some p → d₁ = d₂
  followed : ∀ d' q' p s x, lanes.dispatches d' = some q' → q'.predecessor_dispatch_id = some p →
    lanes.sources s = some x → x.source_dispatch_id = some p → x.phase = .consumed d'
  superseded : ∀ p q, lanes.dispatches p = some q → q.closed_reason = some .watchdog_superseded →
    ∃ d' q', lanes.dispatches d' = some q' ∧ q'.predecessor_dispatch_id = some p ∧
      q'.opened_reason = .watchdog_recovery
  recovery : ∀ d' q', lanes.dispatches d' = some q' → q'.opened_reason = .watchdog_recovery →
    ∃ p q, q'.predecessor_dispatch_id = some p ∧ lanes.dispatches p = some q ∧
      q.closed_reason = some .watchdog_superseded

theorem closed_reason_leaves_source {s : SourceId} {reason : DispatchClosedReason}
    (h : s.closed_reason = some reason) : reason.leaves_source = true := by
  cases s <;> cases h <;> rfl

grind_pattern closed_reason_leaves_source => s.closed_reason, some reason

attribute [local grind =] LaneDispatch.close DispatchClosedReason.leaves_source

namespace Lineage

variable {lanes lanes' : Lanes} {d : DispatchId} {q : LaneDispatch} {s : SourceId} {x : LaneSource}

/-- Only Dispatches, sources and boundaries matter. -/
theorem congr (h : lanes.Lineage) (hdispatches : lanes'.dispatches = lanes.dispatches)
    (hsources : lanes'.sources = lanes.sources) (hboundaries : lanes'.boundaries = lanes.boundaries) :
    lanes'.Lineage := by
  obtain ⟨h1, h2, h3, h4, h5, h6, h7, h8, h9, h10, h11, h12⟩ := h
  constructor <;> simpa only [hdispatches, hsources, hboundaries]

theorem leave_source (h : lanes.Lineage) {reason : DispatchClosedReason}
    (dispatch : lanes.dispatches d = some q) (live : q.closed_reason = none)
    (fresh : lanes.sources s = none) (hreason : s.closed_reason = some reason)
    (hx : x.attempt_id = q.attempt_id ∧ x.assignment_id = q.assignment_id ∧ x.source_dispatch_id = some d)
    (hphase : ∀ d', x.phase ≠ .consumed d') :
    ((lanes.putDispatch d (q.close reason)).putSource s x).Lineage := by
  obtain ⟨h1, h2, h3, h4, h5, h6, h7, h8, h9, h10, h11, h12⟩ := h
  constructor <;> grind

theorem leave_boundary (h : lanes.Lineage) {b : LaneBoundary} (dispatch : lanes.dispatches d = some q)
    (live : q.closed_reason = none) (hb : b.attempt_id = q.attempt_id ∧ b.assignment_id = q.assignment_id) :
    ((lanes.putDispatch d (q.close .boundary)).putBoundary d b).Lineage := by
  obtain ⟨h1, h2, h3, h4, h5, h6, h7, h8, h9, h10, h11, h12⟩ := h
  constructor <;> grind

theorem leave_nothing (h : lanes.Lineage) {reason : DispatchClosedReason}
    (dispatch : lanes.dispatches d = some q) (live : q.closed_reason = none)
    (hreason : reason = .paused ∨ reason = .control_failed ∨ reason = .cancelled) :
    (lanes.putDispatch d (q.close reason)).Lineage := by
  obtain ⟨h1, h2, h3, h4, h5, h6, h7, h8, h9, h10, h11, h12⟩ := h
  constructor <;> grind

/-- A Dispatch without a predecessor opens. -/
theorem open_first (h : lanes.Lineage) (fresh : lanes.dispatches d = none) (live : q.closed_reason = none)
    (first : q.predecessor_dispatch_id = none) (hopened : q.opened_reason ≠ .watchdog_recovery) :
    (lanes.putDispatch d q).Lineage := by
  obtain ⟨h1, h2, h3, h4, h5, h6, h7, h8, h9, h10, h11, h12⟩ := h
  constructor <;> grind

/-- The successor of a resolved source opens and consumes it. -/
theorem open_successor (h : lanes.Lineage) (fresh : lanes.dispatches d = none)
    (live : q.closed_reason = none) (row : lanes.sources s = some x) (resolved : x.phase = .resolved)
    (hq : q.attempt_id = x.attempt_id ∧ q.assignment_id = x.assignment_id ∧
      q.predecessor_dispatch_id = x.source_dispatch_id)
    (hopened : q.opened_reason ≠ .watchdog_recovery) :
    ((lanes.putDispatch d q).putSource s { x with phase := .consumed d }).Lineage := by
  obtain ⟨h1, h2, h3, h4, h5, h6, h7, h8, h9, h10, h11, h12⟩ := h
  constructor <;> grind

/-- A Dispatch opens after the tail of its lane. -/
theorem open_tail (h : lanes.Lineage) {p : DispatchId} {qp : LaneDispatch} {reason : DispatchClosedReason}
    (fresh : lanes.dispatches d = none) (live : q.closed_reason = none)
    (tail : lanes.dispatches p = some qp) (closed : qp.closed_reason = some reason)
    (hreason : reason.leaves_source = false)
    (hq : q.attempt_id = qp.attempt_id ∧ q.assignment_id = qp.assignment_id ∧
      q.predecessor_dispatch_id = some p)
    (predecessor : ∀ d' q', lanes.dispatches d' = some q' → q.predecessor_dispatch_id.isSome →
      q'.predecessor_dispatch_id ≠ q.predecessor_dispatch_id)
    (hopened : q.opened_reason = .watchdog_recovery ↔ reason = .watchdog_superseded) :
    (lanes.putDispatch d q).Lineage := by
  obtain ⟨h1, h2, h3, h4, h5, h6, h7, h8, h9, h10, h11, h12⟩ := h
  constructor
  case predecessor_unique => clear h1 h2 h3 h4 h5 h6 h7 h8 h10 h11 h12; grind
  case recovery => clear h1 h2 h3 h4 h5 h6 h7 h8 h9 h10 h11; grind
  all_goals grind

/-- A silent Dispatch closes and its replacement opens. -/
theorem replace (h : lanes.Lineage) {d' : DispatchId} {q' : LaneDispatch}
    (dispatch : lanes.dispatches d = some q) (live : q.closed_reason = none)
    (fresh : lanes.dispatches d' = none) (live' : q'.closed_reason = none)
    (hq : q'.attempt_id = q.attempt_id ∧ q'.assignment_id = q.assignment_id ∧
      q'.predecessor_dispatch_id = some d) (hopened : q'.opened_reason = .watchdog_recovery) :
    ((lanes.putDispatch d (q.close .watchdog_superseded)).putDispatch d' q').Lineage := by
  obtain ⟨h1, h2, h3, h4, h5, h6, h7, h8, h9, h10, h11, h12⟩ := h
  constructor
  case predecessor => clear h1 h2 h3 h4 h5 h6 h7 h9 h10 h11 h12; grind
  case predecessor_unique =>
    -- the closing Dispatch was live, so nothing followed it yet
    have hnone : ∀ k q₀, lanes.dispatches k = some q₀ → q₀.predecessor_dispatch_id ≠ some d := by
      clear h1 h2 h3 h4 h5 h6 h7 h9 h10 h11 h12
      grind
    have hold : ∀ k q₁ p, ((lanes.putDispatch d (q.close .watchdog_superseded)).putDispatch d' q').dispatches k =
        some q₁ → q₁.predecessor_dispatch_id = some p → k ≠ d' →
        ∃ q₀, lanes.dispatches k = some q₀ ∧ q₀.predecessor_dispatch_id = some p := by
      clear h1 h2 h3 h4 h5 h6 h7 h8 h9 h10 h11 h12
      grind
    clear h1 h2 h3 h4 h5 h6 h7 h8 h10 h11 h12
    intro d₁ q₁ d₂ q₂ p hd₁ hd₂ hp₁ hp₂
    by_cases h₁ : d₁ = d' <;> by_cases h₂ : d₂ = d' <;> grind
  case superseded => clear h1 h2 h3 h4 h5 h6 h7 h8 h9 h10 h12; grind
  case recovery => clear h1 h2 h3 h4 h5 h6 h7 h8 h9 h10 h11; grind
  all_goals grind

/-- A source that was not consumed changes its phase. -/
theorem putSource (h : lanes.Lineage) (phase : SourcePhase) (row : lanes.sources s = some x)
    (hold : ∀ d', x.phase ≠ .consumed d') (hnew : ∀ d', phase ≠ .consumed d') :
    (lanes.putSource s { x with phase := phase }).Lineage := by
  obtain ⟨h1, h2, h3, h4, h5, h6, h7, h8, h9, h10, h11, h12⟩ := h
  constructor <;> grind

end Lineage

/-- Every step keeps the lineage. -/
theorem Lineage.step {lanes lanes' : Lanes} (h : lanes.Lineage) (hp : lanes.Pointers) (hstep : Step lanes lanes') :
    lanes'.Lineage := by
  cases hstep with
  | @suspend d a q r w source reason holds _ fresh_source hreason =>
    have hleft := h.leave_source (x := ⟨r.assignment_id, a, some d, .unresolved⟩) holds.dispatch holds.live
      fresh_source hreason ⟨holds.dispatch_attempt.symm, holds.dispatch_assignment.symm, rfl⟩ (by simp)
    exact hleft.congr rfl rfl rfl
  | @add_child i p r w v wave x k c ca cd q member selected rev _ _ _ _ _ _ _ _ _ _ _ fits hq hopened _ _ _ _ =>
    exact (h.open_first fits.fresh fits.live hq.2.2 (by simp [hopened])).congr rfl rfl rfl
  | @complete d a q r c outcome wave k x holds _ _ _ _ _ _ _ =>
    have hleft := h.leave_boundary (b := ⟨r.assignment_id, a, outcome.boundary⟩) holds.dispatch holds.live
      ⟨holds.dispatch_attempt.symm, holds.dispatch_assignment.symm⟩
    exact hleft.congr rfl rfl rfl
  | @complete_root d a q r c outcome holds _ _ _ _ _ _ _ =>
    have hleft := h.leave_boundary (b := ⟨r.assignment_id, a, outcome.boundary⟩) holds.dispatch holds.live
      ⟨holds.dispatch_attempt.symm, holds.dispatch_assignment.symm⟩
    exact hleft.congr rfl rfl rfl
  | @retry d a q r c a' d' q' holds _ _ _ fits hq hopened =>
    have hleft := h.leave_boundary (b := ⟨r.assignment_id, a, .retry⟩) holds.dispatch holds.live
      ⟨holds.dispatch_attempt.symm, holds.dispatch_assignment.symm⟩
    have hne := holds.ne_fresh_dispatch fits.fresh
    have hopen := hleft.open_first (d := d') (q := q') (by grind [Fits]) fits.live hq.2.2 (by simp [hopened])
    exact hopen.congr rfl rfl rfl
  | @replan d a q r t rev rev' successor_id team' holds fresh _ _ =>
    have hleft := h.leave_source (s := .replan_transition t) (x := ⟨r.assignment_id, a, some d, .resolved⟩)
      holds.dispatch holds.live fresh rfl
      ⟨holds.dispatch_attempt.symm, holds.dispatch_assignment.symm, rfl⟩ (by simp)
    exact hleft.congr rfl rfl rfl
  | @settle w v a r source x _ _ _ _ _ _ row unresolved _ =>
    exact (h.putSource .resolved row (by simp [unresolved]) (by simp)).congr rfl rfl rfl
  | @open_successor s x a r c d q _ row resolved hattempt hassignment _ _ _ fits hq hopened =>
    exact (h.open_successor fits.fresh fits.live row resolved
      ⟨hq.2.1.trans hattempt.symm, hq.1.trans hassignment.symm, hq.2.2⟩ hopened).congr rfl rfl rfl
  | @open_tail p qp reason a r c d q _ tail closed hreason hattempt attempt _ _ fits hq hopened =>
    have hassignment : q.assignment_id = qp.assignment_id := by
      obtain ⟨r', hr', howner⟩ := hp.dispatch_attempt p qp tail
      rw [hattempt, attempt] at hr'
      cases hr'
      exact hq.1.trans howner
    have hsuperseded : reason ≠ .watchdog_superseded := by
      rintro rfl
      obtain ⟨d', q', hd', hp', -⟩ := h.superseded p qp tail closed
      exact fits.predecessor d' q' hd' (by simp [hq.2.2]) (hp'.trans hq.2.2.symm)
    refine (h.open_tail fits.fresh fits.live tail closed ?_ ⟨hq.2.1.trans hattempt.symm, hassignment, hq.2.2⟩
      fits.predecessor ⟨fun h' => absurd h' hopened, fun h' => absurd h' hsuperseded⟩).congr rfl rfl rfl
    cases reason <;> simp_all [DispatchClosedReason.is_tail, DispatchClosedReason.leaves_source]
  | @replace d a q r c d' q' holds _ fits hq hopened =>
    exact (h.replace holds.dispatch holds.live fits.fresh fits.live
      ⟨hq.2.1.trans holds.dispatch_attempt.symm, hq.1.trans holds.dispatch_assignment.symm, hq.2.2⟩
      hopened).congr rfl rfl rfl
  | halt holds hreason => exact (h.leave_nothing holds.dispatch holds.live hreason).congr rfl rfl rfl
  | pause _ _ => exact h.congr rfl rfl rfl
  | resume _ => exact h.congr rfl rfl rfl
  | cancel _ _ => exact h.congr rfl rfl rfl
  | drop_wait _ _ _ _ _ row unresolved hphase =>
    refine (h.putSource _ row (by simp [unresolved]) ?_).congr rfl rfl rfl
    rcases hphase with rfl | rfl | ⟨rfl, -⟩ <;> simp
  | drop_lanes _ _ => exact h.congr rfl rfl rfl
  | drop_source _ row hphase =>
    refine (h.putSource _ row ?_ ?_).congr rfl rfl rfl <;>
      rcases hphase with ⟨rfl, h' | h'⟩ | ⟨rfl, h', -⟩ <;> simp [h']

end Lanes

end OhMySubagents
