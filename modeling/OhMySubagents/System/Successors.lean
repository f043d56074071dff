import OhMySubagents.System.Reachable

open Relational

namespace OhMySubagents

/-- Nothing that ends a Dispatch is followed twice, and a Wave is followed once all its members have ended. -/
structure FollowedOnce (db : TaskDb) : Prop where
  /-- The recorded successor of a source continues the Attempt of the source after its Dispatch. -/
  successor : ∀ s x d, db.source s = some x → x.phase = .consumed d → ∃ dispatch,
    db.dispatches.get? d = some dispatch ∧ dispatch.attempt_id = x.attempt_id ∧
      dispatch.assignment_id = x.assignment_id ∧ dispatch.predecessor_dispatch_id = x.source_dispatch_id
  /-- Whatever follows the Dispatch of a source is its recorded successor. -/
  only_successor : ∀ s x p d dispatch, db.source s = some x → x.source_dispatch_id = some p →
    db.dispatches.get? d = some dispatch → dispatch.predecessor_dispatch_id = some p → x.phase = .consumed d
  /-- No Dispatch is the successor of two sources. -/
  apart : ∀ s x s' x' d, db.source s = some x → db.source s' = some x' → x.phase = .consumed d →
    x'.phase = .consumed d → s = s'
  /-- A Dispatch follows a closed one of its own Attempt. -/
  predecessor : ∀ d dispatch p, db.dispatches.get? d = some dispatch →
    dispatch.predecessor_dispatch_id = some p → ∃ before, db.dispatches.get? p = some before ∧
      before.is_live = false ∧ before.attempt_id = dispatch.attempt_id ∧ before.assignment_id = dispatch.assignment_id
  /-- No Dispatch is the predecessor of two. -/
  tail : ∀ d dispatch d' dispatch' p, db.dispatches.get? d = some dispatch → db.dispatches.get? d' = some dispatch' →
    dispatch.predecessor_dispatch_id = some p → dispatch'.predecessor_dispatch_id = some p → d = d'
  /-- Every member of a followed Wave carries a terminal boundary of its child, green or blocked. -/
  joined : ∀ wave_id wave d k member, db.delegation_waves.get? wave_id = some wave →
    wave.successor_dispatch_id = some d → db.delegation_wave_members.get? (wave_id, k) = some member →
    ∃ b outcome boundary, member.status = .settled b outcome ∧ db.accepted_boundaries.get? b = some boundary ∧
      boundary.assignment_id = member.child_assignment_id ∧ boundary.outcome = outcome.boundary

/-- A later state knows the same successors and the same predecessors. -/
structure FollowedForGood (db db' : TaskDb) : Prop where
  successor : ∀ s x d, db.source s = some x → x.phase = .consumed d → ∃ x', db'.source s = some x' ∧
    x'.phase = .consumed d ∧ x'.source_dispatch_id = x.source_dispatch_id
  predecessor : ∀ d dispatch, db.dispatches.get? d = some dispatch → ∃ dispatch',
    db'.dispatches.get? d = some dispatch' ∧ dispatch'.attempt_id = dispatch.attempt_id ∧
      dispatch'.predecessor_dispatch_id = dispatch.predecessor_dispatch_id

variable {controller : Controller} {db db' : TaskDb}

theorem DispatchTurn.lane_closed {dispatch : DispatchTurn} (h : dispatch.lane.closed_reason ≠ none) :
    dispatch.is_live = false :=
  Bool.eq_false_iff.mpr fun hlive => h (DispatchTurn.lane_live.mpr hlive)

/-- A source that starts a lane has no Dispatch before it, any other source has one. -/
private theorem Lanes.Lineage.consumed_apart {lanes : Lanes} (h : lanes.Lineage) {s s' : SourceId} {x x' : LaneSource}
    {d : DispatchId} (hs : lanes.sources s = some x) (hs' : lanes.sources s' = some x') (hx : x.phase = .consumed d)
    (hx' : x'.phase = .consumed d) : s = s' := by
  obtain ⟨q, hq, -, -, hpredecessor⟩ := h.consumed s x d hs hx
  obtain ⟨q', hq', -, -, hpredecessor'⟩ := h.consumed s' x' d hs' hx'
  obtain rfl : q = q' := Option.some.inj (hq.symm.trans hq')
  have hsame : x.source_dispatch_id = x'.source_dispatch_id := hpredecessor.symm.trans hpredecessor'
  cases hsource : x.source_dispatch_id with
  | some p => exact h.source_unique s x s' x' p hs hs' hsource (hsame ▸ hsource)
  | none =>
    have is_start : ∀ t y, lanes.sources t = some y → y.source_dispatch_id = none → t = .task_start := by
      intro t y ht hnone
      cases hreason : t.closed_reason with
      | none => cases t <;> first | rfl | cases hreason
      | some reason =>
        obtain ⟨p, hp⟩ := h.source_dispatch t y reason ht hreason
        cases hnone.symm.trans hp
    rw [is_start s x hs hsource, is_start s' x' hs' (hsame ▸ hsource)]

theorem Sound.follows_once (h : Sound db) : FollowedOnce db := by
  have hlineage := h.lanes.lineage
  have hlane : ∀ {d dispatch}, db.dispatches.get? d = some dispatch → db.lanes.dispatches d = some dispatch.lane :=
    fun hrow => Table.view_eq_some.mpr ⟨_, hrow, rfl⟩
  refine ⟨fun s x d hs hx => ?_, fun s x p d dispatch hs hx hd hp => ?_,
    fun s x s' x' d hs hs' hx hx' => hlineage.consumed_apart hs hs' hx hx',
    fun d dispatch p hd hp => ?_, fun d dispatch d' dispatch' p hd hd' hp hp' => ?_,
    fun wave_id wave d k member hwave hd hmember => ?_⟩
  · obtain ⟨q, hq, hattempt, hassignment, hpredecessor⟩ := hlineage.consumed s x d hs hx
    obtain ⟨dispatch, hrow, rfl⟩ := Table.view_eq_some.mp hq
    exact ⟨dispatch, hrow, hattempt, hassignment, hpredecessor⟩
  · exact hlineage.followed d dispatch.lane p s x (hlane hd) hp hs hx
  · obtain ⟨q, hq, hattempt, hassignment, hclosed⟩ := hlineage.predecessor d dispatch.lane p (hlane hd) hp
    obtain ⟨before, hrow, rfl⟩ := Table.view_eq_some.mp hq
    exact ⟨before, hrow, DispatchTurn.lane_closed hclosed, hattempt, hassignment⟩
  · exact hlineage.predecessor_unique d dispatch.lane d' dispatch'.lane p (hlane hd) (hlane hd') hp hp'
  · have hsource : db.lanes.sources (.delegation_wave wave_id) = some wave.lane :=
      Table.view_eq_some.mpr ⟨wave, hwave, rfl⟩
    have hconsumed : wave.lane.phase = .consumed d := by simp [DelegationWave.lane, hd, SourcePhase.of]
    have hlanemember : db.lanes.wave_members (wave_id, k) = some member.lane :=
      Table.view_eq_some.mpr ⟨member, hmember, rfl⟩
    have hsettled := h.lanes.waiting.joined wave_id wave.lane k _ hsource (.inr ⟨d, hconsumed⟩) hlanemember
    cases hstatus : member.status with
    | settled b outcome =>
      obtain ⟨row, hrow, hassignment, houtcome⟩ :=
        h.lanes.waiting.member_boundary (wave_id, k) _ b outcome hlanemember hstatus
      obtain ⟨boundary, hboundary, rfl⟩ := Table.view_eq_some.mp hrow
      exact ⟨b, outcome, boundary, rfl, hboundary, hassignment, houtcome⟩
    | pending | cancelled =>
      rw [show member.lane.status = member.status from rfl, hstatus] at hsettled
      cases hsettled

theorem SourcePhase.Advances.consumed {phase phase' : SourcePhase} {d : DispatchId} (h : phase.Advances phase')
    (hconsumed : phase = .consumed d) : phase' = .consumed d := by
  obtain rfl | hphase | ⟨hphase, -⟩ := h
  · exact hconsumed
  all_goals cases hconsumed.symm.trans hphase

theorem Lanes.Later.followed_for_good (h : db.lanes.Later db'.lanes) : FollowedForGood db db' := by
  refine ⟨fun s x d hs hx => ?_, fun d dispatch hd => ?_⟩
  · obtain ⟨x', hx', hlater⟩ := h.sources s x hs
    refine ⟨x', hx', hlater.phase.consumed hx, ?_⟩
    rw [hlater.same]
  · obtain ⟨q', hq', hlater⟩ := h.dispatches d dispatch.lane (Table.view_eq_some.mpr ⟨dispatch, hd, rfl⟩)
    obtain ⟨dispatch', hrow, rfl⟩ := Table.view_eq_some.mp hq'
    exact ⟨dispatch', hrow, congrArg LaneDispatch.attempt_id hlater.same,
      congrArg LaneDispatch.predecessor_dispatch_id hlater.same⟩

/-- Whatever the signals, every source and every closed Dispatch is followed by at most one Dispatch, for good. -/
theorem followed_once (h : controller.runtime.Reachable db) :
    FollowedOnce db ∧ ∀ db', controller.runtime.Path db db' → FollowedForGood db db' :=
  ⟨(Controller.sound h).follows_once, fun _ hpath => (Controller.path_later h hpath).followed_for_good⟩

/-- A Manager that continues after its one delegated Member was blocked. -/
def wave_followed : List Move :=
  [.accept_start 1 0 0, .delegate 1 2 2, .accept_start 2 0 0, .end_attempt 2 .blocked 1, .settle 2,
    .open_wave_successor 2 3]

theorem followed_once_wave_followed :
    ((replayed wave_followed (by decide +kernel)).delegation_waves.get? 2).any
        (fun wave => wave.successor_dispatch_id == some 3) = true ∧
      FollowedOnce (replayed wave_followed (by decide +kernel)) ∧
      ∀ db', plain_controller.runtime.Path (replayed wave_followed (by decide +kernel)) db' →
        FollowedForGood (replayed wave_followed (by decide +kernel)) db' :=
  ⟨by decide +kernel, followed_once (replayed_reachable _)⟩

end OhMySubagents
