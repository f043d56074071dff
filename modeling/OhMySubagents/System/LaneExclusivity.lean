import OhMySubagents.System.Reachable

open Relational

namespace OhMySubagents

/-- The Attempt that a live Dispatch belongs to: it runs, the Dispatch is its current one, and its open
    Assignment works on it. -/
structure HoldsLive (db : TaskDb) (dispatch_id : DispatchId) (attempt_id : AttemptId) (attempt : Attempt) :
    Prop where
  row : db.attempts.get? attempt_id = some attempt
  running : attempt.status = .running
  current : attempt.current_dispatch_id = some dispatch_id
  serves : ∃ assignment, db.assignments.get? attempt.assignment_id = some assignment ∧
    assignment.current_attempt_id = attempt_id ∧ assignment.terminal_outcome = none

/-- No lane is held twice, and what is live is held. -/
structure LaneExclusive (db : TaskDb) : Prop where
  one_pointer : ∀ a attempt, db.attempts.get? a = some attempt → attempt.status = .running →
    attempt.current_dispatch_id = none ∨ attempt.current_wait_id = none
  live_running : ∀ d dispatch, db.dispatches.get? d = some dispatch → dispatch.is_live = true →
    db.task.status = .running
  live_held : ∀ d dispatch, db.dispatches.get? d = some dispatch → dispatch.is_live = true →
    ∃ a attempt, HoldsLive db d a attempt ∧ dispatch.attempt_id = a ∧
      ∀ a' attempt', db.attempts.get? a' = some attempt' → attempt'.current_dispatch_id = some d → a' = a
  one_live_per_attempt : ∀ d dispatch d' dispatch', db.dispatches.get? d = some dispatch →
    db.dispatches.get? d' = some dispatch' → dispatch.is_live = true → dispatch'.is_live = true →
    dispatch.attempt_id = dispatch'.attempt_id → d = d'
  one_live_per_member : ∀ d dispatch d' dispatch', db.dispatches.get? d = some dispatch →
    db.dispatches.get? d' = some dispatch' → dispatch.is_live = true → dispatch'.is_live = true →
    dispatch.member_id = dispatch'.member_id → d = d'
  ended : ∀ a attempt, db.attempts.get? a = some attempt →
    attempt.status = .completed ∨ attempt.status = .cancelled →
    attempt.current_dispatch_id = none ∧ attempt.current_wait_id = none
  waited : ∀ w wait, db.attempt_waits.get? w = some wait →
    ∃ attempt, db.attempts.get? wait.attempt_id = some attempt ∧ attempt.current_wait_id = some w ∧
      ∀ a' attempt', db.attempts.get? a' = some attempt' → attempt'.current_wait_id = some w → a' = wait.attempt_id
  waiting : ∀ a attempt w, db.attempts.get? a = some attempt → attempt.current_wait_id = some w →
    ∃ wait, db.attempt_waits.get? w = some wait ∧ wait.attempt_id = a

variable {controller : Controller} {db : TaskDb}

private theorem Sound.holds_live (h : Sound db) {d : DispatchId} {dispatch : DispatchTurn}
    (row : db.dispatches.get? d = some dispatch) (live : dispatch.is_live = true) :
    ∃ attempt, HoldsLive db d dispatch.attempt_id attempt := by
  obtain ⟨_, hattempt, hcurrent⟩ := h.lanes.pointers.live_dispatch d dispatch.lane
    (Table.view_eq_some.mpr ⟨dispatch, row, rfl⟩) (DispatchTurn.lane_live.mpr live)
  obtain ⟨-, hrunning, -, -⟩ := h.lanes.pointers.dispatch_pointer _ _ d hattempt hcurrent
  obtain ⟨_, hassignment, hown, hopen⟩ := h.lanes.pointers.running_attempt _ _ hattempt hrunning
  obtain ⟨attempt, hrow, rfl⟩ := Table.view_eq_some.mp hattempt
  obtain ⟨assignment, hserved, rfl⟩ := Table.view_eq_some.mp hassignment
  exact ⟨attempt, hrow, hrunning, hcurrent, assignment, hserved, hown, hopen⟩

private theorem Sound.pointer_owner (h : Sound db) {d : DispatchId} {dispatch : DispatchTurn}
    (row : db.dispatches.get? d = some dispatch) {a : AttemptId} {attempt : Attempt}
    (hattempt : db.attempts.get? a = some attempt) (hcurrent : attempt.current_dispatch_id = some d) :
    a = dispatch.attempt_id := by
  obtain ⟨-, -, -, q, hq, hown, -⟩ := h.lanes.pointers.dispatch_pointer a attempt.lane d
    (Table.view_eq_some.mpr ⟨attempt, hattempt, rfl⟩) hcurrent
  obtain ⟨other, hother, rfl⟩ := Table.view_eq_some.mp hq
  obtain rfl : dispatch = other := Option.some.inj (row.symm.trans hother)
  exact hown.symm

private theorem Sound.live_of_attempt (h : Sound db) {d d' : DispatchId} {dispatch dispatch' : DispatchTurn}
    (row : db.dispatches.get? d = some dispatch) (row' : db.dispatches.get? d' = some dispatch')
    (live : dispatch.is_live = true) (live' : dispatch'.is_live = true)
    (hattempt : dispatch.attempt_id = dispatch'.attempt_id) : d = d' := by
  obtain ⟨attempt, hholds⟩ := h.holds_live row live
  obtain ⟨attempt', hholds'⟩ := h.holds_live row' live'
  have hrow := hholds.row
  rw [hattempt, hholds'.row] at hrow
  cases hrow
  exact Option.some.inj (hholds.current.symm.trans hholds'.current)

/-- The open Assignment of a live Dispatch is one of the Member that the Dispatch runs as. -/
private theorem Sound.live_member (h : Sound db) {d : DispatchId} {dispatch : DispatchTurn}
    (row : db.dispatches.get? d = some dispatch) (live : dispatch.is_live = true) :
    ∃ assignment, db.assignments.get? dispatch.assignment_id = some assignment ∧
      assignment.current_attempt_id = dispatch.attempt_id ∧ assignment.terminal_outcome = none ∧
      assignment.member_id = dispatch.member_id := by
  have hlane : db.lanes.dispatches d = some dispatch.lane := Table.view_eq_some.mpr ⟨dispatch, row, rfl⟩
  obtain ⟨attempt, hholds⟩ := h.holds_live row live
  obtain ⟨assignment, hassignment, hown, hopen⟩ := hholds.serves
  obtain ⟨r, hr, hsame⟩ := h.lanes.pointers.dispatch_attempt d dispatch.lane hlane
  obtain ⟨attempt', hattempt', rfl⟩ := Table.view_eq_some.mp hr
  obtain rfl : attempt = attempt' := Option.some.inj (hholds.row.symm.trans hattempt')
  obtain ⟨c, hc, hmember⟩ := h.lanes.selection.dispatch_member d dispatch.lane hlane
  rw [show attempt.assignment_id = dispatch.assignment_id from hsame] at hassignment
  obtain ⟨other, hother, rfl⟩ := Table.view_eq_some.mp hc
  obtain rfl : assignment = other := Option.some.inj (hassignment.symm.trans hother)
  exact ⟨assignment, hassignment, hown, hopen, hmember⟩

/-- Lane exclusivity in every reachable state. -/
theorem lane_exclusivity (h : controller.runtime.Reachable db) : LaneExclusive db := by
  have hsound := Controller.sound h
  have hp := hsound.lanes.pointers
  have hlane : ∀ {a attempt}, db.attempts.get? a = some attempt → db.lanes.attempts a = some attempt.lane :=
    fun hrow => Table.view_eq_some.mpr ⟨_, hrow, rfl⟩
  refine ⟨fun a attempt hrow _ => ?_, fun d dispatch hrow hlive => ?_, fun d dispatch hrow hlive => ?_,
    fun d q d' q' hq hq' hl hl' => hsound.live_of_attempt hq hq' hl hl', fun d q d' q' hq hq' hl hl' hmember => ?_,
    fun a attempt hrow hended => ?_, fun w wait hrow => ?_, fun a attempt w hrow hwait => ?_⟩
  · cases hd : attempt.current_dispatch_id with
    | none => exact .inl rfl
    | some d => exact .inr (hp.dispatch_pointer a _ d (hlane hrow) hd).2.2.1
  · obtain ⟨attempt, hholds⟩ := hsound.holds_live hrow hlive
    exact (hp.dispatch_pointer _ _ d (hlane hholds.row) hholds.current).1
  · obtain ⟨attempt, hholds⟩ := hsound.holds_live hrow hlive
    exact ⟨_, attempt, hholds, rfl, fun a' attempt' => hsound.pointer_owner hrow⟩
  · obtain ⟨assignment, hassignment, hown, hopen, hm⟩ := hsound.live_member hq hl
    obtain ⟨assignment', hassignment', hown', hopen', hm'⟩ := hsound.live_member hq' hl'
    obtain ⟨attempt, hholds⟩ := hsound.holds_live hq hl
    have active : db.lanes.Active := .inl (hp.dispatch_pointer _ _ d (hlane hholds.row) hholds.current).1
    have hsame := hsound.lanes.quiescence.open_unique _ assignment.lane _ assignment'.lane active
      (Table.view_eq_some.mpr ⟨_, hassignment, rfl⟩) (Table.view_eq_some.mpr ⟨_, hassignment', rfl⟩) hopen hopen'
      (hm.trans (hmember.trans hm'.symm))
    rw [hsame, hassignment'] at hassignment
    cases hassignment
    exact hsound.live_of_attempt hq hq' hl hl' (hown.symm.trans hown')
  · refine ⟨?_, ?_⟩
    · cases hd : attempt.current_dispatch_id with
      | none => rfl
      | some d =>
        have hrunning : attempt.status = .running := (hp.dispatch_pointer a _ d (hlane hrow) hd).2.1
        rcases hended with hended | hended <;> rw [hrunning] at hended <;> cases hended
    · cases hw : attempt.current_wait_id with
      | none => rfl
      | some w =>
        have hrunning : attempt.status = .running := (hp.wait_pointer a _ w (hlane hrow) hw).1
        rcases hended with hended | hended <;> rw [hrunning] at hended <;> cases hended
  · obtain ⟨r, hr, hcurrent, -⟩ := hp.wait_row w wait (Table.view_eq_some.mpr ⟨wait, hrow, rfl⟩)
    obtain ⟨attempt, hattempt, rfl⟩ := Table.view_eq_some.mp hr
    refine ⟨attempt, hattempt, hcurrent, fun a' attempt' hattempt' hcurrent' => ?_⟩
    obtain ⟨-, v, hv, hown⟩ := hp.wait_pointer a' _ w (hlane hattempt') hcurrent'
    obtain ⟨v', hv', rfl⟩ := Table.view_eq_some.mp hv
    obtain rfl : wait = v' := Option.some.inj (hrow.symm.trans hv')
    exact hown.symm
  · obtain ⟨-, v, hv, hown⟩ := hp.wait_pointer a _ w (hlane hrow) hwait
    obtain ⟨wait, hrow', rfl⟩ := Table.view_eq_some.mp hv
    exact ⟨wait, hrow', hown⟩

theorem replay_child_asking : (replay_two_managers (lanes_at_work ++ [.ask 5 8])).isSome = true := by decide +kernel

/-- The lead and its second manager wait for their Waves, while the retried manager and the Member of the second one
    are at work; then that Member waits for a human. -/
theorem lane_exclusivity_lanes_at_work :
    (((replayed lanes_at_work replay_lanes_at_work).dispatches.get? 5).any DispatchTurn.is_live ∧
      ((replayed lanes_at_work replay_lanes_at_work).dispatches.get? 6).any DispatchTurn.is_live ∧
      ((replayed lanes_at_work replay_lanes_at_work).attempts.get? 2).any (·.status == .completed) ∧
      ((replayed lanes_at_work replay_lanes_at_work).attempt_waits.get? 2).any (·.attempt_id == 1) ∧
      ((replayed lanes_at_work replay_lanes_at_work).attempt_waits.get? 5).any (·.attempt_id == 3) ∧
      LaneExclusive (replayed lanes_at_work replay_lanes_at_work)) ∧
    ((replayed _ replay_child_asking).attempts.get? 5).any (fun attempt =>
        attempt.current_dispatch_id == none && attempt.current_wait_id == some 8) ∧
      LaneExclusive (replayed _ replay_child_asking) :=
  ⟨⟨by decide +kernel, by decide +kernel, by decide +kernel, by decide +kernel, by decide +kernel,
    lane_exclusivity (replayed_reachable _)⟩, by decide +kernel, lane_exclusivity (replayed_reachable _)⟩

end OhMySubagents
