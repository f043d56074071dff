import OhMySubagents.Lanes.Step

open Relational

namespace OhMySubagents

namespace Lanes

/-- How Attempts, their Dispatches, their waits and their Assignments point at each other. -/
structure Pointers (lanes : Lanes) : Prop where
  dispatch_pointer : ∀ a r d, lanes.attempts a = some r → r.current_dispatch_id = some d →
    lanes.status = .running ∧ r.status = .running ∧ r.current_wait_id = none ∧
      ∃ q, lanes.dispatches d = some q ∧ q.attempt_id = a ∧ q.closed_reason = none
  live_dispatch : ∀ d q, lanes.dispatches d = some q → q.closed_reason = none →
    ∃ r, lanes.attempts q.attempt_id = some r ∧ r.current_dispatch_id = some d
  dispatch_attempt : ∀ d q, lanes.dispatches d = some q → ∃ r, lanes.attempts q.attempt_id = some r ∧
    r.assignment_id = q.assignment_id
  wait_pointer : ∀ a r w, lanes.attempts a = some r → r.current_wait_id = some w →
    r.status = .running ∧ ∃ v, lanes.waits w = some v ∧ v.attempt_id = a
  wait_row : ∀ w v, lanes.waits w = some v → ∃ r, lanes.attempts v.attempt_id = some r ∧
    r.current_wait_id = some w ∧ v.assignment_id = r.assignment_id
  running_attempt : ∀ a r, lanes.attempts a = some r → r.status = .running →
    ∃ c, lanes.assignments r.assignment_id = some c ∧ c.current_attempt_id = a ∧ c.terminal_outcome = none
  not_pending : ∀ a r, lanes.attempts a = some r → r.status ≠ .pending
  open_assignment : ∀ i c, lanes.Active → lanes.assignments i = some c → c.terminal_outcome = none →
    ∃ r, lanes.attempts c.current_attempt_id = some r ∧ r.assignment_id = i ∧ r.status = .running

attribute [local grind] Active
attribute [local grind =] Lanes.release Lanes.occupy Lanes.park Lanes.unpark Lanes.finish Lanes.hand_over
  Lanes.enlist LaneDispatch.close LaneAttempt.free LaneAttempt.start
attribute [local grind cases] Holds Serves LaneAttempt.Idle

namespace Pointers

variable {lanes lanes' : Lanes} {d : DispatchId} {a : AttemptId} {q : LaneDispatch} {r : LaneAttempt}
  {c : LaneAssignment}

/-- Only the rows that point at each other matter. -/
theorem congr (h : lanes.Pointers) (hstatus : lanes'.status = lanes.status)
    (hattempts : lanes'.attempts = lanes.attempts) (hdispatches : lanes'.dispatches = lanes.dispatches)
    (hwaits : lanes'.waits = lanes.waits) (hassignments : lanes'.assignments = lanes.assignments) :
    lanes'.Pointers := by
  obtain ⟨hdispatch, hlive, howner, hwait, hrow, hrunning, hpending, hopen⟩ := h
  constructor <;> simpa only [Active, hstatus, hattempts, hdispatches, hwaits, hassignments]

theorem release (h : lanes.Pointers) (reason : DispatchClosedReason) (holds : lanes.Holds d a q r) :
    (lanes.release d q a r reason).Pointers := by
  obtain ⟨hdispatch, hlive, howner, hwait, hrow, hrunning, hpending, hopen⟩ := h
  constructor <;> grind

theorem occupy (h : lanes.Pointers) (running : lanes.status = .running)
    (attempt : lanes.attempts a = some r) (idle : r.Idle) (fresh : lanes.dispatches d = none)
    (live : q.closed_reason = none) (hassignment : q.assignment_id = r.assignment_id)
    (hattempt : q.attempt_id = a) : (lanes.occupy d q a r).Pointers := by
  obtain ⟨hdispatch, hlive, howner, hwait, hrow, hrunning, hpending, hopen⟩ := h
  constructor <;> grind

theorem park (h : lanes.Pointers) {w : WaitId} {v : AttemptWait} (attempt : lanes.attempts a = some r)
    (idle : r.Idle) (fresh : lanes.waits w = none) (hassignment : v.assignment_id = r.assignment_id)
    (hattempt : v.attempt_id = a) : (lanes.park a r w v).Pointers := by
  obtain ⟨hdispatch, hlive, howner, hwait, hrow, hrunning, hpending, hopen⟩ := h
  constructor <;> grind

theorem unpark (h : lanes.Pointers) {w : WaitId} (attempt : lanes.attempts a = some r)
    (waiting : r.current_wait_id = some w) : (lanes.unpark a r w).Pointers := by
  obtain ⟨hdispatch, hlive, howner, hwait, hrow, hrunning, hpending, hopen⟩ := h
  constructor <;> grind

theorem finish (h : lanes.Pointers) (outcome : TerminalOutcome) (attempt : lanes.attempts a = some r)
    (idle : r.Idle) (serves : lanes.Serves r.assignment_id a c) : (lanes.finish a r c outcome).Pointers := by
  obtain ⟨hdispatch, hlive, howner, hwait, hrow, hrunning, hpending, hopen⟩ := h
  constructor <;> grind

theorem hand_over (h : lanes.Pointers) (a' : AttemptId) (attempt : lanes.attempts a = some r)
    (idle : r.Idle) (serves : lanes.Serves r.assignment_id a c) (fresh : lanes.attempts a' = none) :
    (lanes.hand_over a r c a').Pointers := by
  obtain ⟨hdispatch, hlive, howner, hwait, hrow, hrunning, hpending, hopen⟩ := h
  constructor <;> grind

theorem enlist (h : lanes.Pointers) {i : AssignmentId} (fresh : lanes.assignments i = none)
    (fresh_attempt : lanes.attempts c.current_attempt_id = none) (is_open : c.terminal_outcome = none) :
    (lanes.enlist i c).Pointers := by
  obtain ⟨hdispatch, hlive, howner, hwait, hrow, hrunning, hpending, hopen⟩ := h
  constructor <;> grind

theorem drop_lanes (h : lanes.Pointers) (cancelled : lanes.status = .cancelled)
    (no_wait : ∀ w, lanes.waits w = none) : lanes.drop_lanes.Pointers := by
  obtain ⟨hdispatch, hlive, howner, hwait, hrow, hrunning, hpending, hopen⟩ := h
  constructor <;> grind [LaneAttempt.cancel, Option.map_eq_some_iff]

/-- Changing the Task's status is safe while no lane is held. -/
theorem putStatus (h : lanes.Pointers) (status : TaskStatus) (result : Option DispatchId)
    (halted : ∀ a r, lanes.attempts a = some r → r.current_dispatch_id = none)
    (active : status = .running ∨ status = .paused → lanes.Active) :
    (lanes.putStatus status result).Pointers := by
  obtain ⟨hdispatch, hlive, howner, hwait, hrow, hrunning, hpending, hopen⟩ := h
  constructor <;> grind

theorem halted (h : lanes.Pointers) (ended : ∀ a r, lanes.attempts a = some r → r.status ≠ .running) :
    ∀ a r, lanes.attempts a = some r → r.current_dispatch_id = none := by
  intro a r hr
  cases hd : r.current_dispatch_id with
  | none => rfl
  | some d => exact absurd (h.dispatch_pointer a r d hr hd).2.1 (ended a r hr)

/-- A live Dispatch holds the lane of its Attempt, which serves an open Assignment. -/
theorem holds_of_live (h : lanes.Pointers) (dispatch : lanes.dispatches d = some q) (live : q.closed_reason = none) :
    ∃ r c, lanes.Holds d q.attempt_id q r ∧ lanes.Serves r.assignment_id q.attempt_id c := by
  obtain ⟨r, hr, hcurrent⟩ := h.live_dispatch d q dispatch live
  obtain ⟨hrunning, hstatus, hwait, -⟩ := h.dispatch_pointer _ r d hr hcurrent
  obtain ⟨r', hr', howner⟩ := h.dispatch_attempt d q dispatch
  rw [hr] at hr'
  cases hr'
  obtain ⟨c, hc, hattempt, hopen⟩ := h.running_attempt _ r hr hstatus
  exact ⟨r, c, ⟨hrunning, hr, hstatus, hcurrent, hwait, dispatch, rfl, howner.symm, live⟩, ⟨hc, hattempt, hopen⟩⟩

end Pointers

namespace Holds

variable {lanes : Lanes} {d : DispatchId} {a : AttemptId} {q : LaneDispatch} {r : LaneAttempt}

/-- The lane that a Dispatch held is free once the Dispatch is released. -/
theorem free_idle (h : lanes.Holds d a q r) : r.free.Idle :=
  ⟨h.attempt_running, rfl, h.no_wait⟩

theorem release_attempt (_ : lanes.Holds d a q r) (reason : DispatchClosedReason) :
    (lanes.release d q a r reason).attempts a = some r.free := by
  grind

theorem ne_fresh_dispatch (h : lanes.Holds d a q r) {d' : DispatchId} (fresh : lanes.dispatches d' = none) :
    d' ≠ d := by
  rintro rfl
  rw [h.dispatch] at fresh
  cases fresh

theorem ne_fresh_attempt (h : lanes.Holds d a q r) {a' : AttemptId} (fresh : lanes.attempts a' = none) :
    a' ≠ a := by
  rintro rfl
  rw [h.attempt] at fresh
  cases fresh

theorem release_serves (_ : lanes.Holds d a q r) {c : LaneAssignment} {reason : DispatchClosedReason}
    (serves : lanes.Serves r.assignment_id a c) :
    (lanes.release d q a r reason).Serves r.free.assignment_id a c :=
  ⟨serves.row, serves.attempt, serves.is_open⟩

end Holds

theorem LaneAttempt.start_idle (i : AssignmentId) : (LaneAttempt.start i).Idle := ⟨rfl, rfl, rfl⟩

/-- Every step keeps the pointers. -/
theorem Pointers.step {lanes lanes' : Lanes} (h : lanes.Pointers) (hstep : Step lanes lanes') :
    lanes'.Pointers := by
  cases hstep with
  | @suspend d a q r w source reason holds fresh_wait _ _ =>
    have hparked := (h.release reason holds).park (w := w)
      (v := ⟨r.assignment_id, a, d, source⟩) (holds.release_attempt reason) holds.free_idle fresh_wait rfl rfl
    exact hparked.congr rfl rfl rfl rfl rfl
  | @add_child i p r w v wave x k c ca cd q member selected rev running _ _ _ _ _ _ _ _
      fresh_assignment fresh_attempt fits hq _ _ _ _ _ =>
    have henlisted := h.enlist (c := ⟨member, some i, ca, none⟩) fresh_assignment fresh_attempt rfl
    have hattempt : (lanes.enlist c ⟨member, some i, ca, none⟩).attempts ca = some (LaneAttempt.start c) := by
      grind
    have hoccupied := henlisted.occupy running hattempt (LaneAttempt.start_idle c) fits.fresh fits.live
      hq.1 hq.2.1
    exact hoccupied.congr rfl rfl rfl rfl rfl
  | @complete d a q r c outcome wave k x holds serves _ _ _ _ _ _ =>
    have hfinished := (h.release .boundary holds).finish outcome
      (holds.release_attempt _) holds.free_idle (holds.release_serves serves)
    exact hfinished.congr rfl rfl rfl rfl rfl
  | @complete_root d a q r c outcome holds serves _ _ others _ _ _ =>
    have hfinished := (h.release .boundary holds).finish outcome
      (holds.release_attempt _) holds.free_idle (holds.release_serves serves)
    refine (hfinished.putStatus .completed (some d) (hfinished.halted ?_) (by simp)).congr
      rfl rfl rfl rfl rfl
    intro a' r' hr'
    by_cases ha : a' = a
    · grind
    · exact others a' r' (by grind) ha
  | @retry d a q r c a' d' q' holds serves _ fresh_attempt fits hq _ =>
    have hne := holds.ne_fresh_attempt fresh_attempt
    have hned := holds.ne_fresh_dispatch fits.fresh
    have hhanded := (h.release .boundary holds).hand_over a'
      (holds.release_attempt _) holds.free_idle (holds.release_serves serves) (by grind)
    have hoccupied := hhanded.occupy (d := d') (q := q') (a := a') (r := LaneAttempt.start r.assignment_id)
      holds.running
      (by grind) (LaneAttempt.start_idle _) (by grind [Fits]) fits.live
      hq.1 hq.2.1
    exact hoccupied.congr rfl rfl rfl rfl rfl
  | @replan d a q r t rev rev' successor_id team' holds _ _ _ =>
    exact (h.release .structural_replan holds).congr rfl rfl rfl rfl rfl
  | settle _ _ attempt _ waiting _ _ _ _ =>
    exact (h.unpark attempt waiting).congr rfl rfl rfl rfl rfl
  | open_successor running _ _ _ _ attempt idle _ fits hq _ =>
    have hoccupied := h.occupy running attempt idle fits.fresh fits.live hq.1 hq.2.1
    exact hoccupied.congr rfl rfl rfl rfl rfl
  | open_tail running _ _ _ _ attempt idle _ fits hq _ =>
    exact h.occupy running attempt idle fits.fresh fits.live hq.1 hq.2.1
  | @replace d a q r c d' q' holds _ fits hq _ =>
    have hned := holds.ne_fresh_dispatch fits.fresh
    exact (h.release .watchdog_superseded holds).occupy holds.running
      (holds.release_attempt _) holds.free_idle (by grind [Fits]) fits.live hq.1 hq.2.1
  | halt holds _ => exact h.release _ holds
  | pause running halted => exact h.putStatus _ _ halted fun _ => .inl running
  | resume paused =>
    refine h.putStatus _ _ (fun a r hr => ?_) fun _ => .inr paused
    cases hd : r.current_dispatch_id with
    | none => rfl
    | some d =>
      have hrunning := (h.dispatch_pointer a r d hr hd).1
      rw [paused] at hrunning
      cases hrunning
  | cancel _ halted => exact h.putStatus _ _ halted (by simp)
  | drop_wait _ _ attempt _ waiting _ _ _ =>
    exact (h.unpark attempt waiting).congr rfl rfl rfl rfl rfl
  | drop_lanes cancelled no_wait => exact h.drop_lanes cancelled no_wait
  | drop_source _ _ _ => exact h.congr rfl rfl rfl rfl rfl

end Lanes

end OhMySubagents
