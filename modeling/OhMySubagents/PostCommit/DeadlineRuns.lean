import OhMySubagents.PostCommit.Deadlines
import Mathlib.Data.Nat.Find

open Relational

namespace OhMySubagents

namespace PostCommit

/-- What one event means for a slot: its registration is replaced, dropped or delivered, or stays. -/
inductive SlotChange
  | kept
  | registered (signal : DeadlineDueSignal)
  | dropped
  | published
  deriving DecidableEq, Repr

def slot_change (slot : DeadlineSlot) : DeadlineEvent → DeadlineOutcome → SlotChange
  | .exit, _ => .dropped
  | .register signal _, .registered true => if deadline_slot signal = slot then .registered signal else .kept
  | .cancel_source signal_type source_id, .cancelled true =>
    if (⟨signal_type, source_id⟩ : DeadlineSlot) = slot then .dropped else .kept
  | .fire _ _, .published signal => if deadline_slot signal = slot then .published else .kept
  | _, _ => .kept

/-- A run of a scheduler that never stops, through whatever happens to it. -/
structure DeadlineRun where
  states : Nat → DeadlineScheduler
  events : Nat → DeadlineEvent
  start : states 0 = .new
  next : ∀ n, states (n + 1) = ((states n).step (events n)).2

namespace DeadlineRun

/-- Every order of events is a run. -/
def of (events : Nat → DeadlineEvent) : DeadlineRun where
  states n := Nat.rec .new (fun n scheduler => (scheduler.step (events n)).2) n
  events := events
  start := rfl
  next _ := rfl

variable (run : DeadlineRun)

def outcome (n : Nat) : DeadlineOutcome := ((run.states n).step (run.events n)).1

def change (slot : DeadlineSlot) (n : Nat) : SlotChange := slot_change slot (run.events n) (run.outcome n)

/-- An early callback is armed once more, and the new handle publishes. -/
example : (List.range 5).map (DeadlineRun.of fun
    | 0 => .enter
    | 1 => .register (.watchdog ⟨1, 0, 10⟩) 0
    | 2 => .fire 0 9
    | 3 => .fire 0 10
    | _ => .fire 1 10).outcome =
      [.done, .registered true, .done, .done, .published (.watchdog ⟨1, 0, 10⟩)] := by decide

/-- The registration of a slot that was accepted last, with its moment, unless it was cancelled or published. -/
def pending (slot : DeadlineSlot) : Nat → Option (Nat × DeadlineDueSignal)
  | 0 => none
  | n + 1 =>
    match run.change slot n with
    | .kept => pending slot n
    | .registered signal => some (n, signal)
    | .dropped | .published => none

/-- A moment at which the registration of a slot is replaced, cancelled or dropped with all others. -/
def ends_registration (slot : DeadlineSlot) (n : Nat) : Prop :=
  match run.change slot n with
  | .registered _ | .dropped => True
  | .kept | .published => False

/-- The loop runs every live handle some day. -/
def timers_fire : Prop :=
  ∀ n timer, (run.states n).is_live timer = true → ∃ m now, n ≤ m ∧ run.events m = .fire timer now

/-- From some moment on the clock shows an instant, or a later one, whenever a handle runs. -/
def clock_reaches (due_at : Instant) : Prop :=
  ∃ n, ∀ m timer now, n ≤ m → run.events m = .fire timer now → due_at ≤ now

end DeadlineRun

/-- Every slot is served by one timer, which delivers the newest registration once. -/
structure DeadlinesDelivered (run : DeadlineRun) : Prop where
  one_timer : ∀ n (timer timer' : Nat) (handle handle' : Timer), (run.states n).timers[timer]? = some handle →
    (run.states n).timers[timer']? = some handle' → handle.is_live = true → handle'.is_live = true →
    handle.slot = handle'.slot → timer = timer'
  /-- A registration replaces what its slot holds exactly when it is newer, and otherwise changes nothing. -/
  replaces : ∀ n signal now, run.events n = .register signal now → (run.states n).is_accepting = true →
    (run.outcome n = .registered true ↔ ∀ current,
      (run.states n).deadlines.get? (deadline_slot signal) = some current →
        is_newer_deadline signal current.signal = true) ∧
    (run.outcome n = .registered true → ∃ timer,
      (run.states (n + 1)).deadlines.get? (deadline_slot signal) = some ⟨signal, timer⟩) ∧
    (run.outcome n ≠ .registered true → run.states (n + 1) = run.states n)
  /-- What is published is due, and is what was registered last. -/
  published : ∀ n signal, run.outcome n = .published signal → ∃ timer now k, run.events n = .fire timer now ∧
    signal.due_at ≤ now ∧ run.pending (deadline_slot signal) n = some (k, signal)
  /-- A timer of an earlier registration never does anything again, whatever is registered later. -/
  stale : ∀ n slot, run.ends_registration slot n → ∀ timer (handle : Timer),
    (run.states n).timers[timer]? = some handle → handle.slot = slot → ∀ m, n < m → ∀ now,
      (run.states m).fire timer now = (none, run.states m)
  at_most_once : ∀ n signal now, run.events n = .register signal now → run.outcome n = .registered true →
    (∀ m, n < m → ¬ run.ends_registration (deadline_slot signal) m) →
    ∀ m m' published published', n < m → n < m' → run.outcome m = .published published →
      run.outcome m' = .published published' → deadline_slot published = deadline_slot signal →
      deadline_slot published' = deadline_slot signal → m = m'
  once : ∀ n signal now, run.events n = .register signal now → run.outcome n = .registered true →
    (∀ m, n < m → ¬ run.ends_registration (deadline_slot signal) m) → run.timers_fire →
    run.clock_reaches signal.due_at → ∃ m, n < m ∧ run.outcome m = .published signal

namespace DeadlineRun

variable {run : DeadlineRun} {slot : DeadlineSlot} {signal : DeadlineDueSignal} {n m timer : Nat}
  {scheduled : ScheduledDeadline}

theorem consistent (run : DeadlineRun) (n : Nat) : (run.states n).Consistent := by
  induction n with
  | zero =>
    rw [run.start]
    exact .new
  | succ n ih =>
    rw [run.next]
    exact ih.step _

/-- How one event leaves a slot, after so many handles were given out. -/
inductive SlotNext (slot : DeadlineSlot) (event : DeadlineEvent) (outcome : DeadlineOutcome) (handles : Nat)
    (before after : Option ScheduledDeadline) : SlotChange → Prop
  | same (heq : after = before) (hother : ∀ signal, outcome = .published signal → deadline_slot signal ≠ slot) :
      SlotNext slot event outcome handles before after .kept
  | rearmed {signal : DeadlineDueSignal} {timer timer' : Nat} {now : Instant} (hfire : event = .fire timer now)
      (hbefore : before = some ⟨signal, timer⟩) (hnow : now < signal.due_at) (hdone : outcome = .done)
      (hafter : after = some ⟨signal, timer'⟩) : SlotNext slot event outcome handles before after .kept
  | registered {signal : DeadlineDueSignal} {timer : Nat} (hnew : handles ≤ timer)
      (hafter : after = some ⟨signal, timer⟩) (houtcome : ∀ published, outcome ≠ .published published) :
      SlotNext slot event outcome handles before after (.registered signal)
  | dropped (hafter : after = none) (houtcome : ∀ published, outcome ≠ .published published) :
      SlotNext slot event outcome handles before after .dropped
  | published {signal : DeadlineDueSignal} {timer : Nat} {now : Instant} (hfire : event = .fire timer now)
      (hbefore : before = some ⟨signal, timer⟩)
      (hnow : signal.due_at ≤ now) (houtcome : outcome = .published signal) (hafter : after = none) :
      SlotNext slot event outcome handles before after .published

theorem slot_next (run : DeadlineRun) (slot : DeadlineSlot) (n : Nat) :
    SlotNext slot (run.events n) (run.outcome n) (run.states n).timers.length ((run.states n).deadlines.get? slot)
      ((run.states (n + 1)).deadlines.get? slot) (run.change slot n) := by
  have hs := run.consistent n
  rw [run.next]
  unfold change outcome
  generalize run.events n = event
  generalize run.states n = scheduler at hs
  cases event with
  | enter =>
    simp only [DeadlineScheduler.step, DeadlineScheduler.enter]
    by_cases hentered : scheduler.has_entered = true <;> simp only [hentered] <;> exact .same rfl (by simp)
  | exit => exact .dropped (Table.get?_empty _) (by simp [DeadlineScheduler.step])
  | register signal now =>
    have hregistered := scheduler.registered signal now
    simp only [DeadlineScheduler.step]
    generalize scheduler.register signal now = result at hregistered
    cases hregistered with
    | outside => exact .same rfl (by simp)
    | refused => exact .same rfl (by simp)
    | first | replaced =>
      simp only [slot_change]
      split
      · next hslot =>
        subst hslot
        exact .registered (by simp [DeadlineScheduler.cancel]) (Table.get?_set_self ..) (by simp)
      · next hslot => exact .same (Table.get?_set_ne _ (Ne.symm hslot) _) (by simp)
  | cancel_source signal_type source_id =>
    simp only [DeadlineScheduler.step, DeadlineScheduler.cancel_source]
    cases hheld : scheduler.deadlines.get? ⟨signal_type, source_id⟩ with
    | none => exact .same rfl (by simp)
    | some scheduled =>
      simp only [slot_change]
      split
      · next hslot => exact .dropped ((Table.get?_delete ..).trans (if_pos hslot.symm)) (by simp)
      · next hslot => exact .same ((Table.get?_delete ..).trans (if_neg (Ne.symm hslot))) (by simp)
  | fire timer now =>
    have hfired := hs.fire timer now
    simp only [DeadlineScheduler.step]
    generalize scheduler.fire timer now = result at hfired
    obtain ⟨published, next⟩ := result
    cases hfired with
    | dead => exact .same rfl (by simp)
    | @early other signal hheld hnow =>
      rcases eq_or_ne other slot with rfl | hslot
      · exact .rearmed rfl hheld hnow rfl (Table.get?_set_self ..)
      · exact .same (Table.get?_set_ne _ hslot.symm _) (by simp)
    | @due other signal hheld hnow =>
      obtain rfl := hs.slot_of_signal _ _ hheld
      simp only [slot_change]
      split
      · next hslot =>
        subst hslot
        exact .published rfl hheld hnow rfl ((Table.get?_delete ..).trans (if_pos rfl))
      · next hslot =>
        refine .same ((Table.get?_delete ..).trans (if_neg (Ne.symm hslot))) fun published hpublished => ?_
        cases hpublished
        exact hslot

/-- The registry holds what was registered last. -/
theorem pending_signal (run : DeadlineRun) (slot : DeadlineSlot) (n : Nat) :
    (run.pending slot n).map Prod.snd = ((run.states n).deadlines.get? slot).map ScheduledDeadline.signal := by
  induction n with
  | zero =>
    rw [run.start]
    exact congrArg _ (Table.get?_empty slot).symm
  | succ n ih =>
    have hnext := run.slot_next slot n
    unfold pending
    generalize run.change slot n = change at hnext
    cases hnext with
    | same heq => simpa only [heq] using ih
    | rearmed _ hbefore _ _ hafter =>
      rw [hafter]
      rw [hbefore] at ih
      exact ih
    | registered _ hafter =>
      rw [hafter]
      rfl
    | dropped hafter =>
      rw [hafter]
      rfl
    | published _ _ _ _ hafter =>
      rw [hafter]
      rfl

/-- Even a callback that the loop runs after its cancellation does nothing, unless an equal signal is what was
    registered last. -/
theorem late_callback (run : DeadlineRun) (hpending : (run.pending slot n).map Prod.snd ≠ some signal)
    (now : Instant) : (run.states n).publish_if_current slot signal now = (none, run.states n) := by
  refine DeadlineScheduler.publish_if_current_stale (fun timer hheld => hpending ?_) now
  rw [run.pending_signal, hheld, Option.map_some]

/-- So the callback of a registration that was replaced, cancelled or dropped does nothing until an equal signal is
    registered. -/
theorem late_callback_of_ends (run : DeadlineRun) (hends : run.ends_registration slot n)
    (hother : ∀ m, n ≤ m → run.change slot m ≠ .registered signal) (hlt : n < m) (now : Instant) :
    (run.states m).publish_if_current slot signal now = (none, run.states m) := by
  refine run.late_callback ?_ now
  induction m, hlt using Nat.le_induction with
  | base =>
    have hother := hother n (Nat.le_refl n)
    unfold ends_registration at hends
    unfold pending
    generalize run.change slot n = change at hends hother
    cases change with
    | kept | published => exact hends.elim
    | registered registered => simpa using hother
    | dropped => simp
  | succ m hle ih =>
    have hother := hother m (Nat.le_of_succ_le hle)
    unfold pending
    generalize run.change slot m = change at hother
    cases change with
    | kept => exact ih
    | registered registered => simpa using hother
    | dropped | published => simp

theorem outlived (run : DeadlineRun) (hle : n ≤ m) :
    DeadlineScheduler.Outlived (run.states n).timers (run.states m).timers := by
  induction m, hle using Nat.le_induction with
  | base => exact .refl _
  | succ m _ ih =>
    rw [run.next]
    exact ih.trans ((run.consistent m).step_outlived _)

/-- When the registration of a slot ends, so do all its handles. -/
theorem dead_of_ends (h : run.ends_registration slot n) {handle : Timer}
    (hrow : (run.states n).timers[timer]? = some handle) (hslot : handle.slot = slot) (hlt : n < m) :
    (run.states m).is_live timer = false := by
  obtain ⟨handle', hrow', hslot', hlive'⟩ := run.outlived (Nat.le_add_right n 1) timer handle hrow
  have hdead : handle'.is_live = false := by
    by_contra hlive
    have hheld := (run.consistent (n + 1)).live timer handle' hrow' (by simpa using hlive)
    rw [hslot', hslot] at hheld
    have hnext := run.slot_next slot n
    unfold ends_registration at h
    generalize run.change slot n = change at hnext h
    cases hnext with
    | same | rearmed | published => exact h
    | registered hnew hafter =>
      rw [hafter, Option.some.injEq] at hheld
      have htimer := (List.getElem?_eq_some_iff.mp hrow).1
      have heq : _ = timer := congrArg ScheduledDeadline.timer hheld
      dsimp only at heq
      omega
    | dropped hafter =>
      rw [hafter] at hheld
      cases hheld
  obtain ⟨last, hlast, -, hlives⟩ := run.outlived hlt timer handle' hrow'
  rw [DeadlineScheduler.is_live, hlast, Option.any_some]
  by_contra hlive
  rw [hlives (by simpa using hlive)] at hdead
  cases hdead

theorem published_slot (h : run.outcome n = .published signal) :
    run.change (deadline_slot signal) n = .published ∧ ∃ timer now, run.events n = .fire timer now ∧
      signal.due_at ≤ now ∧ (run.states n).deadlines.get? (deadline_slot signal) = some ⟨signal, timer⟩ ∧
        (run.states (n + 1)).deadlines.get? (deadline_slot signal) = none := by
  have hnext := run.slot_next (deadline_slot signal) n
  rw [h] at hnext
  generalize hchange : run.change (deadline_slot signal) n = change at hnext
  cases hnext with
  | same _ hother => exact (hother signal rfl rfl).elim
  | rearmed _ _ _ hdone => cases hdone
  | published hfire hbefore hnow houtcome hafter =>
    cases houtcome
    exact ⟨rfl, _, _, hfire, hnow, hbefore, hafter⟩
  | registered _ _ houtcome | dropped _ houtcome => exact (houtcome signal rfl).elim

/-- An empty slot that is left alone stays empty. -/
theorem empty_kept (hempty : (run.states n).deadlines.get? slot = none)
    (halone : ∀ m, n ≤ m → ¬ run.ends_registration slot m) (hle : n ≤ m) :
    (run.states m).deadlines.get? slot = none := by
  induction m, hle using Nat.le_induction with
  | base => exact hempty
  | succ m hle ih =>
    have hnext := run.slot_next slot m
    have hends := halone m hle
    unfold ends_registration at hends
    generalize run.change slot m = change at hnext hends
    cases hnext with
    | same heq => rw [heq, ih]
    | rearmed _ hbefore =>
      rw [ih] at hbefore
      cases hbefore
    | registered | dropped => exact (hends trivial).elim
    | published _ _ _ _ hafter => exact hafter

/-- A registration that is left alone stays registered until it is published. -/
theorem signal_kept (hheld : (run.states n).deadlines.get? slot = some ⟨signal, timer⟩)
    (halone : ∀ m, n ≤ m → ¬ run.ends_registration slot m)
    (hquiet : ∀ m, n ≤ m → run.outcome m ≠ .published signal) (hle : n ≤ m) :
    ∃ timer', (run.states m).deadlines.get? slot = some ⟨signal, timer'⟩ := by
  induction m, hle using Nat.le_induction with
  | base => exact ⟨timer, hheld⟩
  | succ m hle ih =>
    obtain ⟨timer', ih⟩ := ih
    have hnext := run.slot_next slot m
    have hends := halone m hle
    unfold ends_registration at hends
    generalize run.change slot m = change at hnext hends
    cases hnext with
    | same heq => exact ⟨timer', heq.trans ih⟩
    | rearmed _ hbefore _ _ hafter =>
      rw [ih] at hbefore
      cases hbefore
      exact ⟨_, hafter⟩
    | registered | dropped => exact (hends trivial).elim
    | published _ hbefore _ houtcome =>
      rw [ih] at hbefore
      cases hbefore
      exact (hquiet m hle houtcome).elim

/-- Until its handle runs, a slot that is left alone holds the same handle. -/
theorem handle_kept (hheld : (run.states n).deadlines.get? slot = some scheduled)
    (halone : ∀ m, n ≤ m → ¬ run.ends_registration slot m) (hle : n ≤ m)
    (hidle : ∀ k now, n ≤ k → k < m → run.events k ≠ .fire scheduled.timer now) :
    (run.states m).deadlines.get? slot = some scheduled := by
  induction m, hle using Nat.le_induction with
  | base => exact hheld
  | succ m hle ih =>
    have ih := ih fun k now hk hlt => hidle k now hk (Nat.lt_succ_of_lt hlt)
    have hnext := run.slot_next slot m
    have hends := halone m hle
    unfold ends_registration at hends
    generalize run.change slot m = change at hnext hends
    cases hnext with
    | same heq => rw [heq, ih]
    | rearmed hfire hbefore | published hfire hbefore =>
      rw [ih] at hbefore
      cases hbefore
      exact (hidle m _ hle (Nat.lt_succ_self m) hfire).elim
    | registered | dropped => exact (hends trivial).elim

/-- A registration that is left alone is published when the handles run and the clock comes to its instant. -/
theorem published_eventually (hheld : (run.states n).deadlines.get? (deadline_slot signal) = some ⟨signal, timer⟩)
    (halone : ∀ m, n ≤ m → ¬ run.ends_registration (deadline_slot signal) m) (hfires : run.timers_fire)
    (hclock : run.clock_reaches signal.due_at) : ∃ m, n ≤ m ∧ run.outcome m = .published signal := by
  by_contra hnever
  have hquiet : ∀ m, n ≤ m → run.outcome m ≠ .published signal := fun m hle heq => hnever ⟨m, hle, heq⟩
  obtain ⟨late, hlate⟩ := hclock
  obtain ⟨timer', hheld'⟩ := signal_kept hheld halone hquiet (Nat.le_max_left n late)
  obtain ⟨handle, hrow, hlive, -, -⟩ := (run.consistent (max n late)).held _ _ hheld'
  have hruns : ∃ m, max n late ≤ m ∧ ∃ now, run.events m = .fire timer' now := by
    obtain ⟨m, now, hle, hfire⟩ := hfires (max n late) timer' (by simp [DeadlineScheduler.is_live, hrow, hlive])
    exact ⟨m, hle, now, hfire⟩
  -- the first time that the handle runs from there on, its slot still holds it
  classical
  obtain ⟨hle, now, hfire⟩ := Nat.find_spec hruns
  have hn : n ≤ Nat.find hruns := Nat.le_trans (Nat.le_max_left n late) hle
  have hslot := handle_kept hheld' (fun m hm => halone m (Nat.le_trans (Nat.le_max_left n late) hm)) hle
    fun k now' hk hlt heq => Nat.find_min hruns hlt ⟨hk, now', heq⟩
  have hnow := hlate _ _ _ (Nat.le_trans (Nat.le_max_right n late) hle) hfire
  refine hquiet _ hn ?_
  unfold outcome
  rw [hfire]
  exact congrArg Prod.fst ((run.consistent _).step_fire_due hslot hnow)

/-- What registering a signal did in a run. -/
theorem registered_outcome {now : Instant} (h : run.events n = .register signal now)
    (accepting : (run.states n).is_accepting = true) :
    (run.outcome n = .registered true ↔ ∀ current,
        (run.states n).deadlines.get? (deadline_slot signal) = some current →
          is_newer_deadline signal current.signal = true) ∧
      (run.outcome n = .registered true → ∃ timer,
        (run.states (n + 1)).deadlines.get? (deadline_slot signal) = some ⟨signal, timer⟩) ∧
      (run.outcome n ≠ .registered true → run.states (n + 1) = run.states n) := by
  rw [run.next]
  unfold outcome
  rw [h]
  have hregistered := (run.states n).registered signal now
  simp only [DeadlineScheduler.step]
  generalize (run.states n).register signal now = result at hregistered
  cases hregistered with
  | outside hclosed =>
    rw [accepting] at hclosed
    cases hclosed
  | first _ hfree =>
    refine ⟨iff_of_true rfl fun current hcurrent => ?_, fun _ => ⟨_, Table.get?_set_self ..⟩, by simp⟩
    rw [hfree] at hcurrent
    cases hcurrent
  | refused _ hslot hold =>
    refine ⟨iff_of_false (by simp) fun hall => ?_, by simp, fun _ => rfl⟩
    rw [hall _ hslot] at hold
    cases hold
  | replaced _ hslot hnewer =>
    refine ⟨iff_of_true rfl fun current hcurrent => ?_, fun _ => ⟨_, Table.get?_set_self ..⟩, by simp⟩
    obtain rfl := Option.some.inj (hslot.symm.trans hcurrent)
    exact hnewer

/-- An accepted registration is what its slot holds next. -/
theorem held_of_registered {now : Instant} (h : run.events n = .register signal now)
    (haccepted : run.outcome n = .registered true) : ∃ timer,
      (run.states (n + 1)).deadlines.get? (deadline_slot signal) = some ⟨signal, timer⟩ := by
  have hnext := run.slot_next (deadline_slot signal) n
  have hchange : run.change (deadline_slot signal) n = .registered signal := by
    unfold change
    rw [h, haccepted]
    exact if_pos rfl
  rw [hchange] at hnext
  cases hnext with
  | registered _ hafter => exact ⟨_, hafter⟩

end DeadlineRun

/-- In every run the scheduler keeps one timer for each slot and delivers what was registered last, once, and not
    before it is due. -/
theorem deadlines_delivered (run : DeadlineRun) : DeadlinesDelivered run where
  one_timer n timer timer' handle handle' hrow hrow' hlive hlive' hslot := by
    have hheld := (run.consistent n).live timer handle hrow hlive
    have hheld' := (run.consistent n).live timer' handle' hrow' hlive'
    rw [hslot, hheld', Option.some.injEq] at hheld
    exact (congrArg ScheduledDeadline.timer hheld).symm
  replaces _ _ _ h accepting := DeadlineRun.registered_outcome h accepting
  published n signal h := by
    obtain ⟨-, timer, now, hfire, hnow, hheld, -⟩ := DeadlineRun.published_slot h
    have hpending := run.pending_signal (deadline_slot signal) n
    rw [hheld, Option.map_some, Option.map_eq_some_iff] at hpending
    obtain ⟨⟨k, signal'⟩, hpending, rfl⟩ := hpending
    exact ⟨timer, now, k, hfire, hnow, hpending⟩
  stale _ _ hends _ _ hrow hslot _ hlt now :=
    DeadlineScheduler.fire_dead (DeadlineRun.dead_of_ends hends hrow hslot hlt) now
  at_most_once n signal now _ _ halone m m' published published' hlt hlt' h h' hslot hslot' := by
    have hfirst : ∀ {m m' published published'}, n < m → m < m' → run.outcome m = .published published →
        run.outcome m' = .published published' → deadline_slot published = deadline_slot signal →
        deadline_slot published' = deadline_slot signal → False := by
      intro m m' published published' hlt hltm h h' hslot hslot'
      obtain ⟨-, _, _, -, -, -, hempty⟩ := DeadlineRun.published_slot h
      obtain ⟨-, _, _, -, -, hheld, -⟩ := DeadlineRun.published_slot h'
      rw [hslot] at hempty
      rw [hslot', DeadlineRun.empty_kept hempty (fun k hk => halone k (Nat.lt_of_lt_of_le (Nat.lt_succ_of_lt hlt) hk))
        hltm] at hheld
      cases hheld
    rcases Nat.lt_trichotomy m m' with hltm | heq | hgtm
    · exact (hfirst hlt hltm h h' hslot hslot').elim
    · exact heq
    · exact (hfirst hlt' hgtm h' h hslot' hslot).elim
  once n signal now h haccepted halone hfires hclock := by
    obtain ⟨timer, hheld⟩ := DeadlineRun.held_of_registered h haccepted
    obtain ⟨m, hle, hpublished⟩ :=
      DeadlineRun.published_eventually hheld (fun m hle => halone m hle) hfires hclock
    exact ⟨m, hle, hpublished⟩

end PostCommit

end OhMySubagents
