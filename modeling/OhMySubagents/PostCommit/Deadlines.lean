import OhMySubagents.Dispatch.ProviderStart
import OhMySubagents.HumanRequest.Service
import OhMySubagents.Watchdog.Pause

open Relational

namespace OhMySubagents

namespace PostCommit

/-- `CommandRunDue`: the stored deadline of one running command. -/
structure CommandRunDue where
  run_id : RunId
  due_at : Instant
  deriving DecidableEq, Repr

inductive DeadlineDueSignal
  | human_request (signal : HumanRequestDue)
  | command_run (signal : CommandRunDue)
  | watchdog (signal : WatchdogDue)
  | dispatch_start (signal : DispatchStartDue)
  deriving DecidableEq, Repr

def DeadlineDueSignal.due_at : DeadlineDueSignal → Instant
  | human_request signal => signal.due_at
  | command_run signal => signal.due_at
  | watchdog signal => signal.due_at
  | dispatch_start signal => signal.due_at

inductive DeadlineDueSignalType
  | human_request | command_run | watchdog | dispatch_start
  deriving DecidableEq, Repr

structure DeadlineSlot where
  signal_type : DeadlineDueSignalType
  source_id : Nat
  deriving DecidableEq, Repr

/-- `_deadline_slot`. -/
def deadline_slot : DeadlineDueSignal → DeadlineSlot
  | .human_request signal => ⟨.human_request, signal.request_id⟩
  | .command_run signal => ⟨.command_run, signal.run_id⟩
  | .watchdog signal => ⟨.watchdog, signal.dispatch_id⟩
  | .dispatch_start signal => ⟨.dispatch_start, signal.dispatch_id⟩

/-- `_is_newer_deadline`: signals with a generation compare by it, the others by their due instant. Two families
    never share a slot, which the source answers with an exception. -/
def is_newer_deadline : DeadlineDueSignal → DeadlineDueSignal → Bool
  | .watchdog candidate, .watchdog current => decide (current.activity_revision < candidate.activity_revision)
  | .dispatch_start candidate, .dispatch_start current =>
    decide (current.provider_start_revision < candidate.provider_start_revision)
  | .human_request candidate, .human_request current => decide (current.due_at < candidate.due_at)
  | .command_run candidate, .command_run current => decide (current.due_at < candidate.due_at)
  | _, _ => false

/-- A handle of the event loop. Its callback runs once at most, and never after it was cancelled. -/
structure Timer where
  slot : DeadlineSlot
  signal : DeadlineDueSignal
  delay_seconds : Nat
  is_live : Bool
  deriving DecidableEq, Repr

structure ScheduledDeadline where
  signal : DeadlineDueSignal
  timer : Nat
  deriving DecidableEq, Repr

/-- The registry, and the handles that the event loop gave out, each under its number. -/
structure DeadlineScheduler where
  deadlines : Table DeadlineSlot ScheduledDeadline
  is_accepting : Bool
  has_entered : Bool
  timers : List Timer

inductive LifespanError
  | cannot_be_reentered
  | outside_lifespan
  deriving DecidableEq, Repr

namespace DeadlineScheduler

/-- A scheduler as it is built. -/
def new : DeadlineScheduler := ⟨∅, false, false, []⟩

def is_live (scheduler : DeadlineScheduler) (timer : Nat) : Bool := (scheduler.timers[timer]?).any Timer.is_live

/-- The handle does not call back any more. -/
def cancel (scheduler : DeadlineScheduler) (timer : Nat) : DeadlineScheduler :=
  { scheduler with timers := scheduler.timers.modify timer fun handle => { handle with is_live := false } }

/-- The loop hands out a new handle, which the slot holds from now on. -/
def schedule_later (scheduler : DeadlineScheduler) (slot : DeadlineSlot) (signal : DeadlineDueSignal)
    (now : Instant) : DeadlineScheduler :=
  { scheduler with
    timers := scheduler.timers ++ [⟨slot, signal, signal.due_at - now, true⟩]
    deadlines := scheduler.deadlines.set slot ⟨signal, scheduler.timers.length⟩ }

def enter (scheduler : DeadlineScheduler) : Except LifespanError DeadlineScheduler :=
  if scheduler.has_entered then .error .cannot_be_reentered
  else .ok { scheduler with has_entered := true, is_accepting := true }

def exit (scheduler : DeadlineScheduler) : DeadlineScheduler :=
  { scheduler.deadlines.entries.foldl (fun scheduler entry => scheduler.cancel entry.2.timer) scheduler with
    is_accepting := false
    deadlines := ∅ }

/-- Register a current generation, replacing only an older generation. -/
def register (scheduler : DeadlineScheduler) (signal : DeadlineDueSignal) (now : Instant) :
    Except LifespanError (Bool × DeadlineScheduler) :=
  if !scheduler.is_accepting then .error .outside_lifespan
  else match scheduler.deadlines.get? (deadline_slot signal) with
    | none => .ok (true, scheduler.schedule_later (deadline_slot signal) signal now)
    | some current =>
      if current.signal = signal || !is_newer_deadline signal current.signal then .ok (false, scheduler)
      else .ok (true, (scheduler.cancel current.timer).schedule_later (deadline_slot signal) signal now)

/-- Cancel the process-local timer for one exact durable source. -/
def cancel_source (scheduler : DeadlineScheduler) (signal_type : DeadlineDueSignalType) (source_id : Nat) :
    Bool × DeadlineScheduler :=
  match scheduler.deadlines.get? ⟨signal_type, source_id⟩ with
  | none => (false, scheduler)
  | some scheduled =>
    (true, { scheduler.cancel scheduled.timer with
      deadlines := scheduler.deadlines.delete ⟨signal_type, source_id⟩ })

/-- `_publish_if_current`: an early callback is armed once more; a due one is published and forgotten. -/
def publish_if_current (scheduler : DeadlineScheduler) (slot : DeadlineSlot) (signal : DeadlineDueSignal)
    (now : Instant) : Option DeadlineDueSignal × DeadlineScheduler :=
  match scheduler.deadlines.get? slot with
  | none => (none, scheduler)
  | some current =>
    if current.signal ≠ signal then (none, scheduler)
    else if now < signal.due_at then (none, scheduler.schedule_later slot signal now)
    else (some signal, { scheduler with deadlines := scheduler.deadlines.delete slot })

/-- The event loop runs the callback of one handle, unless it has run or was cancelled. The clock that the callback
    reads is not the loop's. -/
def fire (scheduler : DeadlineScheduler) (timer : Nat) (now : Instant) :
    Option DeadlineDueSignal × DeadlineScheduler :=
  match (scheduler.timers[timer]?).filter Timer.is_live with
  | none => (none, scheduler)
  | some handle => (scheduler.cancel timer).publish_if_current handle.slot handle.signal now

end DeadlineScheduler

/-- Whatever happens to a scheduler, in any order, with whatever its clock shows then. -/
inductive DeadlineEvent
  | enter
  | exit
  | register (signal : DeadlineDueSignal) (now : Instant)
  | cancel_source (signal_type : DeadlineDueSignalType) (source_id : Nat)
  | fire (timer : Nat) (now : Instant)
  deriving DecidableEq, Repr

inductive DeadlineOutcome
  | done
  | raised (error : LifespanError)
  | registered (is_accepted : Bool)
  | cancelled (is_found : Bool)
  | published (signal : DeadlineDueSignal)
  deriving DecidableEq, Repr

/-- One event, and what its caller sees of it. A callback that publishes nothing is `done`. -/
def DeadlineScheduler.step (scheduler : DeadlineScheduler) : DeadlineEvent → DeadlineOutcome × DeadlineScheduler
  | .enter =>
    match scheduler.enter with
    | .ok entered => (.done, entered)
    | .error error => (.raised error, scheduler)
  | .exit => (.done, scheduler.exit)
  | .register signal now =>
    match scheduler.register signal now with
    | .ok (is_accepted, next) => (.registered is_accepted, next)
    | .error error => (.raised error, scheduler)
  | .cancel_source signal_type source_id =>
    let (is_found, next) := scheduler.cancel_source signal_type source_id
    (.cancelled is_found, next)
  | .fire timer now =>
    match scheduler.fire timer now with
    | (some signal, next) => (.published signal, next)
    | (none, next) => (.done, next)

namespace DeadlineScheduler

variable {scheduler : DeadlineScheduler} {slot : DeadlineSlot} {signal : DeadlineDueSignal} {now : Instant}
  {timer : Nat} {handle : Timer} {scheduled : ScheduledDeadline}

/-- The registry and the loop agree: the live handles are exactly those that the slots hold. -/
structure Consistent (scheduler : DeadlineScheduler) : Prop where
  slot_of_signal : ∀ slot scheduled, scheduler.deadlines.get? slot = some scheduled →
    deadline_slot scheduled.signal = slot
  held : ∀ slot scheduled, scheduler.deadlines.get? slot = some scheduled → ∃ handle,
    scheduler.timers[scheduled.timer]? = some handle ∧ handle.is_live = true ∧ handle.slot = slot ∧
      handle.signal = scheduled.signal
  live : ∀ timer handle, scheduler.timers[timer]? = some handle → handle.is_live = true →
    scheduler.deadlines.get? handle.slot = some ⟨handle.signal, timer⟩

/-- They agree on every slot but one, for which no handle is live. -/
structure ConsistentOutside (scheduler : DeadlineScheduler) (slot : DeadlineSlot) : Prop where
  slot_of_signal : ∀ other scheduled, other ≠ slot → scheduler.deadlines.get? other = some scheduled →
    deadline_slot scheduled.signal = other
  held : ∀ other scheduled, other ≠ slot → scheduler.deadlines.get? other = some scheduled → ∃ handle,
    scheduler.timers[scheduled.timer]? = some handle ∧ handle.is_live = true ∧ handle.slot = other ∧
      handle.signal = scheduled.signal
  live : ∀ timer handle, scheduler.timers[timer]? = some handle → handle.is_live = true →
    handle.slot ≠ slot ∧ scheduler.deadlines.get? handle.slot = some ⟨handle.signal, timer⟩

theorem timers_cancel (timer i : Nat) : (scheduler.cancel timer).timers[i]? =
    if timer = i then scheduler.timers[i]?.map fun handle => { handle with is_live := false }
    else scheduler.timers[i]? := by
  rw [cancel, List.getElem?_modify]
  split <;> simp

theorem live_cancel {i : Nat} (h : (scheduler.cancel timer).timers[i]? = some handle) (hlive : handle.is_live = true) :
    i ≠ timer ∧ scheduler.timers[i]? = some handle := by
  rw [timers_cancel] at h
  split at h
  · rw [Option.map_eq_some_iff] at h
    obtain ⟨before, -, rfl⟩ := h
    cases hlive
  · next hne => exact ⟨fun heq => hne heq.symm, h⟩

theorem Consistent.outside (h : Consistent scheduler) (hfree : scheduler.deadlines.get? slot = none) :
    ConsistentOutside scheduler slot where
  slot_of_signal other scheduled _ := h.slot_of_signal other scheduled
  held other scheduled _ := h.held other scheduled
  live timer handle hrow hlive := by
    have hslot := h.live timer handle hrow hlive
    refine ⟨fun heq => ?_, hslot⟩
    rw [heq, hfree] at hslot
    cases hslot

/-- Cancelling the handle of a slot leaves the others as they are. -/
theorem Consistent.cancel (h : Consistent scheduler) (hslot : scheduler.deadlines.get? slot = some scheduled) :
    ConsistentOutside (scheduler.cancel scheduled.timer) slot where
  slot_of_signal other scheduled' _ := h.slot_of_signal other scheduled'
  held other scheduled' hne hother := by
    obtain ⟨handle, hrow, hlive, rfl, hsignal⟩ := h.held other scheduled' hother
    refine ⟨handle, ?_, hlive, rfl, hsignal⟩
    rw [timers_cancel, if_neg, hrow]
    intro heq
    obtain ⟨own, hown, -, hownslot, -⟩ := h.held slot scheduled hslot
    rw [heq, hrow] at hown
    cases hown
    exact hne hownslot
  live timer handle hrow hlive := by
    obtain ⟨hne, hrow⟩ := live_cancel hrow hlive
    have hother := h.live timer handle hrow hlive
    refine ⟨fun heq => ?_, hother⟩
    rw [heq, hslot] at hother
    cases hother
    exact hne rfl

theorem ConsistentOutside.schedule_later (h : ConsistentOutside scheduler slot) (hsignal : deadline_slot signal = slot)
    (now : Instant) : Consistent (scheduler.schedule_later slot signal now) where
  slot_of_signal other scheduled hother := by
    rw [DeadlineScheduler.schedule_later, Table.get?_set] at hother
    split at hother
    · next heq =>
      cases hother
      exact hsignal.trans heq.symm
    · next hne => exact h.slot_of_signal other scheduled hne hother
  held other scheduled hother := by
    rw [DeadlineScheduler.schedule_later, Table.get?_set] at hother
    split at hother
    · next heq =>
      cases hother
      exact ⟨⟨slot, signal, signal.due_at - now, true⟩, by simp [DeadlineScheduler.schedule_later], rfl,
        heq.symm, rfl⟩
    · next hne =>
      obtain ⟨handle, hrow, hrest⟩ := h.held other scheduled hne hother
      have hlt := (List.getElem?_eq_some_iff.mp hrow).1
      exact ⟨handle, by rw [DeadlineScheduler.schedule_later, List.getElem?_append_left hlt, hrow], hrest⟩
  live timer handle hrow hlive := by
    rw [DeadlineScheduler.schedule_later, List.getElem?_append] at hrow
    rw [DeadlineScheduler.schedule_later, Table.get?_set]
    split at hrow
    · obtain ⟨hne, hother⟩ := h.live timer handle hrow hlive
      rw [if_neg hne, hother]
    · obtain ⟨hlast, rfl⟩ := List.getElem?_eq_some_iff.mp hrow
      have htimer : timer = scheduler.timers.length := by
        rw [List.length_singleton] at hlast
        omega
      simp [htimer]

theorem ConsistentOutside.delete (h : ConsistentOutside scheduler slot) :
    Consistent { scheduler with deadlines := scheduler.deadlines.delete slot } where
  slot_of_signal other scheduled hother := by
    rw [Table.get?_delete] at hother
    split at hother
    · cases hother
    · next hne => exact h.slot_of_signal other scheduled hne hother
  held other scheduled hother := by
    rw [Table.get?_delete] at hother
    split at hother
    · cases hother
    · next hne => exact h.held other scheduled hne hother
  live timer handle hrow hlive := by
    obtain ⟨hne, hother⟩ := h.live timer handle hrow hlive
    rw [Table.get?_delete, if_neg hne, hother]

/-- What running one handle does: nothing when it is dead, and otherwise it publishes or arms what its slot holds. -/
inductive Fired (scheduler : DeadlineScheduler) (timer : Nat) (now : Instant) :
    Option DeadlineDueSignal → DeadlineScheduler → Prop
  | dead (hdead : scheduler.is_live timer = false) : Fired scheduler timer now none scheduler
  | early {slot : DeadlineSlot} {signal : DeadlineDueSignal}
      (hslot : scheduler.deadlines.get? slot = some ⟨signal, timer⟩) (hnow : now < signal.due_at) :
      Fired scheduler timer now none ((scheduler.cancel timer).schedule_later slot signal now)
  | due {slot : DeadlineSlot} {signal : DeadlineDueSignal}
      (hslot : scheduler.deadlines.get? slot = some ⟨signal, timer⟩) (hnow : signal.due_at ≤ now) :
      Fired scheduler timer now (some signal)
        { scheduler.cancel timer with deadlines := scheduler.deadlines.delete slot }

theorem Consistent.fire (h : Consistent scheduler) (timer : Nat) (now : Instant) :
    Fired scheduler timer now (scheduler.fire timer now).1 (scheduler.fire timer now).2 := by
  unfold DeadlineScheduler.fire
  split
  · next hnone =>
    refine .dead ?_
    unfold DeadlineScheduler.is_live
    rw [Option.filter_eq_none_iff] at hnone
    cases hrow : scheduler.timers[timer]? with
    | none => rfl
    | some handle => simpa using hnone handle hrow
  · next handle hsome =>
    obtain ⟨hrow, hlive⟩ := Option.filter_eq_some_iff.mp hsome
    have hslot := h.live timer handle hrow hlive
    unfold publish_if_current
    rw [show (scheduler.cancel timer).deadlines.get? handle.slot = some ⟨handle.signal, timer⟩ from hslot]
    simp only [ne_eq, not_true_eq_false, if_false]
    split
    · next hnow => exact .early hslot hnow
    · next hnow => exact .due hslot (Nat.not_lt.mp hnow)

/-- A callback that runs although it was cancelled finds that its slot holds another signal, or none. -/
theorem publish_if_current_stale (hslot : ∀ timer, scheduler.deadlines.get? slot ≠ some ⟨signal, timer⟩)
    (now : Instant) : scheduler.publish_if_current slot signal now = (none, scheduler) := by
  unfold publish_if_current
  split
  · rfl
  · next current hcurrent =>
    have hother : current.signal ≠ signal := by
      rintro rfl
      exact hslot current.timer hcurrent
    rw [if_pos hother]

/-- The handle that a slot holds publishes its signal once that is due. -/
theorem Consistent.step_fire_due (h : Consistent scheduler)
    (hslot : scheduler.deadlines.get? slot = some ⟨signal, timer⟩) (hnow : signal.due_at ≤ now) :
    scheduler.step (.fire timer now) =
      (.published signal, { scheduler.cancel timer with deadlines := scheduler.deadlines.delete slot }) := by
  obtain ⟨handle, hrow, hlive, rfl, hsignal⟩ := h.held slot _ hslot
  dsimp only at hrow hsignal
  obtain rfl := hsignal
  have hcancelled : (scheduler.cancel timer).deadlines.get? handle.slot = some ⟨handle.signal, timer⟩ := hslot
  simp [DeadlineScheduler.step, DeadlineScheduler.fire, hrow, hlive, publish_if_current, hcancelled, Option.filter,
    Nat.not_lt.mpr hnow]
  rfl

theorem Fired.consistent {published : Option DeadlineDueSignal} {next : DeadlineScheduler}
    (h : Fired scheduler timer now published next) (hs : Consistent scheduler) : Consistent next := by
  cases h with
  | dead => exact hs
  | early hslot => exact (hs.cancel hslot).schedule_later (hs.slot_of_signal _ _ hslot) now
  | due hslot => exact (hs.cancel hslot).delete

/-- What registering a signal does. -/
inductive Registered (scheduler : DeadlineScheduler) (signal : DeadlineDueSignal) (now : Instant) :
    Except LifespanError (Bool × DeadlineScheduler) → Prop
  | outside (hclosed : scheduler.is_accepting = false) : Registered scheduler signal now (.error .outside_lifespan)
  | first (accepting : scheduler.is_accepting = true)
      (hfree : scheduler.deadlines.get? (deadline_slot signal) = none) :
      Registered scheduler signal now (.ok (true, scheduler.schedule_later (deadline_slot signal) signal now))
  | refused {current} (accepting : scheduler.is_accepting = true)
      (hslot : scheduler.deadlines.get? (deadline_slot signal) = some current)
      (hold : is_newer_deadline signal current.signal = false) :
      Registered scheduler signal now (.ok (false, scheduler))
  | replaced {current} (accepting : scheduler.is_accepting = true)
      (hslot : scheduler.deadlines.get? (deadline_slot signal) = some current)
      (hnewer : is_newer_deadline signal current.signal = true) :
      Registered scheduler signal now
        (.ok (true, (scheduler.cancel current.timer).schedule_later (deadline_slot signal) signal now))

theorem is_newer_deadline_irrefl (signal : DeadlineDueSignal) : is_newer_deadline signal signal = false := by
  cases signal <;> simp [is_newer_deadline]

theorem registered (scheduler : DeadlineScheduler) (signal : DeadlineDueSignal) (now : Instant) :
    Registered scheduler signal now (scheduler.register signal now) := by
  unfold register
  split
  · next hclosed => exact .outside (by simpa using hclosed)
  · next hopen =>
    have haccepting : scheduler.is_accepting = true := by simpa using hopen
    split
    · next hfree => exact .first haccepting hfree
    · next current hslot =>
      split
      · next hkeeps =>
        refine .refused haccepting hslot ?_
        rw [Bool.or_eq_true, decide_eq_true_eq, Bool.not_eq_true'] at hkeeps
        rcases hkeeps with heq | hold
        · exact heq ▸ is_newer_deadline_irrefl _
        · exact hold
      · next hnewer =>
        refine .replaced haccepting hslot ?_
        rw [Bool.or_eq_true, decide_eq_true_eq, Bool.not_eq_true', not_or] at hnewer
        simpa using hnewer.2

theorem Consistent.cancel_source (h : Consistent scheduler) (signal_type : DeadlineDueSignalType) (source_id : Nat) :
    Consistent (scheduler.cancel_source signal_type source_id).2 := by
  unfold DeadlineScheduler.cancel_source
  split
  · exact h
  · next hslot => exact (h.cancel hslot).delete

theorem timers_cancel_all (entries : List (Sigma fun _ : DeadlineSlot => ScheduledDeadline)) {i : Nat}
    (h : (entries.foldl (fun scheduler entry => scheduler.cancel entry.2.timer) scheduler).timers[i]? = some handle)
    (hlive : handle.is_live = true) :
    (∀ entry ∈ entries, entry.2.timer ≠ i) ∧ scheduler.timers[i]? = some handle := by
  induction entries generalizing scheduler with
  | nil => simpa using h
  | cons entry entries ih =>
    obtain ⟨hrest, hrow⟩ := ih h
    obtain ⟨hne, hrow⟩ := live_cancel hrow hlive
    exact ⟨fun other hother => (List.mem_cons.mp hother).elim (fun heq => heq ▸ hne.symm) (hrest other), hrow⟩

/-- After the lifespan no handle is live. -/
theorem Consistent.exit_dead (h : Consistent scheduler) {i : Nat} (hrow : scheduler.exit.timers[i]? = some handle) :
    handle.is_live = false := by
  by_contra hlive
  rw [Bool.not_eq_false] at hlive
  obtain ⟨hentries, hrow⟩ := timers_cancel_all _ hrow hlive
  have hslot := h.live i handle hrow hlive
  exact hentries ⟨handle.slot, ⟨handle.signal, i⟩⟩ (Table.mem_entries_iff.mpr hslot) rfl

theorem Consistent.exit (h : Consistent scheduler) : Consistent scheduler.exit where
  slot_of_signal _ _ hslot := by cases (Table.get?_empty _).symm.trans hslot
  held _ _ hslot := by cases (Table.get?_empty _).symm.trans hslot
  live _ _ hrow hlive := by
    rw [h.exit_dead hrow] at hlive
    cases hlive

theorem Consistent.step (h : Consistent scheduler) (event : DeadlineEvent) : Consistent (scheduler.step event).2 := by
  cases event with
  | enter =>
    simp only [DeadlineScheduler.step, enter]
    by_cases hentered : scheduler.has_entered = true
    · simpa only [hentered, if_true] using h
    · simp only [hentered]
      exact ⟨h.slot_of_signal, h.held, h.live⟩
  | exit => exact h.exit
  | register signal now =>
    simp only [DeadlineScheduler.step]
    have hregistered := registered scheduler signal now
    generalize scheduler.register signal now = result at hregistered
    cases hregistered with
    | outside => exact h
    | first _ hfree => exact (h.outside hfree).schedule_later rfl now
    | refused => exact h
    | replaced _ hslot => exact (h.cancel hslot).schedule_later rfl now
  | cancel_source signal_type source_id => exact h.cancel_source signal_type source_id
  | fire timer now =>
    simp only [DeadlineScheduler.step]
    have hfired := (h.fire timer now).consistent h
    cases hfire : scheduler.fire timer now with
    | mk published next =>
      rw [hfire] at hfired
      cases published <;> exact hfired

theorem Consistent.new : Consistent .new where
  slot_of_signal _ _ hslot := by cases (Table.get?_empty _).symm.trans hslot
  held _ _ hslot := by cases (Table.get?_empty _).symm.trans hslot
  live _ _ hrow _ := by simp [DeadlineScheduler.new] at hrow

theorem fire_dead (h : scheduler.is_live timer = false) (now : Instant) :
    scheduler.fire timer now = (none, scheduler) := by
  unfold DeadlineScheduler.fire
  cases hrow : scheduler.timers[timer]? with
  | none => rfl
  | some handle =>
    have hdead : handle.is_live = false := by simpa [is_live, hrow] using h
    simp [Option.filter, hdead]

/-- No handle is given to another slot, or lives again. -/
def Outlived (timers timers' : List Timer) : Prop :=
  ∀ (i : Nat) (handle : Timer), timers[i]? = some handle → ∃ handle' : Timer, timers'[i]? = some handle' ∧
    handle'.slot = handle.slot ∧ (handle'.is_live = true → handle.is_live = true)

theorem Outlived.refl (timers : List Timer) : Outlived timers timers := fun _ handle h => ⟨handle, h, rfl, id⟩

theorem Outlived.trans {timers timers' timers'' : List Timer} (h : Outlived timers timers')
    (h' : Outlived timers' timers'') : Outlived timers timers'' := by
  intro i handle hrow
  obtain ⟨handle', hrow', hslot, hlive⟩ := h i handle hrow
  obtain ⟨handle'', hrow'', hslot', hlive'⟩ := h' i handle' hrow'
  exact ⟨handle'', hrow'', hslot'.trans hslot, hlive ∘ hlive'⟩

theorem cancel_outlived (scheduler : DeadlineScheduler) (timer : Nat) :
    Outlived scheduler.timers (scheduler.cancel timer).timers := by
  intro i handle hrow
  rw [timers_cancel, hrow]
  split
  · exact ⟨_, rfl, rfl, by simp⟩
  · exact ⟨handle, rfl, rfl, id⟩

theorem schedule_later_outlived (scheduler : DeadlineScheduler) (slot : DeadlineSlot) (signal : DeadlineDueSignal)
    (now : Instant) : Outlived scheduler.timers (scheduler.schedule_later slot signal now).timers := by
  intro i handle hrow
  have hlt := (List.getElem?_eq_some_iff.mp hrow).1
  exact ⟨handle, by rw [schedule_later, List.getElem?_append_left hlt, hrow], rfl, id⟩

theorem cancel_all_outlived (entries : List (Sigma fun _ : DeadlineSlot => ScheduledDeadline)) :
    Outlived scheduler.timers
      (entries.foldl (fun scheduler entry => scheduler.cancel entry.2.timer) scheduler).timers := by
  induction entries generalizing scheduler with
  | nil => exact .refl _
  | cons entry entries ih => exact (scheduler.cancel_outlived entry.2.timer).trans ih

theorem Consistent.step_outlived (h : Consistent scheduler) (event : DeadlineEvent) :
    Outlived scheduler.timers (scheduler.step event).2.timers := by
  cases event with
  | enter =>
    simp only [DeadlineScheduler.step, enter]
    by_cases hentered : scheduler.has_entered = true <;> simp only [hentered] <;> exact .refl _
  | exit => exact cancel_all_outlived _
  | register signal now =>
    have hregistered := scheduler.registered signal now
    simp only [DeadlineScheduler.step]
    generalize scheduler.register signal now = result at hregistered
    cases hregistered with
    | outside | refused => exact .refl _
    | first => exact schedule_later_outlived _ _ _ _
    | replaced => exact (cancel_outlived _ _).trans (schedule_later_outlived _ _ _ _)
  | cancel_source signal_type source_id =>
    simp only [DeadlineScheduler.step, DeadlineScheduler.cancel_source]
    split
    · exact .refl _
    · exact cancel_outlived _ _
  | fire timer now =>
    have hfired := h.fire timer now
    simp only [DeadlineScheduler.step]
    generalize scheduler.fire timer now = result at hfired
    obtain ⟨published, next⟩ := result
    cases hfired with
    | dead => exact .refl _
    | early => exact (cancel_outlived _ _).trans (schedule_later_outlived _ _ _ _)
    | due => exact cancel_outlived _ _

end DeadlineScheduler

end PostCommit

end OhMySubagents
