import OhMySubagents.PostCommit.StartupScan
import OhMySubagents.System.FreeLanes
import OhMySubagents.System.ResultCheckpoints

open Relational

namespace OhMySubagents

variable {controller : Controller} {db db' : TaskDb} {t : Transaction}

/-! # What the startup's queries rely on -/

/-- Every open Dispatch was accepted by its adapter. -/
def OpenAccepted (db : TaskDb) : Prop :=
  ∀ d dispatch, db.dispatches.get? d = some dispatch → dispatch.status = .open → dispatch.adapter_started_at.isSome

theorem Controller.open_accepted (h : controller.runtime.Reachable db) : OpenAccepted db := by
  refine Controller.invariant h (fun input drawn db hstart d dispatch hrow hopen => ?_)
    fun t db db' _ hcommitted hP d dispatch' hrow' hopen => ?_
  · obtain ⟨-, request, basis, -, -, -, hdb⟩ := start_task_rows hstart
    rw [hdb] at hrow
    dsimp only at hrow
    rw [Table.get?_set] at hrow
    split at hrow
    · cases hrow
      cases hopen
    · cases hrow
  · cases hrow : db.dispatches.get? d with
    | none =>
      cases hcommitted.dispatches.added hrow hrow' <;> cases hopen
    | some dispatch =>
      have hbefore := hP d dispatch hrow
      cases hcommitted.dispatches.kept hrow hrow' with
      | same => exact hbefore hopen
      | refreshed => exact hbefore hopen
      | accepted => rfl
      | rotated => cases hopen
      | closed => cases hopen

/-! # Where a lane stands -/

namespace PostCommit

/-- What the source row of a signal is. -/
inductive Referent
  | dispatch (id : DispatchId)
  | source (id : SourceId)
  deriving DecidableEq, Repr

def RuntimeEffectSignal.referent : RuntimeEffectSignal → Referent
  | task_start_committed _ => .source .task_start
  | wave_member_settled id | delegation_wave_settled id => .source (.delegation_wave id)
  | replan_committed id => .source (.replan_transition id)
  | human_request_opened id | human_request_terminal id => .source (.human_request id)
  | command_run_pending id | command_run_cancellation_requested id _ | command_run_terminal id =>
    .source (.command_run id)
  | watchdog_deadline_changed ⟨id, _, _⟩ | dispatch_start_due ⟨id, _, _⟩ => .dispatch id

/-- What the lane of a running Attempt goes on from: its Dispatch, the source that it waits for, or the resolved source
    that its next Dispatch follows. -/
inductive StandsAt (db : TaskDb) (a : AttemptId) (attempt : Attempt) : Referent → Prop
  | held {d} (current : attempt.current_dispatch_id = some d) : StandsAt db a attempt (.dispatch d)
  | waiting {w wait} (current : attempt.current_wait_id = some w) (row : db.attempt_waits.get? w = some wait) :
      StandsAt db a attempt (.source wait.source.source_id)
  | free {s x} (idle : attempt.lane.Idle) (row : db.lanes.sources s = some x) (owner : x.attempt_id = a)
      (resolved : x.phase = .resolved) : StandsAt db a attempt (.source s)

variable {a : AttemptId} {attempt : Attempt} {r r' : Referent} {timeout k k' : Nat} {task_id : TaskId}
  {family family' : String} {signal signal' : RuntimeEffectSignal}

theorem lane_waits_iff {wait : AttemptWait} : lane_waits db wait = true ↔ ∃ attempt w,
    db.attempts.get? wait.attempt_id = some attempt ∧ attempt.assignment_id = wait.assignment_id ∧
      attempt.status = .running ∧ attempt.current_dispatch_id = none ∧ attempt.current_wait_id = some w ∧
        db.attempt_waits.get? w = some wait := by
  unfold lane_waits
  simp only [Option.any_eq_true, Bool.and_eq_true, beq_iff_eq, Option.isNone_iff_eq_none]
  constructor
  · rintro ⟨attempt, hrow, ⟨⟨hassignment, hrunning⟩, hdispatch⟩, w, hw, hwait⟩
    exact ⟨attempt, w, hrow, hassignment, hrunning, hdispatch, hw, hwait⟩
  · rintro ⟨attempt, w, hrow, hassignment, hrunning, hdispatch, hw, hwait⟩
    exact ⟨attempt, hrow, ⟨⟨hassignment, hrunning⟩, hdispatch⟩, w, hw, hwait⟩

theorem lane_is_idle_iff {i : AssignmentId} : lane_is_idle db i a = true ↔
    ∃ attempt, db.attempts.get? a = some attempt ∧ attempt.assignment_id = i ∧ attempt.lane.Idle := by
  unfold lane_is_idle Attempt.is_idle
  simp only [Option.any_eq_true, Bool.and_eq_true, beq_iff_eq, Option.isNone_iff_eq_none]
  constructor
  · rintro ⟨attempt, hrow, ⟨⟨hassignment, hrunning⟩, hdispatch⟩, hwait⟩
    exact ⟨attempt, hrow, hassignment, hrunning, hdispatch, hwait⟩
  · rintro ⟨attempt, hrow, hassignment, hrunning, hdispatch, hwait⟩
    exact ⟨attempt, hrow, ⟨⟨hassignment, hrunning⟩, hdispatch⟩, hwait⟩

/-- A lane stands in one place. -/
theorem StandsAt.unique (hsound : Sound db) (htails : db.lanes.Tails) (hrow : db.attempts.get? a = some attempt)
    (h : StandsAt db a attempt r) (h' : StandsAt db a attempt r') : r = r' := by
  have hlane : db.lanes.attempts a = some attempt.lane := Table.view_eq_some.mpr ⟨attempt, hrow, rfl⟩
  have hheld : ∀ d, attempt.current_dispatch_id = some d → attempt.current_wait_id = none := fun d hd =>
    (hsound.lanes.pointers.dispatch_pointer a _ d hlane hd).2.2.1
  cases h with
  | held current =>
    cases h' with
    | held current' => rw [Option.some.inj (current.symm.trans current')]
    | waiting current' => cases (hheld _ current).symm.trans current'
    | free idle => cases current.symm.trans idle.no_dispatch
  | waiting current row =>
    cases h' with
    | held current' => cases (hheld _ current').symm.trans current
    | waiting current' row' =>
      obtain rfl := Option.some.inj (current.symm.trans current')
      rw [Option.some.inj (row.symm.trans row')]
    | free idle => cases current.symm.trans idle.no_wait
  | free idle row owner resolved =>
    cases h' with
    | held current' => cases current'.symm.trans idle.no_dispatch
    | waiting current' => cases current'.symm.trans idle.no_wait
    | free idle' row' owner' resolved' =>
      rw [htails.resolved_unique hsound.lanes.lineage row row' resolved resolved' (owner.trans owner'.symm)]

private theorem waiting_of_lane_waits {wait : AttemptWait} (h : lane_waits db wait = true) (ha : wait.attempt_id = a)
    (hrow : db.attempts.get? a = some attempt) : StandsAt db a attempt (.source wait.source.source_id) := by
  obtain ⟨other, w, hother, -, -, -, hw, hwait⟩ := lane_waits_iff.mp h
  rw [ha, hrow] at hother
  cases hother
  exact .waiting hw hwait

private theorem free_of_lane_is_idle {i : AssignmentId} {b : AttemptId} {s : SourceId} {x : LaneSource}
    (h : lane_is_idle db i b = true) (ha : b = a) (hrow : db.attempts.get? a = some attempt)
    (hsource : db.lanes.sources s = some x) (howner : x.attempt_id = a) (hresolved : x.phase = .resolved) :
    StandsAt db a attempt (.source s) := by
  obtain ⟨other, hother, -, hidle⟩ := lane_is_idle_iff.mp h
  rw [ha, hrow] at hother
  cases hother
  exact .free hidle hsource howner hresolved

theorem dispatch_is_current_iff {d : DispatchId} {dispatch : DispatchTurn} : dispatch_is_current db d dispatch = true ↔
    (∃ attempt, db.attempts.get? dispatch.attempt_id = some attempt ∧ attempt.assignment_id = dispatch.assignment_id ∧
      attempt.status = .running ∧ attempt.current_dispatch_id = some d ∧ attempt.current_wait_id = none) ∧
    db.task.status = .running ∧ current_team_selects_member db dispatch.selection = true := by
  simp only [dispatch_is_current, dispatch_attempt_is_current, Bool.and_eq_true, attempt_dispatch_is_current_iff,
    Attempt.holds_iff, beq_iff_eq, and_assoc]

private theorem mapped_row {α β : Type} {row : Option α} {x : α} {f : α → β} {y : β} (hrow : row = some x)
    (h : row.map f = some y) : f x = y := by
  rw [hrow] at h
  exact Option.some.inj h

/-- What a startup finds for the lane of a running Attempt is where the lane stands. -/
theorem StartupFound.stands (hreachable : controller.runtime.Reachable db) (hrunning : db.task.status = .running)
    (h : StartupFound timeout task_id db family k signal) (hlane : signal.lane task_id db = some a)
    (hrow : db.attempts.get? a = some attempt) (hattempt : attempt.status = .running) :
    StandsAt db a attempt signal.referent := by
  have hsound := Controller.sound hreachable
  have hactive : db.lanes.Active := .inl hrunning
  cases h with
  | task_start runnable =>
    obtain ⟨d, hstarted⟩ := Option.isSome_iff_exists.mp hsound.started
    simp [task_start_is_runnable, hstarted] at runnable
  | joined row complete =>
    simp only [wave_is_complete, Bool.and_eq_true] at complete
    have hlane := mapped_row row hlane
    exact waiting_of_lane_waits complete.1.2 hlane hrow
  | @settled _ wave row continues =>
    simp only [wave_continues, Bool.and_eq_true, beq_iff_eq, Option.isNone_iff_eq_none] at continues
    obtain ⟨⟨⟨hsettled, hnone⟩, -⟩, hidle⟩ := continues
    have hlane := mapped_row row hlane
    refine free_of_lane_is_idle hidle hlane hrow (Table.view_eq_some.mpr ⟨wave, row, rfl⟩) hlane ?_
    simp [DelegationWave.lane, SourcePhase.of, hnone, hsettled, WaveStatus.phase]
  | @replanned _ transition row unended =>
    have hlane := mapped_row row hlane
    have hnone : transition.successor_dispatch_id = none := by
      have hnames := Controller.transitions hreachable row
      cases hsuccessor : transition.successor_dispatch_id with
      | none => rfl
      | some d =>
        rw [hnames.mpr (Option.isSome_of_eq_some hsuccessor)] at unended
        cases unended
    have hphase : transition.lane.phase = .resolved := by
      simp only [ReplanTransition.lane, SourcePhase.of, hnone, Option.elim_none]
      cases hstate : transition.successor_state <;> simp_all [SuccessorState.is_ended, SuccessorState.phase]
    have hsource : db.lanes.sources (.replan_transition k) = some transition.lane :=
      Table.view_eq_some.mpr ⟨transition, row, rfl⟩
    refine .free ((Controller.tails hreachable).idle_of_resolved hsound.lanes hactive hsource hphase
      (Table.view_eq_some.mpr ⟨attempt, ?_, rfl⟩) hattempt) hsource hlane hphase
    rwa [← hlane] at hrow
  | asked row is_open waits =>
    have hlane := mapped_row row hlane
    exact waiting_of_lane_waits waits hlane hrow
  | @answered _ request row terminal unfollowed idle =>
    have hlane := mapped_row row hlane
    refine free_of_lane_is_idle idle hlane hrow (Table.view_eq_some.mpr ⟨request, row, rfl⟩) hlane ?_
    simp [HumanRequest.lane, SourcePhase.of, unfollowed, terminal]
  | @command_ended _ run row terminal unfollowed idle =>
    have hlane := mapped_row row hlane
    refine free_of_lane_is_idle idle hlane hrow (Table.view_eq_some.mpr ⟨run, row, rfl⟩) hlane ?_
    simp [CommandRun.lane, SourcePhase.of, unfollowed, terminal]
  | command_pending row state waits | command_running row state waits =>
    have hlane := mapped_row row hlane
    exact waiting_of_lane_waits waits hlane hrow
  | @command_cancellation _ run row state =>
    have hlane := mapped_row row hlane
    have hlive : run.state.is_terminal = false := by rw [state]; rfl
    obtain ⟨hnone, -⟩ := Controller.live_runs_wait hreachable k run row hlive
    obtain ⟨w, wait, other, hwait, hsource, hother, hcurrent⟩ :=
      LiveRunsWait.wait_row hsound hactive row hlive hnone
    rw [hlane, hrow] at hother
    cases hother
    have hstands := StandsAt.waiting (a := a) hcurrent hwait
    rwa [hsource] at hstands
  | starting row current | is_open row _ current =>
    have hlane := mapped_row row hlane
    obtain ⟨⟨other, hother, -, -, hcurrent, -⟩, -⟩ := dispatch_is_current_iff.mp current
    rw [hlane, hrow] at hother
    cases hother
    exact .held hcurrent

/-- One look at the rows gives one signal for one source. -/
theorem StartupFound.same_referent (h : StartupFound timeout task_id db family k signal)
    (h' : StartupFound timeout task_id db family' k' signal') (hsame : signal.referent = signal'.referent) :
    signal = signal' := by
  cases h with
  | task_start => cases h' <;> first | rfl | cases hsame
  | joined row complete | settled row complete =>
    cases h' <;> cases hsame <;> simp_all [wave_is_complete, wave_continues]
  | replanned =>
    cases h' <;> cases hsame
    simp_all
  | asked row is_open | answered row terminal =>
    cases h' <;> cases hsame <;> simp_all [HumanRequestStatus.is_terminal]
  | command_ended row terminal | command_pending row state | command_running row state
  | command_cancellation row state =>
    cases h' <;> cases hsame <;> simp_all [CommandRunState.is_terminal]
  | starting row current due | is_open row is_open current unowned started =>
    cases h' <;> cases hsame <;> simp_all [DispatchTurn.next_provider_start_at]

/-! # What is found of a lane -/

/-- A lane that waits for a Wave of which a child is still at work. -/
structure WaitsForChild (db : TaskDb) (attempt : Attempt) (a' : AttemptId) : Prop where
  child : ∃ w wait wave k member child attempt', attempt.current_wait_id = some w ∧
    db.attempt_waits.get? w = some wait ∧ wait.source = .delegation_wave wave ∧
      db.delegation_wave_members.get? (wave, k) = some member ∧ member.status = .pending ∧
        db.assignments.get? member.child_assignment_id = some child ∧ child.current_attempt_id = a' ∧
          child.terminal_outcome = none ∧ db.attempts.get? a' = some attempt' ∧ attempt'.status = .running

private theorem lane_waits_of {w : WaitId} {wait : AttemptWait} (hsound : Sound db)
    (hrow : db.attempts.get? a = some attempt)
    (hcurrent : attempt.current_wait_id = some w) (hwait : db.attempt_waits.get? w = some wait) :
    wait.attempt_id = a ∧ lane_waits db wait = true := by
  have hview : db.lanes.attempts a = some attempt.lane := Table.view_eq_some.mpr ⟨attempt, hrow, rfl⟩
  have hstored : db.lanes.waits w = some wait := Table.view_eq_some.mpr ⟨wait, hwait, rfl⟩
  obtain ⟨hrunning, v, hv, howner⟩ := hsound.lanes.pointers.wait_pointer a _ w hview hcurrent
  obtain rfl := Option.some.inj (hstored.symm.trans hv)
  obtain ⟨r, hr, -, hassignment⟩ := hsound.lanes.pointers.wait_row w wait hstored
  rw [howner, hview] at hr
  cases hr
  refine ⟨howner, lane_waits_iff.mpr ⟨attempt, w, by rwa [howner], hassignment.symm, hrunning, ?_, hcurrent, hwait⟩⟩
  cases hd : attempt.current_dispatch_id with
  | none => rfl
  | some d => cases (hsound.lanes.pointers.dispatch_pointer a _ d hview hd).2.2.1.symm.trans hcurrent

private theorem waiting_found (hreachable : controller.runtime.Reachable db) (hrunning : db.task.status = .running)
    {w : WaitId} {wait : AttemptWait} (hrow : db.attempts.get? a = some attempt)
    (hcurrent : attempt.current_wait_id = some w) (hwait : db.attempt_waits.get? w = some wait) :
    (∃ family k signal, StartupFound timeout task_id db family k signal ∧ signal.lane task_id db = some a) ∨
      ∃ a', WaitsForChild db attempt a' := by
  have hsound := Controller.sound hreachable
  have hactive : db.lanes.Active := .inl hrunning
  obtain ⟨howner, hwaits⟩ := lane_waits_of hsound hrow hcurrent hwait
  cases source_ready hsound.lanes.waiting hactive hwait with
  | @human_request id request source row waited =>
    simp only [HumanRequest.is_waited_by, Bool.and_eq_true, beq_iff_eq] at waited
    obtain ⟨⟨⟨⟨hassignment, hattempt⟩, hdispatch⟩, hopen⟩, -⟩ := waited
    have hsame : request.wait id = wait := by
      rw [HumanRequest.wait, hassignment, hattempt, hdispatch, ← source]
    rw [← hsame] at hwaits
    exact .inl ⟨_, _, _, .asked row hopen hwaits, by simp [RuntimeEffectSignal.lane, row, hattempt, howner]⟩
  | @command_run id run row waited live unfollowed =>
    have hattempt : run.attempt_id = a := by rw [← howner, ← waited, CommandRun.wait]
    have hlane : (db.command_runs.get? id).map CommandRun.attempt_id = some a := by simp [row, hattempt]
    rw [← waited] at hwaits
    cases hstate : run.state with
    | pending_start => exact .inl ⟨_, _, _, .command_pending row hstate hwaits, hlane⟩
    | running => exact .inl ⟨_, _, _, .command_running row hstate hwaits, hlane⟩
    | cancellation_requested => exact .inl ⟨_, _, _, .command_cancellation row hstate, hlane⟩
    | succeeded | failed | timed_out | cancelled | abandoned =>
      rw [hstate] at live
      cases live
  | @delegation_wave id wave source row waited =>
    simp only [DelegationWave.is_waited_by, DelegationWave.is_open, Bool.and_eq_true, beq_iff_eq] at waited
    obtain ⟨⟨⟨hassignment, hattempt⟩, hdispatch⟩, hopen, hnone⟩ := waited
    have hsame : wave.wait id = wait := by
      rw [DelegationWave.wait, hassignment, hattempt, hdispatch, ← source]
    rw [← hsame] at hwaits
    cases hleft : db.delegation_wave_members.any fun key member => key.1 == id && !member.status.is_settled with
    | false =>
      refine .inl ⟨_, _, _, .joined row ?_, by simp [RuntimeEffectSignal.lane, row, hattempt, howner]⟩
      simp [wave_is_complete, hopen, hnone, hrunning, hwaits, hleft]
    | true =>
      obtain ⟨⟨wave_id, k⟩, member, hmember, hunsettled⟩ := Table.any_eq_true_iff.mp hleft
      simp only [Bool.and_eq_true, beq_iff_eq, Bool.not_eq_true'] at hunsettled
      obtain ⟨rfl, hunsettled⟩ := hunsettled
      have henlisted := Controller.enlisted hreachable
      have hview : db.lanes.wave_members (wave_id, k) = some member.lane :=
        Table.view_eq_some.mpr ⟨member, hmember, rfl⟩
      obtain ⟨x, c, -, hc, -⟩ := henlisted.child _ _ hview
      obtain ⟨hpending, hnone⟩ := henlisted.unsettled _ _ c hactive hview hunsettled hc
      obtain ⟨r, hr, -, hchild⟩ := hsound.lanes.pointers.open_assignment _ c hactive hc hnone
      obtain ⟨child, hchild_row, rfl⟩ := Table.view_eq_some.mp hc
      obtain ⟨attempt', hattempt', rfl⟩ := Table.view_eq_some.mp hr
      exact .inr ⟨child.current_attempt_id, ⟨w, wait, wave_id, k, member, child, attempt', hcurrent, hwait,
        source, hmember, hpending, hchild_row, rfl, hnone, hattempt', hchild⟩⟩

private theorem held_found (hreachable : controller.runtime.Reachable db) {d : DispatchId}
    (hrow : db.attempts.get? a = some attempt) (hcurrent : attempt.current_dispatch_id = some d) :
    ∃ family k signal, StartupFound timeout task_id db family k signal ∧ signal.lane task_id db = some a := by
  have hsound := Controller.sound hreachable
  have hview : db.lanes.attempts a = some attempt.lane := Table.view_eq_some.mpr ⟨attempt, hrow, rfl⟩
  obtain ⟨hrunning, hattempt, hwait, q, hq, howner, hlive⟩ :=
    hsound.lanes.pointers.dispatch_pointer a _ d hview hcurrent
  obtain ⟨r, hr, hassignment⟩ := hsound.lanes.pointers.dispatch_attempt d q hq
  have hselected := hsound.lanes.selection.live_selected d q hq hlive
  obtain ⟨dispatch, hdispatch, rfl⟩ := Table.view_eq_some.mp hq
  have hof : dispatch.attempt_id = a := howner
  rw [howner, hview] at hr
  cases hr
  have hiscurrent : dispatch_is_current db d dispatch = true := by
    rw [← hof] at hrow
    exact dispatch_is_current_iff.mpr ⟨⟨attempt, hrow, hassignment, hattempt, hcurrent, hwait⟩, hrunning,
      team_revision_selects_member_iff.mpr hselected⟩
  have hlane : (db.dispatches.get? d).map DispatchTurn.attempt_id = some a := by simp [hdispatch, hof]
  cases hstatus : dispatch.status with
  | starting due_at kind =>
    exact ⟨_, _, _, .starting hdispatch hiscurrent (by rw [DispatchTurn.next_provider_start_at, hstatus]), hlane⟩
  | «open» =>
    obtain ⟨started_at, hstarted⟩ :=
      Option.isSome_iff_exists.mp (Controller.open_accepted hreachable d dispatch hdispatch hstatus)
    refine ⟨_, _, _, .is_open hdispatch hstatus hiscurrent ?_ hstarted, hlane⟩
    -- what a Dispatch leaves behind is left when it closes
    have hnone : ∀ s x, db.lanes.sources s = some x → x.source_dispatch_id ≠ some d := by
      intro s x hx hsource
      obtain ⟨q, hq', -, -, -, hclosed⟩ := hsound.lanes.lineage.source_row s x d hx hsource
      rw [hq] at hq'
      cases hq'
      exact hclosed hlive
    unfold dispatch_owns_external_source
    rw [Bool.or_eq_false_iff, Table.any_eq_false_iff, Table.any_eq_false_iff]
    constructor
    · intro id request hrequest
      have := hnone (.human_request id) request.lane (Table.view_eq_some.mpr ⟨request, hrequest, rfl⟩)
      simpa [HumanRequest.lane] using this
    · intro id run hrun
      have := hnone (.command_run id) run.lane (Table.view_eq_some.mpr ⟨run, hrun, rfl⟩)
      simpa [CommandRun.lane] using this
  | closed reason =>
    simp [DispatchTurn.lane, hstatus, DispatchStatus.closed_reason] at hlive

private theorem of_resolved {successor : Option DispatchId} {phase : SourcePhase}
    (h : SourcePhase.of successor phase = .resolved) : successor = none ∧ phase = .resolved := by
  cases successor with
  | none => exact ⟨rfl, h⟩
  | some d => cases h

private theorem free_found (hreachable : controller.runtime.Reachable db) (hrunning : db.task.status = .running)
    (hrow : db.attempts.get? a = some attempt) (hidle : attempt.lane.Idle) :
    ∃ family k signal, StartupFound timeout task_id db family k signal ∧ signal.lane task_id db = some a := by
  have hsound := Controller.sound hreachable
  have hview : db.lanes.attempts a = some attempt.lane := Table.view_eq_some.mpr ⟨attempt, hrow, rfl⟩
  obtain ⟨s, x, hsource, howner, hresolved⟩ :=
    Controller.continuable hreachable hrunning (.inl hrunning) a _ hview hidle
  obtain ⟨p, q, hp, hq, -⟩ := (Controller.tails hreachable).source_dispatch hsound.lanes.lineage hsource hresolved
  obtain ⟨q', hq', hqa, hqi, -⟩ := hsound.lanes.lineage.source_row s x p hsource hp
  obtain ⟨r, hr, hassignment⟩ := hsound.lanes.pointers.dispatch_attempt p q' hq'
  rw [hqa, howner, hview] at hr
  cases hr
  have hi : attempt.assignment_id = x.assignment_id := hassignment.trans hqi
  have hisidle : lane_is_idle db x.assignment_id x.attempt_id = true := by
    rw [howner]
    exact lane_is_idle_iff.mpr ⟨attempt, hrow, hi, hidle⟩
  cases s with
  | task_start =>
    obtain ⟨d, hconsumed⟩ := (Controller.tails hreachable).started x hsource
    cases hresolved.symm.trans hconsumed
  | delegation_wave id =>
    obtain ⟨wave, hwave, rfl⟩ := Table.view_eq_some.mp hsource
    obtain ⟨hnone, hphase⟩ := of_resolved hresolved
    have hstatus : wave.status = .settled := by
      cases hstatus : wave.status <;> simp_all [WaveStatus.phase]
    have hisidle : lane_is_idle db wave.parent_assignment_id wave.parent_attempt_id = true := hisidle
    refine ⟨_, _, _, .settled hwave ?_, ?_⟩
    · simp [wave_continues, hstatus, hnone, hrunning, hisidle]
    · rw [RuntimeEffectSignal.lane, hwave]
      exact congrArg some howner
  | human_request id =>
    obtain ⟨request, hrequest, rfl⟩ := Table.view_eq_some.mp hsource
    obtain ⟨hnone, hphase⟩ := of_resolved hresolved
    have hterminal : request.status.is_terminal = true := by
      by_contra hopen
      rw [if_neg hopen] at hphase
      cases hphase
    refine ⟨_, _, _, .answered hrequest hterminal hnone hisidle, ?_⟩
    rw [RuntimeEffectSignal.lane, hrequest]
    exact congrArg some howner
  | command_run id =>
    obtain ⟨run, hrun, rfl⟩ := Table.view_eq_some.mp hsource
    obtain ⟨hnone, hphase⟩ := of_resolved hresolved
    have hterminal : run.state.is_terminal = true := by
      by_contra hopen
      rw [if_neg hopen] at hphase
      cases hphase
    refine ⟨_, _, _, .command_ended hrun hterminal hnone hisidle, ?_⟩
    rw [RuntimeEffectSignal.lane, hrun]
    exact congrArg some howner
  | replan_transition id =>
    obtain ⟨transition, htransition, rfl⟩ := Table.view_eq_some.mp hsource
    obtain ⟨hnone, hphase⟩ := of_resolved hresolved
    have hnames := Controller.transitions hreachable htransition
    have hunended : transition.successor_state.is_ended = false := by
      cases hstate : transition.successor_state <;>
        simp_all [SuccessorState.is_ended, SuccessorState.phase, ReplanTransition.NamesSuccessor]
    refine ⟨_, _, _, .replanned htransition hunended, ?_⟩
    rw [RuntimeEffectSignal.lane, htransition]
    exact congrArg some howner

/-- A lane that waits for a child still at work stands there, and no row of it is due. -/
private theorem WaitsForChild.not_found {a' : AttemptId} (hreachable : controller.runtime.Reachable db)
    (hrunning : db.task.status = .running) (hrow : db.attempts.get? a = some attempt)
    (hattempt : attempt.status = .running) (hwaits : WaitsForChild db attempt a')
    (h : StartupFound timeout task_id db family k signal) (hlane : signal.lane task_id db = some a) : False := by
  obtain ⟨w, wait, wave_id, i, member, child, attempt', hcurrent, hwait, hsource, hmember, hpending, -⟩ := hwaits
  have hstands : StandsAt db a attempt (.source wait.source.source_id) := .waiting hcurrent hwait
  have hsame := (h.stands hreachable hrunning hlane hrow hattempt).unique (Controller.sound hreachable)
    (Controller.tails hreachable) hrow hstands
  rw [hsource] at hsame
  cases h with
  | joined row complete =>
    cases hsame
    simp only [wave_is_complete, Bool.and_eq_true, Bool.not_eq_true', Table.any_eq_false_iff] at complete
    have hsettled := complete.2 _ _ hmember
    simp [hpending, WaveMemberStatus.is_settled] at hsettled
  | settled row continues =>
    simp only [wave_continues, Bool.and_eq_true] at continues
    have hlane := mapped_row row hlane
    obtain ⟨other, hother, -, hidle⟩ := lane_is_idle_iff.mp continues.2
    rw [hlane, hrow] at hother
    cases hother
    cases hidle.no_wait.symm.trans hcurrent
  | _ => cases hsame

/-- The lane of one Attempt waits for the lane of another. -/
def LaneAwaits (db : TaskDb) (a a' : AttemptId) : Prop :=
  ∃ attempt, db.attempts.get? a = some attempt ∧ WaitsForChild db attempt a'

/-- What an audit publishes about the lanes of a running Task. -/
structure LanesRecovered (db : TaskDb) (task_id : TaskId) (published : List RuntimeEffectSignal) : Prop where
  once : ∀ a attempt, db.attempts.get? a = some attempt → attempt.status = .running →
    (∃ signal, (published.filter fun signal => signal.lane task_id db == some a) = [signal] ∧
      StandsAt db a attempt signal.referent) ∨
    (published.filter fun signal => signal.lane task_id db == some a) = [] ∧ ∃ a', WaitsForChild db attempt a'
  ends : ∀ a attempt, db.attempts.get? a = some attempt → attempt.status = .running → ∃ a',
    Relation.ReflTransGen (LaneAwaits db) a a' ∧
      ∃ signal, (published.filter fun signal => signal.lane task_id db == some a') = [signal]

/-- A child still at work serves a Member below that of the lane that waits for it. -/
private theorem WaitsForChild.below {a' : AttemptId} (hreachable : controller.runtime.Reachable db)
    (hrunning : db.task.status = .running) (hrow : db.attempts.get? a = some attempt)
    (hwaits : WaitsForChild db attempt a') {rev : TeamRevision} (hrev : db.lanes.current_team = some rev) :
    ∃ c c' attempt', db.lanes.assignments attempt.assignment_id = some c ∧ db.attempts.get? a' = some attempt' ∧
      attempt'.status = .running ∧ db.lanes.assignments attempt'.assignment_id = some c' ∧
        rev.parent c'.member_id = some c.member_id := by
  have hsound := Controller.sound hreachable
  have hactive : db.lanes.Active := .inl hrunning
  obtain ⟨w, wait, wave_id, i, member, child, attempt', hcurrent, hwait, hsource, hmember, -, hchild, rfl, hopen,
    hattempt', hrunning'⟩ := hwaits
  have hview : db.lanes.attempts a = some attempt.lane := Table.view_eq_some.mpr ⟨attempt, hrow, rfl⟩
  have hstored : db.lanes.waits w = some wait := Table.view_eq_some.mpr ⟨wait, hwait, rfl⟩
  have hc : db.lanes.assignments member.child_assignment_id = some child.lane :=
    Table.view_eq_some.mpr ⟨child, hchild, rfl⟩
  obtain ⟨-, v, hv, howner⟩ := hsound.lanes.pointers.wait_pointer a _ w hview hcurrent
  obtain rfl := Option.some.inj (hstored.symm.trans hv)
  obtain ⟨r, hr, -, hassignment⟩ := hsound.lanes.pointers.wait_row w wait hstored
  rw [howner, hview] at hr
  cases hr
  obtain ⟨x, hx, -, -, hi, -⟩ := hsound.lanes.waiting.wait_source w wait hactive hstored
  obtain ⟨x', c', hx', hc', hparent⟩ :=
    (Controller.enlisted hreachable).child (wave_id, i) _ (Table.view_eq_some.mpr ⟨member, hmember, rfl⟩)
  rw [hsource] at hx
  obtain rfl := Option.some.inj (hx.symm.trans hx')
  obtain rfl := Option.some.inj (hc.symm.trans hc')
  obtain ⟨cp, hcp, -, hbelow⟩ := hsound.lanes.quiescence.open_parent _ _ _ hactive hc hopen hparent
  obtain ⟨r, hr, hserves, -⟩ := hsound.lanes.pointers.open_assignment _ _ hactive hc hopen
  obtain rfl := Option.some.inj ((Table.view_eq_some.mpr ⟨attempt', hattempt', rfl⟩ :
    db.lanes.attempts child.current_attempt_id = some attempt'.lane).symm.trans hr)
  refine ⟨cp, child.lane, attempt', ?_, hattempt', hrunning', ?_, hbelow rev hrev⟩
  · rwa [hi, hassignment] at hcp
  · rwa [← hserves] at hc

/-- What an audit publishes about one lane. -/
private theorem published_about {published : List RuntimeEffectSignal}
    (hunique : (published.filter fun signal => (signal.lane task_id db).isSome).Nodup)
    (hall : ∀ signal, (signal ∈ published ∧ (signal.lane task_id db).isSome = true) ↔
      ∃ family k, StartupFound timeout task_id db family k signal) :
    (published.filter fun signal => signal.lane task_id db == some a).Nodup ∧
      ∀ signal, signal ∈ published.filter (fun signal => signal.lane task_id db == some a) ↔
        (∃ family k, StartupFound timeout task_id db family k signal) ∧ signal.lane task_id db = some a := by
  constructor
  · refine hunique.sublist (List.monotone_filter_right published fun signal hlane => ?_)
    exact Option.isSome_of_eq_some (beq_iff_eq.mp hlane)
  · intro signal
    rw [List.mem_filter, beq_iff_eq, ← hall]
    exact ⟨fun ⟨hmem, hlane⟩ => ⟨⟨hmem, Option.isSome_of_eq_some hlane⟩, hlane⟩,
      fun ⟨⟨hmem, _⟩, hlane⟩ => ⟨hmem, hlane⟩⟩

private theorem eq_singleton {α : Type} {l : List α} {x : α} (hunique : l.Nodup) (hmem : x ∈ l)
    (hsame : ∀ y ∈ l, y = x) : l = [x] := by
  cases l with
  | nil => cases hmem
  | cons y rest =>
    obtain rfl := hsame y List.mem_cons_self
    cases rest with
    | nil => rfl
    | cons z rest =>
      obtain rfl := hsame z (List.mem_cons_of_mem _ List.mem_cons_self)
      exact absurd List.mem_cons_self (List.nodup_cons.mp hunique).1

/-- A running lane is found, or waits for a child still at work. -/
private theorem lane_found (timeout : Nat) (task_id : TaskId) (hreachable : controller.runtime.Reachable db)
    (hrunning : db.task.status = .running) (hrow : db.attempts.get? a = some attempt)
    (hattempt : attempt.status = .running) :
    (∃ family k signal, StartupFound timeout task_id db family k signal ∧ signal.lane task_id db = some a) ∨
      ∃ a', WaitsForChild db attempt a' := by
  cases hdispatch : attempt.current_dispatch_id with
  | some d => exact .inl (held_found hreachable hrow hdispatch)
  | none =>
    cases hcurrent : attempt.current_wait_id with
    | none => exact .inl (free_found hreachable hrunning hrow ⟨hattempt, hdispatch, hcurrent⟩)
    | some w =>
      have hview : db.lanes.attempts a = some attempt.lane := Table.view_eq_some.mpr ⟨attempt, hrow, rfl⟩
      obtain ⟨-, v, hv, -⟩ := (Controller.sound hreachable).lanes.pointers.wait_pointer a _ w hview hcurrent
      obtain ⟨wait, hwait, -⟩ := Table.view_eq_some.mp hv
      exact waiting_found hreachable hrunning hrow hcurrent hwait

/-- Exactly one signal is published about a running lane, of a row that the startup found, or none while it waits for a
    child still at work. -/
private theorem lane_published (hreachable : controller.runtime.Reachable db) (hrunning : db.task.status = .running)
    {published : List RuntimeEffectSignal}
    (hunique : (published.filter fun signal => (signal.lane task_id db).isSome).Nodup)
    (hall : ∀ signal, (signal ∈ published ∧ (signal.lane task_id db).isSome = true) ↔
      ∃ family k, StartupFound timeout task_id db family k signal)
    (hrow : db.attempts.get? a = some attempt) (hattempt : attempt.status = .running) :
    (∃ family k signal, (published.filter fun signal => signal.lane task_id db == some a) = [signal] ∧
      StartupFound timeout task_id db family k signal ∧ signal.lane task_id db = some a) ∨
    (published.filter fun signal => signal.lane task_id db == some a) = [] ∧ ∃ a', WaitsForChild db attempt a' := by
  obtain ⟨hnodup, hmem⟩ := published_about (a := a) hunique hall
  obtain ⟨family, k, signal, hfound, hlane⟩ | ⟨a', hwaits⟩ :=
    lane_found timeout task_id hreachable hrunning hrow hattempt
  · have hstands := hfound.stands hreachable hrunning hlane hrow hattempt
    refine .inl ⟨family, k, signal, eq_singleton hnodup ((hmem signal).mpr ⟨⟨family, k, hfound⟩, hlane⟩)
      fun other hother => ?_, hfound, hlane⟩
    obtain ⟨⟨family', k', hfound'⟩, hlane'⟩ := (hmem other).mp hother
    exact hfound'.same_referent hfound ((hfound'.stands hreachable hrunning hlane' hrow hattempt).unique
      (Controller.sound hreachable) (Controller.tails hreachable) hrow hstands)
  · refine .inr ⟨List.eq_nil_iff_forall_not_mem.mpr fun signal hsignal => ?_, a', hwaits⟩
    obtain ⟨⟨family, k, hfound⟩, hlane⟩ := (hmem signal).mp hsignal
    exact hwaits.not_found hreachable hrunning hrow hattempt hfound hlane

theorem LanesRecovered.of_found (hreachable : controller.runtime.Reachable db) (hrunning : db.task.status = .running)
    {published : List RuntimeEffectSignal} (hunique :
      (published.filter fun signal => (signal.lane task_id db).isSome).Nodup)
    (hall : ∀ signal, (signal ∈ published ∧ (signal.lane task_id db).isSome = true) ↔
      ∃ family k, StartupFound timeout task_id db family k signal) : LanesRecovered db task_id published := by
  have honce : ∀ a attempt, db.attempts.get? a = some attempt → attempt.status = .running →
      (∃ signal, (published.filter fun signal => signal.lane task_id db == some a) = [signal] ∧
        StandsAt db a attempt signal.referent) ∨
      (published.filter fun signal => signal.lane task_id db == some a) = [] ∧ ∃ a', WaitsForChild db attempt a' := by
    intro a attempt hrow hattempt
    refine (lane_published hreachable hrunning hunique hall hrow hattempt).imp_left ?_
    rintro ⟨family, k, signal, honly, hfound, hlane⟩
    exact ⟨signal, honly, hfound.stands hreachable hrunning hlane hrow hattempt⟩
  refine ⟨honce, fun a attempt hrow hattempt => ?_⟩
  have hsound := Controller.sound hreachable
  obtain ⟨-, rev, -, hrev, -⟩ := hsound.lanes.selection.root_member
  have hformed := hsound.lanes.selection.history.well_formed _ rev hrev
  obtain ⟨s, hselect, hnone⟩ := hformed.root
  have hroot : rev.parent rev.root_member_id = none := by simp [TeamRevision.parent, hselect, hnone]
  obtain ⟨c, hc, -, -⟩ := hsound.lanes.pointers.running_attempt a _
    (Table.view_eq_some.mpr ⟨attempt, hrow, rfl⟩) hattempt
  -- the lanes that are waited for serve Members ever further down
  have hrooted : ∀ m ∈ rev.members.map TeamRevisionMember.member_id,
    Forest.BelowOrEq rev.parent m rev.root_member_id := by
    intro m hm
    obtain ⟨s, hs, rfl⟩ := List.mem_map.mp hm
    exact hformed.rooted _ (Option.isSome_of_eq_some (TeamRevision.select_of_mem hformed.nodup hs))
  have hends := Forest.descent_ends hroot hrooted c.member_id
  generalize hm : c.member_id = m at hends
  induction hends generalizing a attempt c with
  | intro m _ ih =>
    subst hm
    obtain ⟨signal, hsignal, -⟩ | ⟨-, a', hwaits⟩ := honce a attempt hrow hattempt
    · exact ⟨a, .refl, signal, hsignal⟩
    · obtain ⟨c₀, c', attempt', hc₀, hrow', hattempt', hc', hparent⟩ := hwaits.below hreachable hrunning hrow hrev
      obtain rfl := Option.some.inj (hc.symm.trans hc₀)
      have hselected : (rev.select c'.member_id).isSome := by
        cases hselect : rev.select c'.member_id with
        | none => simp [TeamRevision.parent, hselect] at hparent
        | some s => rfl
      obtain ⟨s, hs⟩ := Option.isSome_iff_exists.mp hselected
      have hmember : c'.member_id ∈ rev.members.map TeamRevisionMember.member_id :=
        List.mem_map.mpr ⟨s, TeamRevision.mem_of_select hs, TeamRevision.select_member_id hs⟩
      obtain ⟨b, hb, hsignal⟩ := ih _ ⟨hmember, hparent⟩ a' attempt' hrow' hattempt' c' hc' rfl
      exact ⟨b, .head ⟨attempt, hrow, hwaits⟩ hb, hsignal⟩

/-! # What the handlers find -/

/-- What the handlers of published signals find in the rows that the signals were read from. -/
structure SignalsAccepted (db : TaskDb) (task_id : TaskId) (timeout : Nat) (published : List RuntimeEffectSignal) :
    Prop where
  starts : ∀ due, .dispatch_start_due due ∈ published → (db.dispatches.get? due.dispatch_id).isSome →
    ∃ candidate, read_provider_start_candidate db due = some candidate ∧
      provider_start_is_current db due candidate = true
  deadlines : ∀ due now, .watchdog_deadline_changed due ∈ published → (db.dispatches.get? due.dispatch_id).isSome →
    due.due_at ≤ now → (read_stale_dispatch db due now timeout).isSome
  joins : ∀ wave_id, .wave_member_settled wave_id ∈ published → (db.delegation_waves.get? wave_id).isSome →
    db.task.status = .running → ∃ db', settle_delegation_wave db wave_id = .ok (true, db')
  joined : ∀ wave_id, .delegation_wave_settled wave_id ∈ published → (db.delegation_waves.get? wave_id).isSome →
    ∃ basis, read_delegation_wave_continuation_basis wave_id db = .ok (some basis)
  answers : ∀ request_id, .human_request_terminal request_id ∈ published → (db.human_requests.get? request_id).isSome →
    ∃ basis, read_human_request_continuation_basis request_id db = .ok (some basis)
  ended_runs : ∀ run_id, .command_run_terminal run_id ∈ published → (db.command_runs.get? run_id).isSome →
    ∃ basis, read_command_run_continuation_basis run_id db = .ok (some basis)

/-- A start that is due is the generation that its handler launches. -/
theorem start_accepted {d : DispatchId} {dispatch : DispatchTurn} {due_at : Instant}
    (row : db.dispatches.get? d = some dispatch) (current : dispatch_is_current db d dispatch = true)
    (due : dispatch.next_provider_start_at = some due_at) :
    ∃ candidate, read_provider_start_candidate db ⟨d, dispatch.provider_start_revision, due_at⟩ = some candidate ∧
      provider_start_is_current db ⟨d, dispatch.provider_start_revision, due_at⟩ candidate = true := by
  obtain ⟨⟨attempt, hattempt, hassignment, hstatus, hcurrent, hwait⟩, hrunning, hselected⟩ :=
    dispatch_is_current_iff.mp current
  obtain ⟨kind, hstarting⟩ : ∃ kind, dispatch.status = .starting due_at kind := by
    unfold DispatchTurn.next_provider_start_at at due
    split at due
    · next hstatus =>
      cases due
      exact ⟨_, hstatus⟩
    · cases due
  refine ⟨⟨dispatch.team_revision_id, db.task.control_revision, dispatch.assignment_id, dispatch.attempt_id,
    dispatch.member_id, dispatch.opened_reason, dispatch.predecessor_dispatch_id, dispatch.provider_start_attempt_count,
    due_at⟩, ?_, ?_⟩
  · unfold read_provider_start_candidate
    simp only [row, hattempt, due, Option.bind_eq_bind, Option.bind_some]
    simp [ensure, hselected, hrunning, hstatus, hcurrent, hwait]
  · unfold provider_start_is_current starting_generation_is_current
    rw [row, Option.any_some]
    have hheld : dispatch_attempt_is_current db d dispatch = true :=
      attempt_dispatch_is_current_iff.mpr ⟨attempt, hattempt,
        Attempt.holds_iff.mpr ⟨hassignment, hstatus, hcurrent, hwait⟩⟩
    simp [DispatchTurn.is_starting_generation, hheld, hselected, hrunning, due]

/-- A deadline that was recomputed is the one at which its handler finds the Dispatch stale. -/
theorem deadline_accepted {d : DispatchId} {dispatch : DispatchTurn} {started_at now : Instant} (hsound : Sound db)
    (row : db.dispatches.get? d = some dispatch) (is_open : dispatch.status = .open)
    (current : dispatch_is_current db d dispatch = true) (unowned : dispatch_owns_external_source db d = false)
    (started : dispatch.adapter_started_at = some started_at)
    (hdue : calculate_watchdog_due_at started_at dispatch.last_node_activity_at timeout ≤ now) :
    (read_stale_dispatch db ⟨d, dispatch.node_activity_revision,
      calculate_watchdog_due_at started_at dispatch.last_node_activity_at timeout⟩ now timeout).isSome := by
  obtain ⟨⟨attempt, hattempt, hassignment, hstatus, hcurrent, hwait⟩, hrunning, hselected⟩ :=
    dispatch_is_current_iff.mp current
  obtain ⟨c, hc, hserves, hopen⟩ := hsound.lanes.pointers.running_attempt dispatch.attempt_id attempt.lane
    (Table.view_eq_some.mpr ⟨attempt, hattempt, rfl⟩) hstatus
  obtain ⟨c', hc', hmember⟩ := hsound.lanes.selection.dispatch_member d dispatch.lane
    (Table.view_eq_some.mpr ⟨dispatch, row, rfl⟩)
  change db.lanes.assignments attempt.assignment_id = some c at hc
  change db.lanes.assignments dispatch.assignment_id = some c' at hc'
  rw [hassignment] at hc
  obtain rfl := Option.some.inj (hc.symm.trans hc')
  obtain ⟨assignment, hrow, rfl⟩ := Table.view_eq_some.mp hc
  have hmember : assignment.member_id = dispatch.member_id := hmember
  have hserves : assignment.current_attempt_id = dispatch.attempt_id := hserves
  have hopen : assignment.terminal_outcome = none := hopen
  unfold read_stale_dispatch select_watchdog_rows
  simp only [row, hrow, hattempt, Option.bind_eq_bind, Option.bind_some]
  simp [ensure, hselected, hmember, hassignment, context_is_plausible, is_open, hrunning,
    Assignment.is_current, hserves, hopen, Attempt.holds, hstatus, hcurrent, hwait, hdue, unowned, started]

private theorem head_of_unique {α : Type} {l : List α} {x : α} (hmem : x ∈ l) (hsame : ∀ y ∈ l, y = x) :
    l.head? = some x := by
  cases l with
  | nil => cases hmem
  | cons y rest => rw [List.head?_cons, hsame y List.mem_cons_self]

/-- No other row than the one that the parent waits by is read for it. -/
private theorem parent_wait_read {w : WaitId} {wave_id : WaveId} {wave : DelegationWave} (hsound : Sound db)
    (hwait : db.attempt_waits.get? w = some (wave.wait wave_id)) :
    read_parent_wave_wait db wave_id wave = some (w, wave.wait wave_id) := by
  unfold read_parent_wave_wait
  refine head_of_unique (Table.mem_select_iff.mpr ⟨hwait, by simp [DelegationWave.wait]⟩) fun found hfound => ?_
  obtain ⟨w', v'⟩ := found
  obtain ⟨hv', hmatches⟩ := Table.mem_select_iff.mp hfound
  simp only [Bool.and_eq_true, beq_iff_eq] at hmatches
  obtain ⟨⟨⟨hsource, -⟩, -⟩, -⟩ := hmatches
  have hsame : w' = w := hsound.lanes.waiting.wait_unique w' v' w (wave.wait wave_id)
    (Table.view_eq_some.mpr ⟨v', hv', rfl⟩) (Table.view_eq_some.mpr ⟨_, hwait, rfl⟩) (by rw [hsource]; rfl)
  subst hsame
  rw [Option.some.inj (hv'.symm.trans hwait)]

private theorem complete_wave_claimed {wave_id : WaveId} {wave : DelegationWave} (hrunning : db.task.status = .running)
    (row : db.delegation_waves.get? wave_id = some wave) (is_open : wave.is_open = true)
    (hcomplete : incomplete_member db wave_id = false) :
    claim_complete_wave db wave_id =
      some { db with delegation_waves := db.delegation_waves.set wave_id { wave with status := .settled } } := by
  have hupdate : db.delegation_waves.updateWhere wave_id (fun wave => wave.is_open && !incomplete_member db wave_id)
      (fun wave => { wave with status := .settled }) =
      some (db.delegation_waves.set wave_id { wave with status := .settled }) :=
    Table.updateWhere_eq_some.mpr ⟨wave, row, by simp [is_open, hcomplete], rfl⟩
  simp [claim_complete_wave, ensure, hrunning, hupdate]

private theorem parent_wait_cleared {w : WaitId} {wait : AttemptWait}
    (hattempt : db.attempts.get? wait.attempt_id = some attempt)
    (hassignment : attempt.assignment_id = wait.assignment_id) (hstatus : attempt.status = .running)
    (hdispatch : attempt.current_dispatch_id = none) (hcurrent : attempt.current_wait_id = some w)
    (hwait : db.attempt_waits.get? w = some wait) : ∃ cleared, clear_parent_wave_wait db w wait = some cleared := by
  have hupdate : db.attempts.updateWhere wait.attempt_id
      (fun attempt => attempt.assignment_id == wait.assignment_id && attempt.status == .running &&
        attempt.current_dispatch_id.isNone && attempt.current_wait_id == some w)
      (fun attempt => { attempt with current_wait_id := none }) =
      some (db.attempts.set wait.attempt_id { attempt with current_wait_id := none }) :=
    Table.updateWhere_eq_some.mpr ⟨attempt, hattempt, by simp [hassignment, hstatus, hdispatch, hcurrent], rfl⟩
  simp [clear_parent_wave_wait, clear_current_attempt_wait, hupdate, ensure, hwait]

/-- A complete Wave of a running Task is settled by its handler. -/
theorem join_accepted {wave_id : WaveId} {wave : DelegationWave} (hsound : Sound db)
    (hrunning : db.task.status = .running)
    (row : db.delegation_waves.get? wave_id = some wave) (complete : wave_is_complete db wave_id wave = true) :
    ∃ db', settle_delegation_wave db wave_id = .ok (true, db') := by
  simp only [wave_is_complete, Bool.and_eq_true, beq_iff_eq, Option.isNone_iff_eq_none, Bool.not_eq_true'] at complete
  obtain ⟨⟨⟨⟨hopen, hnone⟩, -⟩, hwaits⟩, hcomplete⟩ := complete
  obtain ⟨attempt, w, hattempt, hassignment, hstatus, hdispatch, hcurrent, hwait⟩ := lane_waits_iff.mp hwaits
  have is_open : wave.is_open = true := DelegationWave.is_open_iff.mpr ⟨hopen, hnone⟩
  have hfilter : (db.delegation_waves.get? wave_id).filter DelegationWave.is_open = some wave := by
    rw [row, Option.filter_some, if_pos is_open]
  have hclaim := complete_wave_claimed hrunning row is_open hcomplete
  -- the claim of the Wave leaves the rows of the lane as they are
  obtain ⟨cleared, hcleared⟩ : ∃ cleared, clear_parent_wave_wait
      { db with delegation_waves := db.delegation_waves.set wave_id { wave with status := .settled } } w
      (wave.wait wave_id) = some cleared :=
    parent_wait_cleared hattempt hassignment hstatus hdispatch hcurrent hwait
  refine ⟨cleared, ?_⟩
  unfold settle_delegation_wave
  rw [hfilter]
  dsimp only
  rw [parent_wait_read hsound hwait]
  dsimp only
  rw [hclaim]
  dsimp only
  rw [hcleared]
  rfl

/-- The members of a settled Wave have the results that its continuation reads. -/
theorem settled_accepted {wave_id : WaveId} {wave : DelegationWave} (hreachable : controller.runtime.Reachable db)
    (row : db.delegation_waves.get? wave_id = some wave) (hstatus : wave.status = .settled)
    (hnone : wave.successor_dispatch_id = none) :
    ∃ basis, read_delegation_wave_continuation_basis wave_id db = .ok (some basis) := by
  have hwaiting := (Controller.sound hreachable).lanes.waiting
  have hview : db.lanes.sources (.delegation_wave wave_id) = some wave.lane := Table.view_eq_some.mpr ⟨wave, row, rfl⟩
  have hresolved : wave.lane.phase = .resolved := by simp [DelegationWave.lane, hstatus, hnone, SourcePhase.of, WaveStatus.phase]
  have hmembers : ∀ found ∈ wave_members db wave_id,
      has_terminal_truth db found.2 = true ∧ has_consistent_checkpoint db found.2 = true := by
    rintro ⟨⟨id, i⟩, member⟩ hfound
    obtain ⟨hmember, hid⟩ := Table.mem_select_iff.mp hfound
    obtain rfl := eq_of_beq hid
    have hlane : db.lanes.wave_members (id, i) = some member.lane := Table.view_eq_some.mpr ⟨member, hmember, rfl⟩
    have hsettled := hwaiting.joined id wave.lane i _ hview (.inl hresolved) hlane
    obtain ⟨x, c, -, hc, -⟩ := (Controller.enlisted hreachable).child (id, i) _ hlane
    obtain ⟨child, hchild, -⟩ := Table.view_eq_some.mp hc
    have hchild : db.assignments.get? member.child_assignment_id = some child := hchild
    cases hmemberstatus : member.status with
    | settled b outcome =>
      obtain ⟨r, hr, hassignment, houtcome⟩ := hwaiting.member_boundary (id, i) _ b outcome hlane hmemberstatus
      obtain ⟨boundary, hboundary, rfl⟩ := Table.view_eq_some.mp hr
      obtain ⟨checkpoint, hcheckpoint, hi, ha, hauthor, hsays⟩ :=
        Controller.boundaries_recorded hreachable b boundary hboundary
      have hassignment : boundary.assignment_id = member.child_assignment_id := hassignment
      have houtcome : boundary.outcome = outcome.boundary := houtcome
      constructor
      · simp [has_terminal_truth, hmemberstatus, hchild, hboundary, hcheckpoint, hassignment, hi, hsays, houtcome]
      · simp [has_consistent_checkpoint, hmemberstatus, hboundary, hcheckpoint, ha, hauthor, hsays]
    | pending | cancelled =>
      rw [show member.lane.status = member.status from rfl, hmemberstatus] at hsettled
      cases hsettled
  have htruth : ((wave_members db wave_id).all fun found => has_terminal_truth db found.2) = true :=
    List.all_eq_true.mpr fun found hfound => (hmembers found hfound).1
  have hconsistent : ((wave_members db wave_id).all fun found => has_consistent_checkpoint db found.2) = true :=
    List.all_eq_true.mpr fun found hfound => (hmembers found hfound).2
  refine ⟨delegation_wave_continuation_basis wave_id wave, ?_⟩
  unfold read_delegation_wave_continuation_basis
  rw [row]
  dsimp only
  rw [if_pos (DelegationWave.is_settled_unconsumed_iff.mpr ⟨hstatus, hnone⟩), htruth, hconsistent]
  rfl

/-! # What a crash leaves to recover -/

/-- The one source from which a running lane goes on after every timer, signal and process was lost, with the signal
    that its handler takes. -/
inductive RecoverableSource (db : TaskDb) (task_id : TaskId) (timeout : Nat) (a : AttemptId) (attempt : Attempt) :
    RuntimeEffectSignal → Prop
  | starting_dispatch {d dispatch due_at} (current : attempt.current_dispatch_id = some d)
      (row : db.dispatches.get? d = some dispatch) (due : dispatch.next_provider_start_at = some due_at) :
      RecoverableSource db task_id timeout a attempt
        (.dispatch_start_due ⟨d, dispatch.provider_start_revision, due_at⟩)
  | open_dispatch {dispatch due} (current : attempt.current_dispatch_id = some due.dispatch_id)
      (row : db.dispatches.get? due.dispatch_id = some dispatch) (is_open : dispatch.status = .open)
      (registers : register_deadline db due timeout = .registered due) :
      RecoverableSource db task_id timeout a attempt (.watchdog_deadline_changed due)
  | open_human_request {w id request} (current : attempt.current_wait_id = some w)
      (wait : db.attempt_waits.get? w = some (request.wait id)) (row : db.human_requests.get? id = some request)
      (is_open : request.status = .open) :
      RecoverableSource db task_id timeout a attempt (.human_request_opened id)
  | live_command_run {w id run} (current : attempt.current_wait_id = some w)
      (wait : db.attempt_waits.get? w = some (run.wait id)) (row : db.command_runs.get? id = some run)
      (live : run.state = .pending_start ∨ run.state = .running) :
      RecoverableSource db task_id timeout a attempt (.command_run_pending id)
  | stopping_command_run {w wait id run} (current : attempt.current_wait_id = some w)
      (wait_row : db.attempt_waits.get? w = some wait) (source : wait.source = .command_run id)
      (row : db.command_runs.get? id = some run) (requested : run.state = .cancellation_requested) :
      RecoverableSource db task_id timeout a attempt (.command_run_cancellation_requested id run.ownership_revision)
  | complete_wave {w id wave} (current : attempt.current_wait_id = some w)
      (wait : db.attempt_waits.get? w = some (wave.wait id)) (row : db.delegation_waves.get? id = some wave)
      (is_open : wave.status = .open)
      (complete : ∀ i member, db.delegation_wave_members.get? (id, i) = some member →
        member.status.is_settled = true) :
      RecoverableSource db task_id timeout a attempt (.wave_member_settled id)
  | settled_wave {id wave} (idle : attempt.lane.Idle) (row : db.delegation_waves.get? id = some wave)
      (owner : wave.parent_attempt_id = a) (settled : wave.status = .settled)
      (unconsumed : wave.successor_dispatch_id = none) :
      RecoverableSource db task_id timeout a attempt (.delegation_wave_settled id)
  | terminal_human_request {id request} (idle : attempt.lane.Idle) (row : db.human_requests.get? id = some request)
      (owner : request.attempt_id = a) (terminal : request.status.is_terminal = true)
      (unconsumed : request.successor_dispatch_id = none) :
      RecoverableSource db task_id timeout a attempt (.human_request_terminal id)
  | terminal_command_run {id run} (idle : attempt.lane.Idle) (row : db.command_runs.get? id = some run)
      (owner : run.attempt_id = a) (terminal : run.state.is_terminal = true)
      (unconsumed : run.successor_dispatch_id = none) :
      RecoverableSource db task_id timeout a attempt (.command_run_terminal id)
  | replan {id transition} (idle : attempt.lane.Idle) (row : db.replan_transitions.get? id = some transition)
      (owner : transition.attempt_id = a) (unended : transition.successor_state.is_ended = false) :
      RecoverableSource db task_id timeout a attempt (.replan_committed id)
  | task_start (idle : attempt.lane.Idle) (owner : db.task_start_source.root_attempt_id = a)
      (unconsumed : db.task_start_source.successor_dispatch_id = none) :
      RecoverableSource db task_id timeout a attempt (.task_start_committed task_id)

/-- What one complete startup publishes about a Task whose rows stay while it looks. -/
structure StartupComplete (db : TaskDb) (task_id : TaskId) (timeout : Nat) (published : List RuntimeEffectSignal) :
    Prop where
  /-- Each running lane has exactly one signal, that of its recoverable source, or waits for a child still at work. -/
  lanes : db.task.status = .running → ∀ a attempt, db.attempts.get? a = some attempt → attempt.status = .running →
    (∃ signal, (published.filter fun signal => signal.lane task_id db == some a) = [signal] ∧
      RecoverableSource db task_id timeout a attempt signal) ∨
    (published.filter fun signal => signal.lane task_id db == some a) = [] ∧ ∃ a', WaitsForChild db attempt a'
  /-- A Wave that only needs its own settlement is published in a paused Task too. -/
  joins : db.lanes.Active → ∀ wave_id wave, db.delegation_waves.get? wave_id = some wave → wave.is_open = true →
    (∀ i member, db.delegation_wave_members.get? (wave_id, i) = some member → member.status.is_settled = true) →
    published.count (.wave_member_settled wave_id) = 1
  /-- A command that must stop is published whatever became of its Task. -/
  cancellations : ∀ run_id run, db.command_runs.get? run_id = some run → run.state = .cancellation_requested →
    published.count (.command_run_cancellation_requested run_id run.ownership_revision) = 1
  once : ∀ signal, (signal.lane task_id db).isSome = true → published.count signal ≤ 1

/-- The deadline that a startup computes is the one that its handler registers. -/
private theorem startup_deadline_registers {d : DispatchId} {dispatch : DispatchTurn} {started_at : Instant}
    (row : db.dispatches.get? d = some dispatch) (is_open : dispatch.status = .open)
    (current : dispatch_is_current db d dispatch = true) (started : dispatch.adapter_started_at = some started_at) :
    register_deadline db ⟨d, dispatch.node_activity_revision,
        calculate_watchdog_due_at started_at dispatch.last_node_activity_at timeout⟩ timeout =
      .registered ⟨d, dispatch.node_activity_revision,
        calculate_watchdog_due_at started_at dispatch.last_node_activity_at timeout⟩ := by
  obtain ⟨⟨attempt, hrow, hassignment, hrunning, hcurrent, hwait⟩, htask, -⟩ := dispatch_is_current_iff.mp current
  have hjoined : (db.attempts.get? dispatch.attempt_id).filter (fun attempt =>
      attempt.assignment_id == dispatch.assignment_id && attempt.status == .running &&
        attempt.current_wait_id.isNone) = some attempt := by
    rw [hrow]
    exact Option.filter_some_pos (by simp [hassignment, hrunning, hwait])
  unfold register_deadline
  simp [row, hjoined, is_open, htask, hcurrent, started]

private theorem current_of_lane_waits {wait : AttemptWait} (h : lane_waits db wait = true) (ha : wait.attempt_id = a)
    (hrow : db.attempts.get? a = some attempt) :
    ∃ w, attempt.current_wait_id = some w ∧ db.attempt_waits.get? w = some wait := by
  obtain ⟨other, w, hother, -, -, -, hw, hwait⟩ := lane_waits_iff.mp h
  rw [ha, hrow] at hother
  cases hother
  exact ⟨w, hw, hwait⟩

private theorem idle_of_lane_is_idle {i : AssignmentId} {b : AttemptId} (h : lane_is_idle db i b = true) (ha : b = a)
    (hrow : db.attempts.get? a = some attempt) : attempt.lane.Idle := by
  obtain ⟨other, hother, -, hidle⟩ := lane_is_idle_iff.mp h
  rw [ha, hrow] at hother
  cases hother
  exact hidle

/-- What a startup finds for a running lane is its recoverable source. -/
theorem StartupFound.recovers (hreachable : controller.runtime.Reachable db) (hrunning : db.task.status = .running)
    (h : StartupFound timeout task_id db family k signal) (hlane : signal.lane task_id db = some a)
    (hrow : db.attempts.get? a = some attempt) (hattempt : attempt.status = .running) :
    RecoverableSource db task_id timeout a attempt signal := by
  have hstands := h.stands hreachable hrunning hlane hrow hattempt
  cases h with
  | task_start runnable =>
    obtain ⟨d, hstarted⟩ := Option.isSome_iff_exists.mp (Controller.sound hreachable).started
    simp [task_start_is_runnable, hstarted] at runnable
  | joined row complete =>
    have hlane := mapped_row row hlane
    simp only [wave_is_complete, Bool.and_eq_true, beq_iff_eq, Bool.not_eq_true', Table.any_eq_false_iff] at complete
    obtain ⟨⟨⟨⟨hopen, -⟩, -⟩, hwaits⟩, hsettled⟩ := complete
    obtain ⟨w, hcurrent, hwait⟩ := current_of_lane_waits hwaits hlane hrow
    refine .complete_wave hcurrent hwait row hopen fun i member hmember => ?_
    simpa using hsettled (k, i) member hmember
  | settled row continues =>
    have hlane := mapped_row row hlane
    simp only [wave_continues, Bool.and_eq_true, beq_iff_eq, Option.isNone_iff_eq_none] at continues
    obtain ⟨⟨⟨hsettled, hnone⟩, -⟩, hidle⟩ := continues
    exact .settled_wave (idle_of_lane_is_idle hidle hlane hrow) row hlane hsettled hnone
  | replanned row unended =>
    have hlane := mapped_row row hlane
    generalize hreferent : RuntimeEffectSignal.referent (.replan_committed k) = referent at hstands
    cases hstands with
    | held => cases hreferent
    | @waiting _ wait =>
      have hsource := Referent.source.inj hreferent
      cases hwait : wait.source <;> simp [hwait, WaitSource.source_id] at hsource
    | free idle => exact .replan idle row hlane unended
  | asked row is_open waits =>
    have hlane := mapped_row row hlane
    obtain ⟨w, hcurrent, hwait⟩ := current_of_lane_waits waits hlane hrow
    exact .open_human_request hcurrent hwait row is_open
  | answered row terminal unfollowed idle =>
    have hlane := mapped_row row hlane
    exact .terminal_human_request (idle_of_lane_is_idle idle hlane hrow) row hlane terminal unfollowed
  | command_ended row terminal unfollowed idle =>
    have hlane := mapped_row row hlane
    exact .terminal_command_run (idle_of_lane_is_idle idle hlane hrow) row hlane terminal unfollowed
  | command_pending row state waits =>
    have hlane := mapped_row row hlane
    obtain ⟨w, hcurrent, hwait⟩ := current_of_lane_waits waits hlane hrow
    exact .live_command_run hcurrent hwait row (.inl state)
  | command_running row state waits =>
    have hlane := mapped_row row hlane
    obtain ⟨w, hcurrent, hwait⟩ := current_of_lane_waits waits hlane hrow
    exact .live_command_run hcurrent hwait row (.inr state)
  | @command_cancellation _ run row state =>
    have hlive : run.state.is_terminal = false := by rw [state]; rfl
    obtain ⟨hnone, -⟩ := Controller.live_runs_wait hreachable k run row hlive
    obtain ⟨w, wait, other, hwait, hsource, hother, hcurrent⟩ :=
      LiveRunsWait.wait_row (Controller.sound hreachable) (.inl hrunning) row hlive hnone
    rw [mapped_row row hlane, hrow] at hother
    cases hother
    exact .stopping_command_run hcurrent hwait hsource row state
  | starting row current due =>
    obtain ⟨⟨other, hother, -, -, hcurrent, -⟩, -⟩ := dispatch_is_current_iff.mp current
    rw [mapped_row row hlane, hrow] at hother
    cases hother
    exact .starting_dispatch hcurrent row due
  | is_open row is_open current unowned started =>
    obtain ⟨⟨other, hother, -, -, hcurrent, -⟩, -⟩ := dispatch_is_current_iff.mp current
    rw [mapped_row row hlane, hrow] at hother
    cases hother
    exact .open_dispatch hcurrent row is_open (startup_deadline_registers row is_open current started)

/-- A Wave whose members are all settled is found while its Task goes on. -/
private theorem complete_wave_found (hsound : Sound db) (hactive : db.lanes.Active) {wave_id : WaveId}
    {wave : DelegationWave} (hrow : db.delegation_waves.get? wave_id = some wave) (hopen : wave.is_open = true)
    (hsettled : ∀ i member, db.delegation_wave_members.get? (wave_id, i) = some member →
      member.status.is_settled = true) :
    StartupFound timeout task_id db "complete_delegation_wave" wave_id (.wave_member_settled wave_id) := by
  obtain ⟨hstatus, hnone⟩ := DelegationWave.is_open_iff.mp hopen
  have hsource : db.lanes.sources (.delegation_wave wave_id) = some wave.lane := Table.view_eq_some.mpr ⟨wave, hrow, rfl⟩
  have hphase : wave.lane.phase = .unresolved := by
    simp [DelegationWave.lane, SourcePhase.of, hnone, hstatus, WaveStatus.phase]
  obtain ⟨w, wait, hwait, hid⟩ := hsound.lanes.waiting.unresolved_waits _ _ hactive hsource hphase
  obtain ⟨x, hx, -, hattempt, hassignment, hdispatch⟩ := hsound.lanes.waiting.wait_source w wait hactive hwait
  rw [hid, hsource] at hx
  obtain rfl := Option.some.inj hx
  obtain ⟨r, hr, hcurrent, -⟩ := hsound.lanes.pointers.wait_row w wait hwait
  obtain ⟨attempt, hget, rfl⟩ := Table.view_eq_some.mp hr
  obtain ⟨wait, hstored, rfl⟩ := Table.view_eq_some.mp hwait
  obtain ⟨-, hwaits⟩ := lane_waits_of hsound hget hcurrent hstored
  have hexact : wait = wave.wait wave_id := by
    obtain ⟨assignment_id, attempt_id, source_dispatch_id, source⟩ := wait
    cases source <;> cases hid
    cases hattempt
    cases hassignment
    cases hdispatch
    rfl
  rw [hexact] at hwaits
  have hgoes : db.task.status = .running ∨ db.task.status = .paused := hactive
  refine .joined hrow ?_
  simp only [wave_is_complete, Bool.and_eq_true, Bool.or_eq_true, beq_iff_eq, Option.isNone_iff_eq_none,
    Bool.not_eq_true', Table.any_eq_false_iff]
  refine ⟨⟨⟨⟨hstatus, hnone⟩, hgoes⟩, hwaits⟩, ?_⟩
  rintro ⟨w, i⟩ member hmember
  by_cases hw : w = wave_id
  · subst hw
    simp [hsettled i member hmember]
  · simp [hw]

/-- What a startup publishes once of a Task is all that it has to recover. -/
theorem StartupComplete.of_found (hreachable : controller.runtime.Reachable db)
    {published : List RuntimeEffectSignal}
    (hunique : (published.filter fun signal => (signal.lane task_id db).isSome).Nodup)
    (hall : ∀ signal, (signal ∈ published ∧ (signal.lane task_id db).isSome = true) ↔
      ∃ family k, StartupFound timeout task_id db family k signal) :
    StartupComplete db task_id timeout published := by
  have honce : ∀ signal, (signal.lane task_id db).isSome = true → published.count signal ≤ 1 := by
    intro signal hlane
    rw [← List.count_filter (p := fun signal => (signal.lane task_id db).isSome) hlane]
    exact List.nodup_iff_count_le_one.mp hunique signal
  have hfound : ∀ {family k signal}, StartupFound timeout task_id db family k signal → published.count signal = 1 := by
    intro family k signal hfound
    obtain ⟨hmem, hlane⟩ := (hall signal).mpr ⟨family, k, hfound⟩
    exact le_antisymm (honce signal hlane) (List.count_pos_iff.mpr hmem)
  exact {
    lanes := fun hrunning a attempt hrow hattempt => by
      refine (lane_published hreachable hrunning hunique hall hrow hattempt).imp_left ?_
      rintro ⟨family, k, signal, honly, hfound, hlane⟩
      exact ⟨signal, honly, hfound.recovers hreachable hrunning hlane hrow hattempt⟩
    joins := fun hactive wave_id wave hrow hopen hsettled =>
      hfound (complete_wave_found (Controller.sound hreachable) hactive hrow hopen hsettled)
    cancellations := fun run_id run hrow hstate => hfound (.command_cancellation hrow hstate)
    once := honce }

/-! # Audits of reachable Tasks -/

/-- Every row that a family finds of a Task whose open Dispatches were accepted has its signal. -/
theorem startup_rows_built {query : StartupRows} {row : Nat × AuditResult RuntimeEffectSignal}
    (haccepted : OpenAccepted db)
    (h : (family, query) ∈ startup_runtime_families timeout) (hrow : row ∈ query task_id db) :
    ∃ signal, row.2 = .ok signal := by
  obtain ⟨k, result⟩ := row
  simp only [startup_runtime_families, List.mem_cons, Prod.mk.injEq, List.not_mem_nil, or_false] at h
  rcases h with ⟨-, rfl⟩ | ⟨-, rfl⟩ | ⟨-, rfl⟩ | ⟨-, rfl⟩ | ⟨-, rfl⟩ | ⟨-, rfl⟩ | ⟨-, rfl⟩ | ⟨-, rfl⟩ |
    ⟨-, rfl⟩ | ⟨-, rfl⟩ | ⟨-, rfl⟩ | ⟨-, rfl⟩
  · unfold task_start_rows at hrow
    split at hrow
    · cases List.mem_singleton.mp hrow
      exact ⟨_, rfl⟩
    · cases hrow
  iterate 9
    · obtain ⟨r, -, -, rfl⟩ := mem_selected_rows.mp hrow
      exact ⟨_, rfl⟩
  · obtain ⟨dispatch, -, hstarting, rfl⟩ := mem_selected_rows.mp hrow
    rw [Bool.and_eq_true] at hstarting
    obtain ⟨due_at, hdue⟩ := dispatch_is_starting_iff.mp hstarting.1
    exact ⟨_, dispatch_start_signal_eq_ok.mpr ⟨due_at, hdue, rfl⟩⟩
  · obtain ⟨dispatch, hget, hopen, rfl⟩ := mem_selected_rows.mp hrow
    simp only [Bool.and_eq_true, beq_iff_eq] at hopen
    obtain ⟨started_at, hstarted⟩ := Option.isSome_iff_exists.mp (haccepted k dispatch hget hopen.1.1)
    exact ⟨_, watchdog_deadline_signal_eq_ok.mpr ⟨started_at, hstarted, rfl⟩⟩

private theorem single_one_task (task_id : TaskId) (db : TaskDb) (has : TaskDb → Nat → Prop) :
    OneTask ((∅ : Table TaskId TaskDb).set task_id db) has := by
  intro t t' db₁ db₂ k ht ht' _ _
  rw [Table.get?_set] at ht ht'
  split at ht
  · next hsame =>
    split at ht'
    · next hsame' => exact hsame.trans hsame'.symm
    · cases ht'
  · cases ht

/-- A database with one Task. -/
def ControllerDb.single (task_id : TaskId) (db : TaskDb) : ControllerDb where
  tasks := (∅ : Table TaskId TaskDb).set task_id db
  dispatches := single_one_task task_id db _
  delegation_waves := single_one_task task_id db _
  human_requests := single_one_task task_id db _
  command_runs := single_one_task task_id db _
  replan_transitions := single_one_task task_id db _

/-- An audit of rows that stay, whose signals are all taken. -/
def ControllerDb.audit (database : ControllerDb) (timeout : Nat) :
    AuditResult (List (String × StartupRuntimeFamilyResult) × List RuntimeEffectSignal) :=
  audit_startup_runtime_effects (fun _ _ => database) (fun _ _ => true) RUNTIME_STARTUP_ROUTED_SIGNAL_TYPES timeout

/-- An audit whose signals are known comes to its end with them. -/
theorem ControllerDb.audit_publishes {database : ControllerDb} {published : List RuntimeEffectSignal}
    (h : (database.audit timeout).toOption.any (fun outcome => outcome.2 == published) = true) :
    ∃ results, database.audit timeout = .ok (results, published) := by
  cases hresult : database.audit timeout with
  | error e =>
    rw [hresult] at h
    cases h
  | ok outcome =>
    rw [hresult] at h
    obtain ⟨results, found⟩ := outcome
    obtain rfl := eq_of_beq h
    exact ⟨results, rfl⟩

theorem ControllerDb.single_get? {db₀ : TaskDb} (h : (ControllerDb.single task_id db).tasks.get? k = some db₀) :
    k = task_id ∧ db₀ = db := by
  change ((∅ : Table TaskId TaskDb).set task_id db).get? k = _ at h
  rw [Table.get?_set] at h
  split at h
  · next hsame => exact ⟨hsame, (Option.some.inj h).symm⟩
  · cases h

end PostCommit

/-- A startup that comes to its end has found every lane of a running Task whose rows stay while it looks: each lane
    once, by where it stands, or as one that waits for a lane that the startup has found. -/
theorem startup_audit_recovers {task_id : PostCommit.TaskId} {timeout : Nat}
    {reads : String → Nat → PostCommit.ControllerDb}
    {publish : List PostCommit.RuntimeEffectSignal → PostCommit.RuntimeEffectSignal → Bool}
    {results : List (String × PostCommit.StartupRuntimeFamilyResult)} {published : List PostCommit.RuntimeEffectSignal}
    (hreachable : controller.runtime.Reachable db) (hrunning : db.task.status = .running)
    (hreads : ∀ family page, (reads family page).tasks.get? task_id = some db)
    (h : PostCommit.audit_startup_runtime_effects reads publish PostCommit.RUNTIME_STARTUP_ROUTED_SIGNAL_TYPES timeout =
      .ok (results, published)) : PostCommit.LanesRecovered db task_id published := by
  obtain ⟨hunique, hall⟩ := PostCommit.audit_startup_runtime_effects_task hreads h
  exact .of_found hreachable hrunning hunique hall

/-- A Manager waits for the Member that it delegated to. -/
def delegation_open : List Move := [.accept_start 1 0 0, .delegate 1 2 2]

private theorem audited : ∃ results,
    (PostCommit.ControllerDb.single 7 (replayed delegation_open (by decide +kernel))).audit 60 =
      .ok (results, [.dispatch_start_due ⟨2, 0, 0⟩]) :=
  PostCommit.ControllerDb.audit_publishes (by decide +kernel)

theorem startup_audit_recovers_delegated :
    PostCommit.LanesRecovered (replayed delegation_open (by decide +kernel)) 7 [.dispatch_start_due ⟨2, 0, 0⟩] := by
  obtain ⟨results, haudit⟩ := audited
  exact startup_audit_recovers (replayed_reachable _) (by decide +kernel) (fun _ _ => Table.get?_set_self ..) haudit

/-- What a startup publishes about a Task is accepted by the handlers that read the same rows. -/
theorem startup_signals_accepted {task_id : PostCommit.TaskId} {timeout : Nat}
    {reads : String → Nat → PostCommit.ControllerDb}
    {publish : List PostCommit.RuntimeEffectSignal → PostCommit.RuntimeEffectSignal → Bool}
    {results : List (String × PostCommit.StartupRuntimeFamilyResult)} {published : List PostCommit.RuntimeEffectSignal}
    (hreachable : controller.runtime.Reachable db)
    (hreads : ∀ family page, (reads family page).tasks.get? task_id = some db)
    (h : PostCommit.audit_startup_runtime_effects reads publish PostCommit.RUNTIME_STARTUP_ROUTED_SIGNAL_TYPES timeout =
      .ok (results, published)) : PostCommit.SignalsAccepted db task_id timeout published := by
  have hsound := Controller.sound hreachable
  obtain ⟨-, hall⟩ := PostCommit.audit_startup_runtime_effects_task hreads h
  constructor
  · intro due hpublished hrow
    obtain ⟨family, k, hfound⟩ := (hall _).mp ⟨hpublished, by simpa [PostCommit.RuntimeEffectSignal.lane] using hrow⟩
    cases hfound with
    | starting row current due => exact PostCommit.start_accepted row current due
  · intro due now hpublished hrow hdue
    obtain ⟨family, k, hfound⟩ := (hall _).mp ⟨hpublished, by simpa [PostCommit.RuntimeEffectSignal.lane] using hrow⟩
    cases hfound with
    | is_open row is_open current unowned started =>
      exact PostCommit.deadline_accepted hsound row is_open current unowned started hdue
  · intro wave_id hpublished hrow hrunning
    obtain ⟨family, k, hfound⟩ := (hall _).mp ⟨hpublished, by simpa [PostCommit.RuntimeEffectSignal.lane] using hrow⟩
    cases hfound with
    | joined row complete => exact PostCommit.join_accepted hsound hrunning row complete
  · intro wave_id hpublished hrow
    obtain ⟨family, k, hfound⟩ := (hall _).mp ⟨hpublished, by simpa [PostCommit.RuntimeEffectSignal.lane] using hrow⟩
    cases hfound with
    | settled row continues =>
      simp only [PostCommit.wave_continues, Bool.and_eq_true, beq_iff_eq, Option.isNone_iff_eq_none] at continues
      obtain ⟨⟨⟨hstatus, hnone⟩, -⟩, -⟩ := continues
      exact PostCommit.settled_accepted hreachable row hstatus hnone
  · intro request_id hpublished hrow
    obtain ⟨family, k, hfound⟩ := (hall _).mp ⟨hpublished, by simpa [PostCommit.RuntimeEffectSignal.lane] using hrow⟩
    cases hfound with
    | @answered _ request row terminal unfollowed =>
      refine ⟨human_request_continuation_basis request_id request .human_result, ?_⟩
      simp [read_human_request_continuation_basis, row, HumanRequest.is_terminal_unconsumed, terminal, unfollowed]
  · intro run_id hpublished hrow
    obtain ⟨family, k, hfound⟩ := (hall _).mp ⟨hpublished, by simpa [PostCommit.RuntimeEffectSignal.lane] using hrow⟩
    cases hfound with
    | @command_ended _ run row terminal unfollowed =>
      refine ⟨command_run_continuation_basis run_id run .command_result, ?_⟩
      simp [read_command_run_continuation_basis, row, CommandRun.is_terminal_unconsumed, terminal, unfollowed]

theorem startup_signals_accepted_delegated :
    PostCommit.SignalsAccepted (replayed delegation_open (by decide +kernel)) 7 60 [.dispatch_start_due ⟨2, 0, 0⟩] := by
  obtain ⟨results, haudit⟩ := audited
  exact startup_signals_accepted (replayed_reachable _) (fun _ _ => Table.get?_set_self ..) haudit

/-- A startup that reads only what the Tasks committed, at whatever time, and whose signals are taken comes to its end
    unless one family fills all the pages that its guard admits. -/
theorem startup_audit_ends {timeout : Nat} {reads : String → Nat → PostCommit.ControllerDb}
    {publish : List PostCommit.RuntimeEffectSignal → PostCommit.RuntimeEffectSignal → Bool}
    (hpositive : 0 < timeout) (hpublish : ∀ published signal, publish published signal = true)
    (hreads : ∀ family page task_id db, (reads family page).tasks.get? task_id = some db →
      ∃ controller : Controller, controller.runtime.Reachable db) :
    (∃ outcome, PostCommit.audit_startup_runtime_effects reads publish
      PostCommit.RUNTIME_STARTUP_ROUTED_SIGNAL_TYPES timeout = .ok outcome) ∨
    ∃ entry ∈ PostCommit.startup_runtime_families timeout,
      PostCommit.audit_startup_runtime_effects reads publish PostCommit.RUNTIME_STARTUP_ROUTED_SIGNAL_TYPES timeout =
        .error (.page_guard entry.1) ∧
      PostCommit.PagesFull entry.2 (reads entry.1) PostCommit.STARTUP_AUDIT_PAGE_SIZE
        (PostCommit.STARTUP_AUDIT_PAGE_GUARD - 1) none := by
  refine PostCommit.audit_startup_runtime_effects_ends hpositive hpublish fun entry hentry page row hrow => ?_
  obtain ⟨task_id, db, htask, hrow⟩ := PostCommit.ControllerDb.mem_rows.mp hrow
  obtain ⟨controller, hreachable⟩ := hreads entry.1 page task_id db htask
  exact PostCommit.startup_rows_built (Controller.open_accepted hreachable) hentry hrow

theorem startup_audit_ends_delegated :
    (∃ outcome, (PostCommit.ControllerDb.single 7 (replayed delegation_open (by decide +kernel))).audit
      60 = .ok outcome) ∨ ∃ entry ∈ PostCommit.startup_runtime_families 60,
      (PostCommit.ControllerDb.single 7 (replayed delegation_open (by decide +kernel))).audit 60 =
        .error (.page_guard entry.1) ∧
      PostCommit.PagesFull entry.2 (fun _ => .single 7 (replayed delegation_open (by decide +kernel)))
        PostCommit.STARTUP_AUDIT_PAGE_SIZE (PostCommit.STARTUP_AUDIT_PAGE_GUARD - 1) none := by
  refine startup_audit_ends (by decide) (fun _ _ => rfl) fun _ _ task_id db htask => ⟨plain_controller, ?_⟩
  obtain ⟨-, rfl⟩ := PostCommit.ControllerDb.single_get? htask
  exact replayed_reachable _

/-- Whatever the controller had committed when it crashed, one complete startup publishes for each running lane exactly
    its recoverable source, and every Wave to join and every command to stop, each once, wherever the pages end. -/
theorem startup_audit_complete {task_id : PostCommit.TaskId} {timeout : Nat}
    {reads : String → Nat → PostCommit.ControllerDb}
    {publish : List PostCommit.RuntimeEffectSignal → PostCommit.RuntimeEffectSignal → Bool}
    {results : List (String × PostCommit.StartupRuntimeFamilyResult)} {published : List PostCommit.RuntimeEffectSignal}
    (hreachable : controller.runtime.Reachable db)
    (hreads : ∀ family page, (reads family page).tasks.get? task_id = some db)
    (h : PostCommit.audit_startup_runtime_effects reads publish PostCommit.RUNTIME_STARTUP_ROUTED_SIGNAL_TYPES timeout =
      .ok (results, published)) : PostCommit.StartupComplete db task_id timeout published := by
  obtain ⟨hunique, hall⟩ := PostCommit.audit_startup_runtime_effects_task hreads h
  exact .of_found hreachable hunique hall

/-- One manager has its answer and starts again, the other one waits for its command, and their lead for both. -/
def managers_apart : List Move :=
  managers_at_work ++ [.ask 2 1, .skip 1, .open_human_successor 1 7, second_manager_commands]

theorem startup_audit_complete_managers_apart :
    PostCommit.StartupComplete (replayed managers_apart (by decide +kernel)) 7 60
      [.command_run_pending 1, .dispatch_start_due ⟨7, 0, 0⟩] := by
  have haudit : ∃ results, (PostCommit.ControllerDb.single 7 (replayed managers_apart (by decide +kernel))).audit 60 =
      .ok (results, [.command_run_pending 1, .dispatch_start_due ⟨7, 0, 0⟩]) :=
    PostCommit.ControllerDb.audit_publishes (by decide +kernel)
  obtain ⟨results, haudit⟩ := haudit
  exact startup_audit_complete (replayed_reachable _) (fun _ _ => Table.get?_set_self ..) haudit

end OhMySubagents
