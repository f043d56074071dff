import OhMySubagents.System.HumanRequests

open Relational

namespace OhMySubagents

/-- A run of an Attempt without a wait is followed by a Dispatch, or is left alone. -/
def CommandRun.Followed (attempts : Table AttemptId Attempt) (run run' : CommandRun) : Prop :=
  run' = run ∨ run.successor_dispatch_id = none ∧
    (∃ attempt, attempts.get? run.attempt_id = some attempt ∧ attempt.current_wait_id = none) ∧
    ∃ d, run' = { run with successor_dispatch_id := some d }

/-- How one transaction may move the row of one run. -/
inductive CommandRun.Moved (db db' : TaskDb) (run_id : RunId) (run : CommandRun) : CommandRun → Prop
  | same : Moved db db' run_id run run
  | launched {owner_ref claimed_at} (pending : run.state = .pending_start) (unowned : run.ownership_revision = 0) :
      Moved db db' run_id run (run.claim_launch owner_ref claimed_at)
  | marked {owner_ref pid started_at due_at} (pending : run.state = .pending_start) :
      Moved db db' run_id run (run.mark_running owner_ref pid started_at due_at)
  | requested {requested_at} (live : run.state = .pending_start ∨ run.state = .running) :
      Moved db db' run_id run (run.request_cancellation requested_at)
  | ended {request output} (ended : CommandRunEnded db run_id run request output db') :
      Moved db db' run_id run (run.terminalize request output)
  | followed {d attempt} (active : db.lanes.Active) (unfollowed : run.successor_dispatch_id = none)
      (attempt_row : db.attempts.get? run.attempt_id = some attempt) (no_wait : attempt.current_wait_id = none) :
      Moved db db' run_id run { run with successor_dispatch_id := some d }

/-- A run that one transaction started in a Task that runs: no owner has claimed it. -/
structure CommandRun.Fresh (db' : TaskDb) (run : CommandRun) : Prop where
  running : db'.task.status = .running
  pending : run.state = .pending_start
  unowned : run.ownership_revision = 0
  unended : run.terminal = none
  unfollowed : run.successor_dispatch_id = none

/-- The rows of the runs after one transaction. -/
abbrev CommandRunRows (db db' : TaskDb) : Prop :=
  Alters (fun (_ : RunId) run => CommandRun.Fresh db' run) (CommandRun.Moved db db') db.command_runs db'.command_runs

variable {controller : Controller} {db db' : TaskDb} {t : Transaction}

theorem CommandRun.Followed.trans {attempts : Table AttemptId Attempt} (r r' r'' : CommandRun)
    (h : r.Followed attempts r') (h' : r'.Followed attempts r'') : r.Followed attempts r'' := by
  obtain rfl | ⟨hnone, hfree, d, rfl⟩ := h
  · exact h'
  · obtain rfl | ⟨hnone', -⟩ := h'
    · exact .inr ⟨hnone, hfree, d, rfl⟩
    · cases hnone'

private theorem runs_same (h : db'.command_runs = db.command_runs) : CommandRunRows db db' := by
  unfold CommandRunRows
  rw [h]
  exact .refl (fun _ _ => .same) _

private theorem runs_followed (active : db.lanes.Active)
    (h : Evolves (CommandRun.Followed db.attempts) db.command_runs db'.command_runs) : CommandRunRows db db' := by
  refine .of_evolves h fun run_id run run' _ hfollowed => ?_
  obtain rfl | ⟨hnone, ⟨attempt, hattempt, hwait⟩, d, rfl⟩ := hfollowed
  · exact .same
  · exact .followed active hnone hattempt hwait

theorem DispatchOpened.command_runs {claimed : TaskDb} {snapshot : OrdinaryDispatchSnapshot}
    {prepared : PreparedDispatchRequest} {attempt : Attempt}
    (h : DispatchOpened db claimed db' snapshot prepared attempt) :
    Evolves (CommandRun.Followed db.attempts) db.command_runs db'.command_runs := by
  rw [h.rows]
  change Evolves _ _ claimed.command_runs
  cases h.claims with
  | human_request => exact .refl (fun _ => .inl rfl) _
  | command_run row unfollowed owner =>
    refine .set (fun _ => .inl rfl) row (.inr ⟨unfollowed, ⟨attempt, ?_, h.no_wait⟩, _, rfl⟩)
    rw [owner.2.1]
    exact h.attempt_row
  | delegation_wave => exact .refl (fun _ => .inl rfl) _
  | replan_transition => exact .refl (fun _ => .inl rfl) _
  | tail => exact .refl (fun _ => .inl rfl) _

/-- Opening a Dispatch changes no wait of an Attempt. -/
theorem DispatchOpened.free_attempt {claimed : TaskDb} {snapshot : OrdinaryDispatchSnapshot}
    {prepared : PreparedDispatchRequest} {attempt row : Attempt} {a : AttemptId}
    (h : DispatchOpened db claimed db' snapshot prepared attempt) (hrow : db'.attempts.get? a = some row)
    (hwait : row.current_wait_id = none) :
    ∃ row, db.attempts.get? a = some row ∧ row.current_wait_id = none := by
  rw [h.rows] at hrow
  by_cases ha : a = snapshot.basis.attempt_id
  · subst ha
    exact ⟨attempt, h.attempt_row, h.no_wait⟩
  · exact ⟨row, by simpa [Table.get?_set, ha] using hrow, hwait⟩

theorem ContinuationsOpened.command_runs {items : List PreparedPausedContinuation}
    (h : ContinuationsOpened items db db') :
    Evolves (CommandRun.Followed db.attempts) db.command_runs db'.command_runs := by
  induction h with
  | nil => exact .refl (fun _ => .inl rfl) _
  | cons opened _ _ ih =>
    refine opened.command_runs.trans CommandRun.Followed.trans (ih.mono fun run run' hfollowed => ?_)
    obtain rfl | ⟨hnone, ⟨attempt, hattempt, hwait⟩, hnext⟩ := hfollowed
    · exact .inl rfl
    · exact .inr ⟨hnone, opened.free_attempt hattempt hwait, hnext⟩

theorem CheckpointCommitted.command_runs {authority : NodeOperationAuthority} {checkpoint_id : CheckpointId}
    {drawn : Option DrawnSemanticRetry} {outcome : Option BoundaryOutcome} {wave_id : Option WaveId}
    (h : CheckpointCommitted db authority checkpoint_id drawn outcome wave_id db') :
    db'.command_runs = db.command_runs := by
  cases h with
  | progress => rfl
  | child => rfl
  | root => rfl
  | retry _ _ _ _ _ hretried staged =>
    obtain ⟨_, -, -, -, rfl⟩ := stage_starting_dispatch_eq_ok.mp staged
    rw [hretried]
    rfl

theorem NodeOperationCommitted.command_runs {authority : NodeOperationAuthority} {operation : NodeOperation}
    (hauth : AuthorityHolds db authority) (h : NodeOperationCommitted db authority operation db') :
    CommandRunRows db db' := by
  cases h with
  | get_current_context => exact runs_same rfl
  | set_work_plan committed =>
    rcases set_assignment_work_plan_success committed with rfl | ⟨_, _, -, rfl⟩ <;> exact runs_same rfl
  | checkpoint committed => exact runs_same committed.command_runs
  | delegate committed => exact runs_same (by rw [(committed.tables hauth).frame])
  | replan committed => exact runs_same (by rw [committed.result])
  | open_human_request committed =>
    obtain ⟨-, -, -, rfl⟩ := open_human_request_success hauth committed
    exact runs_same rfl
  | start_command_run committed =>
    obtain ⟨hfresh, -, -, rfl⟩ := start_command_run_success hauth committed
    exact .add (fun _ _ => .same) hfresh ⟨hauth.lane.running, rfl, rfl, rfl, rfl⟩

theorem BarrierMoved.command_runs {transition_id : TransitionId} (h : BarrierMoved db transition_id db') :
    db'.command_runs = db.command_runs := by
  cases h <;> rfl

theorem ProviderStartRecorded.command_runs {settings : RuntimeSettings} {signal : DispatchStartDue}
    {candidate : ProviderStartCandidate} {now : Instant}
    (h : ProviderStartRecorded settings db signal candidate now db') : db'.command_runs = db.command_runs := by
  cases h with
  | accepted => rfl
  | rotated => rfl
  | paused paused =>
    rw [paused.paused.halted.frame]
    rfl

theorem CommandRunEnded.command_runs {run_id : RunId} {run : CommandRun} {request : CommandTerminalRequest}
    {output : Option CommandOutputFacts} (h : CommandRunEnded db run_id run request output db') :
    CommandRunRows db db' := by
  have hrows : db'.command_runs = db.command_runs.set run_id (run.terminalize request output) := by
    cases h.terminated <;> rfl
  unfold CommandRunRows
  rw [hrows]
  exact .set (fun _ _ => .same) h.row (.ended h)

/-- A cancelled Task asks the runs that it waits for to stop. -/
theorem TaskCancelled.command_runs {closed unwaited : TaskDb} (h : TaskCancelled db closed unwaited db') :
    CommandRunRows db db' := by
  have hclosed : closed.command_runs = db.command_runs := by rw [h.halted.frame]
  have hrows : db'.command_runs = unwaited.command_runs := by
    rw [h.rows]
    rfl
  have hgives := h.dropped.command_runs
  rw [hclosed, ← hrows] at hgives
  refine .of_evolves hgives fun run_id run run' _ hgives => ?_
  obtain rfl | ⟨hlive, requested_at, rfl⟩ := hgives
  · exact .same
  · exact .requested hlive

/-- Everything that one transaction can do to the runs. -/
theorem Committed.command_runs (h : Committed controller db t db') : CommandRunRows db db' := by
  cases h with
  | unchanged => exact runs_same rfl
  | admitted => exact runs_same rfl
  | operated _ auth _ committed => exact committed.command_runs auth
  | wave_settled settled =>
    obtain ⟨_, _, _, _, -, -, -, -, -, -, -, -, -, -, -, rfl⟩ := settle_delegation_wave_success settled
    exact runs_same rfl
  | opened _ opened => exact runs_followed (.inl opened.running) opened.opened.command_runs
  | barrier moved => exact runs_same moved.command_runs
  | provider_start _ _ recorded => exact runs_same recorded.command_runs
  | paused paused => exact runs_same (by rw [paused.halted.frame])
  | retired => exact runs_same rfl
  | replaced _ _ replaced => exact runs_same (by rw [replaced.result])
  | human_resolved resolved => exact runs_same (by rw [resolved.result]; rfl)
  | launch_claimed row pending unowned => exact .set (fun _ _ => .same) row (.launched pending unowned)
  | marked_running row pending => exact .set (fun _ _ => .same) row (.marked pending)
  | cancellation_requested row live => exact .set (fun _ _ => .same) row (.requested live)
  | command_ended ended => exact ended.command_runs
  | continued _ continued =>
    refine runs_followed (.inr continued.paused) (continued.opened.command_runs.mono fun run run' hfollowed => ?_)
    obtain rfl | ⟨hnone, ⟨_, hattempt, hwait⟩, hnext⟩ := hfollowed
    · exact .inl rfl
    · obtain ⟨attempt, hrow, rfl⟩ := Option.map_eq_some_iff.mp ((Table.get?_mapRows ..).symm.trans hattempt)
      have hsame := congrArg LaneAttempt.current_wait_id attempt.reset_watchdog_lane
      exact .inr ⟨hnone, ⟨attempt, hrow, hsame.symm.trans hwait⟩, hnext⟩
  | cancelled cancelled => exact cancelled.command_runs
  | steered => exact runs_same rfl

/-! # Over a run of the runtime -/

/-- The states that a run may be found in once it was found in one. A run that was asked to stop ends as cancelled or
    abandoned. -/
def CommandRunState.Reaches : CommandRunState → CommandRunState → Prop
  | .pending_start, _ => True
  | .running, state => state ≠ .pending_start
  | .cancellation_requested, state => state = .cancellation_requested ∨ state = .cancelled ∨ state = .abandoned
  | .succeeded, state => state = .succeeded
  | .failed, state => state = .failed
  | .timed_out, state => state = .timed_out
  | .cancelled, state => state = .cancelled
  | .abandoned, state => state = .abandoned

theorem CommandRunState.Reaches.refl (state : CommandRunState) : state.Reaches state := by
  cases state <;> simp [Reaches]

theorem CommandRunState.Reaches.trans {state state' state'' : CommandRunState} (h : state.Reaches state')
    (h' : state'.Reaches state'') : state.Reaches state'' := by
  cases state <;> cases state' <;> simp_all [Reaches]
  all_goals rintro rfl; simp_all

/-- What time cannot undo in a run: its state only moves on, it is launched once, and how it ended is final. -/
structure CommandRun.Later (run run' : CommandRun) : Prop where
  owner : run'.assignment_id = run.assignment_id ∧ run'.attempt_id = run.attempt_id ∧
    run'.source_dispatch_id = run.source_dispatch_id
  state : run.state.Reaches run'.state
  ownership : run'.ownership_revision = run.ownership_revision ∨
    run.ownership_revision = 0 ∧ run'.ownership_revision = 1
  ended : run.state.is_terminal = true → run' = { run with successor_dispatch_id := run'.successor_dispatch_id }
  followed : ∀ d, run.successor_dispatch_id = some d → run'.successor_dispatch_id = some d

/-- How a run ends: its owner records the end and clears exactly the wait of the run, or the Task was cancelled before
    and only the run changes. -/
inductive CommandRun.Ended (db db' : TaskDb) (run_id : RunId) (run : CommandRun) : CommandRun → Prop
  | cleared {request output wait_id attempt} (waits : WaitsFor db wait_id (run.wait run_id) attempt)
      (result : db' = { db.clear_wait wait_id run.attempt_id attempt with
        command_runs := db.command_runs.set run_id (run.terminalize request output) }) :
      Ended db db' run_id run (run.terminalize request output)
  | orphaned {request output attempt} (cancelled : db.task.status = .cancelled)
      (requested : run.state = .cancellation_requested) (attempt_row : db.attempts.get? run.attempt_id = some attempt)
      (no_wait : attempt.current_wait_id = none)
      (result : db' = { db with command_runs := db.command_runs.set run_id (run.terminalize request output) }) :
      Ended db db' run_id run (run.terminalize request output)

/-- What holds of every stored run: it is owned at most once, and it is terminal exactly when its end is recorded. -/
structure CommandRun.WellFormed (run : CommandRun) : Prop where
  owned_once : run.ownership_revision ≤ 1
  recorded : run.state.is_terminal = true ↔ run.terminal.isSome = true

section Later

variable {run run' run'' : CommandRun} {run_id : RunId}

theorem CommandRun.Later.refl (run : CommandRun) : run.Later run :=
  ⟨⟨rfl, rfl, rfl⟩, .refl _, .inl rfl, fun _ => rfl, fun _ => id⟩

theorem CommandRun.Later.trans (h : run.Later run') (h' : run'.Later run'') : run.Later run'' where
  owner := ⟨h'.owner.1.trans h.owner.1, h'.owner.2.1.trans h.owner.2.1, h'.owner.2.2.trans h.owner.2.2⟩
  state := h.state.trans h'.state
  ownership := by
    rcases h.ownership with hsame | ⟨hzero, hone⟩
    · rw [← hsame]
      exact h'.ownership
    · rcases h'.ownership with hsame' | ⟨hzero', -⟩
      · exact .inr ⟨hzero, hsame'.trans hone⟩
      · rw [hone] at hzero'
        cases hzero'
  ended hterminal := by
    have hsame := h.ended hterminal
    have hterminal' : run'.state.is_terminal = true := by rw [hsame]; exact hterminal
    rw [h'.ended hterminal', hsame]
  followed d hd := h'.followed d (h.followed d hd)

/-- A row that changes before its end, without a successor. -/
private theorem later_of_live (hlive : run.state.is_terminal = false)
    (howner : run'.assignment_id = run.assignment_id ∧ run'.attempt_id = run.attempt_id ∧
      run'.source_dispatch_id = run.source_dispatch_id) (hstate : run.state.Reaches run'.state)
    (hownership : run'.ownership_revision = run.ownership_revision ∨
      run.ownership_revision = 0 ∧ run'.ownership_revision = 1)
    (hsuccessor : run'.successor_dispatch_id = run.successor_dispatch_id) : run.Later run' :=
  ⟨howner, hstate, hownership, fun hterminal => absurd hterminal (Bool.eq_false_iff.mp hlive), fun _ hd =>
    hsuccessor.trans hd⟩

theorem CommandRun.Moved.later (h : CommandRun.Moved db db' run_id run run') : run.Later run' := by
  cases h with
  | same => exact .refl run
  | launched pending unowned =>
    refine later_of_live (by rw [pending]; rfl) ⟨rfl, rfl, rfl⟩ (.refl _) (.inr ⟨unowned, ?_⟩) rfl
    rw [CommandRun.claim_launch, unowned]
  | marked pending =>
    refine later_of_live (by rw [pending]; rfl) ⟨rfl, rfl, rfl⟩ ?_ (.inl rfl) rfl
    rw [pending]
    trivial
  | requested live =>
    refine later_of_live ?_ ⟨rfl, rfl, rfl⟩ ?_ (.inl rfl) rfl
    · rcases live with hstate | hstate <;> rw [hstate] <;> rfl
    · rcases live with hstate | hstate <;> rw [hstate]
      · trivial
      · exact nofun
  | @ended request _ ended =>
    refine later_of_live ended.live ⟨rfl, rfl, rfl⟩ ?_ (.inl rfl) rfl
    have hlive := ended.live
    have hterminal := ended.terminal
    change run.state.Reaches request.terminal_state
    cases hstate : run.state with
    | pending_start => trivial
    | running =>
      intro hpending
      rw [hpending] at hterminal
      cases hterminal
    | cancellation_requested => exact .inr (ended.requested hstate)
    | succeeded | failed | timed_out | cancelled | abandoned =>
      rw [hstate] at hlive
      cases hlive
  | followed _ unfollowed =>
    refine ⟨⟨rfl, rfl, rfl⟩, .refl _, .inl rfl, fun _ => rfl, fun d hd => ?_⟩
    rw [unfollowed] at hd
    cases hd

theorem CommandRun.Moved.ended_of_live (h : CommandRun.Moved db db' run_id run run')
    (hlive : run.state.is_terminal = false) (hterminal : run'.state.is_terminal = true) :
    CommandRun.Ended db db' run_id run run' := by
  cases h with
  | same | launched | followed =>
    rw [show run.state.is_terminal = true from hterminal] at hlive
    cases hlive
  | marked | requested => cases hterminal
  | ended ended =>
    cases ended.terminated with
    | cleared waits => exact .cleared waits rfl
    | orphaned cancelled requested _ _ attempt_row _ _ no_wait =>
      exact .orphaned cancelled requested attempt_row no_wait rfl

theorem CommandRun.Moved.wellFormed (h : CommandRun.Moved db db' run_id run run') (hrun : run.WellFormed) :
    run'.WellFormed := by
  obtain ⟨howned, hrecorded⟩ := hrun
  cases h with
  | same => exact ⟨howned, hrecorded⟩
  | launched _ unowned =>
    refine ⟨?_, hrecorded⟩
    rw [CommandRun.claim_launch, unowned]
  | marked pending =>
    refine ⟨howned, ?_⟩
    rw [pending] at hrecorded
    exact hrecorded
  | requested live =>
    refine ⟨howned, ?_⟩
    rcases live with hstate | hstate <;> rw [hstate] at hrecorded <;> exact hrecorded
  | ended ended => exact ⟨howned, iff_of_true ended.terminal rfl⟩
  | followed => exact ⟨howned, hrecorded⟩

end Later

def CommandRunsWellFormed (db : TaskDb) : Prop :=
  ∀ run_id run, db.command_runs.get? run_id = some run → run.WellFormed

theorem CommandRunsWellFormed.step (h : CommandRunsWellFormed db) (hcommitted : Committed controller db t db') :
    CommandRunsWellFormed db' := by
  intro run_id run hrow
  rcases hcommitted.command_runs.backward hrow with ⟨-, hfresh⟩ | ⟨before, hbefore, hmoved⟩
  · refine ⟨by rw [hfresh.unowned]; exact Nat.zero_le 1, ?_⟩
    rw [hfresh.pending, hfresh.unended]
    exact iff_of_false nofun nofun
  · exact hmoved.wellFormed (h run_id before hbefore)

/-- Nothing follows a run that has not ended, and its Task goes on or has asked it to stop. -/
def LiveRunsWait (db : TaskDb) : Prop :=
  ∀ run_id run, db.command_runs.get? run_id = some run → run.state.is_terminal = false →
    run.successor_dispatch_id = none ∧ (db.lanes.Active ∨ run.state = .cancellation_requested)

/-- A run that has not ended is waited for while its Task goes on. -/
theorem LiveRunsWait.wait_row {run_id : RunId} {run : CommandRun} (hsound : Sound db) (hactive : db.lanes.Active)
    (hrow : db.command_runs.get? run_id = some run) (hlive : run.state.is_terminal = false)
    (hnone : run.successor_dispatch_id = none) :
    ∃ wait_id wait attempt, db.attempt_waits.get? wait_id = some wait ∧ wait.source = .command_run run_id ∧
      db.attempts.get? run.attempt_id = some attempt ∧ attempt.current_wait_id = some wait_id := by
  have hsource : db.lanes.sources (.command_run run_id) = some run.lane := Table.view_eq_some.mpr ⟨run, hrow, rfl⟩
  have hphase : run.lane.phase = .unresolved := by
    simp [CommandRun.lane, SourcePhase.of, hnone, hlive]
  obtain ⟨wait_id, wait, hwait, hid⟩ := hsound.lanes.waiting.unresolved_waits _ _ hactive hsource hphase
  obtain ⟨x, hx, -, hattempt, -⟩ := hsound.lanes.waiting.wait_source wait_id wait hactive hwait
  rw [hid, hsource] at hx
  cases hx
  obtain ⟨r, hr, hcurrent, -⟩ := hsound.lanes.pointers.wait_row wait_id wait hwait
  rw [← hattempt] at hr
  obtain ⟨attempt, hget, rfl⟩ := Table.view_eq_some.mp hr
  obtain ⟨wait, hstored, rfl⟩ := Table.view_eq_some.mp hwait
  refine ⟨wait_id, wait, attempt, hstored, ?_, hget, hcurrent⟩
  change wait.source.source_id = _ at hid
  cases hsource : wait.source <;> simp_all [WaitSource.source_id]

theorem LiveRunsWait.step (hsound : Sound db) (hcommitted : Committed controller db t db') (h : LiveRunsWait db) :
    LiveRunsWait db' := by
  intro run_id run hrow hlive
  rcases hcommitted.command_runs.backward hrow with ⟨-, hfresh⟩ | ⟨before, hold, hmoved⟩
  · exact ⟨hfresh.unfollowed, .inl (.inl hfresh.running)⟩
  have hlater := hmoved.later
  have hbefore : before.state.is_terminal = false := by
    rw [Bool.eq_false_iff]
    intro hended
    rw [hlater.ended hended] at hlive
    rw [show before.state.is_terminal = false from hlive] at hended
    cases hended
  obtain ⟨hnone, hgoes⟩ := h run_id before hold hbefore
  refine ⟨?_, ?_⟩
  · cases hmoved with
    | same => exact hnone
    | launched | marked | requested | ended => exact hnone
    | followed hactive _ hattempt hfree =>
      obtain ⟨wait_id, -, attempt, -, -, hget, hcurrent⟩ := wait_row hsound hactive hold hbefore hnone
      rw [hattempt] at hget
      cases hget
      rw [hfree] at hcurrent
      cases hcurrent
  · rcases hgoes with hactive | hrequested
    · rcases hcommitted.still_active hactive with hactive' | hwaits | ⟨closed, unwaited, hcancelled⟩
      · exact .inl hactive'
      · obtain ⟨wait_id, wait, -, hwait, -⟩ := wait_row hsound hactive hold hbefore hnone
        exact .inl ((hcommitted.result hsound).active_of_wait
          (Table.view_eq_some.mpr ⟨wait, by rwa [hwaits], rfl⟩))
      · obtain ⟨wait_id, wait, -, hwait, hsource, -⟩ := wait_row hsound hactive hold hbefore hnone
        have hclosed : closed.attempt_waits.get? wait_id = some wait := by rwa [hcancelled.halted.frame]
        obtain ⟨settled, hsettled, hstate⟩ :=
          (hcancelled.dropped.gone wait_id wait hclosed (hcancelled.no_wait wait_id)).2 run_id hsource
        have hrows : db'.command_runs = unwaited.command_runs := by
          rw [hcancelled.rows]
          rfl
        rw [hrows, hsettled] at hrow
        cases hrow
        rcases hstate with hended | hrequested
        · rw [hended] at hlive
          cases hlive
        · exact .inr hrequested
    · have hreaches := hlater.state
      rw [hrequested] at hreaches
      rcases hreaches with hsame | hended | hended
      · exact .inr hsame
      all_goals
        rw [hended] at hlive
        cases hlive

namespace Controller

/-- No run is ever lost, and what time cannot undo stays. -/
theorem command_runs_later (h : controller.runtime.Path db db') :
    Grows CommandRun.Later db.command_runs.get? db'.command_runs.get? := by
  refine Transactional.Path.rel (R := fun db db' => Grows CommandRun.Later db.command_runs.get?
    db'.command_runs.get?) h (fun _ => .refl CommandRun.Later.refl _)
    (fun _ _ _ => .trans fun _ _ _ h h' => h.trans h') fun db db' hstep run_id run hrow => ?_
  obtain ⟨-, t, hcommitted⟩ := committed hstep
  obtain ⟨run', hrow', hmoved⟩ := hcommitted.command_runs.forward hrow
  exact ⟨run', hrow', hmoved.later⟩

/-- In every reachable state each stored run is well-formed. -/
theorem command_runs_wellFormed (h : controller.runtime.Reachable db) : CommandRunsWellFormed db := by
  refine invariant h (fun input drawn db hstart run_id run hrow => ?_) fun _ _ _ _ hcommitted hP => hP.step hcommitted
  obtain ⟨-, _, _, -, -, -, hdb⟩ := start_task_rows hstart
  have hruns : db.command_runs = ∅ := by rw [hdb, new_task_db]
  rw [hruns, Table.get?_empty] at hrow
  cases hrow

theorem live_runs_wait (h : controller.runtime.Reachable db) : LiveRunsWait db := by
  refine invariant h (fun input drawn db hstart run_id run hrow => ?_) fun _ _ _ hsound hcommitted hP =>
    hP.step hsound hcommitted
  obtain ⟨-, _, _, -, -, -, hdb⟩ := start_task_rows hstart
  have hruns : db.command_runs = ∅ := by rw [hdb, new_task_db]
  rw [hruns, Table.get?_empty] at hrow
  cases hrow

theorem path_command_runs_wellFormed (hpath : controller.runtime.Path db db') (h : CommandRunsWellFormed db) :
    CommandRunsWellFormed db' := by
  refine Transactional.Path.keep (P := CommandRunsWellFormed) hpath h fun db db' hstep hP => ?_
  obtain ⟨-, t, hcommitted⟩ := committed hstep
  exact hP.step hcommitted

end Controller

/-- The life of a run between two states: it moves on along its states, is launched at most once, and where it ended one
    step ended it, whose record has not changed since. -/
structure CommandRunLife (controller : Controller) (start finish : TaskDb) (run_id : RunId) (run final : CommandRun) :
    Prop where
  wellFormed : run.WellFormed ∧ final.WellFormed
  later : run.Later final
  ended : run.state.is_terminal = false → final.state.is_terminal = true → ∃ before after live settled,
    controller.runtime.Path start before ∧ controller.runtime.Step before after ∧
      controller.runtime.Path after finish ∧ before.command_runs.get? run_id = some live ∧
        after.command_runs.get? run_id = some settled ∧ CommandRun.Ended before after run_id live settled ∧
      final = { settled with successor_dispatch_id := final.successor_dispatch_id }

/-- Whatever the order of launches, cancellations, exits, deadlines and all other transactions, every command run lives
    this life. -/
theorem command_run_lifecycle {run_id : RunId} {run : CommandRun} (hreachable : controller.runtime.Reachable db)
    (hpath : controller.runtime.Path db db') (hrow : db.command_runs.get? run_id = some run) :
    ∃ final, db'.command_runs.get? run_id = some final ∧
      CommandRunLife controller db db' run_id run final := by
  obtain ⟨final, hfinal, hlater⟩ := Controller.command_runs_later hpath run_id run hrow
  have hwell := Controller.command_runs_wellFormed hreachable
  have hwell' := Controller.path_command_runs_wellFormed hpath hwell
  refine ⟨final, hfinal, ⟨hwell run_id run hrow, hwell' run_id final hfinal⟩, hlater, fun hlive hterminal => ?_⟩
  have hended : ¬∃ run, db'.command_runs.get? run_id = some run ∧ run.state.is_terminal = false := by
    rintro ⟨other, hother, hfalse⟩
    obtain rfl := Option.some.inj (hother.symm.trans hfinal)
    rw [hterminal] at hfalse
    cases hfalse
  obtain ⟨before, after, hbefore, ⟨live, hfound, hnot⟩, hstep, hafter, hrest⟩ := hpath.crossing
    (P := fun db => ∃ run, db.command_runs.get? run_id = some run ∧ run.state.is_terminal = false)
    ⟨run, hrow, hlive⟩ hended
  obtain ⟨-, t, hcommitted⟩ := Controller.committed hstep
  obtain ⟨settled, hleft, hmoved⟩ := hcommitted.command_runs.forward hfound
  have hsettled : settled.state.is_terminal = true := by
    rw [← Bool.not_eq_false]
    exact fun hfalse => hafter ⟨settled, hleft, hfalse⟩
  obtain ⟨other, hother, hlast⟩ := Controller.command_runs_later hrest run_id settled hleft
  obtain rfl := Option.some.inj (hother.symm.trans hfinal)
  exact ⟨before, after, live, settled, hbefore, hstep, hrest, hfound, hleft, hmoved.ended_of_live hnot hsettled,
    hlast.ended hsettled⟩

/-- The root of a Task starts one command, which a process owner claims. -/
def command_claimed : List Move :=
  [.accept_start 1 0 0, .operate 1 (.start_command_run none (.ok ()) 1 1)]

theorem command_run_lifecycle_failed : ∃ db db' run final, run.state = .pending_start ∧ final.state = .failed ∧
    CommandRunLife plain_controller db db' 1 run final := by
  obtain ⟨db, hreachable, hends⟩ := reachable_of_replay command_claimed
    (P := fun db => (db.command_runs.get? 1).any (fun run => run.state == .pending_start) &&
      ((Transaction.claim_command_run_launch 1 "owner" 0).commit plain_controller db).any fun claimed =>
        ((Transaction.end_command_run (.launch_failure ⟨1, 1, none⟩ "command_launch_failed") 1).commit plain_controller
          claimed).any fun failed => (failed.command_runs.get? 1).any fun run => run.state == .failed)
            (by decide +kernel)
  simp only [Bool.and_eq_true, beq_iff_eq, Option.any_eq_true] at hends
  obtain ⟨⟨run, hrow, hpending⟩, claimed, hclaim, failed, hfail, last, hlast, hfailed⟩ := hends
  have hclaimed := hreachable.step rfl hclaim
  have hpath : plain_controller.runtime.Path db failed := .tail (.single ⟨hreachable, _, hclaim⟩) ⟨hclaimed, _, hfail⟩
  obtain ⟨final, hfinal, hlife⟩ := command_run_lifecycle hreachable hpath hrow
  obtain rfl := Option.some.inj (hlast.symm.trans hfinal)
  exact ⟨db, failed, run, last, hpending, hfailed, hlife⟩

/-! # Every commit of a run -/

def launch_owned : Move := { transaction := fun _ => .claim_command_run_launch 1 "owner" 0 }

end OhMySubagents
