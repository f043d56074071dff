import OhMySubagents.Lanes.Result
import OhMySubagents.System.Reachable

open Relational

namespace OhMySubagents

/-- The boundary that the Task ended with. -/
structure TaskResult (db : TaskDb) (boundary_id : DispatchId) (boundary : AcceptedBoundary)
    (outcome : TerminalOutcome) : Prop where
  row : db.accepted_boundaries.get? boundary_id = some boundary
  root : boundary.assignment_id = db.task.root_assignment_id
  task_outcome : db.task.terminal_outcome = some outcome
  boundary_outcome : boundary.outcome = outcome.boundary

/-- Nothing of the Task is live any more, and nothing could make it live again. -/
structure NothingLive (db : TaskDb) : Prop where
  dispatches : ∀ d dispatch, db.dispatches.get? d = some dispatch → dispatch.is_live = false
  attempts : ∀ a attempt, db.attempts.get? a = some attempt → attempt.status ≠ .running
  waits : ∀ w, db.attempt_waits.get? w = none
  waves : ∀ w wave, db.delegation_waves.get? w = some wave →
    wave.status = .cancelled ∨ wave.successor_dispatch_id.isSome
  replans : ∀ t transition, db.replan_transitions.get? t = some transition →
    transition.successor_dispatch_id = none → transition.successor_state ≠ .cancelled →
    ∃ attempt, db.attempts.get? transition.attempt_id = some attempt ∧ attempt.status ≠ .running

variable {controller : Controller} {db db' : TaskDb} {t : Transaction}

/-- Every Task that has ended left nothing live. -/
theorem Sound.nothing_live (h : Sound db) (hended : ¬ db.lanes.Active) : NothingLive db where
  dispatches d dispatch hrow := by
    rw [Bool.eq_false_iff]
    intro hlive
    have hlane : db.lanes.dispatches d = some dispatch.lane := Table.view_eq_some.mpr ⟨dispatch, hrow, rfl⟩
    obtain ⟨r, hr, hcurrent⟩ := h.lanes.pointers.live_dispatch d _ hlane (DispatchTurn.lane_live.mpr hlive)
    exact hended (.inl (h.lanes.pointers.dispatch_pointer _ r d hr hcurrent).1)
  attempts a attempt hrow := h.result.idle hended a attempt.lane (Table.view_eq_some.mpr ⟨attempt, hrow, rfl⟩)
  waits w := Table.view_eq_none.mp (h.result.no_wait hended w)
  waves w wave hrow := by
    obtain ⟨hunresolved, hresolved⟩ := h.result.no_wave hended w wave.lane (Table.view_eq_some.mpr ⟨wave, hrow, rfl⟩)
    unfold DelegationWave.lane SourcePhase.of at hunresolved hresolved
    cases hnext : wave.successor_dispatch_id with
    | some d => exact .inr rfl
    | none => cases hstatus : wave.status <;> simp_all [WaveStatus.phase]
  replans id transition hrow _ _ := by
    have hlane : db.lanes.sources (.replan_transition id) = some transition.lane :=
      Table.view_eq_some.mpr ⟨transition, hrow, rfl⟩
    obtain ⟨q, hq, hattempt, -⟩ := h.lanes.lineage.source_row _ _ _ hlane rfl
    obtain ⟨r, hr, -⟩ := h.lanes.pointers.dispatch_attempt _ q hq
    rw [hattempt] at hr
    obtain ⟨attempt, hrow', rfl⟩ := Table.view_eq_some.mp hr
    exact ⟨attempt, hrow', h.result.idle hended _ _ hr⟩

/-- The boundary that the Task row points at carries the outcome of the Task. -/
def ResultOutcome (db : TaskDb) : Prop :=
  ∀ d, db.task.result_boundary_id = some d → ∃ boundary outcome, db.accepted_boundaries.get? d = some boundary ∧
    db.task.terminal_outcome = some outcome ∧ boundary.outcome = outcome.boundary

theorem Committed.result_outcome (hsound : Sound db) (h : Committed controller db t db') (hresult : ResultOutcome db) :
    ResultOutcome db' := by
  have hlater := (h.steps hsound).later hsound.lanes
  have hkeep : db'.task.result_boundary_id = db.task.result_boundary_id →
      db'.task.terminal_outcome = db.task.terminal_outcome → ResultOutcome db' := by
    intro hid houtcome d hd
    obtain ⟨boundary, outcome, hrow, htask, hsame⟩ := hresult d (hid ▸ hd)
    obtain ⟨b, hb, rfl⟩ := hlater.boundaries d boundary.lane (Table.view_eq_some.mpr ⟨boundary, hrow, rfl⟩)
    obtain ⟨boundary', hrow', hlane⟩ := Table.view_eq_some.mp hb
    have houtcome' : boundary'.outcome = boundary.outcome := congrArg LaneBoundary.outcome hlane
    exact ⟨boundary', outcome, hrow', houtcome.trans htask, houtcome'.trans hsame⟩
  rcases h.task with hmoves | ⟨_, _, hcancelled⟩
  · cases hmoves with
    | same task => exact hkeep (by rw [task]) (by rw [task])
    | pause _ task | retire _ task | replan _ task | resume _ task =>
      have hid := congrArg Task.result_boundary_id task
      have houtcome := congrArg Task.terminal_outcome task
      exact hkeep hid houtcome
    | @complete outcome boundary_id boundary _ task row same_outcome =>
      intro d hd
      rw [task] at hd ⊢
      cases hd
      exact ⟨boundary, outcome, row, rfl, same_outcome⟩
  · intro d hd
    rw [hcancelled.task] at hd
    cases hd

theorem Controller.result_outcome (h : controller.runtime.Reachable db) : ResultOutcome db := by
  refine Controller.invariant h (fun input drawn db hstart d hd => ?_)
    fun t db db' hsound hcommitted => hcommitted.result_outcome hsound
  obtain ⟨-, request, basis, -, -, -, hrows⟩ := start_task_rows hstart
  rw [hrows] at hd
  cases hd

theorem TaskMoves.ended (h : TaskMoves db db') (hended : ¬ db.lanes.Active) : db'.task = db.task := by
  cases h with
  | same task => exact task
  | pause running | replan running | complete running => exact absurd (.inl running) hended
  | retire paused | resume paused => exact absurd (.inr paused) hended

theorem Committed.task_ended (h : Committed controller db t db') (hended : ¬ db.lanes.Active) : db'.task = db.task := by
  rcases h.task with hmoves | ⟨_, _, hcancelled⟩
  · exact hmoves.ended hended
  · exact absurd hcancelled.active hended

/-- A Task that has ended stays as it ended, whatever its signals and handlers still try. -/
theorem Controller.path_settled (hended : ¬ db.lanes.Active) (h : controller.runtime.Path db db') :
    db.lanes.Settled db'.lanes := (path_steps h).settled hended

theorem Controller.path_task (hended : ¬ db.lanes.Active) (h : controller.runtime.Path db db') :
    db'.task = db.task := by
  refine (Transactional.Path.keep (P := fun db' => db'.task = db.task ∧ ¬ db'.lanes.Active) h ⟨rfl, hended⟩ ?_).1
  rintro middle last hstep ⟨htask, hended⟩
  obtain ⟨-, t, hcommitted⟩ := committed hstep
  have hlast := hcommitted.task_ended hended
  refine ⟨hlast.trans htask, fun hactive => hended ?_⟩
  change last.task.status = .running ∨ last.task.status = .paused at hactive
  rwa [hlast] at hactive

/-- What a completed Task is from then on. -/
structure TaskCompleted (db db' : TaskDb) : Prop where
  task : db'.task = db.task
  nothing_live : NothingLive db'
  dispatches : ∀ d, (db'.dispatches.get? d).isSome → (db.dispatches.get? d).isSome

/-- A Task is completed exactly when it has a result. The result is a terminal boundary of the root with the
    outcome of the Task, nothing of the Task is live then or ever after, and nothing opens again. -/
theorem task_result_sound (h : controller.runtime.Reachable db) :
    (db.task.status = .completed ↔ db.task.result_boundary_id.isSome) ∧
      (∀ d, db.task.result_boundary_id = some d → ∃ boundary outcome, TaskResult db d boundary outcome) ∧
      (db.task.status = .completed → ∀ db', controller.runtime.Path db db' → TaskCompleted db db') := by
  have hsound := Controller.sound h
  refine ⟨hsound.result.completed, fun d hd => ?_, fun hcompleted db' hpath => ?_⟩
  · obtain ⟨boundary, outcome, hrow, htask, hsame⟩ := Controller.result_outcome h d hd
    obtain ⟨b, hb, hroot, -⟩ := hsound.result.boundary d hd
    have hlane : db.lanes.boundaries d = some boundary.lane := Table.view_eq_some.mpr ⟨boundary, hrow, rfl⟩
    obtain rfl := Option.some.inj (hlane.symm.trans hb)
    exact ⟨boundary, outcome, hrow, hroot, htask, hsame⟩
  · have hended : ¬ db.lanes.Active := by
      rintro (hstatus | hstatus) <;> cases hcompleted.symm.trans hstatus
    have hsettled := Controller.path_settled hended hpath
    refine ⟨Controller.path_task hended hpath,
      (Controller.path_sound hsound hpath).nothing_live (hsettled.ended hended), fun d hd => ?_⟩
    obtain ⟨dispatch, hrow⟩ := Option.isSome_iff_exists.mp hd
    have hlane : db'.lanes.dispatches d = some dispatch.lane := Table.view_eq_some.mpr ⟨dispatch, hrow, rfl⟩
    rw [hsettled.dispatches] at hlane
    obtain ⟨before, hbefore, -⟩ := Table.view_eq_some.mp hlane
    exact Option.isSome_of_eq_some hbefore

/-- The lead of the Task reports that it is blocked. -/
def lead_blocked : List Move := [.accept_start 1 0 0, .operate 1 (.checkpoint (some .blocked) 1 none)]

theorem task_result_sound_lead_blocked :
    ∃ db, db.task.status = .completed ∧
      (db.task.status = .completed ↔ db.task.result_boundary_id.isSome) ∧
      (∀ d, db.task.result_boundary_id = some d → ∃ boundary outcome, TaskResult db d boundary outcome) ∧
      (db.task.status = .completed → ∀ db', plain_controller.runtime.Path db db' → TaskCompleted db db') := by
  obtain ⟨db, hreachable, hcompleted⟩ := reachable_of_replay lead_blocked
    (P := fun db => decide (db.task.status = .completed)) (by decide +kernel)
  exact ⟨db, of_decide_eq_true hcompleted, task_result_sound hreachable⟩

end OhMySubagents
