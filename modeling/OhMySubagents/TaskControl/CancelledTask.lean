import OhMySubagents.Lanes.Result
import OhMySubagents.TaskControl.CancellationRows

open Relational

namespace OhMySubagents

/-- What one cancellation read and wrote, transaction part by transaction part. -/
structure TaskCancelled (db closed unwaited db' : TaskDb) : Prop where
  active : db.task.status = .running ∨ db.task.status = .paused
  halted : LanesHalted { db with task := db.task.cancel } closed
  idle : ∀ a r, closed.attempts.get? a = some r → r.status = .running → r.current_dispatch_id = none
  dropped : WaitsDropped closed unwaited
  no_wait : ∀ w, unwaited.attempt_waits.get? w = none
  rows : db' = cancel_pending_replan_transition (cancel_execution_rows unwaited)

variable {db db' : TaskDb} {snapshot : ControlSnapshot} {actor : CancellationActor} {cancelled_at : Instant}

theorem Attempt.cancel_lane (attempt : Attempt) : attempt.cancel.lane = attempt.lane.cancel := by
  obtain ⟨_, _, _, _, _, _, status, _⟩ := attempt
  cases status <;> rfl

/-- The sources that `cancel_task` gives up although nothing waits for them. -/
private def abandoned_sources (db : TaskDb) : List SourceId :=
  ((db.delegation_waves.select fun _ wave => wave.is_cancellable).map fun row => SourceId.delegation_wave row.1) ++
    ((db.replan_transitions.select fun _ transition =>
      transition.is_cancellable db.task.current_team_revision_id).map fun row => SourceId.replan_transition row.1)

private theorem abandoned_sources_nodup (db : TaskDb) : (abandoned_sources db).Nodup := by
  unfold abandoned_sources
  rw [List.nodup_append]
  refine ⟨?_, ?_, ?_⟩
  · have h := Table.select_keys_nodup db.delegation_waves fun _ wave => wave.is_cancellable
    simpa [List.map_map, Function.comp_def] using h.map (f := SourceId.delegation_wave) fun a b hab => by injection hab
  · have h := Table.select_keys_nodup db.replan_transitions fun _ transition =>
      transition.is_cancellable db.task.current_team_revision_id
    simpa [List.map_map, Function.comp_def] using h.map (f := SourceId.replan_transition) fun a b
      hab => by injection hab
  · intro s hs s' hs' heq
    obtain ⟨row, -, rfl⟩ := List.mem_map.mp hs
    obtain ⟨row', -, rfl⟩ := List.mem_map.mp hs'
    cases heq

/-- Closing the Dispatches of a Task that is being cancelled. -/
private theorem close_cancelled_task {closed : TaskDb} (hinv : db.lanes.Invariant) (active : db.lanes.Active)
    (h : close_current_task_dispatches { db with task := db.task.cancel } .cancelled (fun _ => none) = .ok closed) :
    LanesHalted { db with task := db.task.cancel } closed ∧
      (∀ a r, closed.attempts.get? a = some r → r.status = .running → r.current_dispatch_id = none) ∧
        Lanes.Steps db.lanes closed.lanes ∧ DropsTo closed.lanes closed := by
  obtain ⟨hhalted, hidle⟩ := close_current_task_dispatches_success (by simp) h
  rw [close_current_task_dispatches_task, map_eq_ok_iff] at h
  obtain ⟨halted, hclosed, rfl⟩ := h
  obtain ⟨hsteps, htask⟩ : Lanes.Steps db.lanes halted.lanes ∧ halted.task = db.task := by
    rcases active with hrunning | hpaused
    · obtain ⟨hlanes, -⟩ := close_current_task_dispatches_success (by simp) hclosed
      exact ⟨hlanes.steps hrunning, by rw [hlanes.frame]⟩
    · have hnone : ∀ a r, db.attempts.get? a = some r → r.current_dispatch_id = none := by
        intro a r hr
        cases hd : r.current_dispatch_id with
        | none => rfl
        | some d =>
          have hrunning := (hinv.pointers.dispatch_pointer a r.lane d (Table.view_eq_some.mpr ⟨r, hr, rfl⟩) hd).1
          rw [hpaused] at hrunning
          cases hrunning
      rw [close_current_task_dispatches_idle hnone] at hclosed
      cases hclosed
      exact ⟨.refl, rfl⟩
  have hmiddle := hinv.steps hsteps
  have hactive : halted.lanes.Active := by
    unfold Lanes.Active at active ⊢
    rwa [TaskDb.lanes_status, htask]
  have hcancel : ({ halted with task := db.task.cancel } : TaskDb).lanes = halted.lanes.putStatus .cancelled none := by
    apply Lanes.ext <;> first | rfl | simp [Task.cancel, htask]
  have hstep : Lanes.Step halted.lanes ({ halted with task := db.task.cancel } : TaskDb).lanes := by
    rw [hcancel]
    refine .cancel hactive fun a r hr => ?_
    cases hd : r.current_dispatch_id with
    | none => rfl
    | some d =>
      obtain ⟨row, hrow, rfl⟩ := Table.view_eq_some.mp hr
      have hstatus := (hmiddle.pointers.dispatch_pointer a _ d hr hd).2.1
      exact absurd (hd.symm.trans (hidle a row hrow hstatus)) (by simp)
  refine ⟨hhalted, hidle, hsteps.tail hstep, hmiddle.step hstep, rfl, fun w v hv => ?_, rfl, fun k => rfl⟩
  obtain ⟨x, hx, hphase, -⟩ := hmiddle.waiting.wait_source w v hactive hv
  exact ⟨x, hx, hphase⟩

theorem DelegationWave.is_cancellable_iff {wave : DelegationWave} : wave.is_cancellable = true ↔
    (wave.status = .open ∨ wave.status = .settled) ∧ wave.successor_dispatch_id = none := by
  simp [DelegationWave.is_cancellable]

theorem ReplanTransition.is_cancellable_iff {transition : ReplanTransition} {current : RevisionId} :
    transition.is_cancellable current = true ↔ transition.successor_team_revision_id = current ∧
      transition.successor_state ≠ .opened ∧ transition.successor_state ≠ .cancelled ∧
        transition.successor_dispatch_id = none := by
  simp [ReplanTransition.is_cancellable, and_assoc]

private theorem mem_abandoned_waves {id : WaveId} {wave : DelegationWave}
    (row : db.delegation_waves.get? id = some wave) :
    SourceId.delegation_wave id ∈ abandoned_sources db ↔ wave.is_cancellable = true := by
  simp [abandoned_sources, Table.mem_select_iff, row]

private theorem mem_abandoned_replans {id : TransitionId} {transition : ReplanTransition}
    (row : db.replan_transitions.get? id = some transition) : SourceId.replan_transition id ∈ abandoned_sources db ↔
      transition.is_cancellable db.task.current_team_revision_id = true := by
  simp [abandoned_sources, Table.mem_select_iff, row]

private theorem cancel_rows_lanes (db : TaskDb) : (cancel_pending_replan_transition (cancel_execution_rows db)).lanes =
    (db.lanes.give_up (abandoned_sources db)).drop_lanes := by
  apply Lanes.ext <;> first | rfl | skip
  · funext a
    simp [cancel_pending_replan_transition, cancel_execution_rows, Lanes.give_up, Table.view, Function.comp_def,
      Attempt.cancel_lane]
  · funext s
    cases s with
    | task_start => simp [Lanes.give_up, TaskDb.source, cancel_pending_replan_transition, cancel_execution_rows,
        abandoned_sources]
    | delegation_wave id =>
      simp only [Lanes.give_up, Lanes.drop_lanes_sources, TaskDb.lanes_sources, TaskDb.source, Table.view,
        cancel_pending_replan_transition, cancel_execution_rows, Table.get?_mapRows]
      cases hrow : db.delegation_waves.get? id with
      | none => rfl
      | some wave =>
        simp only [Option.map_some, mem_abandoned_waves hrow]
        by_cases hcancel : wave.is_cancellable = true
        · simp [hcancel, DelegationWave.lane, DelegationWave.cancel, SourcePhase.of, WaveStatus.phase,
            (DelegationWave.is_cancellable_iff.mp hcancel).2]
        · simp [hcancel]
    | human_request id => simp [Lanes.give_up, TaskDb.source, cancel_pending_replan_transition, cancel_execution_rows,
        abandoned_sources]
    | command_run id => simp [Lanes.give_up, TaskDb.source, cancel_pending_replan_transition, cancel_execution_rows,
        abandoned_sources]
    | replan_transition id =>
      simp only [Lanes.give_up, Lanes.drop_lanes_sources, TaskDb.lanes_sources, TaskDb.source, Table.view,
        cancel_pending_replan_transition, cancel_execution_rows, Table.get?_mapRows]
      cases hrow : db.replan_transitions.get? id with
      | none => rfl
      | some transition =>
        simp only [Option.map_some, mem_abandoned_replans hrow]
        by_cases hcancel : transition.is_cancellable db.task.current_team_revision_id = true
        · simp [hcancel, ReplanTransition.lane, ReplanTransition.cancel, SourcePhase.of, SuccessorState.phase,
            (ReplanTransition.is_cancellable_iff.mp hcancel).2.2.2]
        · simp [hcancel]
  · funext k
    simp [cancel_pending_replan_transition, cancel_execution_rows, Lanes.give_up, Table.view, Function.comp_def,
      DelegationWaveMember.cancel_lane]

/-- Dropping what is left once all waits are gone. -/
private theorem cancel_rows_steps {target : Lanes} (h : DropsTo target db)
    (no_wait : ∀ w, db.attempt_waits.get? w = none) :
    Lanes.Steps target (cancel_pending_replan_transition (cancel_execution_rows db)).lanes := by
  have hsources : db.lanes.sources = target.sources := by rw [h.same]
  have hsteps := Lanes.give_up_steps h.cancelled (abandoned_sources_nodup db) fun s hs => by
    rw [← hsources]
    rcases List.mem_append.mp hs with hs | hs
    · obtain ⟨⟨id, wave⟩, hrow, rfl⟩ := List.mem_map.mp hs
      obtain ⟨hget, hcancellable⟩ := Table.mem_select_iff.mp hrow
      refine ⟨wave.lane, Table.view_eq_some.mpr ⟨wave, hget, rfl⟩, ?_⟩
      obtain ⟨hstatus | hstatus, hnone⟩ := DelegationWave.is_cancellable_iff.mp hcancellable <;>
        simp [DelegationWave.lane, SourcePhase.of, hnone, hstatus, WaveStatus.phase]
    · obtain ⟨⟨id, transition⟩, hrow, rfl⟩ := List.mem_map.mp hs
      obtain ⟨hget, hcancellable⟩ := Table.mem_select_iff.mp hrow
      refine ⟨transition.lane, Table.view_eq_some.mpr ⟨transition, hget, rfl⟩, .inr ?_⟩
      obtain ⟨-, -, hstate, hnone⟩ := ReplanTransition.is_cancellable_iff.mp hcancellable
      simp only [ReplanTransition.lane, SourcePhase.of, hnone, Option.elim_none]
      unfold SuccessorState.phase
      split <;> simp_all
  refine hsteps.tail ?_
  have hdrop : Lanes.Step (target.give_up (abandoned_sources db))
    (target.give_up (abandoned_sources db)).drop_lanes := by
    refine .drop_lanes h.cancelled fun w => ?_
    have hwaits : db.lanes.waits = target.waits := by rw [h.same]
    exact (congrFun hwaits w).symm.trans (Table.view_eq_none.mpr (no_wait w))
  rw [cancel_rows_lanes]
  convert hdrop using 1
  have hmembers : (fun k => (db.lanes.wave_members k).map LaneWaveMember.cancel) =
      fun k => (target.wave_members k).map LaneWaveMember.cancel := funext h.members
  unfold Lanes.drop_lanes Lanes.give_up
  dsimp only
  rw [hmembers, h.same]

/-- What a cancelled Task leaves behind, and what that means for its lanes. -/
theorem cancel_task_success (hinv : db.lanes.Invariant) (h : cancel_task db snapshot actor cancelled_at = .ok db') :
    ∃ closed unwaited, TaskCancelled db closed unwaited db' ∧ Lanes.Steps db.lanes db'.lanes := by
  unfold cancel_task at h
  simp only [bind_eq_ok_iff] at h
  obtain ⟨_, hsnapshot, closed, hclosed, unwaited, hunwaited, h⟩ := h
  cases h
  obtain ⟨-, -, hstatus⟩ := require_control_snapshot_success hsnapshot
  have active : db.task.status = .running ∨ db.task.status = .paused := by simpa using hstatus
  obtain ⟨hhalted, hidle, hclosing, hdrops⟩ := close_cancelled_task hinv active hclosed
  unfold cancel_attempt_waits at hunwaited
  simp only [bind_eq_ok_iff, require_eq_ok_iff, Bool.not_eq_true', Table.any_eq_false_iff] at hunwaited
  obtain ⟨_, hfold, _, hnone, hunwaited⟩ := hunwaited
  cases hunwaited
  obtain ⟨hdropped, target, hsteps, htarget⟩ := hdrops.steps
    (fun row hrow => (Table.mem_select_iff.mp hrow).1) (Table.select_keys_nodup _ _) hfold
  have no_wait : ∀ w, unwaited.attempt_waits.get? w = none := by
    intro w
    cases hw : unwaited.attempt_waits.get? w with
    | none => rfl
    | some v => exact absurd (hnone w v hw) (by simp)
  exact ⟨closed, unwaited, ⟨active, hhalted, hidle, hdropped, no_wait, rfl⟩,
    (hclosing.trans hsteps).trans (cancel_rows_steps htarget no_wait)⟩

theorem Attempt.cancel_ended (attempt : Attempt) :
    attempt.cancel.status ≠ .running ∧ attempt.cancel.status ≠ .pending := by
  obtain ⟨_, _, _, _, _, _, status, _⟩ := attempt
  cases status <;> simp [Attempt.cancel, AttemptStatus.is_active]

namespace TaskCancelled

variable {closed unwaited : TaskDb} (h : TaskCancelled db closed unwaited db')
include h

theorem task : db'.task = db.task.cancel := by
  rw [h.rows]
  change unwaited.task = _
  rw [h.dropped.frame]
  change closed.task = _
  rw [h.halted.frame]

/-- A cancelled Task has no lane left and no result. -/
theorem result : db'.lanes.Result := by
  refine ⟨fun _ a r hr => ?_, fun _ w => ?_, fun _ id x hx => ?_, ?_, fun d hd => ?_⟩
  · rw [h.rows] at hr
    obtain ⟨row, hrow, rfl⟩ := Table.view_eq_some.mp hr
    obtain ⟨attempt, -, rfl⟩ := Option.map_eq_some_iff.mp ((Table.get?_mapRows ..).symm.trans hrow)
    exact attempt.cancel_ended.1
  · rw [h.rows]
    exact Table.view_eq_none.mpr (h.no_wait w)
  · rw [h.rows] at hx
    obtain ⟨row, hrow, rfl⟩ := Table.view_eq_some.mp hx
    obtain ⟨wave, -, rfl⟩ := Option.map_eq_some_iff.mp ((Table.get?_mapRows ..).symm.trans hrow)
    obtain ⟨_, _, _, _, _, _, _, status, successor⟩ := wave
    cases successor <;> cases status <;>
      simp [DelegationWave.is_cancellable, DelegationWave.lane, DelegationWave.cancel, SourcePhase.of, WaveStatus.phase]
  · simp [h.task, Task.cancel]
  · simp [h.task, Task.cancel] at hd

end TaskCancelled

end OhMySubagents
