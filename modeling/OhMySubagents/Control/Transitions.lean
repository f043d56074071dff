import OhMySubagents.Dispatch.Currentness
import OhMySubagents.Lanes.Abstraction
import OhMySubagents.Lanes.Participation
import OhMySubagents.Relational.Alteration

open Relational

namespace OhMySubagents

/-- `TaskDispatchControlConflictError`: a current Dispatch changed during one Task-wide control
    transaction. -/
def task_dispatch_control_conflict (summary : String) : RuntimeOperationError := internal_error summary

def current_dispatch_changed : RuntimeOperationError :=
  task_dispatch_control_conflict "a current Attempt Dispatch changed before Task control"

/-- The runnable Dispatch that one Attempt row joins to. -/
def current_task_dispatch (db : TaskDb) (attempt_id : AttemptId) (attempt : Attempt) :
    Option AttemptDispatchIdentity := do
  let dispatch_id ← attempt.current_dispatch_id
  let dispatch ← db.dispatches.get? dispatch_id
  ensure (attempt.status == .running && attempt.current_wait_id.isNone &&
    dispatch.assignment_id == attempt.assignment_id && dispatch.attempt_id == attempt_id && dispatch.is_live)
  return ⟨attempt.assignment_id, attempt_id, dispatch_id⟩

def read_current_task_dispatches (db : TaskDb) : List AttemptDispatchIdentity :=
  (db.attempts.select fun _ _ => true).filterMap fun row => current_task_dispatch db row.1 row.2

def close_current_task_dispatch (closed_reason : DispatchClosedReason) (db : TaskDb)
    (current : AttemptDispatchIdentity) : Result TaskDb := do
  let dispatches ← require_some
    (db.dispatches.updateWhere current.dispatch_id
      (fun dispatch => dispatch.assignment_id == current.assignment_id &&
        dispatch.attempt_id == current.attempt_id && dispatch.is_live)
      fun dispatch => dispatch.close closed_reason)
    current_dispatch_changed
  let attempts ← require_some
    (db.attempts.updateWhere current.attempt_id (fun attempt => attempt.holds current)
      fun attempt => { attempt with current_dispatch_id := none })
    current_dispatch_changed
  return { db with dispatches := dispatches, attempts := attempts }

/-- Close and clear every current runnable Dispatch in one Task transaction. -/
def close_current_task_dispatches (db : TaskDb) (closed_reason : DispatchClosedReason)
    (reason_overrides : DispatchId → Option DispatchClosedReason) : Result TaskDb := do
  let closed ← (read_current_task_dispatches db).foldlM
    (fun db current =>
      close_current_task_dispatch ((reason_overrides current.dispatch_id).getD closed_reason) db current) db
  require (!closed.attempts.any fun _ attempt =>
      attempt.status == .running && attempt.current_dispatch_id.isSome)
    (task_dispatch_control_conflict "Task control did not settle every current Attempt Dispatch")
  return closed

def Task.pause (task : Task) (pause_reason : PauseReason) : Task :=
  { task with status := .paused, pause_reason := some pause_reason, control_revision := task.control_revision + 1 }

/-- Pause an exact failed continuation and settle every runnable sibling lane. -/
def pause_task_for_runtime_transition_failure (db : TaskDb) (source_is_current : Bool) : Result TaskDb :=
  if db.task.status == .running && source_is_current then
    close_current_task_dispatches { db with task := db.task.pause .runtime_transition_failed } .paused fun _ => none
  else
    return db

/-- An Attempt only loses its Dispatch. -/
def Attempt.Frees (attempt attempt' : Attempt) : Prop :=
  attempt' = attempt ∨ attempt' = { attempt with current_dispatch_id := none }

/-- A Dispatch only closes. -/
def DispatchTurn.Closes (dispatch dispatch' : DispatchTurn) : Prop :=
  dispatch' = dispatch ∨ dispatch.is_live = true ∧ ∃ reason, dispatch' = dispatch.close reason

theorem Attempt.Frees.trans (r r' r'' : Attempt) (h : r.Frees r') (h' : r'.Frees r'') : r.Frees r'' := by
  obtain rfl | rfl := h
  · exact h'
  · obtain rfl | rfl := h' <;> exact .inr rfl

theorem DispatchTurn.Closes.trans (q q' q'' : DispatchTurn) (h : q.Closes q') (h' : q'.Closes q'') :
    q.Closes q'' := by
  obtain rfl | ⟨hlive, reason, rfl⟩ := h
  · exact h'
  · obtain rfl | ⟨-, reason', rfl⟩ := h'
    · exact .inr ⟨hlive, reason, rfl⟩
    · exact .inr ⟨hlive, reason', rfl⟩

/-- What a Task-wide close leaves behind: only Dispatches and Attempt pointers change. -/
structure LanesHalted (db db' : TaskDb) : Prop where
  frame : db' = { db with dispatches := db'.dispatches, attempts := db'.attempts }
  steps : db.task.status = .running → Lanes.Steps db.lanes db'.lanes
  attempts : Evolves Attempt.Frees db.attempts db'.attempts
  dispatches : Evolves DispatchTurn.Closes db.dispatches db'.dispatches

theorem close_current_task_dispatch_success {db db' : TaskDb} {closed_reason : DispatchClosedReason}
    {current : AttemptDispatchIdentity} (h : close_current_task_dispatch closed_reason db current = .ok db') :
    ∃ dispatch attempt, db.dispatches.get? current.dispatch_id = some dispatch ∧
      dispatch.assignment_id = current.assignment_id ∧ dispatch.attempt_id = current.attempt_id ∧
      dispatch.is_live = true ∧ db.attempts.get? current.attempt_id = some attempt ∧
      attempt.holds current = true ∧
      db' = { db with
        dispatches := db.dispatches.set current.dispatch_id (dispatch.close closed_reason)
        attempts := db.attempts.set current.attempt_id { attempt with current_dispatch_id := none } } := by
  unfold close_current_task_dispatch at h
  simp only [bind_eq_ok_iff, require_some_eq_ok_iff, Table.updateWhere_eq_some, Bool.and_eq_true,
    beq_iff_eq] at h
  obtain ⟨_, ⟨dispatch, hdispatch, ⟨⟨ha, ht⟩, hlive⟩, rfl⟩, _, ⟨attempt, hattempt, hholds, rfl⟩, h⟩ := h
  cases h
  exact ⟨dispatch, attempt, hdispatch, ha, ht, hlive, hattempt, hholds, rfl⟩

/-- Closing one current Dispatch of a running Task halts its lane. -/
theorem close_current_task_dispatch_step {db db' : TaskDb} {closed_reason : DispatchClosedReason}
    {current : AttemptDispatchIdentity} (h : close_current_task_dispatch closed_reason db current = .ok db')
    (running : db.task.status = .running)
    (hreason : closed_reason = .paused ∨ closed_reason = .control_failed ∨ closed_reason = .cancelled) :
    Lanes.Step db.lanes db'.lanes := by
  obtain ⟨dispatch, attempt, hdispatch, ha, ht, hlive, hattempt, hholds, rfl⟩ :=
    close_current_task_dispatch_success h
  obtain ⟨hassignment, hstatus, hcurrent, hwait⟩ := Attempt.holds_iff.mp hholds
  rw [lanes_release]
  refine .halt ⟨running, ?_, hstatus, hcurrent, hwait, ?_, ht, ha.trans hassignment.symm, ?_⟩ hreason
  · exact Table.view_eq_some.mpr ⟨attempt, hattempt, rfl⟩
  · exact Table.view_eq_some.mpr ⟨dispatch, hdispatch, rfl⟩
  · exact DispatchTurn.lane_live.mpr hlive

theorem close_current_task_dispatches_success {db db' : TaskDb} {closed_reason : DispatchClosedReason}
    {reason_overrides : DispatchId → Option DispatchClosedReason}
    (hreason : ∀ d, (reason_overrides d).getD closed_reason ∈
      [DispatchClosedReason.paused, .control_failed, .cancelled])
    (h : close_current_task_dispatches db closed_reason reason_overrides = .ok db') :
    LanesHalted db db' ∧ ∀ a r, db'.attempts.get? a = some r → r.status = .running →
      r.current_dispatch_id = none := by
  unfold close_current_task_dispatches at h
  simp only [bind_eq_ok_iff, require_eq_ok_iff, Bool.not_eq_true', Table.any_eq_false_iff] at h
  obtain ⟨closed, hfold, _, hnone, h⟩ := h
  cases h
  refine ⟨?_, fun a r hr hrunning => ?_⟩
  · refine foldlM_invariant (P := LanesHalted)
      (fun db => ⟨rfl, fun _ => .refl, .refl (fun _ => .inl rfl) _, .refl (fun _ => .inl rfl) _⟩) ?_ hfold
    intro db middle next current hmiddle hnext
    obtain ⟨dispatch, attempt, hdispatch, ha, ht, hlive, hattempt, hholds, hnext'⟩ :=
      close_current_task_dispatch_success hnext
    refine ⟨?_, fun running => ?_, ?_, ?_⟩
    · rw [hnext', hmiddle.frame]
    · have hstatus : middle.task.status = .running := by rw [hmiddle.frame]; exact running
      refine (hmiddle.steps running).tail (close_current_task_dispatch_step hnext hstatus ?_)
      simpa using hreason current.dispatch_id
    · refine hmiddle.attempts.trans Attempt.Frees.trans ?_
      rw [hnext']
      exact .set (fun _ => .inl rfl) hattempt (.inr rfl)
    · refine hmiddle.dispatches.trans DispatchTurn.Closes.trans ?_
      rw [hnext']
      exact .set (fun _ => .inl rfl) hdispatch (.inr ⟨hlive, _, rfl⟩)
  · simpa [hrunning] using hnone a r hr

private theorem close_current_task_dispatch_task (db : TaskDb) (task : Task) (closed_reason : DispatchClosedReason)
    (current : AttemptDispatchIdentity) :
    close_current_task_dispatch closed_reason { db with task := task } current =
      (close_current_task_dispatch closed_reason db current).map fun db => { db with task := task } := by
  unfold close_current_task_dispatch
  dsimp only
  generalize require_some (db.dispatches.updateWhere _ _ _) _ = dispatches
  generalize require_some (db.attempts.updateWhere _ _ _) _ = attempts
  cases dispatches <;> cases attempts <;> rfl

/-- A Task-wide close never looks at the Task row. -/
theorem close_current_task_dispatches_task (db : TaskDb) (task : Task) (closed_reason : DispatchClosedReason)
    (reason_overrides : DispatchId → Option DispatchClosedReason) :
    close_current_task_dispatches { db with task := task } closed_reason reason_overrides =
      (close_current_task_dispatches db closed_reason reason_overrides).map fun db => { db with task := task } := by
  have hloop := foldlM_map_state (g := fun db : TaskDb => { db with task := task })
    (f := fun db (current : AttemptDispatchIdentity) =>
      close_current_task_dispatch ((reason_overrides current.dispatch_id).getD closed_reason) db current)
    (fun db current => close_current_task_dispatch_task db task _ current) (read_current_task_dispatches db) db
  unfold close_current_task_dispatches
  rw [show read_current_task_dispatches { db with task := task } = read_current_task_dispatches db from rfl, hloop]
  cases List.foldlM (fun db current => close_current_task_dispatch
      ((reason_overrides current.dispatch_id).getD closed_reason) db current) db (read_current_task_dispatches db) with
  | error e => rfl
  | ok closed =>
    simp only [Except.map, bind, Except.bind]
    generalize require _ _ = settled
    cases settled <;> rfl

/-- Where no Attempt points at a Dispatch there is nothing to close. -/
theorem close_current_task_dispatches_idle {db : TaskDb} {closed_reason : DispatchClosedReason}
    {reason_overrides : DispatchId → Option DispatchClosedReason}
    (h : ∀ a r, db.attempts.get? a = some r → r.current_dispatch_id = none) :
    close_current_task_dispatches db closed_reason reason_overrides = .ok db := by
  have hread : read_current_task_dispatches db = [] := by
    refine List.filterMap_eq_nil_iff.mpr fun row hrow => ?_
    rw [current_task_dispatch, h row.1 row.2 (Table.mem_select_iff.mp hrow).1]
    rfl
  have hnone : (!db.attempts.any fun _ attempt =>
      attempt.status == .running && attempt.current_dispatch_id.isSome) = true := by
    rw [Bool.not_eq_true', Table.any_eq_false_iff]
    intro a r hr
    simp [h a r hr]
  unfold close_current_task_dispatches
  rw [hread, List.foldlM_nil, pure_bind, hnone]
  rfl

/-- A pause of a running Task halts its lanes and sets the Task row. -/
structure TaskPaused (db db' : TaskDb) (pause_reason : PauseReason) : Prop where
  running : db.task.status = .running
  task : db'.task = db.task.pause pause_reason
  halted : LanesHalted { db with task := db.task.pause pause_reason } db'
  idle : ∀ a r, db'.attempts.get? a = some r → r.status = .running → r.current_dispatch_id = none
  steps : db.lanes.Invariant → Lanes.Steps db.lanes db'.lanes

/-- Setting the Task row and closing every Dispatch amounts to halts followed by the pause. -/
theorem close_current_task_dispatches_pause {db db' : TaskDb} {pause_reason : PauseReason}
    {reason_overrides : DispatchId → Option DispatchClosedReason} (running : db.task.status = .running)
    (hreason : ∀ d, (reason_overrides d).getD .paused ∈ [DispatchClosedReason.paused, .control_failed, .cancelled])
    (h : close_current_task_dispatches { db with task := db.task.pause pause_reason } .paused reason_overrides =
      .ok db') : TaskPaused db db' pause_reason := by
  obtain ⟨hhalted, hidle⟩ := close_current_task_dispatches_success hreason h
  rw [close_current_task_dispatches_task] at h
  cases hclosed : close_current_task_dispatches db .paused reason_overrides with
  | error e => rw [hclosed] at h; cases h
  | ok closed =>
    rw [hclosed] at h
    cases h
    obtain ⟨hclosed', -⟩ := close_current_task_dispatches_success hreason hclosed
    have htask : closed.task = db.task := by rw [hclosed'.frame]
    refine ⟨running, rfl, hhalted, hidle, fun hinv => ?_⟩
    have hsteps := hclosed'.steps running
    have hp := (hinv.steps hsteps).pointers
    refine hsteps.tail ?_
    have hpause : ({ closed with task := db.task.pause pause_reason } : TaskDb).lanes =
        closed.lanes.putStatus .paused closed.lanes.result_boundary_id := by
      apply Lanes.ext <;> first | rfl | simp [Task.pause, htask]
    rw [hpause]
    refine .pause (by simpa [htask] using running) fun a r hr => ?_
    cases hd : r.current_dispatch_id with
    | none => rfl
    | some d =>
      obtain ⟨row, hrow, rfl⟩ := Table.view_eq_some.mp hr
      have hstatus := (hp.dispatch_pointer a _ d hr hd).2.1
      have hnone := hidle a row hrow hstatus
      exact absurd (hd.symm.trans hnone) (by simp)

theorem pause_task_for_runtime_transition_failure_success {db db' : TaskDb} {source_is_current : Bool}
    (h : pause_task_for_runtime_transition_failure db source_is_current = .ok db') :
    db' = db ∨ source_is_current = true ∧ TaskPaused db db' .runtime_transition_failed := by
  unfold pause_task_for_runtime_transition_failure at h
  split at h
  · next hcurrent =>
    rw [Bool.and_eq_true, beq_iff_eq] at hcurrent
    exact .inr ⟨hcurrent.2, close_current_task_dispatches_pause hcurrent.1 (by simp) h⟩
  · cases h
    exact .inl rfl

/-- Atomically pause one running Task whose existing workspace cannot be opened. -/
def pause_task_for_unavailable_workspace (db : TaskDb) : Result TaskDb :=
  if db.task.status == .running then
    close_current_task_dispatches { db with task := db.task.pause .workspace_unavailable } .paused fun _ => none
  else .ok db

theorem pause_task_for_unavailable_workspace_success {db db' : TaskDb}
    (h : pause_task_for_unavailable_workspace db = .ok db') :
    db' = db ∨ TaskPaused db db' .workspace_unavailable := by
  unfold pause_task_for_unavailable_workspace at h
  split at h
  · next hrunning => exact .inr (close_current_task_dispatches_pause (beq_iff_eq.mp hrunning) (by simp) h)
  · cases h
    exact .inl rfl

end OhMySubagents
