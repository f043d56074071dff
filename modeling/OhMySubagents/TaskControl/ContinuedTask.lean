import OhMySubagents.TaskControl.ContinuationSteps

open Relational

namespace OhMySubagents

/-- The lanes of a resume open one after another. -/
inductive ContinuationsOpened : List PreparedPausedContinuation → TaskDb → TaskDb → Prop
  | nil {db} : ContinuationsOpened [] db db
  | cons {item items db claimed next db' attempt}
      (opened : DispatchOpened db claimed next item.snapshot item.prepared attempt)
      (step : Lanes.Step db.lanes next.lanes) (rest : ContinuationsOpened items next db') :
      ContinuationsOpened (item :: items) db db'

/-- The rows after the Task runs again and its watchdog counts are reset. -/
def TaskDb.resumed (db : TaskDb) : TaskDb :=
  { db with task := db.task.resume, attempts := db.attempts.mapRows fun _ attempt => attempt.reset_watchdog }

/-- What one successful resume read, checked and opened. -/
structure TaskContinued (stale db : TaskDb) (plan : PausedTaskContinuationPlan) (drawn : DrawnContinuations)
    (items : List PreparedPausedContinuation) (db' : TaskDb) : Prop where
  plan_read : ∃ team control, read_paused_task_continuation_plan stale team control = .ok plan
  no_start : plan.has_unconsumed_task_start = false
  prepared : prepare_paused_continuations stale plan drawn = .ok items
  current : paused_task_is_current db plan.task = true
  contexts : ∀ item ∈ items, ordinary_context_is_current db item.snapshot = true
  lanes : ∀ a r, db.attempts.get? a = some r → r.is_halted = true →
    ∃ lane ∈ plan.task.lanes, lane.key = (r.assignment_id, a)
  opened : ContinuationsOpened items db.resumed db'

variable {stale db db' : TaskDb} {plan : PausedTaskContinuationPlan} {drawn : DrawnContinuations}
  {items : List PreparedPausedContinuation} {snapshot : ControlSnapshot}

theorem ContinuationsOpened.steps (h : ContinuationsOpened items db db') : Lanes.Steps db.lanes db'.lanes := by
  induction h with
  | nil => exact .refl
  | cons _ step _ ih => exact .head step ih

theorem Attempt.reset_watchdog_lane (attempt : Attempt) : attempt.reset_watchdog.lane = attempt.lane := by
  unfold Attempt.reset_watchdog
  split <;> rfl

theorem TaskDb.resumed_lanes (db : TaskDb) :
    db.resumed.lanes = db.lanes.putStatus .running db.lanes.result_boundary_id := by
  apply Lanes.ext <;> first | rfl | skip
  funext a
  simp [TaskDb.resumed, Table.view, Function.comp_def, Attempt.reset_watchdog_lane]

/-- Every source of a plan is one of the five kinds. -/
theorem read_paused_task_continuation_plan_sources {team : RevisionId} {control : Nat}
    (h : read_paused_task_continuation_plan stale team control = .ok plan) {source : OperatorContinueSource}
    (hsource : source ∈ plan.sources) : ResumeSource stale plan.task source := by
  unfold read_paused_task_continuation_plan at h
  simp only [bind_eq_ok_iff] at h
  obtain ⟨task, -, sources, hsources, _, -, _, -, h⟩ := h
  cases h
  exact read_operator_continue_sources_success hsources hsource

/-- A plan pins the Task row that it was read from. -/
theorem read_paused_task_continuation_plan_task {team : RevisionId} {control : Nat}
    (h : read_paused_task_continuation_plan stale team control = .ok plan) : stale.task.status = .paused ∧
      plan.task.current_team_revision_id = stale.task.current_team_revision_id ∧
      plan.task.control_revision = stale.task.control_revision := by
  unfold read_paused_task_continuation_plan read_paused_task_snapshot at h
  simp only [bind_eq_ok_iff, require_some_eq_ok_iff, require_eq_ok_iff, Bool.and_eq_true, beq_iff_eq] at h
  obtain ⟨task, ⟨reason, -, _, ⟨⟨hpaused, -⟩, -⟩, _, -, htask⟩, sources, -, _, -, _, -, h⟩ := h
  cases h
  cases htask
  exact ⟨hpaused, rfl, rfl⟩

private theorem open_paused_continuations_success {team : RevisionId} {control : Nat}
    (hplan : read_paused_task_continuation_plan stale team control = .ok plan)
    (hitems : ∀ item ∈ items, ∃ source, PreparedFrom stale plan source item)
    (hready : ∀ item ∈ items, ∃ tail assignment, LaneReady db item.snapshot tail assignment)
    (hinv : db.lanes.Invariant) (running : db.task.status = .running)
    (h : items.foldlM open_paused_continuation db = .ok db') : ContinuationsOpened items db db' := by
  induction items generalizing db with
  | nil =>
    cases h
    exact .nil
  | cons item items ih =>
    rw [List.foldlM_cons, bind_eq_ok_iff] at h
    obtain ⟨next, hopen, hrest⟩ := h
    unfold open_paused_continuation at hopen
    simp only [bind_eq_ok_iff, require_some_eq_ok_iff] at hopen
    obtain ⟨claimed, hclaim, hstage⟩ := hopen
    obtain ⟨source, hfrom⟩ := hitems item List.mem_cons_self
    obtain ⟨tail, assignment, ready⟩ := hready item List.mem_cons_self
    have hsource := read_paused_task_continuation_plan_sources hplan hfrom.source_mem
    obtain ⟨hbasis, -⟩ := read_ordinary_dispatch_snapshot_success hfrom.read
    rw [hfrom.claim] at hclaim
    have hstep := hsource.step hbasis hinv running ready hclaim hstage
    obtain ⟨attempt, hopened⟩ := (hsource.source_claimed hclaim).staged hstage
    have hrows := hopened.rows
    rw [hopened.claims.frame] at hrows
    refine .cons hopened hstep (ih (fun other hother => hitems other (List.mem_cons_of_mem _ hother))
      (fun other hother => ?_) (hinv.step hstep) (by rw [hrows]; exact running) hrest)
    obtain ⟨tail', assignment', ready'⟩ := hready other (List.mem_cons_of_mem _ hother)
    exact ⟨tail', assignment', hopened.ready ready'⟩

theorem commit_paused_continuations_success {team : RevisionId} {control : Nat} (hinv : db.lanes.Invariant)
    (hplan : read_paused_task_continuation_plan stale team control = .ok plan)
    (hstart : plan.has_unconsumed_task_start = false)
    (hprepared : prepare_paused_continuations stale plan drawn = .ok items)
    (h : commit_paused_continuations db plan items = .ok db') : TaskContinued stale db plan drawn items db' := by
  unfold commit_paused_continuations at h
  simp only [bind_eq_ok_iff, require_eq_ok_iff, Bool.and_eq_true, List.all_eq_true] at h
  obtain ⟨_, ⟨hcurrent, hcontexts⟩, reset, hreset, hfold⟩ := h
  unfold reset_watchdog_replacement_counts at hreset
  simp only [bind_eq_ok_iff, require_eq_ok_iff, Bool.and_eq_true, List.all_eq_true] at hreset
  obtain ⟨_, ⟨hlanes, -⟩, hreset⟩ := hreset
  cases hreset
  have hpaused : db.task.status = .paused := by
    unfold paused_task_is_current at hcurrent
    simp only [Bool.and_eq_true, beq_iff_eq] at hcurrent
    exact hcurrent.1.1.1.1.1
  have hresumed : Lanes.Step db.lanes db.resumed.lanes := by
    rw [TaskDb.resumed_lanes]
    exact .resume hpaused
  refine ⟨⟨team, control, hplan⟩, hstart, hprepared, hcurrent, hcontexts, fun a r hr hhalted => ?_, ?_⟩
  · have hkey := hlanes (PausedAttemptLane.of a r).key (List.mem_map.mpr
      ⟨(a, r), Table.mem_select_iff.mpr ⟨hr, hhalted⟩, rfl⟩)
    simpa [PausedAttemptLane.key, PausedAttemptLane.of] using hkey
  · refine open_paused_continuations_success hplan
      (fun item hitem => prepare_paused_continuations_success hprepared hitem)
      (fun item hitem => ?_) (hinv.step hresumed) rfl hfold
    obtain ⟨tail, assignment, attempt, hcontext⟩ := ordinary_context_is_current_iff.mp (hcontexts item hitem)
    obtain ⟨h1, h2, h3, h4, h5, h6, h7, h8, h9, h10⟩ := hcontext.ready
    exact ⟨tail, assignment, h1, h2, h3, h4, h5, h6, h7, h8, h9, h10⟩

/-- A successful resume opened the lanes of its plan; a Task start that was consumed cannot be continued. -/
theorem continue_paused_task_success {drawn_root : Option DrawnDispatchRequest} (hinv : db.lanes.Invariant)
    (hconsumed : db.task_start_source.successor_dispatch_id.isSome)
    (h : continue_paused_task stale db snapshot drawn drawn_root = .ok db') : ∃ plan items,
      read_paused_task_continuation_plan stale snapshot.expected_team_revision_id
        snapshot.expected_control_revision = .ok plan ∧ TaskContinued stale db plan drawn items db' := by
  unfold continue_paused_task at h
  rw [bind_eq_ok_iff] at h
  obtain ⟨plan, hplan, h⟩ := h
  rw [mapError_eq_ok_iff] at hplan
  split at h
  · exact absurd h (continue_paused_root_dispatch_consumed hconsumed)
  · next hstart =>
    simp only [bind_eq_ok_iff, mapError_eq_ok_iff] at h
    obtain ⟨items, hprepared, hcommit⟩ := h
    exact ⟨plan, items, hplan, commit_paused_continuations_success hinv hplan (Bool.not_eq_true _ ▸ hstart)
      hprepared hcommit⟩

theorem TaskContinued.task (h : TaskContinued stale db plan drawn items db') : db.task.status = .paused ∧
    db.task.current_team_revision_id = plan.task.current_team_revision_id ∧
    db.task.control_revision = plan.task.control_revision := by
  have hcurrent := h.current
  unfold paused_task_is_current at hcurrent
  simp only [Bool.and_eq_true, beq_iff_eq] at hcurrent
  exact ⟨hcurrent.1.1.1.1.1, hcurrent.1.1.1.1.2, hcurrent.1.1.1.2⟩

theorem TaskContinued.paused (h : TaskContinued stale db plan drawn items db') : db.task.status = .paused := h.task.1

/-- A resume sets the Task running and then opens its lanes. -/
theorem TaskContinued.steps (h : TaskContinued stale db plan drawn items db') : Lanes.Steps db.lanes db'.lanes := by
  refine .head ?_ h.opened.steps
  rw [TaskDb.resumed_lanes]
  exact .resume h.paused

end OhMySubagents
