import OhMySubagents.Watchdog.Recovery

open Relational

namespace OhMySubagents

/-- A prompt that was built from the rows `stale` still describes the rows `db`. -/
structure PromptCurrent (stale db : TaskDb) (prompt : OrdinaryDispatchSnapshot) (before now : Assignment) : Prop where
  status : db.task.status = stale.task.status
  control : db.task.control_revision = stale.task.control_revision
  team : db.task.current_team_revision_id = stale.task.current_team_revision_id
  prompt_team : prompt.team_revision_id = db.task.current_team_revision_id
  was_selected : current_team_selects_member stale prompt.selection = true
  selected : current_team_selects_member db prompt.selection = true
  assignment_was : stale.assignments.get? prompt.basis.assignment_id = some before
  assignment_row : db.assignments.get? prompt.basis.assignment_id = some now
  member : now.member_id = prompt.selection.member_id
  attempt_was : before.current_attempt_id = prompt.basis.attempt_id
  attempt : now.current_attempt_id = prompt.basis.attempt_id
  work_plan : now.work_plan_revision = before.work_plan_revision
  is_open : now.terminal_outcome = none

variable {stale db : TaskDb}

/-- A commit that rechecks the context of an ordinary prompt finds everything that the prompt was built from. -/
theorem SnapshotRead.current {snapshot : OrdinaryDispatchSnapshot} {before now : Assignment} {source : DispatchTurn}
    {attempt : Attempt} (read : SnapshotRead stale snapshot before)
    (hstatus : db.task.status = snapshot.expected_task_status)
    (hcontrol : db.task.control_revision = snapshot.task_control_revision)
    (context : ContextCurrent db snapshot source now attempt) : PromptCurrent stale db snapshot before now where
  status := hstatus.trans read.status.symm
  control := hcontrol.trans read.control.symm
  team := context.team.trans read.team.symm
  prompt_team := context.team.symm
  was_selected := read.selected
  selected := context.selected
  assignment_was := read.assignment_row
  assignment_row := context.assignment_row
  member := context.assignment_member
  attempt_was := read.assignment_attempt
  attempt := context.assignment_attempt
  work_plan := context.work_plan.trans read.work_plan.symm
  is_open := context.assignment_open

/-- The lane that an ordinary prompt continues: its source was closed when the prompt was built, and its Attempt
    still runs at the commit. -/
structure PromptTail (stale db : TaskDb) (prompt : OrdinaryDispatchSnapshot) (source : DispatchTurn)
    (attempt : Attempt) : Prop where
  source_was : stale.dispatches.get? prompt.basis.source_dispatch_id = some source
  source_attempt : source.attempt_id = prompt.basis.attempt_id
  source_closed : source.is_live = false
  attempt_row : db.attempts.get? prompt.basis.attempt_id = some attempt
  attempt_assignment : attempt.assignment_id = prompt.basis.assignment_id
  attempt_running : attempt.status = .running

theorem read_ordinary_dispatch_snapshot_tail {basis : OrdinaryContinuationBasis} {expected_task_status : TaskStatus}
    {expected_control_revision : Option Nat} {snapshot : OrdinaryDispatchSnapshot} {tail : DispatchTurn}
    {now : Assignment} {attempt : Attempt}
    (read : read_ordinary_dispatch_snapshot stale basis expected_task_status expected_control_revision =
      .ok (some snapshot)) (context : ContextCurrent db snapshot tail now attempt) :
    ∃ source, PromptTail stale db snapshot source attempt := by
  obtain ⟨hbasis, -⟩ := read_ordinary_dispatch_snapshot_success read
  unfold read_ordinary_dispatch_snapshot at read
  split at read
  · cases read
  · next source assignment selection hcontext =>
    unfold read_ordinary_runtime_context at hcontext
    simp only [Option.bind_eq_bind, Option.bind_eq_some_iff, ensure_eq_some_iff, Option.pure_def, Option.some.injEq,
      Prod.mk.injEq] at hcontext
    obtain ⟨_, -, source, hsource, _, -, _, -, _, -, _, -, _, -, rfl, -, -⟩ := hcontext
    simp only [bind_eq_ok_iff, validate_ordinary_runtime_context, require_eq_ok_iff, Bool.and_eq_true,
      DispatchTurn.is_continuation_source_iff] at read
    obtain ⟨_, ⟨⟨⟨-, hattempt, hclosed⟩, -⟩, -⟩, -⟩ := read
    rw [← hbasis] at hsource hattempt
    exact ⟨source, hsource, hattempt, by simp [DispatchTurn.is_live, hclosed], context.attempt_row,
      context.attempt_assignment, context.attempt_running⟩

/-- So does the commit of a replacement. -/
theorem WatchdogReplaced.current {db' : TaskDb} {snapshot : WatchdogRecoverySnapshot} {signal : WatchdogDue}
    {observed_at committed_at : Instant} {timeout_seconds : Nat} {prepared : PreparedDispatchRequest}
    {source : DispatchTurn} {assignment : Assignment} {attempt : Attempt}
    (read : read_watchdog_recovery_snapshot stale signal observed_at timeout_seconds = some snapshot)
    (h : WatchdogReplaced db snapshot prepared committed_at source assignment attempt db') :
    ∃ before, PromptCurrent stale db snapshot.dispatch before assignment := by
  obtain ⟨source', before, attempt', started, hstale, -, -, rfl⟩ := read_watchdog_recovery_snapshot_success read
  exact ⟨before,
    { status := h.lane.running.trans hstale.lane.running.symm
      control := h.control
      team := h.team
      prompt_team := h.team.symm
      was_selected := hstale.selected
      selected := h.selected
      assignment_was := hstale.assignment_row
      assignment_row := h.assignment_row
      member := h.assignment_member
      attempt_was := hstale.assignment_attempt
      attempt := h.assignment_attempt
      work_plan := h.work_plan
      is_open := h.assignment_open }⟩

end OhMySubagents
