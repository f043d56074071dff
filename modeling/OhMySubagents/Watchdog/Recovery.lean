import OhMySubagents.Rows
import OhMySubagents.Dispatch.Successor
import OhMySubagents.Watchdog.Pause

open Relational

namespace OhMySubagents

/-- How the preparation of a replacement went: its context could not be rendered, its request could not be
    prepared, or it was drawn. -/
inductive WatchdogPreparation
  | rendering_failed
  | preparation_failed
  | drawn (request : DrawnDispatchRequest)
  deriving DecidableEq, Repr

/-- The conditional update of the Task row that starts a replacement. -/
def claim_watchdog_replacement_task (db : TaskDb) (snapshot : WatchdogRecoverySnapshot) : Option Unit :=
  ensure (watchdog_context_is_current db snapshot && watchdog_replacement_count_matches db snapshot &&
    dispatch_has_no_external_source db snapshot.dispatch.basis.source_dispatch_id &&
    dispatch_has_no_successor db snapshot.dispatch.basis.source_dispatch_id)

/-- The filter on the exact silent Dispatch that a snapshot was read from. -/
def DispatchTurn.is_watchdog_source (dispatch : DispatchTurn) (snapshot : WatchdogRecoverySnapshot) : Bool :=
  dispatch.assignment_id == snapshot.dispatch.basis.assignment_id &&
    dispatch.attempt_id == snapshot.dispatch.basis.attempt_id &&
    dispatch.team_revision_id == snapshot.source_team_revision_id &&
    dispatch.member_id == snapshot.dispatch.selection.member_id && dispatch.status == .open &&
    dispatch.adapter_started_at == some snapshot.adapter_started_at &&
    dispatch.last_node_activity_at == snapshot.last_node_activity_at &&
    dispatch.node_activity_revision == snapshot.activity_revision

def close_watchdog_source_dispatch (db : TaskDb) (snapshot : WatchdogRecoverySnapshot) : Option TaskDb := do
  let dispatches ← db.dispatches.updateWhere snapshot.dispatch.basis.source_dispatch_id
    (fun dispatch => dispatch.is_watchdog_source snapshot && watchdog_context_is_current db snapshot &&
      watchdog_replacement_count_matches db snapshot &&
      dispatch_has_no_external_source db snapshot.dispatch.basis.source_dispatch_id &&
      dispatch_has_no_successor db snapshot.dispatch.basis.source_dispatch_id)
    fun dispatch => dispatch.close .watchdog_superseded
  return { db with dispatches := dispatches }

def Attempt.count_replacement (attempt : Attempt) : Attempt :=
  { attempt with watchdog_replacement_count := attempt.watchdog_replacement_count + 1 }

def increment_watchdog_replacement_count (db : TaskDb) (snapshot : WatchdogRecoverySnapshot) : Option TaskDb := do
  let attempts ← db.attempts.updateWhere snapshot.dispatch.basis.attempt_id
    (fun attempt => attempt.holds ⟨snapshot.dispatch.basis.assignment_id, snapshot.dispatch.basis.attempt_id,
        snapshot.dispatch.basis.source_dispatch_id⟩ &&
      attempt.watchdog_replacement_count == snapshot.watchdog_replacement_count)
    Attempt.count_replacement
  return { db with attempts := attempts }

/-- Everything that a replacement claims before it opens. -/
def claim_watchdog_replacement (db : TaskDb) (snapshot : WatchdogRecoverySnapshot) (committed_at : Instant) :
    Option TaskDb := do
  ensure (snapshot.authoritative_due_at ≤ committed_at)
  claim_watchdog_replacement_task db snapshot
  let closed ← close_watchdog_source_dispatch db snapshot
  increment_watchdog_replacement_count closed snapshot

def commit_watchdog_replacement (db : TaskDb) (snapshot : WatchdogRecoverySnapshot)
    (prepared : PreparedDispatchRequest) (committed_at : Instant) : Result (Option TaskDb) :=
  match claim_watchdog_replacement db snapshot committed_at with
  | none => .ok none
  | some counted => (stage_starting_dispatch counted snapshot.dispatch.starting_basis prepared).map some

/-- The pause that follows a failed preparation, if it still finds its source. -/
def pause_or_skip (db : TaskDb) (paused : Option TaskDb) : OrdinaryOpeningOutcome × TaskDb :=
  paused.elim (.skipped, db) fun paused => (.paused, paused)

/-- Conditionally replace one exact stale dispatch or pause on its recovery cap. `stale` are the rows that
    the snapshot was read from, and `reread` those that a failed preparation looks at again. -/
def recover_stale_dispatch (settings : RuntimeSettings) (stale reread db : TaskDb) (signal : WatchdogDue)
    (observed_at committed_at : Instant) (preparation : WatchdogPreparation) :
    Result (OrdinaryOpeningOutcome × TaskDb) :=
  let timeout_seconds := settings.watchdog_inactivity_timeout_seconds
  let failed := pause_or_skip db (pause_failed_watchdog_signal reread db signal committed_at timeout_seconds)
  match read_watchdog_recovery_snapshot stale signal observed_at timeout_seconds with
  | none => .ok (.skipped, db)
  | some snapshot =>
    if preparation = .rendering_failed then .ok failed
    else if settings.watchdog_same_attempt_replacement_limit ≤ snapshot.watchdog_replacement_count then
      .ok (pause_or_skip db (pause_watchdog_snapshot db snapshot .runtime_recovery_exhausted))
    else
      match preparation with
      | .drawn request => do
        let prepared := prepare_dispatch_request request snapshot.dispatch.steering
        match ← commit_watchdog_replacement db snapshot prepared committed_at with
        | none => return (.skipped, db)
        | some replaced => return (.opened prepared.dispatch_id, replaced)
      | _ => .ok failed

/-- What a committed replacement found and left behind. -/
structure WatchdogReplaced (db : TaskDb) (snapshot : WatchdogRecoverySnapshot) (prepared : PreparedDispatchRequest)
    (committed_at : Instant) (source : DispatchTurn) (assignment : Assignment) (attempt : Attempt) (db' : TaskDb) :
    Prop where
  due : snapshot.authoritative_due_at ≤ committed_at
  lane : HoldsLane db ⟨snapshot.dispatch.basis.assignment_id, snapshot.dispatch.basis.attempt_id,
    snapshot.dispatch.basis.source_dispatch_id⟩ attempt source
  is_open : source.status = .open
  started : source.adapter_started_at = some snapshot.adapter_started_at
  last_activity : source.last_node_activity_at = snapshot.last_node_activity_at
  activity : source.node_activity_revision = snapshot.activity_revision
  source_selection : source.selection = snapshot.dispatch.selection
  count : attempt.watchdog_replacement_count = snapshot.watchdog_replacement_count
  team : db.task.current_team_revision_id = snapshot.dispatch.team_revision_id
  control : db.task.control_revision = snapshot.dispatch.task_control_revision
  selected : current_team_selects_member db snapshot.dispatch.selection = true
  assignment_row : db.assignments.get? snapshot.dispatch.basis.assignment_id = some assignment
  assignment_member : assignment.member_id = snapshot.dispatch.selection.member_id
  assignment_attempt : assignment.current_attempt_id = snapshot.dispatch.basis.attempt_id
  assignment_open : assignment.terminal_outcome = none
  work_plan : assignment.work_plan_revision = snapshot.dispatch.assignment_work_plan_revision
  unowned : dispatch_owns_external_source db snapshot.dispatch.basis.source_dispatch_id = false
  unfollowed : ∀ d successor, db.dispatches.get? d = some successor →
    successor.predecessor_dispatch_id ≠ some snapshot.dispatch.basis.source_dispatch_id
  fresh : db.dispatches.get? prepared.dispatch_id = none
  result : db' = { db with
    dispatches := (db.dispatches.set snapshot.dispatch.basis.source_dispatch_id
      (source.close .watchdog_superseded)).set prepared.dispatch_id
        (build_starting_dispatch_model snapshot.dispatch.starting_basis prepared)
    attempts := db.attempts.set snapshot.dispatch.basis.attempt_id
      { attempt.count_replacement with current_dispatch_id := some prepared.dispatch_id } }

variable {db db' : TaskDb} {snapshot : WatchdogRecoverySnapshot} {prepared : PreparedDispatchRequest}
  {committed_at : Instant}

theorem commit_watchdog_replacement_success
    (h : commit_watchdog_replacement db snapshot prepared committed_at = .ok (some db')) :
    ∃ source assignment attempt, WatchdogReplaced db snapshot prepared committed_at source assignment attempt db' := by
  unfold commit_watchdog_replacement at h
  split at h
  · cases h
  · next counted hclaimed =>
    rw [map_eq_ok_iff] at h
    obtain ⟨_, hstage, h⟩ := h
    cases h
    unfold claim_watchdog_replacement claim_watchdog_replacement_task close_watchdog_source_dispatch
      increment_watchdog_replacement_count
      watchdog_context_is_current watchdog_replacement_count_matches dispatch_has_no_external_source
      dispatch_has_no_successor DispatchTurn.is_watchdog_source at hclaimed
    simp only [Option.bind_eq_bind, Option.bind_eq_some_iff, ensure_eq_some_iff, Table.updateWhere_eq_some,
      Option.pure_def, Option.some.injEq, Bool.and_eq_true, beq_iff_eq, Option.any_eq_true, Bool.not_eq_true',
      decide_eq_true_eq, Table.any_eq_false_iff, beq_eq_false_iff_ne, Attempt.holds_iff, Assignment.is_snapshot,
      Assignment.is_current_iff] at hclaimed
    obtain ⟨_, hdue, _, ⟨⟨⟨⟨⟨⟨⟨⟨⟨hrunning, hteam⟩, hcontrol⟩, hselected⟩, assignment, hassignment,
      ⟨hmember, hcurrent, hnone⟩, hplan⟩, -⟩, other, hother, ⟨⟨⟨-, -⟩, -⟩, hselection⟩, hopen⟩, -⟩, hexternal⟩,
      hsuccessor⟩, _, ⟨_, ⟨source, hsource, hfilter, rfl⟩, rfl⟩, _, ⟨attempt, hattempt, hholds, rfl⟩, rfl⟩ := hclaimed
    obtain rfl : source = other := Option.some.inj (hsource.symm.trans hother)
    obtain ⟨⟨⟨⟨⟨⟨⟨⟨⟨⟨⟨hasg, hatt⟩, -⟩, -⟩, -⟩, hstarted⟩, hlast⟩, hactivity⟩, -⟩, -⟩, -⟩, -⟩ := hfilter
    obtain ⟨⟨haa, har, had, haw⟩, hcount⟩ := hholds
    obtain ⟨attempt', hattempt', -, hinsert, rfl⟩ := stage_starting_dispatch_eq_ok.mp hstage
    have hlive : source.is_live = true := by simp [DispatchTurn.is_live, hopen]
    have hrow' : (db.attempts.set snapshot.dispatch.basis.attempt_id attempt.count_replacement).get?
        snapshot.dispatch.basis.attempt_id = some attempt' := hattempt'
    rw [Table.get?_set_self] at hrow'
    cases hrow'
    have hfresh := hinsert.fresh
    rw [Table.get?_set] at hfresh
    split at hfresh
    · cases hfresh
    · refine ⟨source, assignment, attempt, hdue, ⟨hrunning, hattempt, haa, har, had, haw, hsource, hasg, hatt, hlive⟩,
        hopen, hstarted, hlast, hactivity, hselection, hcount, hteam, hcontrol, ?_, hassignment, hmember, hcurrent,
        hnone, hplan, hexternal, hsuccessor, hfresh, ?_⟩
      · rw [current_team_selects_member, hteam]
        exact hselected
      · dsimp only [OrdinaryDispatchSnapshot.starting_basis]
        rw [Table.set_set]

/-- A replacement closes the silent Dispatch and opens its successor in the same lane. -/
theorem WatchdogReplaced.step {source : DispatchTurn} {assignment : Assignment} {attempt : Attempt}
    (h : WatchdogReplaced db snapshot prepared committed_at source assignment attempt db')
    (hopened : snapshot.dispatch.basis.opened_reason = .watchdog_recovery) : Lanes.Step db.lanes db'.lanes := by
  have hassignment : attempt.assignment_id = snapshot.dispatch.basis.assignment_id := h.lane.attempt_assignment
  have hstep := @Lanes.Step.replace db.lanes snapshot.dispatch.basis.source_dispatch_id
    snapshot.dispatch.basis.attempt_id source.lane attempt.lane assignment.lane prepared.dispatch_id
    (build_starting_dispatch_model snapshot.dispatch.starting_basis prepared).lane
    ⟨h.lane.running, Table.view_eq_some.mpr ⟨attempt, h.lane.attempt_row, rfl⟩, h.lane.attempt_running, h.lane.current,
      h.lane.no_wait, Table.view_eq_some.mpr ⟨source, h.lane.dispatch_row, rfl⟩, h.lane.dispatch_attempt,
      h.lane.dispatch_assignment.trans hassignment.symm, DispatchTurn.lane_live.mpr h.lane.live⟩
    ⟨Table.view_eq_some.mpr ⟨assignment, (congrArg _ hassignment).trans h.assignment_row, rfl⟩, h.assignment_attempt,
      h.assignment_open⟩
    { fresh := Table.view_eq_none.mpr h.fresh
      live := rfl
      revision := h.team.symm
      selected := team_revision_selects_member_iff.mp h.selected
      member := h.assignment_member.symm
      predecessor := fun d' q' hq' _ => by
        obtain ⟨other, hother, rfl⟩ := Table.view_eq_some.mp hq'
        exact h.unfollowed d' other hother }
    ⟨hassignment.symm, rfl, rfl⟩ hopened
  rw [h.result]
  convert hstep using 1
  apply Lanes.ext <;> first | rfl | simp [Attempt.lane, Attempt.count_replacement]

/-- What one handled signal leaves behind: nothing, a pause, or one replacement of a stale Dispatch. -/
theorem recover_stale_dispatch_cases {settings : RuntimeSettings} {stale reread : TaskDb} {signal : WatchdogDue}
    {observed_at : Instant} {preparation : WatchdogPreparation} {outcome : OrdinaryOpeningOutcome}
    (h : recover_stale_dispatch settings stale reread db signal observed_at committed_at preparation =
      .ok (outcome, db')) :
    db' = db ∧ outcome = .skipped ∨
      (∃ snapshot, read_watchdog_recovery_snapshot stale signal observed_at
          settings.watchdog_inactivity_timeout_seconds = some snapshot ∧
        settings.watchdog_same_attempt_replacement_limit ≤ snapshot.watchdog_replacement_count ∧
        pause_watchdog_snapshot db snapshot .runtime_recovery_exhausted = some db' ∧ outcome = .paused) ∨
      (pause_failed_watchdog_signal reread db signal committed_at settings.watchdog_inactivity_timeout_seconds =
        some db' ∧ outcome = .paused) ∨
      ∃ snapshot request, read_watchdog_recovery_snapshot stale signal observed_at
          settings.watchdog_inactivity_timeout_seconds = some snapshot ∧
        snapshot.watchdog_replacement_count < settings.watchdog_same_attempt_replacement_limit ∧
        preparation = .drawn request ∧
        commit_watchdog_replacement db snapshot (prepare_dispatch_request request snapshot.dispatch.steering)
          committed_at = .ok (some db') ∧ outcome = .opened request.dispatch_id := by
  have hskip : ∀ {paused : Option TaskDb}, pause_or_skip db paused = (outcome, db') →
      db' = db ∧ outcome = .skipped ∨ paused = some db' ∧ outcome = .paused := by
    intro paused hpaused
    cases paused <;> cases hpaused
    · exact .inl ⟨rfl, rfl⟩
    · exact .inr ⟨rfl, rfl⟩
  unfold recover_stale_dispatch at h
  dsimp only at h
  split at h
  · cases h
    exact .inl ⟨rfl, rfl⟩
  · next snapshot hsnapshot =>
    split at h
    · obtain hsame | hpaused := hskip (Except.ok.inj h)
      · exact .inl hsame
      · exact .inr (.inr (.inl hpaused))
    · split at h
      · next hlimit =>
        obtain hsame | hpaused := hskip (Except.ok.inj h)
        · exact .inl hsame
        · exact .inr (.inl ⟨snapshot, hsnapshot, hlimit, hpaused⟩)
      · next hlimit =>
        split at h
        · next request _ =>
          simp only [bind_eq_ok_iff] at h
          obtain ⟨committed, hcommit, h⟩ := h
          cases committed with
          | none =>
            cases h
            exact .inl ⟨rfl, rfl⟩
          | some replaced =>
            cases h
            exact .inr (.inr (.inr ⟨snapshot, request, hsnapshot, not_le.mp hlimit, rfl, hcommit, rfl⟩))
        · obtain hsame | hpaused := hskip (Except.ok.inj h)
          · exact .inl hsame
          · exact .inr (.inr (.inl hpaused))

end OhMySubagents
