import OhMySubagents.CommandRun.Continuation
import OhMySubagents.Delegation.Continuation
import OhMySubagents.HumanRequest.Continuation
import OhMySubagents.Replan.Continuation
import OhMySubagents.TaskControl.Continuation

open Relational

namespace OhMySubagents

section

/-- What a claim changed: its own source row records the successor, and a closed tail has no row. -/
inductive SourceClaimed (db : TaskDb) (snapshot : OrdinaryDispatchSnapshot) (dispatch_id : DispatchId) : TaskDb → Prop
  | human_request {request_id request} (row : db.human_requests.get? request_id = some request)
      (terminal : request.status.is_terminal = true) (unfollowed : request.successor_dispatch_id = none)
      (owner : request.assignment_id = snapshot.basis.assignment_id ∧ request.attempt_id = snapshot.basis.attempt_id) :
      SourceClaimed db snapshot dispatch_id { db with
        human_requests := db.human_requests.set request_id { request with successor_dispatch_id := some dispatch_id } }
  | command_run {run_id run} (row : db.command_runs.get? run_id = some run)
      (unfollowed : run.successor_dispatch_id = none)
      (owner : run.assignment_id = snapshot.basis.assignment_id ∧ run.attempt_id = snapshot.basis.attempt_id ∧
        run.source_dispatch_id = snapshot.basis.source_dispatch_id) :
      SourceClaimed db snapshot dispatch_id { db with
        command_runs := db.command_runs.set run_id { run with successor_dispatch_id := some dispatch_id } }
  | delegation_wave {wave_id wave} (row : db.delegation_waves.get? wave_id = some wave)
      (settled : wave.status = .settled) (unfollowed : wave.successor_dispatch_id = none) :
      SourceClaimed db snapshot dispatch_id { db with
        delegation_waves := db.delegation_waves.set wave_id { wave with successor_dispatch_id := some dispatch_id } }
  | replan_transition {transition_id transition} (row : db.replan_transitions.get? transition_id = some transition)
      (can_continue : transition.can_continue = true)
      (revision : transition.successor_team_revision_id = snapshot.team_revision_id) :
      SourceClaimed db snapshot dispatch_id { db with
        replan_transitions := db.replan_transitions.set transition_id { transition with
          successor_state := .opened
          successor_dispatch_id := some dispatch_id } }
  | tail : SourceClaimed db snapshot dispatch_id db

variable {db claimed : TaskDb} {snapshot : OrdinaryDispatchSnapshot} {prepared : PreparedDispatchRequest}

theorem claim_human_request_continuation_success
    (h : claim_human_request_continuation db snapshot prepared = some claimed) :
    SourceClaimed db snapshot prepared.dispatch_id claimed := by
  unfold claim_human_request_continuation at h
  split at h
  · simp only [Option.bind_eq_bind, Option.bind_eq_some_iff, Table.updateWhere_eq_some, Bool.and_eq_true, beq_iff_eq,
      HumanRequest.is_terminal_unconsumed_iff] at h
    obtain ⟨_, ⟨row, hrow, ⟨⟨⟨⟨hassignment, hattempt⟩, -⟩, -⟩, hstatus, hnone⟩, rfl⟩, h⟩ := h
    cases h
    exact .human_request hrow hstatus hnone ⟨hassignment, hattempt⟩
  · cases h

theorem claim_command_run_continuation_success
    (h : claim_command_run_continuation db snapshot prepared = some claimed) :
    SourceClaimed db snapshot prepared.dispatch_id claimed := by
  unfold claim_command_run_continuation at h
  split at h
  · simp only [Option.bind_eq_bind, Option.bind_eq_some_iff, Table.updateWhere_eq_some, Bool.and_eq_true, beq_iff_eq,
      Option.isNone_iff_eq_none] at h
    obtain ⟨_, ⟨row, hrow, ⟨⟨⟨⟨⟨hassignment, hattempt⟩, hsource⟩, -⟩, -⟩, hnone⟩, rfl⟩, h⟩ := h
    cases h
    exact .command_run hrow hnone ⟨hassignment, hattempt, hsource⟩
  · cases h

theorem claim_delegation_wave_continuation_success
    (h : claim_delegation_wave_continuation db snapshot prepared = some claimed) :
    SourceClaimed db snapshot prepared.dispatch_id claimed := by
  unfold claim_delegation_wave_continuation at h
  split at h
  · simp only [Option.bind_eq_bind, Option.bind_eq_some_iff, Table.updateWhere_eq_some, Bool.and_eq_true, beq_iff_eq,
      DelegationWave.is_settled_unconsumed_iff] at h
    obtain ⟨_, ⟨row, hrow, ⟨-, hstatus, hnone⟩, rfl⟩, h⟩ := h
    cases h
    exact .delegation_wave hrow hstatus hnone
  · cases h

theorem claim_replan_continuation_success (h : claim_replan_continuation db snapshot prepared = some claimed) :
    SourceClaimed db snapshot prepared.dispatch_id claimed := by
  unfold claim_replan_continuation at h
  split at h
  · simp only [Option.bind_eq_bind, Option.bind_eq_some_iff, Table.updateWhere_eq_some, Bool.and_eq_true,
      beq_iff_eq] at h
    obtain ⟨_, ⟨row, hrow, ⟨⟨-, hrevision⟩, hcontinue⟩, rfl⟩, h⟩ := h
    cases h
    exact .replan_transition hrow hcontinue hrevision
  · cases h

/-- A claimed tail is closed exactly as the plan read it. -/
theorem claim_operator_continue_tail_success (h : claim_operator_continue_tail db snapshot prepared = some claimed) :
    claimed = db ∧ ∃ tail, db.dispatches.get? snapshot.basis.source_dispatch_id = some tail ∧
      tail.is_continuation_source snapshot.basis = true := by
  unfold claim_operator_continue_tail at h
  simp only [Option.bind_eq_bind, Option.bind_eq_some_iff, ensure_eq_some_iff, Bool.and_eq_true, Option.any_eq_true,
    Option.pure_def, Option.some.injEq] at h
  obtain ⟨_, ⟨⟨⟨⟨⟨tail, -⟩, -⟩, -⟩, -⟩, -⟩, rfl⟩ := h
  exact ⟨rfl, tail⟩

/-- A claim leaves the Task, the Team, the Assignments, the Attempts and the Dispatches alone. -/
theorem SourceClaimed.frame {dispatch_id : DispatchId} (h : SourceClaimed db snapshot dispatch_id claimed) :
    claimed = { db with
      human_requests := claimed.human_requests
      command_runs := claimed.command_runs
      delegation_waves := claimed.delegation_waves
      replan_transitions := claimed.replan_transitions } := by
  cases h <;> rfl

/-- One opened Dispatch: its source was claimed, and its lane holds it. -/
structure DispatchOpened (db claimed db' : TaskDb) (snapshot : OrdinaryDispatchSnapshot)
    (prepared : PreparedDispatchRequest) (attempt : Attempt) : Prop where
  claims : SourceClaimed db snapshot prepared.dispatch_id claimed
  attempt_row : db.attempts.get? snapshot.basis.attempt_id = some attempt
  running : attempt.status = .running
  attempt_assignment : attempt.assignment_id = snapshot.basis.assignment_id
  no_wait : attempt.current_wait_id = none
  fresh : db.dispatches.get? prepared.dispatch_id = none
  rows : db' = { claimed with
    attempts := db.attempts.set snapshot.basis.attempt_id
      { attempt with current_dispatch_id := some prepared.dispatch_id }
    dispatches := db.dispatches.set prepared.dispatch_id
      (build_starting_dispatch_model snapshot.starting_basis prepared) }

theorem SourceClaimed.staged {db' : TaskDb} (hclaimed : SourceClaimed db snapshot prepared.dispatch_id claimed)
    (h : stage_starting_dispatch claimed snapshot.starting_basis prepared = .ok db') :
    ∃ attempt, DispatchOpened db claimed db' snapshot prepared attempt := by
  obtain ⟨attempt, hattempt, haccepts, hinsert, rfl⟩ := stage_starting_dispatch_eq_ok.mp h
  obtain ⟨hassignment, hrunning, hwait, -⟩ := Attempt.accepts_iff.mp haccepts
  have hattempts : claimed.attempts = db.attempts := by rw [hclaimed.frame]
  have hdispatches : claimed.dispatches = db.dispatches := by rw [hclaimed.frame]
  have hfresh := hinsert.fresh
  rw [hattempts] at hattempt ⊢
  rw [hdispatches] at hfresh ⊢
  exact ⟨attempt, hclaimed, hattempt, hrunning, hassignment, hwait, hfresh, rfl⟩

end

/-- One opened continuation: what its prompt was read from, and what its commit found and left behind. -/
structure ContinuationOpened (stale db : TaskDb) (snapshot : OrdinaryDispatchSnapshot)
    (prepared : PreparedDispatchRequest) (claimed : TaskDb) (attempt : Attempt) (db' : TaskDb) : Prop where
  read : ∃ basis, read_ordinary_dispatch_snapshot stale basis .running none = .ok (some snapshot)
  steering : prepared.steering = snapshot.steering
  running : db.task.status = .running
  control : db.task.control_revision = snapshot.task_control_revision
  context : ∃ source assignment, ContextCurrent db snapshot source assignment attempt
  opened : DispatchOpened db claimed db' snapshot prepared attempt
  reason : snapshot.basis.opened_reason ≠ .watchdog_recovery
  step : Lanes.Step db.lanes db'.lanes

/-- What one run of an opening handler does to the rows: nothing, a pause, or one opened continuation. -/
inductive ContinuationHandled (stale db : TaskDb) : TaskDb → Prop
  | skipped : ContinuationHandled stale db db
  | paused {db'} (paused : TaskPaused db db' .runtime_transition_failed) : ContinuationHandled stale db db'
  | opened {snapshot prepared claimed attempt db'}
      (opened : ContinuationOpened stale db snapshot prepared claimed attempt db') : ContinuationHandled stale db db'

variable {stale db db' : TaskDb} {drawn : Option DrawnDispatchRequest} {outcome : OrdinaryOpeningOutcome}

/-- A commit whose claim consumes a source of the snapshot's own lane opens one continuation. -/
private theorem commit_opened {basis : OrdinaryContinuationBasis} {snapshot : OrdinaryDispatchSnapshot}
    {prepared : PreparedDispatchRequest} {claim_source : OrdinarySourceClaim} (hp : db.lanes.Pointers)
    (hread : read_ordinary_dispatch_snapshot stale basis .running none = .ok (some snapshot))
    (hsteering : prepared.steering = snapshot.steering) (hreason : basis.opened_reason ≠ .watchdog_recovery)
    (hclaimed : ∀ claimed, claim_source db snapshot prepared = some claimed →
      SourceClaimed db snapshot prepared.dispatch_id claimed)
    (hclaims : ∀ source assignment claimed, LaneReady db snapshot source assignment →
      claim_source db snapshot prepared = some claimed → ∃ s x, ClaimsSource db claimed snapshot prepared s x)
    (h : commit_ordinary_dispatch_if_current db snapshot prepared claim_source false = .ok (some db')) :
    ∃ claimed attempt, ContinuationOpened stale db snapshot prepared claimed attempt db' := by
  obtain ⟨hbasis, hstatus, -⟩ := read_ordinary_dispatch_snapshot_success hread
  have hopened : snapshot.basis.opened_reason ≠ .watchdog_recovery := by rwa [hbasis]
  have hstep := commit_ordinary_dispatch_step hp hstatus hclaims hopened h
  obtain ⟨_, claimed, htask, hclaim, hstage⟩ := commit_ordinary_dispatch_if_current_success.mp h
  obtain ⟨hrunning, hcontrol, -, ⟨source, assignment, attempt, hcontext⟩, rfl⟩ := claim_ordinary_task_eq_some.mp htask
  obtain ⟨attempt', hdispatch⟩ := (hclaimed claimed hclaim).staged hstage
  obtain rfl : attempt = attempt' := Option.some.inj (hcontext.attempt_row.symm.trans hdispatch.attempt_row)
  exact ⟨claimed, attempt, ⟨basis, hread⟩, hsteering, hrunning.trans hstatus, hcontrol, ⟨source, assignment, hcontext⟩,
    hdispatch, hopened, hstep⟩

theorem open_delegation_wave_successor_handled {wave_id : WaveId} (hinv : db.lanes.Invariant)
    (h : open_delegation_wave_successor stale db wave_id drawn = .ok (outcome, db')) :
    ContinuationHandled stale db db' := by
  rcases open_ordinary_successor_cases h with ⟨rfl, -⟩ | ⟨hfailed, -⟩ |
    ⟨basis, snapshot, request, hsource, hread, -, hcommit, -⟩
  · exact .skipped
  · rcases pause_task_for_runtime_transition_failure_success hfailed with rfl | ⟨-, hpaused⟩
    · exact .skipped
    · exact .paused hpaused
  · obtain ⟨wave, -, -, -, rfl⟩ := read_delegation_wave_continuation_basis_success hsource
    obtain ⟨hbasis, -⟩ := read_ordinary_dispatch_snapshot_success hread
    obtain ⟨claimed, attempt, hopened⟩ := commit_opened hinv.pointers hread rfl
      (by simp [delegation_wave_continuation_basis]) (fun _ => claim_delegation_wave_continuation_success)
      (fun _ _ _ _ hclaim => ⟨_, claim_delegation_wave_continuation_claims hbasis hclaim⟩) hcommit
    exact .opened hopened

theorem open_human_request_successor_handled {request_id : RequestId} (hinv : db.lanes.Invariant)
    (h : open_human_request_successor stale db request_id drawn = .ok (outcome, db')) :
    ContinuationHandled stale db db' := by
  rcases open_ordinary_successor_cases h with ⟨rfl, -⟩ | ⟨hfailed, -⟩ |
    ⟨basis, snapshot, request, hsource, hread, -, hcommit, -⟩
  · exact .skipped
  · rcases pause_task_for_runtime_transition_failure_success hfailed with rfl | ⟨-, hpaused⟩
    · exact .skipped
    · exact .paused hpaused
  · obtain ⟨source, -, -, -, rfl⟩ := read_human_request_continuation_basis_success hsource
    obtain ⟨hbasis, -⟩ := read_ordinary_dispatch_snapshot_success hread
    obtain ⟨claimed, attempt, hopened⟩ := commit_opened hinv.pointers hread rfl
      (by simp [human_request_continuation_basis]) (fun _ => claim_human_request_continuation_success)
      (fun _ _ _ _ hclaim => ⟨_, claim_human_request_continuation_claims hbasis hclaim⟩) hcommit
    exact .opened hopened

theorem open_command_run_successor_handled {run_id : RunId} (hinv : db.lanes.Invariant)
    (h : open_command_run_successor stale db run_id drawn = .ok (outcome, db')) :
    ContinuationHandled stale db db' := by
  rcases open_ordinary_successor_cases h with ⟨rfl, -⟩ | ⟨hfailed, -⟩ |
    ⟨basis, snapshot, request, hsource, hread, -, hcommit, -⟩
  · exact .skipped
  · rcases pause_task_for_runtime_transition_failure_success hfailed with rfl | ⟨-, hpaused⟩
    · exact .skipped
    · exact .paused hpaused
  · obtain ⟨run, -, hterminal, -, rfl⟩ := read_command_run_continuation_basis_success hsource
    obtain ⟨hbasis, -⟩ := read_ordinary_dispatch_snapshot_success hread
    obtain ⟨claimed, attempt, hopened⟩ := commit_opened hinv.pointers hread rfl
      (by simp [command_run_continuation_basis]) (fun _ => claim_command_run_continuation_success)
      (fun _ _ _ _ hclaim => ⟨_, claim_command_run_continuation_claims hterminal hbasis hclaim⟩) hcommit
    exact .opened hopened

/-- What the handlers of a committed replan do to its row: they move its barriers, and nothing else. -/
inductive BarrierMoved (db : TaskDb) (transition_id : TransitionId) : TaskDb → Prop
  | unchanged : BarrierMoved db transition_id db
  | projected {transition} (row : db.replan_transitions.get? transition_id = some transition)
      (manifest : transition.manifest_state ≠ .current) (blocked : transition.successor_state = .blocked)
      (unfollowed : transition.successor_dispatch_id = none) :
      BarrierMoved db transition_id { db with
        replan_transitions := db.replan_transitions.set transition_id
          { transition with manifest_state := .current, successor_state := .pending } }
  | repair_required {transition} (row : db.replan_transitions.get? transition_id = some transition)
      (live : transition.successor_state.is_ended = false) (unfollowed : transition.successor_dispatch_id = none) :
      BarrierMoved db transition_id { db with
        replan_transitions := db.replan_transitions.set transition_id
          { transition with manifest_state := .repair_required, successor_state := .blocked } }
  | opening_failed {transition} (row : db.replan_transitions.get? transition_id = some transition)
      (can_continue : transition.can_continue = true) :
      BarrierMoved db transition_id { db with
        replan_transitions := db.replan_transitions.set transition_id
          { transition with successor_state := .opening_failed } }

theorem ensure_replan_manifest_current_moved {projected : TaskDb} {transition_id : TransitionId}
    {written ensured : Bool}
    (h : ensure_replan_manifest_current stale projected db transition_id written = (ensured, db')) :
    BarrierMoved db transition_id db' := by
  have hmark : ∀ {e d}, mark_manifest_current db transition_id = (e, d) → BarrierMoved db transition_id d := by
    intro e d hd
    unfold mark_manifest_current at hd
    split at hd
    · next hupdate =>
      cases hd
      rw [Table.updateWhere_eq_some] at hupdate
      obtain ⟨transition, hrow, hfilter, rfl⟩ := hupdate
      simp only [Bool.and_eq_true, Bool.or_eq_true, beq_iff_eq, Option.isNone_iff_eq_none] at hfilter
      refine .projected hrow ?_ hfilter.1.2 hfilter.2
      rcases hfilter.1.1 with hm | hm <;> simp [hm]
    · cases hd
      exact .unchanged
  have hfail : BarrierMoved db transition_id (record_manifest_failure db transition_id) := by
    unfold record_manifest_failure
    split
    · next hupdate =>
      rw [Table.updateWhere_eq_some] at hupdate
      obtain ⟨transition, hrow, hfilter, rfl⟩ := hupdate
      simp only [Bool.and_eq_true, Bool.not_eq_true', Option.isNone_iff_eq_none] at hfilter
      exact .repair_required hrow hfilter.2 hfilter.1
    · exact .unchanged
  unfold ensure_replan_manifest_current at h
  split at h
  · cases h
    exact .unchanged
  · split at h
    · cases h
      exact .unchanged
    · split at h
      · cases h
        exact .unchanged
      · split at h
        · exact hmark h
        · cases h
          exact hfail

theorem record_opening_failure_moved {transition_id : TransitionId}
    (h : record_opening_failure transition_id db = .ok db') : BarrierMoved db transition_id db' := by
  unfold record_opening_failure at h
  split at h
  · next hupdate =>
    cases h
    rw [Table.updateWhere_eq_some] at hupdate
    obtain ⟨transition, hrow, hfilter, rfl⟩ := hupdate
    exact .opening_failed hrow hfilter
  · cases h
    exact .unchanged

/-- What an opened successor of a committed replan adds: its transition is the one that it follows. -/
theorem open_replan_successor_handled {transition_id : TransitionId} (hinv : db.lanes.Invariant)
    (h : open_replan_successor stale db transition_id drawn = .ok (outcome, db')) :
    BarrierMoved db transition_id db' ∨
      ∃ snapshot prepared claimed attempt, ContinuationOpened stale db snapshot prepared claimed attempt db' := by
  rcases open_ordinary_successor_cases h with ⟨rfl, -⟩ | ⟨hfailed, -⟩ |
    ⟨basis, snapshot, request, hsource, hread, -, hcommit, -⟩
  · exact .inl .unchanged
  · exact .inl (record_opening_failure_moved hfailed)
  · obtain ⟨transition, -, -, rfl⟩ := read_replan_continuation_basis_success hsource
    obtain ⟨hbasis, -⟩ := read_ordinary_dispatch_snapshot_success hread
    obtain ⟨claimed, attempt, hopened⟩ := commit_opened hinv.pointers hread rfl
      (by simp [replan_continuation_basis]) (fun _ => claim_replan_continuation_success)
      (fun _ _ _ ready hclaim => ⟨_, claim_replan_continuation_claims hinv.lineage hbasis ready hclaim⟩) hcommit
    exact .inr ⟨_, _, claimed, attempt, hopened⟩

end OhMySubagents
