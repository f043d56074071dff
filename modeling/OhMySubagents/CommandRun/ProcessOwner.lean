import OhMySubagents.Rows
import OhMySubagents.CommandRun.Transitions
import OhMySubagents.Lanes.Result

open Relational

namespace OhMySubagents

/-- Why the owner of a process ends it. -/
inductive CommandTerminalCause
  | cancelled | timed_out | launch_failed
  deriving DecidableEq, Repr

structure CommandProcessExitResult where
  terminal_state : CommandRunState
  summary : String
  failure_code : Option String
  expected_states : List CommandRunState
  deriving DecidableEq, Repr

/-- Classify one reaped direct child without consulting provider state. -/
def classify_command_process_exit (source_state : CommandRunState) (terminal_cause : Option CommandTerminalCause)
    (returncode : Int) : CommandProcessExitResult :=
  if terminal_cause = some .cancelled ∨ source_state = .cancellation_requested then
    { terminal_state := .cancelled
      summary := "The command was cancelled and its child process was reaped."
      failure_code := none
      expected_states := [.cancellation_requested] }
  else if terminal_cause = some .timed_out then
    { terminal_state := .timed_out
      summary := "The command exceeded its controller-owned deadline."
      failure_code := some "command_timed_out"
      expected_states := [.running] }
  else if terminal_cause = some .launch_failed then
    { terminal_state := .failed
      summary := "The command was reaped after launch-state persistence failed."
      failure_code := some "command_launch_state_failed"
      expected_states := [.pending_start, .running] }
  else if returncode = 0 then
    { terminal_state := .succeeded
      summary := "The command exited successfully."
      failure_code := none
      expected_states := [.running] }
  else
    { terminal_state := .failed
      summary := "The command exited with a non-zero status."
      failure_code := some "command_nonzero_exit"
      expected_states := [.running] }

section

/-- The transition that ends a run whose cancellation came before its process. -/
def unlaunched_cancellation_request (ownership_revision : Nat) (ended_at : Instant) : CommandTerminalRequest where
  expected_ownership_revision := ownership_revision
  expected_states := [.cancellation_requested]
  terminal_state := .cancelled
  summary := "Command cancellation completed before process launch."
  ended_at := ended_at
  exit_code := none
  failure_code := none
  expected_due_at := none
  actor_ref := none
  output_observed_bytes := none
  output_written_bytes := none
  is_output_complete := none

/-- The transition that ends a run whose process could not be launched. -/
def launch_failure_request (ownership_revision : Nat) (failure_code : String) (ended_at : Instant) :
    CommandTerminalRequest where
  expected_ownership_revision := ownership_revision
  expected_states := [.pending_start]
  terminal_state := .failed
  summary := "The controller could not launch the requested command."
  ended_at := ended_at
  exit_code := none
  failure_code := some failure_code
  expected_due_at := none
  actor_ref := none
  output_observed_bytes := none
  output_written_bytes := none
  is_output_complete := none

/-- The transition that records the exit of an owned process. -/
def process_exit_request (source : CommandRun) (ownership_revision : Nat) (result : CommandProcessExitResult)
    (returncode : Int) (output : Option CommandOutputFacts) (ended_at : Instant) : CommandTerminalRequest where
  expected_ownership_revision := ownership_revision
  expected_states := result.expected_states
  terminal_state := result.terminal_state
  summary := result.summary
  ended_at := ended_at
  exit_code := some returncode
  failure_code := result.failure_code
  expected_due_at := if result.terminal_state = .timed_out then some source.due_at else none
  actor_ref := none
  output_observed_bytes := output.map CommandOutputFacts.observed_bytes
  output_written_bytes := output.map CommandOutputFacts.written_bytes
  is_output_complete := output.map CommandOutputFacts.is_complete

/-- `_finish_unlaunched_cancellation`, where the owner knows that its run is cancelled. -/
def finish_unlaunched_cancellation (db : TaskDb) (claim : CommandRunLaunchClaim) (ended_at : Instant) :
    Result (Bool × TaskDb) :=
  terminalize_command_run db claim.run_id (unlaunched_cancellation_request claim.ownership_revision ended_at)

/-- The transaction of `_terminalize_launch_failure`. -/
def terminalize_launch_failure (db : TaskDb) (claim : CommandRunLaunchClaim) (failure_code : String)
    (ended_at : Instant) : Result (Bool × TaskDb) :=
  terminalize_command_run db claim.run_id (launch_failure_request claim.ownership_revision failure_code ended_at)

/-- The transaction of `record_command_process_exit`, for an owned process that was reaped. -/
def record_command_process_exit (db : TaskDb) (run_id : RunId) (ownership_revision : Nat)
    (terminal_cause : Option CommandTerminalCause) (returncode : Int) (output : Option CommandOutputFacts)
    (ended_at : Instant) : Result (Bool × TaskDb) :=
  match (db.command_runs.get? run_id).filter fun source => source.ownership_revision == ownership_revision with
  | none => .ok (false, db)
  | some source =>
    terminalize_command_run db run_id (process_exit_request source ownership_revision
      (classify_command_process_exit source.state terminal_cause returncode) returncode output ended_at)

/-- The transaction of `terminate_cancelled_command`, for a run that no process is owned for. -/
def terminate_unowned_cancelled_command (db : TaskDb) (run_id : RunId) (ownership_revision : Nat)
    (ended_at : Instant) : Result (Bool × TaskDb) :=
  match (db.command_runs.get? run_id).filter fun source =>
      source.state == .cancellation_requested && source.ownership_revision == ownership_revision with
  | none => .ok (false, db)
  | some source =>
    if ownership_revision = 0 then
      terminalize_command_run db run_id (unlaunched_cancellation_request 0 ended_at)
    else abandon_unowned_command_run db run_id source ended_at

/-- The transaction of `_recover_unowned_command`, for a run that no process is owned for. -/
def recover_unowned_command (db : TaskDb) (run_id : RunId) (ended_at : Instant) : Result (Bool × TaskDb) :=
  match db.command_runs.get? run_id with
  | none => .ok (false, db)
  | some source =>
    if source.state.is_terminal then .ok (false, db)
    else if source.state == .cancellation_requested && source.ownership_revision == 0 then
      terminalize_command_run db run_id (unlaunched_cancellation_request 0 ended_at)
    else abandon_unowned_command_run db run_id source ended_at

/-- The transaction of `enforce_command_deadline`, for a run that no process is owned for. -/
def abandon_unowned_due_command (db : TaskDb) (run_id : RunId) (due_at now : Instant) : Result (Bool × TaskDb) :=
  match (db.command_runs.get? run_id).filter fun source =>
      source.state == .running && source.due_at == some due_at && due_at ≤ now with
  | none => .ok (false, db)
  | some source => abandon_unowned_command_run db run_id source now

/-- Every transaction of the process owner that ends a run. -/
inductive CommandRunEnding
  | unlaunched_cancellation (claim : CommandRunLaunchClaim)
  | launch_failure (claim : CommandRunLaunchClaim) (failure_code : String)
  | process_exit (run_id : RunId) (ownership_revision : Nat) (terminal_cause : Option CommandTerminalCause)
      (returncode : Int) (output : Option CommandOutputFacts)
  | unowned_cancellation (run_id : RunId) (ownership_revision : Nat)
  | unowned_pending (run_id : RunId)
  | unowned_due (run_id : RunId) (due_at : Instant)
  deriving DecidableEq, Repr

def CommandRunEnding.run_id : CommandRunEnding → RunId
  | .unlaunched_cancellation claim => claim.run_id
  | .launch_failure claim _ => claim.run_id
  | .process_exit run_id _ _ _ _ => run_id
  | .unowned_cancellation run_id _ => run_id
  | .unowned_pending run_id => run_id
  | .unowned_due run_id _ => run_id

def end_command_run (db : TaskDb) (ending : CommandRunEnding) (now : Instant) : Result (Bool × TaskDb) :=
  match ending with
  | .unlaunched_cancellation claim => finish_unlaunched_cancellation db claim now
  | .launch_failure claim failure_code => terminalize_launch_failure db claim failure_code now
  | .process_exit run_id ownership_revision terminal_cause returncode output =>
    record_command_process_exit db run_id ownership_revision terminal_cause returncode output now
  | .unowned_cancellation run_id ownership_revision =>
    terminate_unowned_cancelled_command db run_id ownership_revision now
  | .unowned_pending run_id => recover_unowned_command db run_id now
  | .unowned_due run_id due_at => abandon_unowned_due_command db run_id due_at now

/-- What one owner transaction found and left behind. A run that was asked to stop only ends as cancelled or
    abandoned. -/
structure CommandRunEnded (db : TaskDb) (run_id : RunId) (run : CommandRun) (request : CommandTerminalRequest)
    (output : Option CommandOutputFacts) (db' : TaskDb) : Prop where
  row : db.command_runs.get? run_id = some run
  live : run.state.is_terminal = false
  terminal : request.terminal_state.is_terminal = true
  requested : run.state = .cancellation_requested →
    request.terminal_state = .cancelled ∨ request.terminal_state = .abandoned
  terminated : CommandRunTerminated db run_id request run output db'

variable {db db' : TaskDb} {run_id : RunId} {now : Instant}

/-- Where every expected state is live, a winner ended a live run. -/
private theorem ended_of_terminalize {request : CommandTerminalRequest}
    (hstates : ∀ state ∈ request.expected_states, state.is_terminal = false)
    (hrequested : CommandRunState.cancellation_requested ∈ request.expected_states →
      request.terminal_state = .cancelled ∨ request.terminal_state = .abandoned)
    (h : terminalize_command_run db run_id request = .ok (true, db')) :
    ∃ run output, CommandRunEnded db run_id run request output db' ∧ request.expects run = true := by
  obtain ⟨hterminal, run, output, hrow, hexpects, hterminated⟩ := terminalize_command_run_success h
  obtain ⟨-, hstate, -⟩ := CommandTerminalRequest.expects_iff.mp hexpects
  exact ⟨run, output, ⟨hrow, hstates _ hstate, hterminal, fun hr => hrequested (hr ▸ hstate), hterminated⟩, hexpects⟩

private theorem ended_of_abandon {source : CommandRun}
    (h : abandon_unowned_command_run db run_id source now = .ok (true, db')) :
    ∃ request run output, CommandRunEnded db run_id run request output db' := by
  unfold abandon_unowned_command_run at h
  split at h
  · next hlive =>
    obtain ⟨run, output, hended, -⟩ := ended_of_terminalize (fun state hstate => by
      rw [List.mem_singleton.mp hstate]
      revert hlive
      cases source.state <;> decide) (fun _ => .inr rfl) h
    exact ⟨_, run, output, hended⟩
  · cases h

private theorem classify_expected_states {source_state : CommandRunState}
    {terminal_cause : Option CommandTerminalCause} {returncode : Int} :
    (∀ state ∈ (classify_command_process_exit source_state terminal_cause returncode).expected_states,
      state.is_terminal = false) ∧
      (CommandRunState.cancellation_requested ∈
        (classify_command_process_exit source_state terminal_cause returncode).expected_states →
      (classify_command_process_exit source_state terminal_cause returncode).terminal_state = .cancelled) := by
  unfold classify_command_process_exit
  split
  · exact ⟨by decide, fun _ => rfl⟩
  · split
    · exact ⟨by decide, by decide⟩
    · split
      · exact ⟨by decide, by decide⟩
      · split <;> exact ⟨by decide, by decide⟩

/-- An owner transaction that wins ended a live run. -/
theorem end_command_run_success {ending : CommandRunEnding}
    (h : end_command_run db ending now = .ok (true, db')) :
    ∃ request run output, CommandRunEnded db ending.run_id run request output db' := by
  cases ending with
  | unlaunched_cancellation claim =>
    obtain ⟨run, output, hended, -⟩ := ended_of_terminalize (by simp [unlaunched_cancellation_request,
      CommandRunState.is_terminal]) (fun _ => .inl rfl) h
    exact ⟨_, run, output, hended⟩
  | launch_failure claim failure_code =>
    obtain ⟨run, output, hended, -⟩ := ended_of_terminalize (by simp [launch_failure_request,
      CommandRunState.is_terminal]) (by simp [launch_failure_request]) h
    exact ⟨_, run, output, hended⟩
  | process_exit run_id ownership_revision terminal_cause returncode output =>
    rw [end_command_run, record_command_process_exit] at h
    split at h
    · cases h
    · obtain ⟨hstates, hrequested⟩ := classify_expected_states
      obtain ⟨run, output, hended, -⟩ := ended_of_terminalize hstates (fun hr => .inl (hrequested hr)) h
      exact ⟨_, run, output, hended⟩
  | unowned_cancellation run_id ownership_revision =>
    rw [end_command_run, terminate_unowned_cancelled_command] at h
    split at h
    · cases h
    · split at h
      · obtain ⟨run, output, hended, -⟩ := ended_of_terminalize (by simp [unlaunched_cancellation_request,
          CommandRunState.is_terminal]) (fun _ => .inl rfl) h
        exact ⟨_, run, output, hended⟩
      · exact ended_of_abandon h
  | unowned_pending run_id =>
    rw [end_command_run, recover_unowned_command] at h
    split at h
    · cases h
    · split at h
      · cases h
      · split at h
        · obtain ⟨run, output, hended, -⟩ := ended_of_terminalize (by simp [unlaunched_cancellation_request,
            CommandRunState.is_terminal]) (fun _ => .inl rfl) h
          exact ⟨_, run, output, hended⟩
        · exact ended_of_abandon h
  | unowned_due run_id due_at =>
    rw [end_command_run, abandon_unowned_due_command] at h
    split at h
    · cases h
    · exact ended_of_abandon h

private theorem abandon_lost {source : CommandRun}
    (h : abandon_unowned_command_run db run_id source now = .ok (false, db')) : db' = db := by
  unfold abandon_unowned_command_run at h
  split at h
  · exact terminalize_command_run_lost h
  · cases h
    rfl

/-- An owner transaction that loses leaves every row alone. -/
theorem end_command_run_lost {ending : CommandRunEnding}
    (h : end_command_run db ending now = .ok (false, db')) : db' = db := by
  have hsame : ∀ {db' : TaskDb}, (Except.ok (false, db) : Result (Bool × TaskDb)) = .ok (false, db') → db' = db :=
    fun h => by cases h; rfl
  cases ending with
  | unlaunched_cancellation claim => exact terminalize_command_run_lost h
  | launch_failure claim failure_code => exact terminalize_command_run_lost h
  | process_exit run_id ownership_revision terminal_cause returncode output =>
    rw [end_command_run, record_command_process_exit] at h
    split at h
    · exact hsame h
    · exact terminalize_command_run_lost h
  | unowned_cancellation run_id ownership_revision =>
    rw [end_command_run, terminate_unowned_cancelled_command] at h
    split at h
    · exact hsame h
    · split at h
      · exact terminalize_command_run_lost h
      · exact abandon_lost h
  | unowned_pending run_id =>
    rw [end_command_run, recover_unowned_command] at h
    split at h
    · exact hsame h
    · split at h
      · exact hsame h
      · split at h
        · exact terminalize_command_run_lost h
        · exact abandon_lost h
  | unowned_due run_id due_at =>
    rw [end_command_run, abandon_unowned_due_command] at h
    split at h
    · exact hsame h
    · exact abandon_lost h

end

variable {db db' : TaskDb} {run_id : RunId} {run run' : CommandRun}

/-- A run that stays live under the same columns is the same source. -/
theorem lanes_live_command_run (row : db.command_runs.get? run_id = some run) (hsame : run'.lane = run.lane) :
    ({ db with command_runs := db.command_runs.set run_id run' } : TaskDb).lanes = db.lanes := by
  rw [lanes_command_run, hsame]
  have hrow : db.lanes.sources (.command_run run_id) = some run.lane := Table.view_eq_some.mpr ⟨run, row, rfl⟩
  apply Lanes.ext <;> first | rfl | skip
  exact Function.update_eq_self_iff.mpr hrow.symm

theorem CommandRun.claim_launch_lane (run : CommandRun) (owner_ref : String) (claimed_at : Instant) :
    (run.claim_launch owner_ref claimed_at).lane = run.lane := rfl

theorem CommandRun.lane_of_live (hassignment : run'.assignment_id = run.assignment_id)
    (hattempt : run'.attempt_id = run.attempt_id) (hsource : run'.source_dispatch_id = run.source_dispatch_id)
    (hsuccessor : run'.successor_dispatch_id = run.successor_dispatch_id)
    (hlive : run'.state.is_terminal = run.state.is_terminal) : run'.lane = run.lane := by
  simp [CommandRun.lane, hassignment, hattempt, hsource, hsuccessor, hlive]

theorem CommandRun.mark_running_lane (hstate : run.state = .pending_start) (owner_ref : String) (pid : Nat)
    (started_at : Instant) (due_at : Option Instant) :
    (run.mark_running owner_ref pid started_at due_at).lane = run.lane :=
  lane_of_live rfl rfl rfl rfl (by rw [hstate]; rfl)

theorem CommandRun.request_cancellation_lane (hstate : run.state = .pending_start ∨ run.state = .running)
    (requested_at : Instant) : (run.request_cancellation requested_at).lane = run.lane :=
  lane_of_live rfl rfl rfl rfl (by rcases hstate with h | h <;> rw [h] <;> rfl)

theorem CommandRun.terminalize_lane {request : CommandTerminalRequest} (output : Option CommandOutputFacts)
    (hnone : run.successor_dispatch_id = none) (hterminal : request.terminal_state.is_terminal = true) :
    (run.terminalize request output).lane = { run.lane with phase := .resolved } := by
  simp [CommandRun.lane, CommandRun.terminalize, SourcePhase.of, hnone, hterminal]

theorem CommandRun.lane_unresolved (hnone : run.successor_dispatch_id = none) (hlive : run.state.is_terminal = false) :
    run.lane.phase = .unresolved := by
  simp [CommandRun.lane, SourcePhase.of, hnone, hlive]

/-- Ending a run settles it in the lanes; in a cancelled Task its process just ends. -/
theorem CommandRunEnded.step {request : CommandTerminalRequest} {output : Option CommandOutputFacts}
    (h : CommandRunEnded db run_id run request output db') (hinv : db.lanes.Invariant) (hresult : db.lanes.Result) :
    Lanes.Step db.lanes db'.lanes := by
  have hrow : db.lanes.sources (.command_run run_id) = some run.lane := Table.view_eq_some.mpr ⟨run, h.row, rfl⟩
  cases h.terminated with
  | @cleared wait_id attempt waits =>
    have hwait : db.lanes.waits wait_id = some (run.wait run_id) := Table.view_eq_some.mpr ⟨_, waits.wait_row, rfl⟩
    have active := hresult.active_of_wait hwait
    obtain ⟨x, hx, hphase, -⟩ := hinv.waiting.wait_source wait_id _ active hwait
    obtain rfl : x = run.lane := Option.some.inj (hx.symm.trans hrow)
    have hnone : run.successor_dispatch_id = none := by
      cases hs : run.successor_dispatch_id with
      | none => rfl
      | some d => simp [CommandRun.lane, SourcePhase.of, hs] at hphase
    refine waits.settle_step active hrow hphase (fun _ _ _ hwave => by cases hwave) ?_
    refine (@lanes_command_run (db.clear_wait wait_id run.attempt_id attempt) run_id _).trans ?_
    rw [CommandRun.terminalize_lane output hnone h.terminal]
    rfl
  | orphaned cancelled requested _ unfollowed =>
    rw [lanes_command_run, CommandRun.terminalize_lane output unfollowed h.terminal]
    exact .drop_source cancelled hrow
      (.inr ⟨rfl, CommandRun.lane_unresolved unfollowed h.live, run_id, rfl⟩)

end OhMySubagents
