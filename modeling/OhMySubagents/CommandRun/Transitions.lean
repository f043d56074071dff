import OhMySubagents.Dispatch.Successor

open Relational

namespace OhMySubagents

section

/-- `CommandRunLaunchClaim`, as far as later transitions use it. -/
structure CommandRunLaunchClaim where
  run_id : RunId
  ownership_revision : Nat
  timeout_seconds : Option Nat
  deriving DecidableEq, Repr

/-- The filter on a pending run that no process owner ever claimed. -/
def CommandRun.is_launchable (run : CommandRun) : Bool :=
  run.state == .pending_start && run.ownership_revision == 0 && run.process_metadata.isNone

def CommandRun.claim_launch (run : CommandRun) (owner_ref : String) (claimed_at : Instant) : CommandRun :=
  { run with
    ownership_revision := run.ownership_revision + 1
    process_metadata := some (.launching owner_ref claimed_at) }

/-- Claim one never-owned pending run without launching inside the transaction. -/
def claim_command_run_launch (db : TaskDb) (run_id : RunId) (owner_ref : String) (claimed_at : Instant) :
    Option (CommandRunLaunchClaim × TaskDb) := do
  let source ← db.command_runs.get? run_id
  let command_runs ← db.command_runs.updateWhere run_id CommandRun.is_launchable
    fun run => run.claim_launch owner_ref claimed_at
  return (⟨run_id, source.ownership_revision + 1, source.timeout_seconds⟩, { db with command_runs := command_runs })

def CommandRun.mark_running (run : CommandRun) (owner_ref : String) (pid : Nat) (started_at : Instant)
    (due_at : Option Instant) : CommandRun :=
  { run with
    state := .running
    started_at := some started_at
    due_at := due_at
    process_metadata := some (.running owner_ref pid) }

/-- Record the child process of one launch claim. -/
def mark_command_run_running (db : TaskDb) (claim : CommandRunLaunchClaim) (owner_ref : String) (pid : Nat)
    (started_at : Instant) (due_at : Option Instant) : Option TaskDb := do
  let command_runs ← db.command_runs.updateWhere claim.run_id
    (fun run => run.state == .pending_start && run.ownership_revision == claim.ownership_revision)
    fun run => run.mark_running owner_ref pid started_at due_at
  return { db with command_runs := command_runs }

/-- The arguments of one terminal transition. The due instant is compared only where it is given. -/
structure CommandTerminalRequest where
  expected_ownership_revision : Nat
  expected_states : List CommandRunState
  terminal_state : CommandRunState
  summary : String
  ended_at : Instant
  exit_code : Option Int
  failure_code : Option String
  expected_due_at : Option (Option Instant)
  actor_ref : Option String
  output_observed_bytes : Option Nat
  output_written_bytes : Option Nat
  is_output_complete : Option Bool
  deriving DecidableEq, Repr

def validate_terminal_transition (terminal_state : CommandRunState) (failure_code : Option String) : Result Unit := do
  require terminal_state.is_terminal (internal_error "command state is not terminal")
  require (terminal_state != .abandoned || failure_code == some "command_ownership_lost")
    (internal_error "abandoned command runs require command_ownership_lost")

/-- Output facts come together and agree with each other, or the stored ones stay. -/
def resolve_terminal_output_facts (output_observed_bytes output_written_bytes : Option Nat)
    (is_output_complete : Option Bool) : Result (Option CommandOutputFacts) :=
  match output_observed_bytes, output_written_bytes, is_output_complete with
  | none, none, none => .ok none
  | some observed_bytes, some written_bytes, some is_complete => do
    require (written_bytes ≤ observed_bytes)
      (internal_error "command output written bytes cannot exceed observed bytes")
    require (!is_complete || written_bytes == observed_bytes)
      (internal_error "complete command output requires every observed byte to be written")
    return some { observed_bytes, written_bytes, is_complete }
  | _, _, _ => .error (internal_error "command output terminal facts must be supplied together")

def CommandTerminalRequest.expects (request : CommandTerminalRequest) (run : CommandRun) : Bool :=
  run.ownership_revision == request.expected_ownership_revision && request.expected_states.contains run.state &&
    request.expected_due_at.all fun due_at => run.due_at == due_at

def CommandRun.terminalize (run : CommandRun) (request : CommandTerminalRequest)
    (output : Option CommandOutputFacts) : CommandRun :=
  { run with
    state := request.terminal_state
    process_metadata := none
    terminal := some {
      summary := request.summary
      ended_at := request.ended_at
      exit_code := request.exit_code
      failure_code := request.failure_code
      actor_ref := request.actor_ref
      output := output } }

/-- The exact wait row of one command run. -/
def CommandRun.wait (source : CommandRun) (run_id : RunId) : AttemptWait where
  assignment_id := source.assignment_id
  attempt_id := source.attempt_id
  source_dispatch_id := source.source_dispatch_id
  source := .command_run run_id

/-- Clear the Attempt that waits for one run, and delete its wait row. -/
def clear_matching_attempt_wait (db : TaskDb) (run_id : RunId) (source : CommandRun) : Option TaskDb := do
  let (wait_id, deleted) ← delete_attempt_wait db (source.wait run_id)
  clear_current_attempt_wait deleted
    { assignment_id := source.assignment_id, attempt_id := source.attempt_id, wait_id }

/-- The filter on an Attempt that Task cancellation ended. -/
def Attempt.is_cancelled_owner (attempt : Attempt) (assignment_id : AssignmentId) : Bool :=
  attempt.assignment_id == assignment_id && attempt.status == .cancelled && attempt.current_dispatch_id.isNone &&
    attempt.current_wait_id.isNone

/-- Accept exact late process truth only after Task cancellation won the wait. -/
def cancelled_owner_accepts_terminal_state (db : TaskDb) (run_id : RunId) (source : CommandRun)
    (request : CommandTerminalRequest) : Bool :=
  source.state == .cancellation_requested &&
    (request.terminal_state == .cancelled || request.terminal_state == .abandoned) &&
    db.task.status == .cancelled &&
    (db.attempts.get? source.attempt_id).any (fun attempt => attempt.is_cancelled_owner source.assignment_id) &&
    (db.command_runs.get? run_id).any (fun run => run.assignment_id == source.assignment_id &&
      run.attempt_id == source.attempt_id && run.source_dispatch_id == source.source_dispatch_id &&
      run.state == request.terminal_state && run.ownership_revision == request.expected_ownership_revision &&
      run.successor_dispatch_id.isNone) &&
    !db.attempt_waits.any fun _ wait => wait == source.wait run_id

/-- The terminal row, with the wait of a live Task cleared. -/
def commit_terminal_state (db : TaskDb) (run_id : RunId) (source : CommandRun) (request : CommandTerminalRequest)
    (output : Option CommandOutputFacts) : Option TaskDb := do
  let command_runs ← db.command_runs.updateWhere run_id request.expects fun run => run.terminalize request output
  let persisted := { db with command_runs := command_runs }
  match clear_matching_attempt_wait persisted run_id source with
  | some cleared => some cleared
  | none => if cancelled_owner_accepts_terminal_state persisted run_id source request then some persisted else none

/-- Commit one exact terminal winner and clear only its matching Attempt wait. Returns whether it won. -/
def terminalize_command_run (db : TaskDb) (run_id : RunId) (request : CommandTerminalRequest) :
    Result (Bool × TaskDb) := do
  validate_terminal_transition request.terminal_state request.failure_code
  match (db.command_runs.get? run_id).filter request.expects with
  | none => return (false, db)
  | some source =>
    let output ← resolve_terminal_output_facts request.output_observed_bytes request.output_written_bytes
      request.is_output_complete
    return (commit_terminal_state db run_id source request output).elim (false, db) fun committed => (true, committed)

/-- What a terminal commit found and left behind: the wait of the run was cleared, or a cancelled Task had
    given it up before. -/
inductive CommandRunTerminated (db : TaskDb) (run_id : RunId) (request : CommandTerminalRequest) (run : CommandRun)
    (output : Option CommandOutputFacts) : TaskDb → Prop
  | cleared {wait_id attempt} (waits : WaitsFor db wait_id (run.wait run_id) attempt) :
      CommandRunTerminated db run_id request run output
        { db.clear_wait wait_id run.attempt_id attempt with
          command_runs := db.command_runs.set run_id (run.terminalize request output) }
  | orphaned {attempt} (cancelled : db.task.status = .cancelled)
      (requested : run.state = .cancellation_requested)
      (terminal_state : request.terminal_state = .cancelled ∨ request.terminal_state = .abandoned)
      (unfollowed : run.successor_dispatch_id = none)
      (attempt_row : db.attempts.get? run.attempt_id = some attempt)
      (attempt_cancelled : attempt.status = .cancelled) (no_dispatch : attempt.current_dispatch_id = none)
      (no_wait : attempt.current_wait_id = none) :
      CommandRunTerminated db run_id request run output
        { db with command_runs := db.command_runs.set run_id (run.terminalize request output) }

variable {db db' : TaskDb} {run_id : RunId} {request : CommandTerminalRequest}

theorem claim_command_run_launch_success {owner_ref : String} {claimed_at : Instant} {claim : CommandRunLaunchClaim}
    (h : claim_command_run_launch db run_id owner_ref claimed_at = some (claim, db')) :
    ∃ run, db.command_runs.get? run_id = some run ∧ run.state = .pending_start ∧ run.ownership_revision = 0 ∧
      run.process_metadata = none ∧ claim = ⟨run_id, 1, run.timeout_seconds⟩ ∧
      db' = { db with command_runs := db.command_runs.set run_id (run.claim_launch owner_ref claimed_at) } := by
  unfold claim_command_run_launch CommandRun.is_launchable at h
  simp only [Option.bind_eq_bind, Option.bind_eq_some_iff, Table.updateWhere_eq_some, Bool.and_eq_true, beq_iff_eq,
    Option.isNone_iff_eq_none, Option.pure_def, Option.some.injEq, Prod.mk.injEq] at h
  obtain ⟨source, hsource, _, ⟨run, hrow, ⟨⟨hstate, hrevision⟩, hmetadata⟩, rfl⟩, rfl, rfl⟩ := h
  obtain rfl : run = source := Option.some.inj (hrow.symm.trans hsource)
  exact ⟨run, hrow, hstate, hrevision, hmetadata, by rw [hrevision], rfl⟩

theorem mark_command_run_running_success {claim : CommandRunLaunchClaim} {owner_ref : String} {pid : Nat}
    {started_at : Instant} {due_at : Option Instant}
    (h : mark_command_run_running db claim owner_ref pid started_at due_at = some db') :
    ∃ run, db.command_runs.get? claim.run_id = some run ∧ run.state = .pending_start ∧
      run.ownership_revision = claim.ownership_revision ∧
      db' = { db with
        command_runs := db.command_runs.set claim.run_id (run.mark_running owner_ref pid started_at due_at) } := by
  unfold mark_command_run_running at h
  simp only [Option.bind_eq_bind, Option.bind_eq_some_iff, Table.updateWhere_eq_some, Bool.and_eq_true, beq_iff_eq,
    Option.pure_def, Option.some.injEq] at h
  obtain ⟨_, ⟨run, hrow, ⟨hstate, hrevision⟩, rfl⟩, rfl⟩ := h
  exact ⟨run, hrow, hstate, hrevision, rfl⟩

theorem CommandTerminalRequest.expects_iff {run : CommandRun} :
    request.expects run = true ↔ run.ownership_revision = request.expected_ownership_revision ∧
      run.state ∈ request.expected_states ∧
      ∀ due_at, request.expected_due_at = some due_at → run.due_at = due_at := by
  unfold CommandTerminalRequest.expects
  cases request.expected_due_at <;> simp [and_assoc]

theorem clear_matching_attempt_wait_success {source : CommandRun}
    (h : clear_matching_attempt_wait db run_id source = some db') :
    ∃ wait_id attempt, WaitsFor db wait_id (source.wait run_id) attempt ∧
      db' = db.clear_wait wait_id source.attempt_id attempt := by
  unfold clear_matching_attempt_wait at h
  simp only [Option.bind_eq_bind, Option.bind_eq_some_iff, clear_current_attempt_wait_eq_some] at h
  obtain ⟨⟨wait_id, deleted⟩, hdelete, attempt, hattempt, hassignment, hrunning, hdispatch, hwait, rfl⟩ := h
  obtain ⟨hrow, rfl⟩ := delete_attempt_wait_success hdelete
  exact ⟨wait_id, attempt, ⟨hrow, hattempt, hassignment, hrunning, hdispatch, hwait⟩, rfl⟩

theorem commit_terminal_state_success {run : CommandRun} {output : Option CommandOutputFacts}
    (hrow : db.command_runs.get? run_id = some run)
    (h : commit_terminal_state db run_id run request output = some db') :
    CommandRunTerminated db run_id request run output db' := by
  unfold commit_terminal_state at h
  simp only [Option.bind_eq_bind, Option.bind_eq_some_iff, Table.updateWhere_eq_some] at h
  obtain ⟨_, ⟨run', hrow', -, rfl⟩, h⟩ := h
  obtain rfl : run = run' := Option.some.inj (hrow.symm.trans hrow')
  split at h
  · next cleared hclear =>
    cases h
    obtain ⟨wait_id, attempt, ⟨h1, h2, h3, h4, h5, h6⟩, rfl⟩ := clear_matching_attempt_wait_success hclear
    exact .cleared ⟨h1, h2, h3, h4, h5, h6⟩
  · split at h
    · next haccepts =>
      cases h
      simp only [cancelled_owner_accepts_terminal_state, Attempt.is_cancelled_owner, Table.get?_set_self,
        Option.any_some, Option.any_eq_true, Bool.and_eq_true, Bool.or_eq_true, beq_iff_eq,
        Option.isNone_iff_eq_none] at haccepts
      obtain ⟨⟨⟨⟨⟨hrequested, hterminal⟩, hcancelled⟩, attempt, hattempt, ⟨⟨-, hstatus⟩, hdispatch⟩, hwait⟩,
        ⟨-, hnone⟩⟩, -⟩ := haccepts
      exact .orphaned hcancelled hrequested hterminal hnone hattempt hstatus hdispatch hwait
    · cases h

/-- A winner found the run in a state that it expects, and acted on the wait of that run alone. -/
theorem terminalize_command_run_success (h : terminalize_command_run db run_id request = .ok (true, db')) :
    request.terminal_state.is_terminal = true ∧ ∃ run output, db.command_runs.get? run_id = some run ∧
      request.expects run = true ∧ CommandRunTerminated db run_id request run output db' := by
  unfold terminalize_command_run validate_terminal_transition at h
  simp only [bind_eq_ok_iff, require_eq_ok_iff] at h
  obtain ⟨_, ⟨_, hterminal, -⟩, h⟩ := h
  refine ⟨hterminal, ?_⟩
  split at h
  · cases h
  · next source hfilter =>
    obtain ⟨hrow, hexpects⟩ := Option.filter_eq_some_iff.mp hfilter
    simp only [bind_eq_ok_iff] at h
    obtain ⟨output, -, h⟩ := h
    cases hcommit : commit_terminal_state db run_id source request output with
    | none => rw [hcommit] at h; cases h
    | some committed =>
      rw [hcommit] at h
      cases h
      exact ⟨source, output, hrow, hexpects, commit_terminal_state_success hrow hcommit⟩

/-- A call that loses leaves every row alone. -/
theorem terminalize_command_run_lost (h : terminalize_command_run db run_id request = .ok (false, db')) :
    db' = db := by
  unfold terminalize_command_run at h
  simp only [bind_eq_ok_iff] at h
  obtain ⟨_, -, h⟩ := h
  split at h
  · cases h
    rfl
  · next source hfilter =>
    simp only [bind_eq_ok_iff] at h
    obtain ⟨output, -, h⟩ := h
    cases hcommit : commit_terminal_state db run_id source request output with
    | none =>
      rw [hcommit] at h
      cases h
      rfl
    | some committed => rw [hcommit] at h; cases h

end

/-- `CommandRunState` of a run that is still live. -/
def CommandRunState.is_live : CommandRunState → Bool
  | .pending_start | .running | .cancellation_requested => true
  | _ => false

/-- The transition that ends a live run whose local process ownership is unprovable. -/
def abandon_request (source : CommandRun) (ended_at : Instant) : CommandTerminalRequest where
  expected_ownership_revision := source.ownership_revision
  expected_states := [source.state]
  terminal_state := .abandoned
  summary := "The controller restarted without provable ownership of the command process."
  ended_at := ended_at
  exit_code := none
  failure_code := some "command_ownership_lost"
  expected_due_at := none
  actor_ref := none
  output_observed_bytes := none
  output_written_bytes := none
  is_output_complete := none

/-- Terminalize one live source whose local process ownership is unprovable. -/
def abandon_unowned_command_run (db : TaskDb) (run_id : RunId) (source : CommandRun) (ended_at : Instant) :
    Result (Bool × TaskDb) :=
  if source.state.is_live then terminalize_command_run db run_id (abandon_request source ended_at)
  else .ok (false, db)

def command_run_conflict (summary : String) : RuntimeOperationError := conflict_error summary

/-- The filter on an Attempt that waits on one wait row. -/
def Attempt.waits_on (attempt : Attempt) (assignment_id : AssignmentId) (wait_id : WaitId) : Bool :=
  attempt.assignment_id == assignment_id && attempt.status == .running && attempt.current_dispatch_id.isNone &&
    attempt.current_wait_id == some wait_id

/-- The Attempt of the run still waits for it, in a Task that may act on it. -/
def current_command_wait_exists (db : TaskDb) (run_id : RunId) (source : CommandRun)
    (is_cancelled_task_allowed : Bool) : Bool :=
  (db.task.status == .running || db.task.status == .paused ||
      is_cancelled_task_allowed && db.task.status == .cancelled) &&
    db.attempt_waits.any fun wait_id wait => wait == source.wait run_id &&
      (db.attempts.get? source.attempt_id).any fun attempt => attempt.waits_on source.assignment_id wait_id

def CommandRun.request_cancellation (run : CommandRun) (requested_at : Instant) : CommandRun :=
  { run with state := .cancellation_requested, cancellation_requested_at := some requested_at }

/-- The conditional update of one run that is not asked to stop yet. -/
def commit_cancellation_request (db : TaskDb) (run_id : RunId) (source : CommandRun) (requested_at : Instant)
    (is_cancelled_task_allowed : Bool) : Result (Bool × TaskDb) := do
  require (source.state == .pending_start || source.state == .running)
    (command_run_conflict s!"command run '{run_id}' cannot be cancelled from its state")
  let command_runs ← require_some
    (db.command_runs.updateWhere run_id
      (fun run => run.state == source.state && run.ownership_revision == source.ownership_revision &&
        current_command_wait_exists db run_id source is_cancelled_task_allowed)
      fun run => run.request_cancellation requested_at)
    (command_run_conflict s!"command run '{run_id}' changed before cancellation")
  return (true, { db with command_runs := command_runs })

/-- Request exact-run cancellation without committing the caller's transaction. Returns whether the run
    changed. -/
def request_command_run_cancellation (db : TaskDb) (run_id : RunId) (requested_at : Instant)
    (is_already_requested_allowed is_cancelled_task_allowed : Bool) : Result (Bool × TaskDb) :=
  match db.command_runs.get? run_id with
  | none => .error (missing_resource_error s!"unknown command run '{run_id}'")
  | some source =>
    if source.state.is_terminal then .ok (false, db)
    else if !current_command_wait_exists db run_id source is_cancelled_task_allowed then
      .error (command_run_conflict s!"command run '{run_id}' no longer owns its exact Attempt wait")
    else if source.state == .cancellation_requested then
      if is_already_requested_allowed then .ok (false, db)
      else .error (command_run_conflict s!"command run '{run_id}' already has cancellation requested")
    else commit_cancellation_request db run_id source requested_at is_cancelled_task_allowed

/-- The operator's cancellation of one run. -/
def cancel_command_run (db : TaskDb) (run_id : RunId) (requested_at : Instant) : Result (Bool × TaskDb) :=
  request_command_run_cancellation db run_id requested_at true false

variable {db db' : TaskDb} {run_id : RunId} {requested_at : Instant}
  {is_already_requested_allowed is_cancelled_task_allowed changed : Bool}

/-- A request changes a pending or running run that its Attempt waits for, or nothing. -/
theorem request_command_run_cancellation_success
    (h : request_command_run_cancellation db run_id requested_at is_already_requested_allowed
      is_cancelled_task_allowed = .ok (changed, db')) :
    (changed = false ∧ db' = db ∧ ∃ run, db.command_runs.get? run_id = some run ∧
      (run.state.is_terminal = true ∨ run.state = .cancellation_requested)) ∨
    ∃ run, changed = true ∧ db.command_runs.get? run_id = some run ∧
      (run.state = .pending_start ∨ run.state = .running) ∧
      current_command_wait_exists db run_id run is_cancelled_task_allowed = true ∧
      db' = { db with command_runs := db.command_runs.set run_id (run.request_cancellation requested_at) } := by
  unfold request_command_run_cancellation at h
  split at h
  · cases h
  · next source hsource =>
    split at h
    · next hterminal =>
      cases h
      exact .inl ⟨rfl, rfl, source, hsource, .inl hterminal⟩
    · split at h
      · cases h
      · next hwait =>
        split at h
        · next hrequested =>
          split at h
          · cases h
            exact .inl ⟨rfl, rfl, source, hsource, .inr (beq_iff_eq.mp hrequested)⟩
          · cases h
        · unfold commit_cancellation_request at h
          simp only [bind_eq_ok_iff, require_eq_ok_iff, require_some_eq_ok_iff, Table.updateWhere_eq_some,
            Bool.or_eq_true, beq_iff_eq] at h
          obtain ⟨_, hstate, _, ⟨run, hrow, -, rfl⟩, h⟩ := h
          cases h
          obtain rfl : source = run := Option.some.inj (hsource.symm.trans hrow)
          exact .inr ⟨source, rfl, hsource, hstate, by simpa using hwait, rfl⟩

end OhMySubagents
