import OhMySubagents.Dispatch.Authority
import OhMySubagents.Lanes.Abstraction
import OhMySubagents.Lanes.Participation

open Relational

namespace OhMySubagents

def close_source_dispatch (db : TaskDb) (authority : NodeOperationAuthority) (closed_reason : DispatchClosedReason) :
    Result TaskDb :=
  require_some (close_current_attempt_dispatch db authority.identity authority.team_revision_id closed_reason)
    (conflict_error "another transition already changed current Attempt authority")

/-- Closing the source of an exact authority closes its Dispatch and frees its lane. -/
theorem close_source_dispatch_success {db db' : TaskDb} {authority : NodeOperationAuthority}
    {closed_reason : DispatchClosedReason} (h : close_source_dispatch db authority closed_reason = .ok db') :
    ∃ attempt dispatch, HoldsLane db authority.identity attempt dispatch ∧
      db' = { db with
        dispatches := db.dispatches.set authority.dispatch_id (dispatch.close closed_reason)
        attempts := db.attempts.set authority.attempt_id { attempt with current_dispatch_id := none } } := by
  unfold close_source_dispatch at h
  rw [require_some_eq_ok_iff] at h
  obtain ⟨attempt, dispatch, hlane, -, rfl⟩ := close_current_attempt_dispatch_success h
  exact ⟨attempt, dispatch, hlane, rfl⟩

/-- The unique columns of a wait: its Attempt, its source Dispatch and its source. -/
def AttemptWait.conflicts (wait other : AttemptWait) : Bool :=
  wait.attempt_id == other.attempt_id || wait.source_dispatch_id == other.source_dispatch_id ||
    wait.source == other.source

/-- Insert one typed wait and suspend its Attempt on it. -/
def stage_attempt_wait (db : TaskDb) (authority : NodeOperationAuthority) (wait_id : WaitId) (source : WaitSource)
    (closed_reason : DispatchClosedReason) (changed : RuntimeOperationError) : Result TaskDb := do
  let attempt_waits ← require_some
    (db.attempt_waits.insertUnique AttemptWait.conflicts wait_id
      { assignment_id := authority.assignment_id
        attempt_id := authority.attempt_id
        source_dispatch_id := authority.dispatch_id
        source := source })
    integrity_error
  require_some
    (suspend_current_attempt_on_wait { db with attempt_waits := attempt_waits } authority.identity wait_id
      authority.team_revision_id closed_reason)
    changed

/-- A staged wait found its source Dispatch holding the lane, and moved the lane onto the wait. -/
theorem stage_attempt_wait_success {db db' : TaskDb} {authority : NodeOperationAuthority} {wait_id : WaitId}
    {source : WaitSource} {closed_reason : DispatchClosedReason} {changed : RuntimeOperationError}
    (h : stage_attempt_wait db authority wait_id source closed_reason changed = .ok db') :
    ∃ attempt dispatch, db.attempt_waits.get? wait_id = none ∧ HoldsLane db authority.identity attempt dispatch ∧
      db' = { db with
        attempt_waits := db.attempt_waits.set wait_id
          { assignment_id := authority.assignment_id
            attempt_id := authority.attempt_id
            source_dispatch_id := authority.dispatch_id
            source := source }
        dispatches := db.dispatches.set authority.dispatch_id (dispatch.close closed_reason)
        attempts := db.attempts.set authority.attempt_id
          { attempt with current_dispatch_id := none, current_wait_id := some wait_id } } := by
  unfold stage_attempt_wait at h
  simp only [bind_eq_ok_iff, require_some_eq_ok_iff, Table.insertUnique_eq_some] at h
  obtain ⟨_, ⟨-, hfree, rfl⟩, hsuspend⟩ := h
  obtain ⟨attempt, dispatch, hlane, -, rfl⟩ := suspend_current_attempt_on_wait_success hsuspend
  obtain ⟨h1, h2, h3, h4, h5, h6, h7, h8, h9, h10⟩ := hlane
  exact ⟨attempt, dispatch, hfree, ⟨h1, h2, h3, h4, h5, h6, h7, h8, h9, h10⟩, rfl⟩

def attempt_authority_changed : RuntimeOperationError :=
  conflict_error "another transition changed exact Attempt authority"

/-- The columns of an opened human request that the runtime reads back. -/
structure OpenHumanRequestRequest where
  items : List HumanRequestItem
  due_at : Option Instant
  deriving DecidableEq, Repr

def new_human_request (authority : NodeOperationAuthority) (request : OpenHumanRequestRequest) : HumanRequest where
  assignment_id := authority.assignment_id
  attempt_id := authority.attempt_id
  source_dispatch_id := authority.dispatch_id
  items := request.items
  due_at := request.due_at
  status := .open
  resolution := none
  successor_dispatch_id := none

def HumanRequest.conflicts (request other : HumanRequest) : Bool :=
  request.source_dispatch_id == other.source_dispatch_id

/-- Open one human request and suspend the caller on it. The file references of the request are
    validated against the workspace first. -/
def open_human_request (db : TaskDb) (authority : NodeOperationAuthority) (request : OpenHumanRequestRequest)
    (files : Result Unit) (request_id : RequestId) (wait_id : WaitId) : Result TaskDb := do
  files
  let human_requests ← require_some
    (db.human_requests.insertUnique HumanRequest.conflicts request_id (new_human_request authority request))
    integrity_error
  stage_attempt_wait { db with human_requests := human_requests } authority wait_id (.human_request request_id)
    .human_request_wait attempt_authority_changed

def new_command_run (authority : NodeOperationAuthority) (timeout_seconds : Option Nat) : CommandRun where
  assignment_id := authority.assignment_id
  attempt_id := authority.attempt_id
  source_dispatch_id := authority.dispatch_id
  timeout_seconds := timeout_seconds
  started_at := none
  due_at := none
  state := .pending_start
  ownership_revision := 0
  process_metadata := none
  cancellation_requested_at := none
  terminal := none
  successor_dispatch_id := none

def CommandRun.conflicts (run other : CommandRun) : Bool := run.source_dispatch_id == other.source_dispatch_id

/-- Record one pending command run and suspend the caller on it. The working directory is normalized
    first. -/
def start_command_run (db : TaskDb) (authority : NodeOperationAuthority) (timeout_seconds : Option Nat)
    (cwd : Result Unit) (run_id : RunId) (wait_id : WaitId) : Result TaskDb := do
  cwd
  let command_runs ← require_some
    (db.command_runs.insertUnique CommandRun.conflicts run_id (new_command_run authority timeout_seconds))
    integrity_error
  stage_attempt_wait { db with command_runs := command_runs } authority wait_id (.command_run run_id)
    .command_run_wait attempt_authority_changed

/-- The rows after an exact authority suspended its lane on a new source. -/
def TaskDb.with_wait (db : TaskDb) (authority : NodeOperationAuthority) (wait_id : WaitId) (source : WaitSource)
    (closed_reason : DispatchClosedReason) : TaskDb :=
  { db with
    attempt_waits := db.attempt_waits.set wait_id
      { assignment_id := authority.assignment_id
        attempt_id := authority.attempt_id
        source_dispatch_id := authority.dispatch_id
        source := source }
    dispatches := db.dispatches.set authority.dispatch_id (authority.dispatch.close closed_reason)
    attempts := db.attempts.set authority.attempt_id
      { authority.attempt with current_dispatch_id := none, current_wait_id := some wait_id } }

variable {db db' : TaskDb} {authority : NodeOperationAuthority} {wait_id : WaitId}

/-- An exact authority suspends exactly its own lane. -/
theorem AuthorityHolds.stage_attempt_wait_success {source : WaitSource} {closed_reason : DispatchClosedReason}
    {changed : RuntimeOperationError} (hauth : AuthorityHolds db authority)
    (h : stage_attempt_wait db authority wait_id source closed_reason changed = .ok db') :
    db.attempt_waits.get? wait_id = none ∧ db' = db.with_wait authority wait_id source closed_reason := by
  obtain ⟨attempt, dispatch, hfree, hlane, rfl⟩ := OhMySubagents.stage_attempt_wait_success h
  have hattempt := hauth.lane.attempt_row.symm.trans hlane.attempt_row
  have hdispatch := hauth.lane.dispatch_row.symm.trans hlane.dispatch_row
  cases hattempt
  cases hdispatch
  exact ⟨hfree, rfl⟩

theorem AuthorityHolds.congr (staged : TaskDb) (hauth : AuthorityHolds db authority)
    (htask : staged.task = db.task) (hteam : staged.toTeamTables = db.toTeamTables)
    (hassignments : staged.assignments = db.assignments) (hattempts : staged.attempts = db.attempts)
    (hdispatches : staged.dispatches = db.dispatches) : AuthorityHolds staged authority := by
  have hrevisions : staged.team_revisions = db.team_revisions :=
    congrArg TeamTables.team_revisions hteam
  obtain ⟨⟨h1, h2, h3, h4, h5, h6, h7, h8, h9, h10⟩, h11, h12, h13, h14, h15, h16, h17, h18, h19, h20, h21, h22⟩ :=
    hauth
  refine ⟨⟨?_, ?_, h3, h4, h5, h6, ?_, h8, h9, h10⟩, h11, h12, ?_, ?_, ?_, ?_, ?_, h18, h19, h20, h21, ?_⟩
  · rw [htask]; exact h1
  · rw [hattempts]; exact h2
  · rw [hdispatches]; exact h7
  · rw [h13, member_has_direct_team, member_has_direct_team, hrevisions, htask]
  · rw [htask]; exact h14
  · rw [htask]; exact h15
  · rw [htask]; exact h16
  · rw [hassignments]; exact h17
  · rw [hrevisions, htask]; exact h22

theorem open_human_request_success {request : OpenHumanRequestRequest} {files : Result Unit}
    {request_id : RequestId} (hauth : AuthorityHolds db authority)
    (h : open_human_request db authority request files request_id wait_id = .ok db') :
    db.human_requests.get? request_id = none ∧
      db.human_requests.any (fun _ other => (new_human_request authority request).conflicts other) = false ∧
      db.attempt_waits.get? wait_id = none ∧
      db' = { db.with_wait authority wait_id (.human_request request_id) .human_request_wait with
        human_requests := db.human_requests.set request_id (new_human_request authority request) } := by
  unfold open_human_request at h
  simp only [bind_eq_ok_iff, require_some_eq_ok_iff, Table.insertUnique_eq_some] at h
  obtain ⟨_, -, _, ⟨hunique, hfresh, rfl⟩, hstage⟩ := h
  obtain ⟨hwait, rfl⟩ := (hauth.congr { db with
    human_requests := db.human_requests.set request_id (new_human_request authority request) }
    rfl rfl rfl rfl rfl).stage_attempt_wait_success hstage
  exact ⟨hfresh, hunique, hwait, rfl⟩

theorem start_command_run_success {timeout_seconds : Option Nat} {cwd : Result Unit} {run_id : RunId}
    (hauth : AuthorityHolds db authority)
    (h : start_command_run db authority timeout_seconds cwd run_id wait_id = .ok db') :
    db.command_runs.get? run_id = none ∧
      db.command_runs.any (fun _ other => (new_command_run authority timeout_seconds).conflicts other) = false ∧
      db.attempt_waits.get? wait_id = none ∧
      db' = { db.with_wait authority wait_id (.command_run run_id) .command_run_wait with
        command_runs := db.command_runs.set run_id (new_command_run authority timeout_seconds) } := by
  unfold start_command_run at h
  simp only [bind_eq_ok_iff, require_some_eq_ok_iff, Table.insertUnique_eq_some] at h
  obtain ⟨_, -, _, ⟨hunique, hfresh, rfl⟩, hstage⟩ := h
  obtain ⟨hwait, rfl⟩ := (hauth.congr { db with
    command_runs := db.command_runs.set run_id (new_command_run authority timeout_seconds) }
    rfl rfl rfl rfl rfl).stage_attempt_wait_success hstage
  exact ⟨hfresh, hunique, hwait, rfl⟩

/-- Suspending on a source that is new and unresolved is one step of the lanes. -/
theorem AuthorityHolds.wait_step (hauth : AuthorityHolds db authority) (source : WaitSource)
    {closed_reason : DispatchClosedReason} (hwait : db.attempt_waits.get? wait_id = none)
    (hsource : db.source source.source_id = none) (hreason : source.source_id.closed_reason = some closed_reason)
    (htables : db'.task = db.task ∧ db'.toTeamTables = db.toTeamTables ∧ db'.assignments = db.assignments ∧
      db'.delegation_wave_members = db.delegation_wave_members ∧ db'.accepted_boundaries = db.accepted_boundaries)
    (hattempts : db'.attempts = (db.with_wait authority wait_id source closed_reason).attempts)
    (hdispatches : db'.dispatches = (db.with_wait authority wait_id source closed_reason).dispatches)
    (hwaits : db'.attempt_waits = (db.with_wait authority wait_id source closed_reason).attempt_waits)
    (hsources : db'.source = Function.update db.source source.source_id
      (some ⟨authority.assignment_id, authority.attempt_id, some authority.dispatch_id, .unresolved⟩)) :
    Lanes.Step db.lanes db'.lanes := by
  obtain ⟨htask, hteam, hassignments, hmembers, hboundaries⟩ := htables
  have hstep := @Lanes.Step.suspend _ _ _ _ _ _ source _ hauth.lanes_holds (Table.view_eq_none.mpr hwait)
    hsource hreason
  rw [show authority.attempt.lane.assignment_id = authority.assignment_id from hauth.attempt_assignment] at hstep
  convert hstep using 1
  apply Lanes.ext <;> first | (simp [htask, hteam, hassignments, hmembers, hboundaries]; done) | skip
  · simp [hattempts, TaskDb.with_wait]
    rfl
  · simp [hdispatches, TaskDb.with_wait]
  · simp [hwaits, TaskDb.with_wait]
  · simp [hsources]

theorem open_human_request_step {request : OpenHumanRequestRequest} {files : Result Unit} {request_id : RequestId}
    (hauth : AuthorityHolds db authority)
    (h : open_human_request db authority request files request_id wait_id = .ok db') :
    Lanes.Step db.lanes db'.lanes := by
  obtain ⟨hfresh, -, hwait, rfl⟩ := open_human_request_success hauth h
  refine hauth.wait_step (.human_request request_id) hwait (Table.view_eq_none.mpr hfresh) rfl
    ⟨rfl, rfl, rfl, rfl, rfl⟩ rfl rfl rfl ?_
  funext s
  cases s <;> simp [TaskDb.source, TaskDb.with_wait, Function.update_apply, WaitSource.source_id]
  rfl

theorem start_command_run_step {timeout_seconds : Option Nat} {cwd : Result Unit} {run_id : RunId}
    (hauth : AuthorityHolds db authority)
    (h : start_command_run db authority timeout_seconds cwd run_id wait_id = .ok db') :
    Lanes.Step db.lanes db'.lanes := by
  obtain ⟨hfresh, -, hwait, rfl⟩ := start_command_run_success hauth h
  refine hauth.wait_step (.command_run run_id) hwait (Table.view_eq_none.mpr hfresh) rfl
    ⟨rfl, rfl, rfl, rfl, rfl⟩ rfl rfl rfl ?_
  funext s
  cases s <;> simp [TaskDb.source, TaskDb.with_wait, Function.update_apply, WaitSource.source_id]
  rfl

end OhMySubagents
