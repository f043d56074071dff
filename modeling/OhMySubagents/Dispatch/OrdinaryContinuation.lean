import OhMySubagents.Dispatch.Authority
import OhMySubagents.Dispatch.Opening
import OhMySubagents.TaskDb

open Relational

namespace OhMySubagents

/-- What a continuation tells its Dispatch: the source that it continues from, with the result columns
    that a claim compares again. -/
inductive OrdinaryPromptTrigger
  | delegation_wave_settled (delegation_wave_id : WaveId) (source_dispatch_id : DispatchId)
  | human_result (request_id : RequestId) (source_dispatch_id : DispatchId) (status : HumanRequestStatus)
  | command_result (command_id : RunId) (source_dispatch_id : DispatchId) (state : CommandRunState)
  | watchdog_recovery (source_dispatch_id : DispatchId)
  | operator_continue (source_dispatch_id : DispatchId) (control_revision : Nat) (pause_reason : Option PauseReason)
  | structural_replan (source_dispatch_id : DispatchId)
  deriving DecidableEq, Repr

structure OrdinaryContinuationBasis where
  assignment_id : AssignmentId
  attempt_id : AttemptId
  source_dispatch_id : DispatchId
  source_dispatch_closed_reason : DispatchClosedReason
  opened_reason : DispatchOpenedReason
  trigger : OrdinaryPromptTrigger
  continuation_source_id : Option Nat
  deriving DecidableEq, Repr

/-- What one read of a free lane found. The prompt copies the Assignment, the Attempt and the
    predecessor from the basis; of its own content the steers are kept. -/
structure OrdinaryDispatchSnapshot where
  basis : OrdinaryContinuationBasis
  expected_task_status : TaskStatus
  expected_pause_reason : Option PauseReason
  task_control_revision : Nat
  assignment_work_plan_revision : Nat
  team_revision_id : RevisionId
  selection : MemberSelection
  steering : List PromptSteer
  deriving DecidableEq, Repr

/-- The filter on an Attempt whose lane is free. -/
def Attempt.is_idle (attempt : Attempt) (assignment_id : AssignmentId) : Bool :=
  attempt.assignment_id == assignment_id && attempt.status == .running && attempt.current_dispatch_id.isNone &&
    attempt.current_wait_id.isNone

/-- `_read_ordinary_runtime_context`, with the selection and the Assignment it joins. -/
def read_ordinary_runtime_context (db : TaskDb) (basis : OrdinaryContinuationBasis)
    (expected_task_status : TaskStatus) (expected_control_revision : Option Nat) :
    Option (DispatchTurn × Assignment × TeamRevisionMember) := do
  let assignment ← db.assignments.get? basis.assignment_id
  let source_dispatch ← db.dispatches.get? basis.source_dispatch_id
  let rev ← db.team_revisions.get? db.task.current_team_revision_id
  let selection ← rev.select assignment.member_id
  let configuration ← db.member_configurations.get? selection.member_configuration_id
  let attempt ← db.attempts.get? basis.attempt_id
  ensure (configuration.member_id == selection.member_id && db.task.status == expected_task_status &&
    attempt.is_idle basis.assignment_id &&
    expected_control_revision.all fun revision => db.task.control_revision == revision)
  return (source_dispatch, assignment, selection)

/-- The filter on the closed Dispatch that a continuation follows. -/
def DispatchTurn.is_continuation_source (dispatch : DispatchTurn) (basis : OrdinaryContinuationBasis) : Bool :=
  dispatch.assignment_id == basis.assignment_id && dispatch.attempt_id == basis.attempt_id &&
    dispatch.status == .closed basis.source_dispatch_closed_reason

/-- `ValueError`: the handler turns it into a recorded preparation failure. -/
def value_error (summary : String) : RuntimeOperationError := internal_error summary

def validate_ordinary_runtime_context (source_dispatch : DispatchTurn) (assignment : Assignment)
    (basis : OrdinaryContinuationBasis) : Result Unit :=
  require (source_dispatch.is_continuation_source basis && assignment.current_attempt_id == basis.attempt_id &&
      assignment.terminal_outcome.isNone)
    (value_error "ordinary continuation has inconsistent exact runtime context")

def read_ordinary_dispatch_snapshot (db : TaskDb) (basis : OrdinaryContinuationBasis)
    (expected_task_status : TaskStatus) (expected_control_revision : Option Nat) :
    Result (Option OrdinaryDispatchSnapshot) :=
  match read_ordinary_runtime_context db basis expected_task_status expected_control_revision with
  | none => .ok none
  | some (source_dispatch, assignment, selection) => do
    validate_ordinary_runtime_context source_dispatch assignment basis
    return some {
      basis := basis
      expected_task_status := expected_task_status
      expected_pause_reason := db.task.pause_reason
      task_control_revision := db.task.control_revision
      assignment_work_plan_revision := assignment.work_plan_revision
      team_revision_id := db.task.current_team_revision_id
      selection := ⟨selection.member_id, selection.member_configuration_id, selection.member_branch_basis_id⟩
      steering := read_assignment_prompt_steers db basis.assignment_id }

/-- The filter on the open Assignment that a snapshot was read from. -/
def Assignment.is_snapshot (assignment : Assignment) (snapshot : OrdinaryDispatchSnapshot) : Bool :=
  assignment.is_current snapshot.selection.member_id snapshot.basis.attempt_id &&
    assignment.work_plan_revision == snapshot.assignment_work_plan_revision

def ordinary_context_is_current (db : TaskDb) (snapshot : OrdinaryDispatchSnapshot) : Bool :=
  (db.dispatches.get? snapshot.basis.source_dispatch_id).any
      (fun dispatch => dispatch.is_continuation_source snapshot.basis) &&
    team_revision_selects_member db snapshot.team_revision_id snapshot.selection &&
    (db.assignments.get? snapshot.basis.assignment_id).any (fun assignment => assignment.is_snapshot snapshot) &&
    (db.attempts.get? snapshot.basis.attempt_id).any
      (fun attempt => attempt.is_idle snapshot.basis.assignment_id) &&
    db.task.current_team_revision_id == snapshot.team_revision_id

/-- The Task row of a Task that runs again. -/
def Task.resume (task : Task) : Task :=
  { task with status := .running, pause_reason := none, control_revision := task.control_revision + 1 }

abbrev OrdinarySourceClaim := TaskDb → OrdinaryDispatchSnapshot → PreparedDispatchRequest → Option TaskDb

def OrdinaryDispatchSnapshot.starting_basis (snapshot : OrdinaryDispatchSnapshot) : StartingDispatchBasis where
  assignment_id := snapshot.basis.assignment_id
  team_revision_id := snapshot.team_revision_id
  selection := snapshot.selection
  attempt_id := snapshot.basis.attempt_id
  opened_reason := snapshot.basis.opened_reason
  predecessor_dispatch_id := some snapshot.basis.source_dispatch_id

/-- The conditional update of the Task row that starts a commit. -/
def claim_ordinary_task (db : TaskDb) (snapshot : OrdinaryDispatchSnapshot) (should_resume_task : Bool) :
    Option TaskDb := do
  ensure (db.task.status == snapshot.expected_task_status &&
    db.task.current_team_revision_id == snapshot.team_revision_id &&
    db.task.control_revision == snapshot.task_control_revision && ordinary_context_is_current db snapshot &&
    (snapshot.expected_task_status != .paused || db.task.pause_reason == snapshot.expected_pause_reason))
  return if should_resume_task then { db with task := db.task.resume } else db

/-- Claim the Task, local source, and same-Attempt successor atomically. -/
def commit_ordinary_dispatch_if_current (db : TaskDb) (snapshot : OrdinaryDispatchSnapshot)
    (prepared : PreparedDispatchRequest) (claim_source : OrdinarySourceClaim) (should_resume_task : Bool) :
    Result (Option TaskDb) :=
  match claim_ordinary_task db snapshot should_resume_task with
  | none => .ok none
  | some task_claimed =>
    match claim_source task_claimed snapshot prepared with
    | none => .ok none
    | some source_claimed => (stage_starting_dispatch source_claimed snapshot.starting_basis prepared).map some

inductive OrdinaryOpeningOutcome
  | opened (dispatch_id : DispatchId)
  | skipped
  | paused
  deriving DecidableEq, Repr

abbrev OrdinarySourceReader := TaskDb → Result (Option OrdinaryContinuationBasis)

/-- Prepare and conditionally open one runnable exact-source successor. `stale` are the rows that the
    preparation read; `drawn` is empty when the provider or the prompt cannot be prepared. -/
def open_ordinary_successor (stale db : TaskDb) (drawn : Option DrawnDispatchRequest)
    (read_source : OrdinarySourceReader) (claim_source : OrdinarySourceClaim)
    (record_failure : TaskDb → Result TaskDb) : Result (OrdinaryOpeningOutcome × TaskDb) :=
  let failed := (record_failure db).map fun db => (OrdinaryOpeningOutcome.paused, db)
  match read_source stale with
  | .error _ => failed
  | .ok none => .ok (.skipped, db)
  | .ok (some basis) =>
    match read_ordinary_dispatch_snapshot stale basis .running none with
    | .error _ => failed
    | .ok none => .ok (.skipped, db)
    | .ok (some snapshot) =>
      match drawn with
      | none => failed
      | some drawn => do
        let prepared := prepare_dispatch_request drawn snapshot.steering
        match ← commit_ordinary_dispatch_if_current db snapshot prepared claim_source false with
        | none => return (.skipped, db)
        | some opened => return (.opened prepared.dispatch_id, opened)

theorem Attempt.is_idle_iff {attempt : Attempt} {assignment_id : AssignmentId} :
    attempt.is_idle assignment_id = true ↔ attempt.assignment_id = assignment_id ∧ attempt.status = .running ∧
      attempt.current_dispatch_id = none ∧ attempt.current_wait_id = none := by
  simp [Attempt.is_idle, and_assoc]

theorem Assignment.is_current_iff {assignment : Assignment} {member_id : MemberId} {attempt_id : AttemptId} :
    assignment.is_current member_id attempt_id = true ↔ assignment.member_id = member_id ∧
      assignment.current_attempt_id = attempt_id ∧ assignment.terminal_outcome = none := by
  simp [Assignment.is_current, and_assoc]

theorem DispatchTurn.is_continuation_source_iff {dispatch : DispatchTurn} {basis : OrdinaryContinuationBasis} :
    dispatch.is_continuation_source basis = true ↔ dispatch.assignment_id = basis.assignment_id ∧
      dispatch.attempt_id = basis.attempt_id ∧ dispatch.status = .closed basis.source_dispatch_closed_reason := by
  simp [DispatchTurn.is_continuation_source, and_assoc]

/-- A free lane that a snapshot still describes exactly. -/
structure ContextCurrent (db : TaskDb) (snapshot : OrdinaryDispatchSnapshot) (source : DispatchTurn)
    (assignment : Assignment) (attempt : Attempt) : Prop where
  source_row : db.dispatches.get? snapshot.basis.source_dispatch_id = some source
  source_assignment : source.assignment_id = snapshot.basis.assignment_id
  source_attempt : source.attempt_id = snapshot.basis.attempt_id
  source_closed : source.status = .closed snapshot.basis.source_dispatch_closed_reason
  team : db.task.current_team_revision_id = snapshot.team_revision_id
  selected : current_team_selects_member db snapshot.selection = true
  assignment_row : db.assignments.get? snapshot.basis.assignment_id = some assignment
  assignment_member : assignment.member_id = snapshot.selection.member_id
  assignment_attempt : assignment.current_attempt_id = snapshot.basis.attempt_id
  assignment_open : assignment.terminal_outcome = none
  work_plan : assignment.work_plan_revision = snapshot.assignment_work_plan_revision
  attempt_row : db.attempts.get? snapshot.basis.attempt_id = some attempt
  attempt_assignment : attempt.assignment_id = snapshot.basis.assignment_id
  attempt_running : attempt.status = .running
  no_dispatch : attempt.current_dispatch_id = none
  no_wait : attempt.current_wait_id = none

theorem ordinary_context_is_current_iff {db : TaskDb} {snapshot : OrdinaryDispatchSnapshot} :
    ordinary_context_is_current db snapshot = true ↔
      ∃ source assignment attempt, ContextCurrent db snapshot source assignment attempt := by
  unfold ordinary_context_is_current
  simp only [Bool.and_eq_true, Option.any_eq_true, Assignment.is_snapshot, beq_iff_eq,
    DispatchTurn.is_continuation_source_iff, Assignment.is_current_iff, Attempt.is_idle_iff]
  constructor
  · rintro ⟨⟨⟨⟨⟨source, hsource, hsa, hst, hsc⟩, hselected⟩, assignment, hassignment, ⟨hm, hca, ho⟩, hw⟩, attempt,
      hattempt, haa, har, hd, hwait⟩, hteam⟩
    refine ⟨source, assignment, attempt, hsource, hsa, hst, hsc, hteam, ?_, hassignment, hm, hca, ho, hw, hattempt,
      haa, har, hd, hwait⟩
    rw [current_team_selects_member, hteam]
    exact hselected
  · rintro ⟨source, assignment, attempt, h⟩
    have hselected := h.selected
    rw [current_team_selects_member, h.team] at hselected
    exact ⟨⟨⟨⟨⟨source, h.source_row, h.source_assignment, h.source_attempt, h.source_closed⟩, hselected⟩, assignment,
      h.assignment_row, ⟨h.assignment_member, h.assignment_attempt, h.assignment_open⟩, h.work_plan⟩, attempt,
      h.attempt_row, h.attempt_assignment, h.attempt_running, h.no_dispatch, h.no_wait⟩, h.team⟩

theorem claim_ordinary_task_eq_some {db db' : TaskDb} {snapshot : OrdinaryDispatchSnapshot}
    {should_resume_task : Bool} :
    claim_ordinary_task db snapshot should_resume_task = some db' ↔
      db.task.status = snapshot.expected_task_status ∧
      db.task.control_revision = snapshot.task_control_revision ∧
      (snapshot.expected_task_status = .paused → db.task.pause_reason = snapshot.expected_pause_reason) ∧
      (∃ source assignment attempt, ContextCurrent db snapshot source assignment attempt) ∧
      db' = if should_resume_task then { db with task := db.task.resume } else db := by
  unfold claim_ordinary_task
  simp only [Option.bind_eq_bind, Option.bind_eq_some_iff, ensure_eq_some_iff, Bool.and_eq_true, beq_iff_eq,
    ordinary_context_is_current_iff, Bool.or_eq_true, bne_iff_ne, Option.pure_def, Option.some.injEq, ne_eq,
    exists_const, and_assoc]
  constructor
  · rintro ⟨hstatus, -, hcontrol, hcontext, hreason, rfl⟩
    exact ⟨hstatus, hcontrol, fun hpaused => hreason.resolve_left (absurd hpaused), hcontext, rfl⟩
  · rintro ⟨hstatus, hcontrol, hreason, hcontext, rfl⟩
    obtain ⟨_, _, _, h⟩ := id hcontext
    exact ⟨hstatus, h.team, hcontrol, hcontext, (em _).symm.imp_right hreason, rfl⟩

/-- A commit that opens found the lane free and current, claimed the source and staged the Dispatch. -/
theorem commit_ordinary_dispatch_if_current_success {db db' : TaskDb} {snapshot : OrdinaryDispatchSnapshot}
    {prepared : PreparedDispatchRequest} {claim_source : OrdinarySourceClaim} {should_resume_task : Bool} :
    commit_ordinary_dispatch_if_current db snapshot prepared claim_source should_resume_task = .ok (some db') ↔
      ∃ task_claimed source_claimed, claim_ordinary_task db snapshot should_resume_task = some task_claimed ∧
        claim_source task_claimed snapshot prepared = some source_claimed ∧
        stage_starting_dispatch source_claimed snapshot.starting_basis prepared = .ok db' := by
  unfold commit_ordinary_dispatch_if_current
  cases htask : claim_ordinary_task db snapshot should_resume_task with
  | none => simp
  | some task_claimed =>
    cases hsource : claim_source task_claimed snapshot prepared with
    | none => simp [hsource]
    | some source_claimed =>
      cases hstage : stage_starting_dispatch source_claimed snapshot.starting_basis prepared <;>
        simp [hsource, hstage, Except.map]

/-- What a snapshot pins of the rows that it was read from. -/
structure SnapshotRead (db : TaskDb) (snapshot : OrdinaryDispatchSnapshot) (assignment : Assignment) : Prop where
  status : db.task.status = snapshot.expected_task_status
  pause_reason : db.task.pause_reason = snapshot.expected_pause_reason
  control : db.task.control_revision = snapshot.task_control_revision
  team : db.task.current_team_revision_id = snapshot.team_revision_id
  selected : current_team_selects_member db snapshot.selection = true
  assignment_row : db.assignments.get? snapshot.basis.assignment_id = some assignment
  assignment_member : assignment.member_id = snapshot.selection.member_id
  assignment_attempt : assignment.current_attempt_id = snapshot.basis.attempt_id
  work_plan : assignment.work_plan_revision = snapshot.assignment_work_plan_revision
  steering : snapshot.steering = read_assignment_prompt_steers db snapshot.basis.assignment_id

theorem read_ordinary_dispatch_snapshot_success {db : TaskDb} {basis : OrdinaryContinuationBasis}
    {expected_task_status : TaskStatus} {expected_control_revision : Option Nat} {snapshot : OrdinaryDispatchSnapshot}
    (h : read_ordinary_dispatch_snapshot db basis expected_task_status expected_control_revision =
      .ok (some snapshot)) :
    snapshot.basis = basis ∧ snapshot.expected_task_status = expected_task_status ∧
      ∃ assignment, SnapshotRead db snapshot assignment := by
  unfold read_ordinary_dispatch_snapshot at h
  split at h
  · cases h
  · next source_dispatch assignment selection hcontext =>
    unfold read_ordinary_runtime_context at hcontext
    simp only [Option.bind_eq_bind, Option.bind_eq_some_iff, ensure_eq_some_iff, Bool.and_eq_true, beq_iff_eq,
      Option.pure_def, Option.some.injEq, Prod.mk.injEq] at hcontext
    obtain ⟨_, hassignment, _, -, rev, hrev, _, hselect, _, -, _, -, _, ⟨⟨⟨-, hstatus⟩, -⟩, -⟩, -, rfl, rfl⟩ :=
      hcontext
    simp only [bind_eq_ok_iff, validate_ordinary_runtime_context, require_eq_ok_iff, Bool.and_eq_true,
      beq_iff_eq] at h
    obtain ⟨_, ⟨⟨-, hattempt⟩, -⟩, h⟩ := h
    cases h
    have hmember := TeamRevision.select_member_id hselect
    refine ⟨rfl, rfl, _, hstatus, rfl, rfl, rfl, ?_, hassignment, hmember.symm, hattempt, rfl, rfl⟩
    refine team_revision_selects_member_iff.mpr ⟨rev, hrev, TeamRevision.selects_iff.mpr ⟨_, ?_, rfl, rfl⟩⟩
    rw [← hselect]
    exact congrArg _ hmember

/-- What one run of an opening handler leaves behind. -/
theorem open_ordinary_successor_cases {stale db db' : TaskDb} {drawn : Option DrawnDispatchRequest}
    {read_source : OrdinarySourceReader} {claim_source : OrdinarySourceClaim}
    {record_failure : TaskDb → Result TaskDb} {outcome : OrdinaryOpeningOutcome}
    (h : open_ordinary_successor stale db drawn read_source claim_source record_failure = .ok (outcome, db')) :
    db' = db ∧ outcome = .skipped ∨ record_failure db = .ok db' ∧ outcome = .paused ∨
      ∃ basis snapshot request, read_source stale = .ok (some basis) ∧
        read_ordinary_dispatch_snapshot stale basis .running none = .ok (some snapshot) ∧ drawn = some request ∧
        commit_ordinary_dispatch_if_current db snapshot (prepare_dispatch_request request snapshot.steering)
          claim_source false = .ok (some db') ∧ outcome = .opened request.dispatch_id := by
  have hfailed : ∀ {u}, (record_failure db).map (fun db => (OrdinaryOpeningOutcome.paused, db)) = .ok u →
      u = (outcome, db') → record_failure db = .ok db' ∧ outcome = .paused := by
    intro u hu heq
    cases hrecord : record_failure db with
    | error e => rw [hrecord] at hu; cases hu
    | ok failed =>
      rw [hrecord] at hu
      cases hu
      cases heq
      exact ⟨rfl, rfl⟩
  unfold open_ordinary_successor at h
  split at h
  · exact .inr (.inl (hfailed h rfl))
  · cases h
    exact .inl ⟨rfl, rfl⟩
  · next basis hbasis =>
    split at h
    · exact .inr (.inl (hfailed h rfl))
    · cases h
      exact .inl ⟨rfl, rfl⟩
    · next snapshot hsnapshot =>
      split at h
      · exact .inr (.inl (hfailed h rfl))
      · next request =>
        simp only [bind_eq_ok_iff] at h
        obtain ⟨committed, hcommit, h⟩ := h
        cases committed with
        | none =>
          cases h
          exact .inl ⟨rfl, rfl⟩
        | some opened =>
          cases h
          exact .inr (.inr ⟨basis, snapshot, request, hbasis, hsnapshot, rfl, hcommit, rfl⟩)

end OhMySubagents
