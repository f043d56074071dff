import OhMySubagents.Dispatch.Authority

open Relational

namespace OhMySubagents

def complete_source_attempt (db : TaskDb) (authority : NodeOperationAuthority) (outcome : BoundaryOutcome) :
    Result TaskDb := do
  let attempts ← require_some
    (db.attempts.updateWhere authority.attempt_id
      (fun attempt => attempt.assignment_id == authority.assignment_id && attempt.status.is_active &&
        attempt.current_dispatch_id.isNone && attempt.current_wait_id.isNone)
      fun attempt => { attempt with
        status := .completed
        terminal_outcome := some outcome
        current_dispatch_id := none
        current_wait_id := none })
    (conflict_error "source Attempt is no longer active")
  return { db with attempts := attempts }

def read_source_assignment (db : TaskDb) (authority : NodeOperationAuthority) : Result Assignment :=
  require_some
    ((db.assignments.get? authority.assignment_id).filter fun assignment =>
      assignment.is_current authority.member_id authority.attempt_id)
    (conflict_error "source Assignment is no longer current")

def complete_source_assignment (db : TaskDb) (authority : NodeOperationAuthority) (outcome : TerminalOutcome) :
    Result TaskDb := do
  let assignments ← require_some
    (db.assignments.updateWhere authority.assignment_id
      (fun assignment => assignment.is_current authority.member_id authority.attempt_id)
      fun assignment => { assignment with terminal_outcome := some outcome })
    (conflict_error "source Assignment is no longer active")
  return { db with assignments := assignments }

def retry_budget_exhausted : RuntimeOperationError :=
  budget_exhausted_error "the current assignment has no semantic retries remaining"

/-- The Attempt that a fresh lane starts with. -/
def new_attempt (assignment_id : AssignmentId) (retry_of_attempt_id : Option AttemptId) : Attempt where
  assignment_id := assignment_id
  retry_of_attempt_id := retry_of_attempt_id
  latest_checkpoint_id := none
  current_dispatch_id := none
  current_wait_id := none
  watchdog_replacement_count := 0
  status := .running
  terminal_outcome := none

def start_semantic_retry (db : TaskDb) (authority : NodeOperationAuthority) (source_assignment : Assignment)
    (retry_attempt_id : AttemptId) : Result TaskDb := do
  require (0 < source_assignment.retries_remaining) retry_budget_exhausted
  let attempts ← require_some
    (db.attempts.insertNew retry_attempt_id (new_attempt authority.assignment_id (some authority.attempt_id)))
    integrity_error
  let assignments ← require_some
    (db.assignments.updateWhere authority.assignment_id
      (fun assignment => assignment.is_current authority.member_id authority.attempt_id &&
        decide (0 < assignment.retries_remaining))
      fun assignment => { assignment with
        current_attempt_id := retry_attempt_id
        retries_remaining := assignment.retries_remaining - 1 })
    (conflict_error "another transition changed semantic retry authority")
  return { db with attempts := attempts, assignments := assignments }

def live_descendant_attempt (db : TaskDb) : Bool :=
  db.attempts.any fun _ attempt => attempt.status.is_active &&
    (db.assignments.get? attempt.assignment_id).any fun assignment => assignment.parent_assignment_id.isSome

def live_wait (db : TaskDb) : Bool := db.attempt_waits.any fun _ _ => true

def live_wave (db : TaskDb) : Bool :=
  db.delegation_waves.any fun _ wave =>
    wave.status == .open || (wave.status == .settled && wave.successor_dispatch_id.isNone)

/-- The boundary is named by its source Dispatch. -/
def complete_root_task (db : TaskDb) (authority : NodeOperationAuthority) (outcome : TerminalOutcome) :
    Result TaskDb := do
  require (db.task.status == .running && db.task.root_assignment_id == authority.assignment_id &&
      db.task.current_team_revision_id == authority.team_revision_id &&
      db.task.control_revision == authority.task_control_revision && db.task.result_boundary_id.isNone &&
      !live_descendant_attempt db && !live_wait db && !live_wave db)
    (conflict_error "root Task is no longer eligible for terminal completion")
  return { db with task := { db.task with
    status := .completed
    terminal_outcome := some outcome
    result_boundary_id := some authority.dispatch_id } }

/-- The outcome that ends an Assignment; a retry does not. -/
def BoundaryOutcome.terminal : BoundaryOutcome → Option TerminalOutcome
  | .green => some .green
  | .blocked => some .blocked
  | .retry => none

def complete_source_work (db : TaskDb) (authority : NodeOperationAuthority) (source_assignment : Assignment)
    (outcome : TerminalOutcome) : Result TaskDb := do
  let db ← complete_source_assignment db authority outcome
  if source_assignment.parent_assignment_id.isSome then return db
  require authority.is_task_lead
    (conflict_error "a non-root terminal Boundary is missing parent Assignment lineage")
  complete_root_task db authority outcome

/-- Apply the semantic transition owned by one accepted Boundary transaction. -/
def advance_terminal_checkpoint_state (db : TaskDb) (authority : NodeOperationAuthority) (outcome : BoundaryOutcome)
    (retry_attempt_id : Option AttemptId) : Result TaskDb := do
  let db ← complete_source_attempt db authority outcome
  let source_assignment ← read_source_assignment db authority
  match outcome.terminal, retry_attempt_id with
  | none, none => .error (conflict_error "semantic retry is missing its replacement Attempt identity")
  | none, some retry_attempt_id => start_semantic_retry db authority source_assignment retry_attempt_id
  | some _, some _ => .error (conflict_error "a non-retry Boundary cannot select a replacement Attempt")
  | some outcome, none => complete_source_work db authority source_assignment outcome

theorem complete_source_attempt_success {db db' : TaskDb} {authority : NodeOperationAuthority}
    {outcome : BoundaryOutcome} (h : complete_source_attempt db authority outcome = .ok db') :
    ∃ attempt, db.attempts.get? authority.attempt_id = some attempt ∧
      db' = { db with
        attempts := db.attempts.set authority.attempt_id
          { attempt with
            status := .completed
            terminal_outcome := some outcome
            current_dispatch_id := none
            current_wait_id := none } } := by
  unfold complete_source_attempt at h
  simp only [bind_eq_ok_iff, require_some_eq_ok_iff, Table.updateWhere_eq_some] at h
  obtain ⟨_, ⟨attempt, hattempt, -, rfl⟩, h⟩ := h
  cases h
  exact ⟨attempt, hattempt, rfl⟩

theorem read_source_assignment_success {db : TaskDb} {authority : NodeOperationAuthority} {assignment : Assignment}
    (h : read_source_assignment db authority = .ok assignment) :
    db.assignments.get? authority.assignment_id = some assignment := by
  unfold read_source_assignment at h
  rw [require_some_eq_ok_iff, Option.filter_eq_some_iff] at h
  exact h.1

theorem complete_source_assignment_success {db db' : TaskDb} {authority : NodeOperationAuthority}
    {outcome : TerminalOutcome} (h : complete_source_assignment db authority outcome = .ok db') :
    ∃ assignment, db.assignments.get? authority.assignment_id = some assignment ∧
      db' = { db with
        assignments := db.assignments.set authority.assignment_id
          { assignment with terminal_outcome := some outcome } } := by
  unfold complete_source_assignment at h
  simp only [bind_eq_ok_iff, require_some_eq_ok_iff, Table.updateWhere_eq_some] at h
  obtain ⟨_, ⟨assignment, hassignment, -, rfl⟩, h⟩ := h
  cases h
  exact ⟨assignment, hassignment, rfl⟩

/-- A retry spends one unit of the Assignment's budget on a fresh Attempt. -/
theorem start_semantic_retry_success {db db' : TaskDb} {authority : NodeOperationAuthority}
    {source_assignment : Assignment} {retry_attempt_id : AttemptId}
    (h : start_semantic_retry db authority source_assignment retry_attempt_id = .ok db') :
    ∃ assignment, db.attempts.get? retry_attempt_id = none ∧
      db.assignments.get? authority.assignment_id = some assignment ∧ 0 < assignment.retries_remaining ∧
      db' = { db with
        attempts := db.attempts.set retry_attempt_id
          (new_attempt authority.assignment_id (some authority.attempt_id))
        assignments := db.assignments.set authority.assignment_id
          { assignment with
            current_attempt_id := retry_attempt_id
            retries_remaining := assignment.retries_remaining - 1 } } := by
  unfold start_semantic_retry at h
  simp only [bind_eq_ok_iff, require_some_eq_ok_iff, Table.updateWhere_eq_some, Table.insertNew_eq_some,
    Bool.and_eq_true, decide_eq_true_eq] at h
  obtain ⟨_, -, _, ⟨hfresh, rfl⟩, _, ⟨assignment, hassignment, ⟨-, hbudget⟩, rfl⟩, h⟩ := h
  cases h
  exact ⟨assignment, hfresh, hassignment, hbudget, rfl⟩

/-- What must have ended before the root may end. -/
structure RootComplete (db : TaskDb) (authority : NodeOperationAuthority) : Prop where
  running : db.task.status = .running
  root : db.task.root_assignment_id = authority.assignment_id
  team : db.task.current_team_revision_id = authority.team_revision_id
  no_result : db.task.result_boundary_id = none
  no_descendant : ∀ a attempt assignment, db.attempts.get? a = some attempt →
    db.assignments.get? attempt.assignment_id = some assignment → assignment.parent_assignment_id.isSome →
    attempt.status.is_active = false
  no_wait : ∀ w, db.attempt_waits.get? w = none
  no_wave : ∀ w wave, db.delegation_waves.get? w = some wave → wave.status ≠ .open ∧
    (wave.status = .settled → wave.successor_dispatch_id ≠ none)

theorem complete_root_task_success {db db' : TaskDb} {authority : NodeOperationAuthority} {outcome : TerminalOutcome}
    (h : complete_root_task db authority outcome = .ok db') : RootComplete db authority ∧
      db' = { db with
        task := { db.task with
          status := .completed
          terminal_outcome := some outcome
          result_boundary_id := some authority.dispatch_id } } := by
  unfold complete_root_task at h
  simp only [bind_eq_ok_iff, require_eq_ok_iff, Bool.and_eq_true, beq_iff_eq, Bool.not_eq_true',
    Option.isNone_iff_eq_none, live_descendant_attempt, live_wait, live_wave, Table.any_eq_false_iff] at h
  obtain ⟨_, ⟨⟨⟨⟨⟨⟨⟨hrunning, hroot⟩, hteam⟩, -⟩, hresult⟩, hattempts⟩, hwaits⟩, hwaves⟩, h⟩ := h
  cases h
  refine ⟨⟨hrunning, hroot, hteam, hresult, ?_, ?_, ?_⟩, rfl⟩
  · intro a attempt assignment hattempt hassignment hparent
    simpa [hassignment, hparent] using hattempts a attempt hattempt
  · intro w
    cases hw : db.attempt_waits.get? w with
    | none => rfl
    | some wait => simpa using hwaits w wait hw
  · intro w wave hwave
    have hnot := hwaves w wave hwave
    simp only [Bool.or_eq_false_iff, beq_eq_false_iff_ne, Bool.and_eq_false_iff] at hnot
    refine ⟨hnot.1, fun hsettled hnone => ?_⟩
    simp [hsettled, hnone] at hnot

end OhMySubagents
