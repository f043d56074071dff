import OhMySubagents.Checkpoint.Transitions
import OhMySubagents.Delegation.Settlement
import OhMySubagents.Dispatch.Opening
import OhMySubagents.NodeOperations.ExternalWaits
import OhMySubagents.TaskDb
import OhMySubagents.Team.Currentness

open Relational

namespace OhMySubagents

def missing_participation_error (missing : List MemberId) : RuntimeOperationError :=
  { code := .boundary_precondition_failed
    summary := "green requires an accepted green Checkpoint from every current direct child; missing: " ++
      ", ".intercalate (missing.map toString) }

/-- The direct children, in the Dispatch's own Team revision, that no accepted green covers. -/
def missing_participation (db : TaskDb) (authority : NodeOperationAuthority) : List MemberId :=
  match db.team_revisions.get? authority.dispatch.team_revision_id with
  | none => []
  | some rev => ((rev.child_members authority.dispatch.member_id).filter fun child =>
      !read_accepted_green_participation db child.selection).map TeamRevisionMember.member_id

def require_current_direct_child_participation (db : TaskDb) (authority : NodeOperationAuthority) : Result Unit :=
  require (missing_participation db authority).isEmpty
    (missing_participation_error (missing_participation db authority))

/-- What a semantic retry draws by itself, and the rows that its prompt is read from: the prompt is prepared before
    the first write of the transaction, so they may be older than the rows that it writes to. -/
structure DrawnSemanticRetry where
  attempt_id : AttemptId
  request : DrawnDispatchRequest
  prompted : TaskDb

structure PreparedSemanticRetry where
  request : PreparedDispatchRequest
  basis : StartingDispatchBasis
  deriving DecidableEq, Repr

def semantic_retry_preparation_failed : RuntimeOperationError :=
  illegal_state_error "semantic retry Dispatch preparation failed"

def semantic_retry_basis (db : TaskDb) (authority : NodeOperationAuthority) (attempt_id : AttemptId) :
    StartingDispatchBasis where
  assignment_id := authority.assignment_id
  team_revision_id := db.task.current_team_revision_id
  selection := authority.selection
  attempt_id := attempt_id
  opened_reason := .semantic_retry
  predecessor_dispatch_id := none

/-- Prepare the first Dispatch of the retry Attempt; `drawn` is empty when the provider or the prompt
    cannot be prepared. -/
def prepare_semantic_retry (db : TaskDb) (authority : NodeOperationAuthority) (drawn : Option DrawnSemanticRetry) :
    Result PreparedSemanticRetry := do
  let drawn ← require_some drawn semantic_retry_preparation_failed
  require (db.task.status == .running && current_team_selects_member db authority.selection)
    semantic_retry_preparation_failed
  return {
    request := prepare_dispatch_request drawn.request
      (read_assignment_prompt_steers drawn.prompted authority.assignment_id)
    basis := semantic_retry_basis db authority drawn.attempt_id }

def prepare_checkpoint_semantic_retry (db : TaskDb) (authority : NodeOperationAuthority)
    (outcome : Option BoundaryOutcome) (drawn : Option DrawnSemanticRetry) :
    Result (Option PreparedSemanticRetry) :=
  if outcome = some .retry then do
    require (0 < authority.assignment.retries_remaining) retry_budget_exhausted
    let prepared ← prepare_semantic_retry db authority drawn
    return some prepared
  else return none

def checkpoint_conflict (summary : String) : RuntimeOperationError := conflict_error summary

def stage_checkpoint (db : TaskDb) (authority : NodeOperationAuthority) (outcome : Option BoundaryOutcome)
    (checkpoint_id : CheckpointId) : Result TaskDb := do
  let attempt_checkpoints ← require_some
    (db.attempt_checkpoints.insertNew checkpoint_id
      { assignment_id := authority.assignment_id
        attempt_id := authority.attempt_id
        authoring_dispatch_id := authority.dispatch_id
        outcome := outcome })
    integrity_error
  return { db with attempt_checkpoints := attempt_checkpoints }

def advance_latest_checkpoint (db : TaskDb) (authority : NodeOperationAuthority) (checkpoint_id : CheckpointId) :
    Result TaskDb := do
  let attempts ← require_some
    (db.attempts.updateWhere authority.attempt_id
      (fun attempt => attempt.assignment_id == authority.assignment_id && attempt.status.is_active &&
        attempt.latest_checkpoint_id == authority.attempt.latest_checkpoint_id &&
        exact_node_operation_authority_exists db authority)
      fun attempt => { attempt with latest_checkpoint_id := some checkpoint_id })
    (checkpoint_conflict "another Checkpoint changed the Attempt latest pointer")
  return { db with attempts := attempts }

/-- `INSERT INTO accepted_boundaries`. -/
def stage_accepted_boundary (db : TaskDb) (authority : NodeOperationAuthority) (checkpoint_id : CheckpointId)
    (outcome : BoundaryOutcome) (prepared_retry : Option PreparedSemanticRetry) : Result TaskDb := do
  let accepted_boundaries ← require_some
    (db.accepted_boundaries.insertNew authority.dispatch_id
      { assignment_id := authority.assignment_id
        attempt_id := authority.attempt_id
        outcome := outcome
        checkpoint_id := checkpoint_id
        successor_attempt_id := prepared_retry.map fun prepared => prepared.basis.attempt_id
        successor_dispatch_id := prepared_retry.map fun prepared => prepared.request.dispatch_id })
    integrity_error
  return { db with accepted_boundaries := accepted_boundaries }

/-- A child's final boundary settles its member of the parent's Wave. -/
def settle_parent_wave_member (db : TaskDb) (authority : NodeOperationAuthority) (outcome : BoundaryOutcome) :
    Result (Option WaveId × TaskDb) :=
  match outcome.terminal, authority.assignment.parent_assignment_id with
  | some outcome, some _ => do
    let (wave_id, db) ← settle_wave_member_for_checkpoint db authority outcome
    return (some wave_id, db)
  | _, _ => return (none, db)

def stage_semantic_retry (db : TaskDb) (prepared_retry : Option PreparedSemanticRetry) : Result TaskDb :=
  match prepared_retry with
  | some prepared => stage_starting_dispatch db prepared.basis prepared.request
  | none => return db

def stage_terminal_boundary (db : TaskDb) (authority : NodeOperationAuthority) (checkpoint_id : CheckpointId)
    (outcome : BoundaryOutcome) (prepared_retry : Option PreparedSemanticRetry) :
    Result (Option WaveId × TaskDb) := do
  let db ← close_source_dispatch db authority .boundary
  let db ← stage_accepted_boundary db authority checkpoint_id outcome prepared_retry
  let db ← advance_terminal_checkpoint_state db authority outcome
    (prepared_retry.map fun prepared => prepared.basis.attempt_id)
  let (settled_wave_id, db) ← settle_parent_wave_member db authority outcome
  let db ← stage_semantic_retry db prepared_retry
  return (settled_wave_id, db)

/-- Commit one progress or terminal Checkpoint against exact Dispatch authority. Returns the Wave whose
    member it settled. -/
def commit_checkpoint (db : TaskDb) (authority : NodeOperationAuthority) (outcome : Option BoundaryOutcome)
    (checkpoint_id : CheckpointId) (drawn : Option DrawnSemanticRetry) : Result (Option WaveId × TaskDb) := do
  if outcome = some .green then require_current_direct_child_participation db authority
  let semantic_retry ← prepare_checkpoint_semantic_retry db authority outcome drawn
  let db ← stage_checkpoint db authority outcome checkpoint_id
  let db ← advance_latest_checkpoint db authority checkpoint_id
  match outcome with
  | some outcome => stage_terminal_boundary db authority checkpoint_id outcome semantic_retry
  | none => return (none, db)

/-- The rows with one more Checkpoint, which the Attempt points at. -/
def TaskDb.with_checkpoint (db : TaskDb) (authority : NodeOperationAuthority) (outcome : Option BoundaryOutcome)
    (checkpoint_id : CheckpointId) : TaskDb :=
  { db with
    attempt_checkpoints := db.attempt_checkpoints.set checkpoint_id
      { assignment_id := authority.assignment_id
        attempt_id := authority.attempt_id
        authoring_dispatch_id := authority.dispatch_id
        outcome := outcome }
    attempts := db.attempts.set authority.attempt_id
      { authority.attempt with latest_checkpoint_id := some checkpoint_id } }

/-- The boundary row that an authority's Checkpoint leaves. -/
def checkpoint_boundary (authority : NodeOperationAuthority) (checkpoint_id : CheckpointId)
    (outcome : BoundaryOutcome) (drawn : Option DrawnSemanticRetry) : AcceptedBoundary where
  assignment_id := authority.assignment_id
  attempt_id := authority.attempt_id
  outcome := outcome
  checkpoint_id := checkpoint_id
  successor_attempt_id := drawn.map DrawnSemanticRetry.attempt_id
  successor_dispatch_id := drawn.map fun drawn => drawn.request.dispatch_id

/-- The source Attempt once its boundary is accepted. -/
def completed_attempt (authority : NodeOperationAuthority) (checkpoint_id : CheckpointId)
    (outcome : BoundaryOutcome) : Attempt :=
  { authority.attempt with
    latest_checkpoint_id := some checkpoint_id
    current_dispatch_id := none
    current_wait_id := none
    status := .completed
    terminal_outcome := some outcome }

/-- The rows after a boundary closed its source Dispatch and completed its Attempt. -/
def TaskDb.with_boundary (db : TaskDb) (authority : NodeOperationAuthority) (outcome : BoundaryOutcome)
    (checkpoint_id : CheckpointId) (drawn : Option DrawnSemanticRetry) : TaskDb :=
  { db.with_checkpoint authority (some outcome) checkpoint_id with
    dispatches := db.dispatches.set authority.dispatch_id (authority.dispatch.close .boundary)
    accepted_boundaries := db.accepted_boundaries.set authority.dispatch_id
      (checkpoint_boundary authority checkpoint_id outcome drawn)
    attempts := db.attempts.set authority.attempt_id (completed_attempt authority checkpoint_id outcome) }

theorem stage_checkpoint_success {db staged db' : TaskDb} {authority : NodeOperationAuthority}
    {outcome : Option BoundaryOutcome} {checkpoint_id : CheckpointId} (hauth : AuthorityHolds db authority)
    (hstage : stage_checkpoint db authority outcome checkpoint_id = .ok staged)
    (hlatest : advance_latest_checkpoint staged authority checkpoint_id = .ok db') :
    db.attempt_checkpoints.get? checkpoint_id = none ∧ db' = db.with_checkpoint authority outcome checkpoint_id := by
  unfold stage_checkpoint at hstage
  simp only [bind_eq_ok_iff, require_some_eq_ok_iff, Table.insertNew_eq_some] at hstage
  obtain ⟨_, ⟨hfresh, rfl⟩, hstage⟩ := hstage
  cases hstage
  unfold advance_latest_checkpoint at hlatest
  simp only [bind_eq_ok_iff, require_some_eq_ok_iff, Table.updateWhere_eq_some] at hlatest
  obtain ⟨_, ⟨attempt, hattempt, -, rfl⟩, hlatest⟩ := hlatest
  cases hlatest
  rw [show db.attempts.get? authority.attempt_id = some authority.attempt from hauth.lane.attempt_row] at hattempt
  cases hattempt
  exact ⟨hfresh, rfl⟩

/-- A retry is prepared against the current Team, within its budget. -/
theorem prepare_checkpoint_semantic_retry_success {db : TaskDb} {authority : NodeOperationAuthority}
    {outcome : Option BoundaryOutcome} {drawn : Option DrawnSemanticRetry} {prepared : Option PreparedSemanticRetry}
    (h : prepare_checkpoint_semantic_retry db authority outcome drawn = .ok prepared) :
    outcome ≠ some .retry ∧ prepared = none ∨
      ∃ draw, outcome = some .retry ∧ drawn = some draw ∧ 0 < authority.assignment.retries_remaining ∧
        current_team_selects_member db authority.selection = true ∧
        prepared = some
          { request := prepare_dispatch_request draw.request
              (read_assignment_prompt_steers draw.prompted authority.assignment_id)
            basis := semantic_retry_basis db authority draw.attempt_id } := by
  unfold prepare_checkpoint_semantic_retry at h
  split at h
  · next hretry =>
    simp only [prepare_semantic_retry, bind_eq_ok_iff, require_eq_ok_iff, require_some_eq_ok_iff,
      decide_eq_true_eq, Bool.and_eq_true] at h
    obtain ⟨_, hbudget, _, ⟨draw, hdraw, _, ⟨-, hselected⟩, hprepared⟩, h⟩ := h
    cases hprepared
    cases h
    exact .inr ⟨draw, hretry, hdraw, hbudget, hselected, rfl⟩
  · next hretry =>
    cases h
    exact .inl ⟨hretry, rfl⟩

/-- Every way a Checkpoint commits, with the rows that it leaves behind. -/
inductive CheckpointCommitted (db : TaskDb) (authority : NodeOperationAuthority) (checkpoint_id : CheckpointId)
    (drawn : Option DrawnSemanticRetry) : Option BoundaryOutcome → Option WaveId → TaskDb → Prop
  | progress : CheckpointCommitted db authority checkpoint_id drawn none none
      (db.with_checkpoint authority none checkpoint_id)
  /-- A child ends its Assignment and settles its member of the parent's Wave. -/
  | child {outcome wave_id index member wave} (parent : authority.assignment.parent_assignment_id.isSome)
      (participated : outcome = .green → missing_participation db authority = [])
      (fresh : db.accepted_boundaries.get? authority.dispatch_id = none)
      (member_row : db.delegation_wave_members.get? (wave_id, index) = some member)
      (member_child : member.child_assignment_id = authority.assignment_id)
      (member_pending : member.status = .pending)
      (wave_row : db.delegation_waves.get? wave_id = some wave) (wave_open : wave.status = .open)
      (wave_free : wave.successor_dispatch_id = none) :
      CheckpointCommitted db authority checkpoint_id drawn (some outcome.boundary) (some wave_id)
        { db.with_boundary authority outcome.boundary checkpoint_id none with
          assignments := db.assignments.set authority.assignment_id
            { authority.assignment with terminal_outcome := some outcome }
          delegation_wave_members := db.delegation_wave_members.set (wave_id, index)
            { member with status := .settled authority.dispatch_id outcome } }
  /-- The root ends, and the Task with it. -/
  | root {outcome} (no_parent : authority.assignment.parent_assignment_id = none)
      (participated : outcome = .green → missing_participation db authority = [])
      (fresh : db.accepted_boundaries.get? authority.dispatch_id = none)
      (complete : RootComplete
        { db.with_boundary authority outcome.boundary checkpoint_id none with
          assignments := db.assignments.set authority.assignment_id
            { authority.assignment with terminal_outcome := some outcome } } authority) :
      CheckpointCommitted db authority checkpoint_id drawn (some outcome.boundary) none
        { db.with_boundary authority outcome.boundary checkpoint_id none with
          assignments := db.assignments.set authority.assignment_id
            { authority.assignment with terminal_outcome := some outcome }
          task := { db.task with
            status := .completed
            terminal_outcome := some outcome
            result_boundary_id := some authority.dispatch_id } }
  /-- A fresh Attempt takes the Assignment over and its first Dispatch starts. -/
  | retry {draw retried db'} (hdrawn : drawn = some draw) (budget : 0 < authority.assignment.retries_remaining)
      (selected : current_team_selects_member db authority.selection = true)
      (fresh : db.accepted_boundaries.get? authority.dispatch_id = none)
      (fresh_attempt : db.attempts.get? draw.attempt_id = none)
      (hretried : retried = { db.with_boundary authority .retry checkpoint_id (some draw) with
        attempts := (db.attempts.set authority.attempt_id (completed_attempt authority checkpoint_id .retry)).set
          draw.attempt_id (new_attempt authority.assignment_id (some authority.attempt_id))
        assignments := db.assignments.set authority.assignment_id
          { authority.assignment with
            current_attempt_id := draw.attempt_id
            retries_remaining := authority.assignment.retries_remaining - 1 } })
      (staged : stage_starting_dispatch retried (semantic_retry_basis db authority draw.attempt_id)
        (prepare_dispatch_request draw.request (read_assignment_prompt_steers draw.prompted authority.assignment_id)) =
          .ok db') :
      CheckpointCommitted db authority checkpoint_id drawn (some .retry) none db'

/-- Closing the source, accepting the boundary and completing the Attempt touch one row each. -/
private theorem boundary_staged {db closed accepted db' : TaskDb} {authority : NodeOperationAuthority}
    {outcome : BoundaryOutcome} {checkpoint_id : CheckpointId} {n : Option DrawnSemanticRetry}
    {prepared_retry : Option PreparedSemanticRetry} (hauth : AuthorityHolds db authority)
    (hattempt : (prepared_retry.map fun prepared => prepared.basis.attempt_id) = n.map DrawnSemanticRetry.attempt_id)
    (hdispatch : (prepared_retry.map fun prepared => prepared.request.dispatch_id) =
      n.map fun drawn => drawn.request.dispatch_id)
    (hclose : close_source_dispatch (db.with_checkpoint authority (some outcome) checkpoint_id) authority .boundary =
      .ok closed)
    (haccept : stage_accepted_boundary closed authority checkpoint_id outcome prepared_retry = .ok accepted)
    (hcomplete : complete_source_attempt accepted authority outcome = .ok db') :
    db.accepted_boundaries.get? authority.dispatch_id = none ∧
      db' = db.with_boundary authority outcome checkpoint_id n := by
  obtain ⟨attempt, dispatch, hlane, rfl⟩ := close_source_dispatch_success hclose
  have hrow : dispatch = authority.dispatch := by
    have hdispatch := hlane.dispatch_row
    rw [show (db.with_checkpoint authority (some outcome) checkpoint_id).dispatches.get?
      authority.identity.dispatch_id = some authority.dispatch from hauth.lane.dispatch_row] at hdispatch
    exact (Option.some.inj hdispatch).symm
  have hattemptRow : attempt = { authority.attempt with latest_checkpoint_id := some checkpoint_id } := by
    have hattempt := hlane.attempt_row
    simpa [TaskDb.with_checkpoint, NodeOperationAuthority.identity] using hattempt.symm
  subst hrow hattemptRow
  unfold stage_accepted_boundary at haccept
  simp only [bind_eq_ok_iff, require_some_eq_ok_iff, Table.insertNew_eq_some] at haccept
  obtain ⟨_, ⟨hfresh, rfl⟩, haccept⟩ := haccept
  cases haccept
  obtain ⟨row, hrow, rfl⟩ := complete_source_attempt_success hcomplete
  simp only [Table.get?_set_self, Option.some.injEq] at hrow
  subst hrow
  refine ⟨hfresh, ?_⟩
  simp only [TaskDb.with_boundary, TaskDb.with_checkpoint, checkpoint_boundary, completed_attempt, hattempt, hdispatch,
    Table.set_set]

private theorem commit_checkpoint_parts {db db' : TaskDb} {authority : NodeOperationAuthority}
    {outcome : BoundaryOutcome} {checkpoint_id : CheckpointId} {drawn : Option DrawnSemanticRetry}
    {wave_id : Option WaveId} (hauth : AuthorityHolds db authority)
    (h : commit_checkpoint db authority (some outcome) checkpoint_id drawn = .ok (wave_id, db')) :
    (outcome = .green → missing_participation db authority = []) ∧
      ∃ prepared, prepare_checkpoint_semantic_retry db authority (some outcome) drawn = .ok prepared ∧
        stage_terminal_boundary (db.with_checkpoint authority (some outcome) checkpoint_id) authority checkpoint_id
          outcome prepared = .ok (wave_id, db') := by
  unfold commit_checkpoint at h
  cases outcome <;>
    simp only [reduceCtorEq, if_false, if_true, require_current_direct_child_participation, bind_eq_ok_iff,
      require_eq_ok_iff, List.isEmpty_iff, Option.some.injEq, exists_and_left, exists_const] at h
  case green =>
    obtain ⟨hparticipated, prepared, hprepared, checked, hchecked, latest, hlatest, h⟩ := h
    obtain ⟨-, rfl⟩ := stage_checkpoint_success hauth hchecked hlatest
    exact ⟨fun _ => hparticipated, prepared, hprepared, h⟩
  all_goals
    obtain ⟨prepared, hprepared, checked, hchecked, latest, hlatest, h⟩ := h
    obtain ⟨-, rfl⟩ := stage_checkpoint_success hauth hchecked hlatest
    exact ⟨by simp, prepared, hprepared, h⟩

theorem TerminalOutcome.boundary_terminal (outcome : TerminalOutcome) : outcome.boundary.terminal = some outcome := by
  cases outcome <;> rfl

theorem TerminalOutcome.boundary_green_iff {outcome : TerminalOutcome} :
    outcome.boundary = .green ↔ outcome = .green := by
  cases outcome <;> simp [TerminalOutcome.boundary]

/-- A final boundary ends its Assignment, and then either settles the parent's Wave or ends the Task. -/
private theorem final_boundary_staged {db advanced settled : TaskDb} {authority : NodeOperationAuthority}
    {outcome : TerminalOutcome} {checkpoint_id : CheckpointId} {drawn : Option DrawnSemanticRetry}
    {wave_id : Option WaveId} (hauth : AuthorityHolds db authority)
    (hparticipated : outcome = .green → missing_participation db authority = [])
    (hfresh : db.accepted_boundaries.get? authority.dispatch_id = none)
    (hadvanced : complete_source_work (db.with_boundary authority outcome.boundary checkpoint_id none) authority
      authority.assignment outcome = .ok advanced)
    (hsettled : settle_parent_wave_member advanced authority outcome.boundary = .ok (wave_id, settled)) :
    CheckpointCommitted db authority checkpoint_id drawn (some outcome.boundary) wave_id settled := by
  unfold complete_source_work at hadvanced
  simp only [bind_eq_ok_iff] at hadvanced
  obtain ⟨assigned, hassigned, hadvanced⟩ := hadvanced
  obtain ⟨assignment, hrow, rfl⟩ := complete_source_assignment_success hassigned
  rw [show (db.with_boundary authority outcome.boundary checkpoint_id none).assignments = db.assignments from rfl,
    hauth.assignment_row] at hrow
  cases hrow
  unfold settle_parent_wave_member at hsettled
  rw [outcome.boundary_terminal] at hsettled
  rcases Option.eq_none_or_eq_some authority.assignment.parent_assignment_id with hparent | ⟨parent, hparent⟩
  · rw [hparent] at hsettled
    cases hsettled
    rw [if_neg (by simp [hparent])] at hadvanced
    simp only [bind_eq_ok_iff] at hadvanced
    obtain ⟨_, -, hroot⟩ := hadvanced
    obtain ⟨hcomplete, rfl⟩ := complete_root_task_success hroot
    exact .root hparent hparticipated hfresh hcomplete
  · rw [hparent] at hsettled
    simp only [bind_eq_ok_iff, Prod.exists] at hsettled
    obtain ⟨_, _, hsettle, hsettled⟩ := hsettled
    cases hsettled
    rw [if_pos (by simp [hparent])] at hadvanced
    cases hadvanced
    obtain ⟨index, member, wave, hmember, hchild, hpending, hwave, hopen, hfree, rfl⟩ :=
      settle_wave_member_for_checkpoint_success hsettle
    exact .child (by simp [hparent]) hparticipated hfresh hmember hchild hpending hwave hopen hfree

/-- A Checkpoint that commits does so in one of the four ways. -/
theorem commit_checkpoint_success {db db' : TaskDb} {authority : NodeOperationAuthority}
    {outcome : Option BoundaryOutcome} {checkpoint_id : CheckpointId} {drawn : Option DrawnSemanticRetry}
    {wave_id : Option WaveId} (hauth : AuthorityHolds db authority)
    (h : commit_checkpoint db authority outcome checkpoint_id drawn = .ok (wave_id, db')) :
    CheckpointCommitted db authority checkpoint_id drawn outcome wave_id db' := by
  cases outcome with
  | none =>
    unfold commit_checkpoint at h
    simp only [reduceCtorEq, if_false, prepare_checkpoint_semantic_retry, bind_eq_ok_iff] at h
    obtain ⟨_, -, checked, hchecked, latest, hlatest, h⟩ := h
    obtain ⟨-, rfl⟩ := stage_checkpoint_success hauth hchecked hlatest
    cases h
    exact .progress
  | some outcome =>
    obtain ⟨hparticipated, prepared, hprepared, hterminal⟩ := commit_checkpoint_parts hauth h
    unfold stage_terminal_boundary advance_terminal_checkpoint_state at hterminal
    simp only [bind_eq_ok_iff, Prod.exists] at hterminal
    obtain ⟨closed, hclosed, accepted, haccepted, advanced, ⟨completed, hcompleted, assignment, hassignment, hadvanced⟩,
      settled_id, settled, hsettled, retried, hretried, hfinish⟩ := hterminal
    cases hfinish
    have hrow := read_source_assignment_success hassignment
    rcases prepare_checkpoint_semantic_retry_success hprepared with ⟨hretry, rfl⟩ |
      ⟨draw, hretry, rfl, hbudget, hselected, rfl⟩
    · obtain ⟨hfresh, rfl⟩ := boundary_staged (n := none) hauth rfl rfl hclosed haccepted hcompleted
      rw [show (db.with_boundary authority outcome checkpoint_id none).assignments = db.assignments from rfl,
        hauth.assignment_row] at hrow
      cases hrow
      cases hretried
      obtain ⟨final, rfl⟩ : ∃ final : TerminalOutcome, outcome = final.boundary := by
        cases outcome
        · exact ⟨.green, rfl⟩
        · exact absurd rfl hretry
        · exact ⟨.blocked, rfl⟩
      rw [final.boundary_terminal] at hadvanced
      exact final_boundary_staged hauth (fun hgreen => hparticipated (TerminalOutcome.boundary_green_iff.mpr hgreen))
        hfresh hadvanced hsettled
    · cases hretry
      obtain ⟨hfresh, rfl⟩ := boundary_staged (n := some draw) hauth rfl rfl hclosed haccepted hcompleted
      obtain ⟨assignment, hfree, hassignment, -, rfl⟩ := start_semantic_retry_success hadvanced
      rw [show (db.with_boundary authority .retry checkpoint_id (some draw)).assignments = db.assignments from rfl,
        hauth.assignment_row] at hassignment
      cases hassignment
      cases hsettled
      have hfree' : db.attempts.get? draw.attempt_id = none := by
        rw [TaskDb.with_boundary, Table.get?_set] at hfree
        split at hfree
        · cases hfree
        · exact hfree
      exact .retry rfl hbudget hselected hfresh hfree' rfl hretried

end OhMySubagents
