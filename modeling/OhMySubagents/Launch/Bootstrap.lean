import OhMySubagents.Checkpoint.Transitions
import OhMySubagents.Delegation.Preparation
import OhMySubagents.Lanes.Result
import OhMySubagents.Launch.Continuation
import OhMySubagents.Team.Materialization

open Relational

namespace OhMySubagents

structure RuntimeBootstrapInput where
  assignment_id : AssignmentId
  attempt_id : AttemptId
  initial_team : StableIdentity
  lead : NormalizedMember
  max_child_assignments_per_assignment : Nat
  max_retries_per_assignment : Nat
  max_wave_members : Nat

def new_task (input : RuntimeBootstrapInput) : Task where
  status := .running
  terminal_outcome := none
  control_revision := 0
  pause_reason := none
  root_assignment_id := input.assignment_id
  current_team_revision_id := input.initial_team.team_revision_id
  result_boundary_id := none
  max_child_assignments_per_assignment := input.max_child_assignments_per_assignment
  max_retries_per_assignment := input.max_retries_per_assignment
  max_wave_members := input.max_wave_members

def new_root_assignment (input : RuntimeBootstrapInput) : Assignment :=
  let budget := snapshot_assignment_budget input.max_child_assignments_per_assignment input.max_retries_per_assignment
  { member_id := input.lead.id
    parent_assignment_id := none
    current_attempt_id := input.attempt_id
    work_plan_revision := 0
    child_assignment_limit := budget.child_assignment_limit
    child_assignments_remaining := budget.child_assignments_remaining
    retry_limit := budget.retry_limit
    retries_remaining := budget.retries_remaining
    created_by_dispatch_id := none
    terminal_outcome := none }

/-- The rows that a launch stages for one fresh Task, before its Team. -/
def new_task_db (input : RuntimeBootstrapInput) : TaskDb where
  members := ∅
  member_configurations := ∅
  member_branch_bases := ∅
  team_revisions := ∅
  task := new_task input
  task_start_source := ⟨input.assignment_id, input.attempt_id, none⟩
  assignments := (∅ : Table AssignmentId Assignment).set input.assignment_id (new_root_assignment input)
  assignment_work_plans := ∅
  attempts := (∅ : Table AttemptId Attempt).set input.attempt_id (new_attempt input.assignment_id none)
  dispatches := ∅
  attempt_waits := ∅
  delegation_waves := ∅
  delegation_wave_members := ∅
  human_requests := ∅
  command_runs := ∅
  replan_transitions := ∅
  accepted_boundaries := ∅
  attempt_checkpoints := ∅
  member_steered_events := []

def persist_bootstrap_runtime (input : RuntimeBootstrapInput) : Result TaskDb := do
  require (1 ≤ input.max_wave_members) integrity_error
  materialize_initial_task_team (new_task_db input) input.initial_team input.lead

/-- Task admission: the launch rows and the first Dispatch, in one transaction. -/
def start_task (input : RuntimeBootstrapInput) (drawn : Option DrawnDispatchRequest) : Result TaskDb := do
  let staged ← persist_bootstrap_runtime input
  stage_initial_root_dispatch staged drawn

variable {input : RuntimeBootstrapInput} {drawn : Option DrawnDispatchRequest} {staged db : TaskDb}

/-- The lanes of the launch rows are those of one free root. -/
theorem persist_bootstrap_runtime_success (h : persist_bootstrap_runtime input = .ok staged) :
    1 ≤ input.max_wave_members ∧ staged = { new_task_db input with toTeamTables := staged.toTeamTables } ∧
      staged.lanes.Invariant ∧ staged.lanes.Result := by
  unfold persist_bootstrap_runtime at h
  simp only [bind_eq_ok_iff, require_eq_ok_iff, decide_eq_true_eq] at h
  obtain ⟨_, hmembers, hteam⟩ := h
  obtain ⟨planned, hwf, hrecorded, hstaged⟩ := materialize_initial_task_team_success hteam
  have hframe : staged = { new_task_db input with toTeamTables := staged.toTeamTables } := by rw [hstaged]
  have hrevisions : staged.team_revisions =
      (∅ : Table RevisionId TeamRevision).set input.initial_team.team_revision_id
        (initial_revision input.lead planned) := by
    rw [hstaged]
    rfl
  have hinv : (Lanes.initial staged.toTeamTables input.initial_team.team_revision_id
      (initial_revision input.lead planned).root_member_id input.assignment_id input.attempt_id).Invariant :=
    Lanes.initial_invariant (fun r => by rw [hrevisions, Table.get?_set, Table.get?_empty]) hwf hrecorded rfl
  have hresult : (Lanes.initial staged.toTeamTables input.initial_team.team_revision_id
      (initial_revision input.lead planned).root_member_id input.assignment_id input.attempt_id).Result :=
    Lanes.initial_result
  have hlanes : staged.lanes = Lanes.initial staged.toTeamTables input.initial_team.team_revision_id input.lead.id
      input.assignment_id input.attempt_id := by
    rw [hframe]
    apply Lanes.ext <;> first | rfl | skip
    · simp [new_task_db, new_root_assignment, Assignment.lane]
    · simp [new_task_db, new_attempt, Attempt.lane, LaneAttempt.start]
    · funext s
      cases s <;> simp [TaskDb.source, new_task_db, TaskStartSource.lane, SourcePhase.of]
  rw [hlanes]
  exact ⟨hmembers, hframe, hinv, hresult⟩

/-- What an admitted Task holds: the launch rows with the first Dispatch in the root lane. -/
theorem start_task_success (h : start_task input drawn = .ok db) :
    ∃ staged request snapshot, persist_bootstrap_runtime input = .ok staged ∧ drawn = some request ∧
      read_root_opening_snapshot staged .running none = .ok (some snapshot) ∧
      stage_starting_dispatch { staged with
          task_start_source := { staged.task_start_source with successor_dispatch_id := some request.dispatch_id } }
        snapshot.starting_basis (prepare_dispatch_request request []) = .ok db := by
  unfold start_task stage_initial_root_dispatch at h
  simp only [bind_eq_ok_iff, require_some_eq_ok_iff] at h
  obtain ⟨staged, hstaged, _, hread, snapshot, rfl, request, rfl, _, hstage, rfl⟩ := h
  refine ⟨staged, request, snapshot, hstaged, rfl, hread, ?_⟩
  unfold stage_root_dispatch_if_current at hstage
  split at hstage
  · cases hstage
  · next claimed hclaimed =>
    rw [map_eq_ok_iff] at hstage
    obtain ⟨opened, hopened, heq⟩ := hstage
    cases heq
    unfold advance_root_task_state claim_root_dispatch_source at hclaimed
    simp only [Option.bind_eq_bind, Option.bind_eq_some_iff, Option.pure_def, Option.some.injEq] at hclaimed
    obtain ⟨advanced, ⟨_, -, rfl⟩, _, -, rfl⟩ := hclaimed
    have hstatus : snapshot.expected_task_status = .running := by
      unfold read_root_opening_snapshot at hread
      split at hread
      · simp only [bind_eq_ok_iff] at hread
        obtain ⟨_, -, _, -, hsome⟩ := hread
        cases hsome
        rfl
      · cases hread
    rw [if_neg (by simp [hstatus])] at hopened
    exact hopened

/-- Staging the root Dispatch consumes the Task start. -/
private theorem stage_root_step {snapshot : RootOpeningSnapshot} {request : DrawnDispatchRequest} {rev : TeamRevision}
    {selected : TeamRevisionMember} {assignment : Assignment} {attempt : Attempt} (hinv : staged.lanes.Invariant)
    (hexpected : snapshot.expected_task_status = .running)
    (hroot : RootRead staged snapshot rev selected assignment attempt)
    (h : stage_starting_dispatch { staged with
        task_start_source := { staged.task_start_source with successor_dispatch_id := some request.dispatch_id } }
      snapshot.starting_basis (prepare_dispatch_request request []) = .ok db) : Lanes.Step staged.lanes db.lanes := by
  obtain ⟨attempt', hattempt', -, hinsert, rfl⟩ := stage_starting_dispatch_eq_ok.mp h
  obtain rfl : attempt = attempt' := Option.some.inj (hroot.attempt_row.symm.trans hattempt')
  obtain ⟨hassignment, hrunning, hdispatch, hwait⟩ := Attempt.is_idle_iff.mp hroot.idle
  have hselected : staged.lanes.SelectedNow snapshot.selection := by
    refine ⟨rev, by rw [← hroot.rev_row, ← hroot.team]; rfl, ?_⟩
    rw [hroot.selection]
    have hnodup := (hinv.selection.history.well_formed _ rev hroot.rev_row).nodup
    exact TeamRevision.selects_iff.mpr ⟨selected, TeamRevision.select_of_mem hnodup hroot.selected_mem, rfl, rfl⟩
  have hfits : staged.lanes.Fits request.dispatch_id
      (build_starting_dispatch_model snapshot.starting_basis (prepare_dispatch_request request [])).lane
      assignment.lane.member_id := by
    refine ⟨Table.view_eq_none.mpr hinsert.fresh, rfl, hroot.team.symm, hselected, ?_,
      fun _ _ _ hsome => by cases hsome⟩
    rw [show assignment.lane.member_id = selected.member_id from hroot.assignment_member]
    simp [RootOpeningSnapshot.starting_basis, DispatchTurn.lane, hroot.selection]
  have hserves : staged.lanes.Serves attempt.lane.assignment_id snapshot.attempt_id assignment.lane :=
    ⟨Table.view_eq_some.mpr ⟨assignment, by rw [← hroot.assignment_row, ← hassignment]; rfl, rfl⟩,
      hroot.assignment_attempt, hroot.assignment_open⟩
  have hopened : (build_starting_dispatch_model snapshot.starting_basis
      (prepare_dispatch_request request [])).lane.opened_reason ≠ .watchdog_recovery := by
    change snapshot.opened_reason ≠ _
    rw [hroot.opened_reason, hexpected]
    simp [root_opened_reason]
  have hstep := Lanes.Step.open_successor (s := .task_start) (x := staged.task_start_source.lane)
    (hroot.status.trans hexpected) rfl (by simp [TaskStartSource.lane, SourcePhase.of, hroot.unconsumed]) hroot.start.2
    (hroot.start.1.trans hassignment.symm) (Table.view_eq_some.mpr ⟨attempt, hattempt', rfl⟩)
    ⟨hrunning, hdispatch, hwait⟩ hserves hfits ⟨hassignment.symm, rfl, rfl⟩ hopened
  have hlanes := @lanes_occupy { staged with
      task_start_source := { staged.task_start_source with successor_dispatch_id := some request.dispatch_id } }
    request.dispatch_id (build_starting_dispatch_model snapshot.starting_basis (prepare_dispatch_request request []))
    snapshot.attempt_id attempt
  rw [lanes_task_start] at hlanes
  convert hstep using 1
  exact hlanes

/-- The rows of a Task right after its admission. -/
theorem start_task_rows (h : start_task input drawn = .ok db) :
    1 ≤ input.max_wave_members ∧ ∃ request basis, basis.attempt_id = input.attempt_id ∧
      basis.assignment_id = input.assignment_id ∧ basis.opened_reason = .root ∧
      db = { new_task_db input with
        toTeamTables := db.toTeamTables
        task_start_source := ⟨input.assignment_id, input.attempt_id, some request.dispatch_id⟩
        attempts := (∅ : Table AttemptId Attempt).set input.attempt_id
          { new_attempt input.assignment_id none with current_dispatch_id := some request.dispatch_id }
        dispatches := (∅ : Table DispatchId DispatchTurn).set request.dispatch_id
          (build_starting_dispatch_model basis (prepare_dispatch_request request [])) } := by
  obtain ⟨staged, request, snapshot, hstaged, -, hread, hstage⟩ := start_task_success h
  obtain ⟨hmembers, hframe, -, -⟩ := persist_bootstrap_runtime_success hstaged
  obtain ⟨hexpected, rev, selected, assignment, attempt, hroot⟩ := read_root_opening_snapshot_success hread
  obtain ⟨attempt', hattempt', -, -, rfl⟩ := stage_starting_dispatch_eq_ok.mp hstage
  have hstart := hroot.start
  have hattempts : staged.attempts = (new_task_db input).attempts := by rw [hframe]
  rw [show staged.task_start_source = (new_task_db input).task_start_source by rw [hframe]] at hstart
  obtain ⟨hassignment, hattempt⟩ : input.assignment_id = snapshot.assignment_id ∧
      input.attempt_id = snapshot.attempt_id := hstart
  refine ⟨hmembers, request, snapshot.starting_basis, hattempt.symm, hassignment.symm,
    hroot.opened_reason.trans (by rw [hexpected]; rfl), ?_⟩
  have hrow : staged.attempts.get? snapshot.attempt_id = some attempt' := hattempt'
  rw [hattempts, ← hattempt, new_task_db, Table.get?_set_self] at hrow
  cases hrow
  rw [hframe]
  simp [new_task_db, RootOpeningSnapshot.starting_basis, prepare_dispatch_request, ← hattempt]

/-- An admitted Task satisfies every invariant of its lanes, has no result, and its start is consumed. -/
theorem start_task_invariant (h : start_task input drawn = .ok db) :
    db.lanes.Invariant ∧ db.lanes.Result ∧ db.task_start_source.successor_dispatch_id.isSome := by
  obtain ⟨staged, request, snapshot, hstaged, -, hread, hstage⟩ := start_task_success h
  obtain ⟨-, -, hinv, hresult⟩ := persist_bootstrap_runtime_success hstaged
  obtain ⟨hexpected, rev, selected, assignment, attempt, hroot⟩ := read_root_opening_snapshot_success hread
  have hstep := stage_root_step hinv hexpected hroot hstage
  obtain ⟨attempt', -, -, -, rfl⟩ := stage_starting_dispatch_eq_ok.mp hstage
  exact ⟨hinv.step hstep, hresult.step hstep (fun hcancelled => by
    rw [show staged.lanes.status = .cancelled from hcancelled]), rfl⟩

end OhMySubagents
