import OhMySubagents.Delegation.Preparation
import OhMySubagents.NodeOperations.ExternalWaits

open Relational

namespace OhMySubagents

/-- `uq_assignments_one_open_per_member`. -/
def Assignment.conflicts (assignment other : Assignment) : Bool :=
  assignment.member_id == other.member_id && assignment.terminal_outcome.isNone && other.terminal_outcome.isNone

/-- `UniqueConstraint("source_dispatch_id")`. -/
def DelegationWave.conflicts (wave other : DelegationWave) : Bool :=
  wave.source_dispatch_id == other.source_dispatch_id

def new_delegation_wave (authority : NodeOperationAuthority) : DelegationWave where
  parent_assignment_id := authority.assignment_id
  parent_attempt_id := authority.attempt_id
  source_dispatch_id := authority.dispatch_id
  team_revision_id := authority.team_revision_id
  parent_member_id := authority.member_id
  parent_member_configuration_id := authority.dispatch.member_configuration_id
  parent_member_branch_basis_id := authority.dispatch.member_branch_basis_id
  status := .open
  successor_dispatch_id := none

/-- The Assignment of `_new_child_work`. -/
def new_child_assignment (authority : NodeOperationAuthority) (budget : AssignmentBudgetSnapshot)
    (member : PreparedWaveMember) : Assignment where
  member_id := member.target.member_id
  parent_assignment_id := some authority.assignment_id
  current_attempt_id := member.attempt_id
  work_plan_revision := 0
  child_assignment_limit := budget.child_assignment_limit
  child_assignments_remaining := budget.child_assignments_remaining
  retry_limit := budget.retry_limit
  retries_remaining := budget.retries_remaining
  created_by_dispatch_id := some authority.dispatch_id
  terminal_outcome := none

/-- The Attempt of `_new_child_work`. -/
def new_child_attempt (member : PreparedWaveMember) : Attempt where
  assignment_id := member.assignment_id
  retry_of_attempt_id := none
  latest_checkpoint_id := none
  current_dispatch_id := none
  current_wait_id := none
  watchdog_replacement_count := 0
  status := .running
  terminal_outcome := none

def new_wave_member (authority : NodeOperationAuthority) (member : PreparedWaveMember) : DelegationWaveMember where
  parent_assignment_id := authority.assignment_id
  parent_attempt_id := authority.attempt_id
  source_dispatch_id := authority.dispatch_id
  team_revision_id := authority.team_revision_id
  child_assignment_id := member.assignment_id
  child_member_id := member.target.member_id
  child_member_configuration_id := member.target.member_configuration_id
  child_member_branch_basis_id := member.target.member_branch_basis_id
  status := .pending

/-- The new rows of one Wave, as one flush inserts them. -/
def stage_wave_rows (db : TaskDb) (authority : NodeOperationAuthority) (wave_id : WaveId)
    (members : List PreparedWaveMember) : Option TaskDb := do
  let delegation_waves ← db.delegation_waves.insertUnique DelegationWave.conflicts wave_id
    (new_delegation_wave authority)
  let assignments ← (members.map fun member =>
      (member.assignment_id, new_child_assignment authority db.task.assignment_budget member)).foldlM
    (fun t row => t.insertUnique Assignment.conflicts row.1 row.2) db.assignments
  let attempts ← db.attempts.insertAll (members.map fun member => (member.attempt_id, new_child_attempt member))
  let delegation_wave_members ← db.delegation_wave_members.insertAll
    (members.zipIdx.map fun (member, order_index) => ((wave_id, order_index), new_wave_member authority member))
  return { db with
    delegation_waves := delegation_waves
    assignments := assignments
    attempts := attempts
    delegation_wave_members := delegation_wave_members }

def consume_assignment_budget (db : TaskDb) (authority : NodeOperationAuthority) (count : Nat) : Result TaskDb := do
  let assignments ← require_some
    (db.assignments.updateWhere authority.assignment_id
      (fun assignment => assignment.is_current authority.member_id authority.attempt_id &&
        decide (count ≤ assignment.child_assignments_remaining) && exact_node_operation_authority_exists db authority)
      fun assignment => { assignment with
        child_assignments_remaining := assignment.child_assignments_remaining - count })
    (budget_exhausted_error s!"the current Assignment has fewer than {count} child-Assignment units remaining")
  return { db with assignments := assignments }

/-- The basis of a delegated child's first Dispatch, in the Team revision of its selection. -/
def wave_member_basis (team_revision_id : RevisionId) (member : PreparedWaveMember) : StartingDispatchBasis where
  assignment_id := member.assignment_id
  team_revision_id := team_revision_id
  selection := ⟨member.target.member_id, member.target.member_configuration_id,
    member.target.member_branch_basis_id⟩
  attempt_id := member.attempt_id
  opened_reason := .delegation
  predecessor_dispatch_id := none

def stage_wave_dispatches (db : TaskDb) (team_revision_id : RevisionId) (members : List PreparedWaveMember) :
    Result TaskDb :=
  members.foldlM (fun db member => stage_starting_dispatch db (wave_member_basis team_revision_id member)
    member.dispatch)
    db

/-- Stage one all-or-none Wave, its child work, and the exact parent wait. -/
def stage_delegation_wave (db : TaskDb) (authority : NodeOperationAuthority) (team_revision_id : RevisionId)
    (wave_id : WaveId) (wait_id : WaitId) (members : List PreparedWaveMember) : Result TaskDb := do
  let db ← require_some (stage_wave_rows db authority wave_id members)
    (delegation_conflict "a selected child already received another open Assignment")
  let db ← consume_assignment_budget db authority members.length
  let db ← stage_wave_dispatches db team_revision_id members
  stage_attempt_wait db authority wait_id (.delegation_wave wave_id) .delegation
    (delegation_conflict "another transition changed parent delegation authority")

/-- Atomically fan out one ordered set of direct-child Assignments. -/
def commit_delegation_wave (db : TaskDb) (authority : NodeOperationAuthority) (request : DelegateRequest)
    (wave_id : WaveId) (wait_id : WaitId) (drawn : MemberId → Option DrawnWaveMember) : Result TaskDb := do
  let rev ← read_delegation_context db authority
  require_wave_size db.task request.child_ids.length
  let targets ← read_direct_targets db rev authority request.child_ids
  let members ← targets.mapM (prepare_wave_member db drawn)
  stage_delegation_wave db authority db.task.current_team_revision_id wave_id wait_id members

/-- Everything a committed delegation went through, from the Team it read to the parent's wait. -/
structure DelegationCommitted (db : TaskDb) (authority : NodeOperationAuthority) (request : DelegateRequest)
    (wave_id : WaveId) (wait_id : WaitId) (rev : TeamRevision) (members : List PreparedWaveMember)
    (rows consumed dispatched db' : TaskDb) : Prop where
  team : db.team_revisions.get? db.task.current_team_revision_id = some rev
  at_most : request.child_ids.length ≤ min db.task.max_wave_members PUBLIC_MAX_WAVE_MEMBERS
  children : members.map (fun member => member.target.member_id) = request.child_ids
  direct : ∀ member ∈ members, rev.select member.target.member_id = some member.target ∧
    member.target.parent_member_id = some authority.member_id
  unsteered : ∀ member ∈ members, member.dispatch.steering = []
  available : ∀ member ∈ members, ∀ i assignment, db.assignments.get? i = some assignment →
    assignment.terminal_outcome = none → assignment.member_id ≠ member.target.member_id
  staged : stage_wave_rows db authority wave_id members = some rows
  consumption : consume_assignment_budget rows authority members.length = .ok consumed
  dispatches : stage_wave_dispatches consumed db.task.current_team_revision_id members = .ok dispatched
  wait : stage_attempt_wait dispatched authority wait_id (.delegation_wave wave_id) .delegation
    (delegation_conflict "another transition changed parent delegation authority") = .ok db'

theorem prepare_wave_members_success {db : TaskDb} {drawn : MemberId → Option DrawnWaveMember}
    {targets : List TeamRevisionMember} {members : List PreparedWaveMember}
    (h : targets.mapM (prepare_wave_member db drawn) = .ok members) :
    members.map PreparedWaveMember.target = targets ∧ ∀ member ∈ members, member.dispatch.steering = [] ∧
      ∀ i assignment, db.assignments.get? i = some assignment → assignment.terminal_outcome = none →
        assignment.member_id ≠ member.target.member_id := by
  induction targets generalizing members with
  | nil =>
    cases h
    simp
  | cons target targets ih =>
    rw [List.mapM_cons] at h
    simp only [bind_eq_ok_iff] at h
    obtain ⟨member, hmember, rest, hrest, h⟩ := h
    cases h
    obtain ⟨rfl, hsteering, hfree⟩ := prepare_wave_member_success hmember
    obtain ⟨hmap, hall⟩ := ih hrest
    refine ⟨by rw [List.map_cons, hmap], fun other hother => ?_⟩
    rcases List.mem_cons.mp hother with rfl | hother
    · exact ⟨hsteering, hfree⟩
    · exact hall other hother

theorem commit_delegation_wave_success {db db' : TaskDb} {authority : NodeOperationAuthority}
    {request : DelegateRequest} {wave_id : WaveId} {wait_id : WaitId} {drawn : MemberId → Option DrawnWaveMember}
    (h : commit_delegation_wave db authority request wave_id wait_id drawn = .ok db') :
    ∃ rev members rows consumed dispatched,
      DelegationCommitted db authority request wave_id wait_id rev members rows consumed dispatched db' := by
  unfold commit_delegation_wave stage_delegation_wave require_wave_size at h
  simp only [bind_eq_ok_iff, require_eq_ok_iff, require_some_eq_ok_iff, decide_eq_true_eq] at h
  obtain ⟨rev, hrev, _, hsize, targets, htargets, members, hmembers, rows, hrows, consumed, hconsumed, dispatched,
    hdispatched, hwait⟩ := h
  obtain ⟨hids, hdirect⟩ := read_direct_targets_success htargets
  obtain ⟨hmap, hprepared⟩ := prepare_wave_members_success hmembers
  refine ⟨rev, members, rows, consumed, dispatched, read_delegation_context_success hrev, hsize, ?_, ?_,
    fun member hmember => (hprepared member hmember).1, fun member hmember => (hprepared member hmember).2, hrows,
    hconsumed, hdispatched, hwait⟩
  · rw [← hids, ← hmap, List.map_map]
    rfl
  · intro member hmember
    exact hdirect member.target (hmap ▸ List.mem_map_of_mem hmember)

theorem stage_wave_rows_success {db rows : TaskDb} {authority : NodeOperationAuthority} {wave_id : WaveId}
    {members : List PreparedWaveMember} (h : stage_wave_rows db authority wave_id members = some rows) :
    ∃ assignments attempts wave_members, db.delegation_waves.get? wave_id = none ∧
      db.assignments.insertAll (members.map fun member =>
        (member.assignment_id, new_child_assignment authority db.task.assignment_budget member)) = some assignments ∧
      db.attempts.insertAll (members.map fun member => (member.attempt_id, new_child_attempt member)) =
        some attempts ∧
      db.delegation_wave_members.insertAll (members.zipIdx.map fun (member, order_index) =>
        ((wave_id, order_index), new_wave_member authority member)) = some wave_members ∧
      rows = { db with
        delegation_waves := db.delegation_waves.set wave_id (new_delegation_wave authority)
        assignments := assignments
        attempts := attempts
        delegation_wave_members := wave_members } := by
  unfold stage_wave_rows at h
  simp only [Option.bind_eq_bind, Option.bind_eq_some_iff, Table.insertUnique_eq_some, Option.pure_def,
    Option.some.injEq] at h
  obtain ⟨_, ⟨-, hfree, rfl⟩, assignments, hassignments, attempts, hattempts, wave_members, hmembers, rfl⟩ := h
  exact ⟨assignments, attempts, wave_members, hfree, Table.foldlM_insertUnique hassignments, hattempts, hmembers, rfl⟩

theorem consume_assignment_budget_success {db db' : TaskDb} {authority : NodeOperationAuthority} {count : Nat}
    (h : consume_assignment_budget db authority count = .ok db') :
    ∃ assignment, db.assignments.get? authority.assignment_id = some assignment ∧
      count ≤ assignment.child_assignments_remaining ∧
      db' = { db with
        assignments := db.assignments.set authority.assignment_id
          { assignment with
            child_assignments_remaining := assignment.child_assignments_remaining - count } } := by
  unfold consume_assignment_budget at h
  simp only [bind_eq_ok_iff, require_some_eq_ok_iff, Table.updateWhere_eq_some, Bool.and_eq_true,
    decide_eq_true_eq] at h
  obtain ⟨_, ⟨assignment, hassignment, ⟨⟨-, hcount⟩, -⟩, rfl⟩, h⟩ := h
  cases h
  exact ⟨assignment, hassignment, hcount, rfl⟩

/-- What staging the first Dispatches of a Wave leaves: one new Dispatch for each child, and its
    Attempt pointing at it. -/
structure WaveDispatched (db db' : TaskDb) (team_revision_id : RevisionId) (members : List PreparedWaveMember) :
    Prop where
  frame : db' = { db with attempts := db'.attempts, dispatches := db'.dispatches }
  dispatches : ∀ d q, db'.dispatches.get? d = some q ↔ db.dispatches.get? d = some q ∨
    ∃ member ∈ members, member.dispatch.dispatch_id = d ∧
      q = build_starting_dispatch_model (wave_member_basis team_revision_id member) member.dispatch
  fresh : ∀ member ∈ members, db.dispatches.get? member.dispatch.dispatch_id = none
  apart : members.Pairwise fun member other => member.dispatch.dispatch_id ≠ other.dispatch.dispatch_id
  own : ∀ member ∈ members, ∃ attempt, db.attempts.get? member.attempt_id = some attempt ∧
    db'.attempts.get? member.attempt_id =
      some { attempt with current_dispatch_id := some member.dispatch.dispatch_id }
  others : ∀ a, (∀ member ∈ members, member.attempt_id ≠ a) → db'.attempts.get? a = db.attempts.get? a

theorem stage_wave_dispatches_success {db db' : TaskDb} {team_revision_id : RevisionId}
    {members : List PreparedWaveMember} (hnodup : (members.map PreparedWaveMember.attempt_id).Nodup)
    (h : stage_wave_dispatches db team_revision_id members = .ok db') :
    WaveDispatched db db' team_revision_id members := by
  unfold stage_wave_dispatches at h
  induction members generalizing db with
  | nil =>
    cases h
    exact ⟨rfl, by simp, by simp, .nil, by simp, by simp⟩
  | cons member members ih =>
    rw [List.foldlM_cons, bind_eq_ok_iff] at h
    obtain ⟨middle, hmember, hrest⟩ := h
    obtain ⟨hnot, hnodup⟩ := List.nodup_cons.mp hnodup
    obtain ⟨attempt, hattempt, -, hinsert, rfl⟩ := stage_starting_dispatch_eq_ok.mp hmember
    have hfresh := hinsert.fresh
    obtain ⟨hframe, hdispatches, hfreshs, hapart, hown, hothers⟩ := ih hnodup hrest
    have hne : ∀ other ∈ members, other.attempt_id ≠ member.attempt_id := fun other hother heq =>
      hnot (heq ▸ List.mem_map_of_mem hother)
    have hned : ∀ other ∈ members, other.dispatch.dispatch_id ≠ member.dispatch.dispatch_id := by
      intro other hother heq
      have hnone := hfreshs other hother
      rw [heq, Table.get?_set_self] at hnone
      cases hnone
    refine ⟨?_, ?_, ?_, ?_, ?_, ?_⟩
    · rw [hframe]
    · intro d q
      rw [hdispatches, Table.get?_set]
      simp only [List.mem_cons, or_and_right, exists_or, exists_eq_left, ← or_assoc]
      refine or_congr_left ?_
      split
      · next heq =>
        subst heq
        simp [hfresh, eq_comm]
      · next hd => simp [Ne.symm hd]
    · intro other hother
      rcases List.mem_cons.mp hother with rfl | hother
      · exact hfresh
      · have hnone := hfreshs other hother
        rwa [Table.get?_set_ne _ (hned other hother)] at hnone
    · exact List.pairwise_cons.mpr ⟨fun other hother => (hned other hother).symm, hapart⟩
    · intro other hother
      rcases List.mem_cons.mp hother with rfl | hother
      · exact ⟨attempt, hattempt, by rw [hothers _ hne]; exact Table.get?_set_self ..⟩
      · obtain ⟨row, hrow, hrow'⟩ := hown other hother
        exact ⟨row, (Table.get?_set_ne _ (hne other hother) _).symm.trans hrow, hrow'⟩
    · intro a ha
      obtain ⟨hfirst, hall⟩ := List.forall_mem_cons.mp ha
      rw [hothers a hall]
      exact Table.get?_set_ne _ hfirst.symm _

end OhMySubagents
