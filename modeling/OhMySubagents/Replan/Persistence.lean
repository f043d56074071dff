import OhMySubagents.Lanes.Abstraction
import OhMySubagents.NodeOperations.ExternalWaits
import OhMySubagents.Replan.Context
import OhMySubagents.Replan.Staging
import OhMySubagents.Lanes.Participation
import OhMySubagents.Replan.Successor

open Relational

namespace OhMySubagents

section

/-- Exact current Team snapshot read before the replan CAS. -/
structure ReplanCommitContext where
  team_revision_id : RevisionId
  team_revision : TeamRevision
  members : PlannedMembers

/-- The identifiers that `uuid4` draws for one replan. -/
structure DrawnReplan where
  refresh : RefreshDraws
  successor_team_id : RevisionId
  transition_id : TransitionId

/-- Read the complete current Team selected by the exact running Task. -/
def read_replan_context (db : TaskDb) (authority : NodeOperationAuthority) : Result ReplanCommitContext := do
  require (db.task.status == .running && db.task.control_revision == authority.task_control_revision &&
      current_team_selects_member db authority.selection)
    (conflict_error "current Task or Team changed before replan admission")
  let team_revision ← require_some (db.team_revisions.get? db.task.current_team_revision_id)
    (conflict_error "current Team revision is missing")
  let members ← read_planned_members db.member_configurations team_revision
  return { team_revision_id := db.task.current_team_revision_id, team_revision, members }

/-- Another Assignment of one of these Members still has an active current Attempt. -/
def has_active_assigned_work (db : TaskDb) (authority : NodeOperationAuthority) (member_ids : List MemberId) : Bool :=
  db.assignments.any fun assignment_id assignment =>
    member_ids.contains assignment.member_id && assignment_id != authority.assignment_id &&
      (db.attempts.get? assignment.current_attempt_id).any fun attempt =>
        attempt.assignment_id == assignment_id && attempt.status.is_active

/-- Reject a replan that conflicts with a current wait or affected active work. -/
def require_replan_admission (db : TaskDb) (authority : NodeOperationAuthority) (mutation : ReplanMutation) :
    Result Unit := do
  require (!(db.attempts.get? authority.attempt_id).any fun attempt =>
      attempt.assignment_id == authority.assignment_id && attempt.current_wait_id.isSome)
    (illegal_state_error "replan requires no current caller wait")
  require (mutation.affected_existing_ids.isEmpty ||
      !has_active_assigned_work db authority mutation.affected_existing_ids)
    (illegal_state_error "replan target contains a Member with active assigned work")

/-- Provider resolution reads the settings of the installation; a failure has a text. -/
def resolve_member_execution (resolution_failure : PlannedMember → Option String) (member : PlannedMember) :
    Result Unit :=
  match resolution_failure member with
  | some failure => .error (illegal_state_error s!"Replan Member {member.member_id} cannot execute: {failure}")
  | none => .ok ()

/-- Every reconfigured Member, the caller and its direct children must be executable. -/
def build_result (resolution_failure : PlannedMember → Option String) (mutation : ReplanMutation)
    (caller_member_id : MemberId) : Result Unit := do
  let changed := (mutation.members.select fun _ member => member.has_configuration_change).map Prod.snd
  let caller ← require_some (mutation.members.get? caller_member_id) (internal_error "KeyError")
  let children ← caller.children.mapM fun child_id =>
    require_some (mutation.members.get? child_id) (internal_error "KeyError")
  (changed ++ caller :: children).forM (resolve_member_execution resolution_failure)

/-- Close the source Dispatch and move the Task's current Team pointer. -/
def claim_replan_heads (db : TaskDb) (authority : NodeOperationAuthority) (context : ReplanCommitContext)
    (successor_team_id : RevisionId) : Result TaskDb := do
  let db ← close_source_dispatch db authority .structural_replan
  require (db.task.status == .running && db.task.control_revision == authority.task_control_revision &&
      db.task.current_team_revision_id == context.team_revision_id)
    (conflict_error "another replan or Task transition won the current Team pointer")
  return { db with task := { db.task with current_team_revision_id := successor_team_id } }

def new_replan_transition (authority : NodeOperationAuthority) (source_team_id successor_team_id : RevisionId) :
    ReplanTransition where
  assignment_id := authority.assignment_id
  attempt_id := authority.attempt_id
  source_dispatch_id := authority.dispatch_id
  source_team_revision_id := source_team_id
  successor_team_revision_id := successor_team_id
  manifest_state := .pending
  successor_state := .blocked
  successor_dispatch_id := none

/-- The unique column of a transition is its source Dispatch. -/
def ReplanTransition.conflicts (transition other : ReplanTransition) : Bool :=
  transition.source_dispatch_id == other.source_dispatch_id

def stage_replan_transition (db : TaskDb) (authority : NodeOperationAuthority) (context : ReplanCommitContext)
    (drawn : DrawnReplan) : Result TaskDb := do
  let replan_transitions ← require_some
    (db.replan_transitions.insertUnique ReplanTransition.conflicts drawn.transition_id
      (new_replan_transition authority context.team_revision_id drawn.successor_team_id))
    integrity_error
  return { db with replan_transitions := replan_transitions }

/-- Commit one complete immutable Team successor behind the Task CAS. -/
def commit_replan_rows (db : TaskDb) (authority : NodeOperationAuthority) (request : ReplanRequest)
    (resolution_failure : PlannedMember → Option String) (drawn : DrawnReplan) : Result TaskDb := do
  let context ← read_replan_context db authority
  let mutation ← build_replan_mutation context.members context.team_revision.root_member_id
    authority.assignment.member_id request drawn.refresh
  require_replan_admission db authority mutation
  build_result resolution_failure mutation authority.assignment.member_id
  let db ← claim_replan_heads db authority context drawn.successor_team_id
  let db ← stage_replan_successor_rows db context.team_revision_id context.team_revision mutation
    drawn.successor_team_id
  stage_replan_transition db authority context drawn

/-- What a committed replan leaves behind. -/
structure ReplanCommitted (db : TaskDb) (authority : NodeOperationAuthority) (request : ReplanRequest)
    (drawn : DrawnReplan) (rev : TeamRevision) (loaded : PlannedMembers) (mutation : ReplanMutation)
    (db' : TaskDb) : Prop where
  team : db.team_revisions.get? db.task.current_team_revision_id = some rev
  members_read : read_planned_members db.member_configurations rev = .ok loaded
  built : build_replan_mutation loaded rev.root_member_id authority.assignment.member_id request drawn.refresh =
    .ok mutation
  quiet : mutation.affected_existing_ids ≠ [] →
    has_active_assigned_work db authority mutation.affected_existing_ids = false
  history : HistoryStaged db { db with
      members := db'.members
      member_configurations := db'.member_configurations
      member_branch_bases := db'.member_branch_bases } (successor_preorder mutation)
  free : db.team_revisions.get? drawn.successor_team_id = none
  fresh : db.replan_transitions.get? drawn.transition_id = none
  result : db' = { db with
    members := db'.members
    member_configurations := db'.member_configurations
    member_branch_bases := db'.member_branch_bases
    team_revisions := db.team_revisions.set drawn.successor_team_id
      (successor_revision db.task.current_team_revision_id rev mutation)
    task := { db.task with current_team_revision_id := drawn.successor_team_id }
    dispatches := db.dispatches.set authority.dispatch_id (authority.dispatch.close .structural_replan)
    attempts := db.attempts.set authority.attempt_id { authority.attempt with current_dispatch_id := none }
    replan_transitions := db.replan_transitions.set drawn.transition_id
      (new_replan_transition authority db.task.current_team_revision_id drawn.successor_team_id) }

variable {db db' : TaskDb} {authority : NodeOperationAuthority} {request : ReplanRequest}
  {resolution_failure : PlannedMember → Option String} {drawn : DrawnReplan}

theorem read_replan_context_success {context : ReplanCommitContext}
    (h : read_replan_context db authority = .ok context) :
    context.team_revision_id = db.task.current_team_revision_id ∧
      db.team_revisions.get? db.task.current_team_revision_id = some context.team_revision ∧
      read_planned_members db.member_configurations context.team_revision = .ok context.members := by
  unfold read_replan_context at h
  simp only [bind_eq_ok_iff, require_some_eq_ok_iff] at h
  obtain ⟨_, -, rev, hrev, members, hmembers, h⟩ := h
  cases h
  exact ⟨rfl, hrev, hmembers⟩

theorem require_replan_admission_success {mutation : ReplanMutation} {u : Unit}
    (h : require_replan_admission db authority mutation = .ok u) (hne : mutation.affected_existing_ids ≠ []) :
    has_active_assigned_work db authority mutation.affected_existing_ids = false := by
  unfold require_replan_admission at h
  simp only [bind_eq_ok_iff, require_eq_ok_iff, Bool.or_eq_true, List.isEmpty_iff, Bool.not_eq_true'] at h
  obtain ⟨_, -, hquiet⟩ := h
  exact hquiet.resolve_left hne

theorem claim_replan_heads_success {context : ReplanCommitContext} {successor_team_id : RevisionId}
    (hauth : AuthorityHolds db authority) (h : claim_replan_heads db authority context successor_team_id = .ok db') :
    db' = { db with
      task := { db.task with current_team_revision_id := successor_team_id }
      dispatches := db.dispatches.set authority.dispatch_id (authority.dispatch.close .structural_replan)
      attempts := db.attempts.set authority.attempt_id { authority.attempt with current_dispatch_id := none } } := by
  unfold claim_replan_heads at h
  simp only [bind_eq_ok_iff, require_eq_ok_iff] at h
  obtain ⟨closed, hclosed, _, -, h⟩ := h
  cases h
  obtain ⟨attempt, dispatch, hlane, rfl⟩ := close_source_dispatch_success hclosed
  have hattempt := hauth.lane.attempt_row.symm.trans hlane.attempt_row
  have hdispatch := hauth.lane.dispatch_row.symm.trans hlane.dispatch_row
  cases hattempt
  cases hdispatch
  rfl

/-- A committed replan closed its source Dispatch and installed the successor Team that its mutation built. -/
theorem commit_replan_rows_success (hauth : AuthorityHolds db authority)
    (h : commit_replan_rows db authority request resolution_failure drawn = .ok db') :
    ∃ rev loaded mutation, ReplanCommitted db authority request drawn rev loaded mutation db' := by
  unfold commit_replan_rows at h
  simp only [bind_eq_ok_iff] at h
  obtain ⟨context, hcontext, mutation, hbuilt, _, hadmission, _, -, heads, hheads, staged, hstaged, h⟩ := h
  obtain ⟨hid, hrev, hmembers⟩ := read_replan_context_success hcontext
  have hheads' := claim_replan_heads_success hauth hheads
  obtain ⟨history, hhistory, hfree, hstaged'⟩ := stage_replan_successor_rows_success hstaged
  unfold stage_replan_transition at h
  simp only [bind_eq_ok_iff, require_some_eq_ok_iff, Table.insertUnique_eq_some] at h
  obtain ⟨_, ⟨-, hfresh, rfl⟩, h⟩ := h
  cases h
  obtain ⟨hframe, h1, h2, h3, h4, h5, h6⟩ := hhistory
  subst hheads'
  rw [hframe] at hstaged'
  subst hstaged'
  rw [hid]
  exact ⟨context.team_revision, context.members, mutation,
    { team := hrev
      members_read := hmembers
      built := hbuilt
      quiet := require_replan_admission_success hadmission
      history := ⟨rfl, h1, h2, h3, h4, h5, h6⟩
      free := hfree
      fresh := hfresh
      result := rfl }⟩

end

variable {db db' : TaskDb} {authority : NodeOperationAuthority} {request : ReplanRequest} {drawn : DrawnReplan}
  {rev : TeamRevision} {loaded : PlannedMembers} {mutation : ReplanMutation}

/-- The successor Team of a committed replan follows from the current one by the caller's mutation. -/
theorem ReplanCommitted.replanned (hauth : AuthorityHolds db authority) (hhistory : TeamHistory db.toTeamTables)
    (h : ReplanCommitted db authority request drawn rev loaded mutation db') :
    TeamReplanned db.toTeamTables db'.toTeamTables db.task.current_team_revision_id rev drawn.successor_team_id
      authority.dispatch.member_id (successor_revision db.task.current_team_revision_id rev mutation) := by
  have hrev := hhistory.well_formed _ _ h.team
  have hcaller : authority.assignment.member_id = authority.dispatch.member_id :=
    hauth.assignment_member.trans hauth.member
  have hbuilt := h.built
  rw [hcaller] at hbuilt
  obtain ⟨hstep, hrecorded⟩ := replan_step db.task.current_team_revision_id hrev
    (hhistory.recorded _ _ h.team) h.members_read hbuilt h.history
  refine
    { free := h.free
      revisions := congrArg (fun db => db.team_revisions) h.result
      predecessor := rfl
      step := hstep
      recorded := ?_
      members_kept := h.history.members_kept
      configurations_kept := h.history.configurations_kept
      bases_kept := h.history.bases_kept }
  intro m s hs
  exact hrecorded m s hs

/-- A committed replan is one step of the lanes. -/
theorem ReplanCommitted.step (hauth : AuthorityHolds db authority) (hinv : db.lanes.Invariant)
    (h : ReplanCommitted db authority request drawn rev loaded mutation db') :
    Lanes.Step db.lanes db'.lanes := by
  have hreplanned := h.replanned hauth hinv.selection.history
  have hfresh : db.lanes.sources (.replan_transition drawn.transition_id) = none := Table.view_eq_none.mpr h.fresh
  have hstep := Lanes.Step.replan (t := drawn.transition_id) hauth.lanes_holds hfresh h.team hreplanned
  convert hstep using 1
  rw [h.result]
  apply Lanes.ext <;> first | rfl | skip
  case dispatches => simp
  case attempts =>
    simp only [TaskDb.lanes_attempts, Lanes.putTeam_attempts, Lanes.putSource_attempts, Lanes.release_attempts,
      Table.view_set]
    rfl
  case sources =>
    funext s
    cases s <;> simp [TaskDb.source, Function.update_apply, new_replan_transition, ReplanTransition.lane,
      SourcePhase.of, SuccessorState.phase, Attempt.lane, hauth.attempt_assignment]

end OhMySubagents
