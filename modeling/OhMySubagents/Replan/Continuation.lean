import OhMySubagents.Control.Transitions
import OhMySubagents.Dispatch.Successor

open Relational

namespace OhMySubagents

/-- Whether the manifest of this Team revision can be projected: only the current Team is rendered. -/
def project_workflow_manifest (db : TaskDb) (team_revision_id : RevisionId) : Bool :=
  db.task.current_team_revision_id == team_revision_id && (db.team_revisions.get? team_revision_id).isSome

def SuccessorState.is_ended : SuccessorState → Bool
  | .opened | .cancelled => true
  | _ => false

/-- `successor_state IN ('pending', 'opening_failed')`. -/
def SuccessorState.can_open : SuccessorState → Bool
  | .pending | .opening_failed => true
  | _ => false

/-- The filter on a transition whose successor may open. -/
def ReplanTransition.can_continue (transition : ReplanTransition) : Bool :=
  transition.manifest_state == .current && transition.successor_state.can_open &&
    transition.successor_dispatch_id.isNone

/-- Returns whether the manifest is current, and the rows after the update. -/
def mark_manifest_current (db : TaskDb) (transition_id : TransitionId) : Bool × TaskDb :=
  match db.replan_transitions.updateWhere transition_id
      (fun transition => (transition.manifest_state == .pending || transition.manifest_state == .repair_required) &&
        transition.successor_state == .blocked && transition.successor_dispatch_id.isNone)
      fun transition => { transition with manifest_state := .current, successor_state := .pending } with
  | some replan_transitions => (true, { db with replan_transitions := replan_transitions })
  | none =>
    ((db.replan_transitions.get? transition_id).any fun transition => transition.manifest_state == .current, db)

def record_manifest_failure (db : TaskDb) (transition_id : TransitionId) : TaskDb :=
  match db.replan_transitions.updateWhere transition_id
      (fun transition => transition.successor_dispatch_id.isNone && !transition.successor_state.is_ended)
      fun transition => { transition with manifest_state := .repair_required, successor_state := .blocked } with
  | some replan_transitions => { db with replan_transitions := replan_transitions }
  | none => db

/-- Repair the manifest barrier. `stale` are the rows that the transition was read from, `projected` the
    rows that the projection read, and `written` tells whether the manifest file could be replaced. -/
def ensure_replan_manifest_current (stale projected db : TaskDb) (transition_id : TransitionId) (written : Bool) :
    Bool × TaskDb :=
  match stale.replan_transitions.get? transition_id with
  | none => (false, db)
  | some transition =>
    if transition.successor_state.is_ended then (transition.successor_state == .opened, db)
    else if transition.manifest_state == .current then (true, db)
    else if project_workflow_manifest projected transition.successor_team_revision_id && written then
      mark_manifest_current db transition_id
    else (false, record_manifest_failure db transition_id)

def replan_continuation_basis (transition_id : TransitionId) (transition : ReplanTransition) :
    OrdinaryContinuationBasis where
  assignment_id := transition.assignment_id
  attempt_id := transition.attempt_id
  source_dispatch_id := transition.source_dispatch_id
  source_dispatch_closed_reason := .structural_replan
  opened_reason := .structural_replan
  trigger := .structural_replan transition.source_dispatch_id
  continuation_source_id := some transition_id

def read_replan_continuation_basis (transition_id : TransitionId) (db : TaskDb) :
    Result (Option OrdinaryContinuationBasis) :=
  match db.replan_transitions.get? transition_id with
  | none => .ok none
  | some transition =>
    if transition.can_continue then .ok (some (replan_continuation_basis transition_id transition)) else .ok none

def claim_replan_continuation : OrdinarySourceClaim := fun db snapshot prepared =>
  match snapshot.basis.trigger, snapshot.basis.continuation_source_id with
  | .structural_replan _, some transition_id => do
    let replan_transitions ← db.replan_transitions.updateWhere transition_id
      (fun transition => transition.source_dispatch_id == snapshot.basis.source_dispatch_id &&
        transition.successor_team_revision_id == snapshot.team_revision_id && transition.can_continue)
      fun transition => { transition with
        successor_state := .opened
        successor_dispatch_id := some prepared.dispatch_id }
    return { db with replan_transitions := replan_transitions }
  | _, _ => none

/-- A failed preparation leaves the transition repairable; nothing is paused. -/
def record_opening_failure (transition_id : TransitionId) (db : TaskDb) : Result TaskDb :=
  match db.replan_transitions.updateWhere transition_id ReplanTransition.can_continue
      fun transition => { transition with successor_state := .opening_failed } with
  | some replan_transitions => .ok { db with replan_transitions := replan_transitions }
  | none => .ok db

/-- The second half of `continue_committed_replan`, once the manifest is current. -/
def open_replan_successor (stale db : TaskDb) (transition_id : TransitionId)
    (drawn : Option DrawnDispatchRequest) : Result (OrdinaryOpeningOutcome × TaskDb) :=
  open_ordinary_successor stale db drawn (read_replan_continuation_basis transition_id)
    claim_replan_continuation (record_opening_failure transition_id)

theorem ReplanTransition.can_continue_iff {transition : ReplanTransition} :
    transition.can_continue = true ↔ transition.manifest_state = .current ∧
      transition.successor_state.can_open = true ∧ transition.successor_dispatch_id = none := by
  simp [ReplanTransition.can_continue, and_assoc]

theorem SuccessorState.phase_of_can_open {state : SuccessorState} (h : state.can_open = true) :
    state.phase = .resolved := by
  cases state <;> simp_all [SuccessorState.can_open, SuccessorState.phase]

/-- A transition that is not consumed and not cancelled may change its barrier states freely. -/
theorem lanes_transition_same {db : TaskDb} {transition_id : TransitionId}
    {transition transition' : ReplanTransition} (row : db.replan_transitions.get? transition_id = some transition)
    (h : transition'.lane = transition.lane) :
    ({ db with replan_transitions := db.replan_transitions.set transition_id transition' } : TaskDb).lanes =
      db.lanes := by
  rw [lanes_replan_transition, h]
  apply Lanes.ext <;> first | rfl | skip
  rw [Lanes.putSource_sources]
  exact Function.update_eq_self_iff.mpr (Table.view_eq_some.mpr ⟨transition, row, rfl⟩).symm

theorem read_replan_continuation_basis_success {db : TaskDb} {transition_id : TransitionId}
    {basis : OrdinaryContinuationBasis} (h : read_replan_continuation_basis transition_id db = .ok (some basis)) :
    ∃ transition, db.replan_transitions.get? transition_id = some transition ∧ transition.can_continue = true ∧
      basis = replan_continuation_basis transition_id transition := by
  unfold read_replan_continuation_basis at h
  split at h
  · cases h
  · next transition hrow =>
    split at h
    · next hcontinue =>
      cases h
      exact ⟨transition, hrow, hcontinue, rfl⟩
    · cases h

/-- A successful claim consumes a transition of the lane whose Dispatch it closed. -/
theorem claim_replan_continuation_claims {db claimed : TaskDb} {snapshot : OrdinaryDispatchSnapshot}
    {prepared : PreparedDispatchRequest} {source : DispatchTurn} {assignment : Assignment}
    {transition_id : TransitionId} {transition : ReplanTransition} (hl : db.lanes.Lineage)
    (hbasis : snapshot.basis = replan_continuation_basis transition_id transition)
    (ready : LaneReady db snapshot source assignment)
    (h : claim_replan_continuation db snapshot prepared = some claimed) :
    ∃ x, ClaimsSource db claimed snapshot prepared (.replan_transition transition_id) x := by
  have htrigger : snapshot.basis.trigger = .structural_replan snapshot.basis.source_dispatch_id := by
    rw [hbasis]
    rfl
  have hid : snapshot.basis.continuation_source_id = some transition_id := by
    rw [hbasis]
    rfl
  unfold claim_replan_continuation at h
  rw [htrigger, hid] at h
  simp only [Option.bind_eq_bind, Option.bind_eq_some_iff, Table.updateWhere_eq_some, Bool.and_eq_true,
    beq_iff_eq, ReplanTransition.can_continue_iff] at h
  obtain ⟨_, ⟨row, hrow, ⟨⟨hsource, -⟩, -, hopen, hnone⟩, rfl⟩, h⟩ := h
  cases h
  have hlane : db.lanes.sources (.replan_transition transition_id) = some row.lane :=
    Table.view_eq_some.mpr ⟨row, hrow, rfl⟩
  -- the claim names no Attempt, but the Dispatch that the transition closed does
  obtain ⟨q, hq, hattempt, hassignment, -⟩ := hl.source_row _ _ _ hlane (congrArg some hsource)
  obtain ⟨dispatch, hdispatch, rfl⟩ := Table.view_eq_some.mp hq
  rw [ready.source_row] at hdispatch
  cases hdispatch
  refine ⟨row.lane, hlane, ?_, hattempt.symm.trans ready.source_attempt,
    hassignment.symm.trans ready.source_assignment, congrArg some hsource, ?_, rfl, rfl⟩
  · simp [ReplanTransition.lane, SourcePhase.of, hnone, SuccessorState.phase_of_can_open hopen]
  · rw [lanes_replan_transition]
    rfl

end OhMySubagents
