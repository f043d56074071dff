import OhMySubagents.Control.Transitions
import OhMySubagents.Dispatch.Successor

open Relational

namespace OhMySubagents

/-- What the continuation of a settled Wave starts from. -/
def delegation_wave_continuation_basis (delegation_wave_id : WaveId) (wave : DelegationWave) :
    OrdinaryContinuationBasis where
  assignment_id := wave.parent_assignment_id
  attempt_id := wave.parent_attempt_id
  source_dispatch_id := wave.source_dispatch_id
  source_dispatch_closed_reason := .delegation
  opened_reason := .delegation_wave
  trigger := .delegation_wave_settled delegation_wave_id wave.source_dispatch_id
  continuation_source_id := some delegation_wave_id

/-- The join of `_read_settled_wave_member_truth` keeps this member: it is settled, and its child's
    boundary and Checkpoint carry the same outcome. -/
def has_terminal_truth (db : TaskDb) (member : DelegationWaveMember) : Bool :=
  match member.status with
  | .settled terminal_boundary_id terminal_outcome =>
    (db.assignments.get? member.child_assignment_id).isSome &&
      (db.accepted_boundaries.get? terminal_boundary_id).any fun boundary =>
        boundary.assignment_id == member.child_assignment_id && boundary.outcome == terminal_outcome.boundary &&
          (db.attempt_checkpoints.get? boundary.checkpoint_id).any fun checkpoint =>
            checkpoint.assignment_id == member.child_assignment_id &&
              checkpoint.outcome == some terminal_outcome.boundary
  | _ => false

/-- `_build_wave_member_results`: the boundary and the Checkpoint that it names fit together. -/
def has_consistent_checkpoint (db : TaskDb) (member : DelegationWaveMember) : Bool :=
  match member.status with
  | .settled terminal_boundary_id _ =>
    (db.accepted_boundaries.get? terminal_boundary_id).any fun boundary =>
      (db.attempt_checkpoints.get? boundary.checkpoint_id).any fun checkpoint =>
        boundary.attempt_id == checkpoint.attempt_id &&
          checkpoint.authoring_dispatch_id == terminal_boundary_id && checkpoint.outcome.isSome
  | _ => false

/-- The members of one Wave. -/
def wave_members (db : TaskDb) (delegation_wave_id : WaveId) : List ((WaveId × Nat) × DelegationWaveMember) :=
  db.delegation_wave_members.select fun key _ => key.1 == delegation_wave_id

def DelegationWave.is_settled_unconsumed (wave : DelegationWave) : Bool :=
  wave.status == .settled && wave.successor_dispatch_id.isNone

/-- Read one settled, unconsumed Wave and its complete ordered member results. -/
def read_delegation_wave_continuation_basis (delegation_wave_id : WaveId) (db : TaskDb) :
    Result (Option OrdinaryContinuationBasis) :=
  match db.delegation_waves.get? delegation_wave_id with
  | none => .ok none
  | some wave =>
    if wave.is_settled_unconsumed then do
      require ((wave_members db delegation_wave_id).all fun row => has_terminal_truth db row.2)
        (value_error "settled Delegation Wave has incomplete terminal member truth")
      require ((wave_members db delegation_wave_id).all fun row => has_consistent_checkpoint db row.2)
        (value_error "settled Delegation Wave member has inconsistent terminal Checkpoint truth")
      return some (delegation_wave_continuation_basis delegation_wave_id wave)
    else .ok none

/-- Conditionally record the exact same-Attempt Wave successor. -/
def claim_delegation_wave_continuation : OrdinarySourceClaim := fun db snapshot prepared =>
  match snapshot.basis.trigger with
  | .delegation_wave_settled delegation_wave_id source_dispatch_id => do
    let delegation_waves ← db.delegation_waves.updateWhere delegation_wave_id
      (fun wave => wave.parent_assignment_id == snapshot.basis.assignment_id &&
        wave.parent_attempt_id == snapshot.basis.attempt_id && wave.source_dispatch_id == source_dispatch_id &&
        wave.is_settled_unconsumed)
      fun wave => { wave with successor_dispatch_id := some prepared.dispatch_id }
    return { db with delegation_waves := delegation_waves }
  | _ => none

/-- Pause the exact failed source and every runnable sibling Attempt lane. -/
def pause_failed_delegation_wave_continuation (delegation_wave_id : WaveId) (db : TaskDb) : Result TaskDb :=
  pause_task_for_runtime_transition_failure db <|
    (db.delegation_waves.get? delegation_wave_id).any fun wave => wave.is_settled_unconsumed &&
      (db.attempts.get? wave.parent_attempt_id).any fun attempt => attempt.is_idle wave.parent_assignment_id

/-- Open at most one same-Attempt parent continuation for a settled Wave. -/
def open_delegation_wave_successor (stale db : TaskDb) (delegation_wave_id : WaveId)
    (drawn : Option DrawnDispatchRequest) : Result (OrdinaryOpeningOutcome × TaskDb) :=
  open_ordinary_successor stale db drawn (read_delegation_wave_continuation_basis delegation_wave_id)
    claim_delegation_wave_continuation (pause_failed_delegation_wave_continuation delegation_wave_id)

theorem DelegationWave.is_settled_unconsumed_iff {wave : DelegationWave} :
    wave.is_settled_unconsumed = true ↔ wave.status = .settled ∧ wave.successor_dispatch_id = none := by
  simp [DelegationWave.is_settled_unconsumed]

theorem read_delegation_wave_continuation_basis_success {db : TaskDb} {delegation_wave_id : WaveId}
    {basis : OrdinaryContinuationBasis}
    (h : read_delegation_wave_continuation_basis delegation_wave_id db = .ok (some basis)) :
    ∃ wave, db.delegation_waves.get? delegation_wave_id = some wave ∧ wave.status = .settled ∧
      wave.successor_dispatch_id = none ∧ basis = delegation_wave_continuation_basis delegation_wave_id wave := by
  unfold read_delegation_wave_continuation_basis at h
  split at h
  · cases h
  · next wave hwave =>
    split at h
    · next hsettled =>
      simp only [bind_eq_ok_iff] at h
      obtain ⟨_, -, _, -, h⟩ := h
      cases h
      obtain ⟨hstatus, hnone⟩ := DelegationWave.is_settled_unconsumed_iff.mp hsettled
      exact ⟨wave, hwave, hstatus, hnone, rfl⟩
    · cases h

/-- A successful claim consumes a settled Wave of the snapshot's own lane. -/
theorem claim_delegation_wave_continuation_claims {db claimed : TaskDb} {snapshot : OrdinaryDispatchSnapshot}
    {prepared : PreparedDispatchRequest} {delegation_wave_id : WaveId} {wave : DelegationWave}
    (hbasis : snapshot.basis = delegation_wave_continuation_basis delegation_wave_id wave)
    (h : claim_delegation_wave_continuation db snapshot prepared = some claimed) :
    ∃ x, ClaimsSource db claimed snapshot prepared (.delegation_wave delegation_wave_id) x := by
  have htrigger : snapshot.basis.trigger = .delegation_wave_settled delegation_wave_id
      snapshot.basis.source_dispatch_id := by rw [hbasis]; rfl
  unfold claim_delegation_wave_continuation at h
  rw [htrigger] at h
  simp only [Option.bind_eq_bind, Option.bind_eq_some_iff, Table.updateWhere_eq_some, Bool.and_eq_true,
    beq_iff_eq, DelegationWave.is_settled_unconsumed_iff] at h
  obtain ⟨_, ⟨row, hrow, ⟨⟨⟨hassignment, hattempt⟩, hsource⟩, hstatus, hnone⟩, rfl⟩, h⟩ := h
  cases h
  refine ⟨row.lane, Table.view_eq_some.mpr ⟨row, hrow, rfl⟩, ?_, hattempt, hassignment, congrArg some hsource,
    ?_, rfl, rfl⟩
  · simp [DelegationWave.lane, SourcePhase.of, hnone, hstatus, WaveStatus.phase]
  · rw [lanes_wave]
    rfl

end OhMySubagents
