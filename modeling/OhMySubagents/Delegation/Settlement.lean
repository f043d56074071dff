import OhMySubagents.Dispatch.Authority

open Relational

namespace OhMySubagents

def wave_conflict (summary : String) : RuntimeOperationError := conflict_error summary

/-- The owner columns of a Wave member are those of its Wave. -/
def DelegationWave.owns (wave : DelegationWave) (member : DelegationWaveMember) : Bool :=
  wave.parent_assignment_id == member.parent_assignment_id && wave.parent_attempt_id == member.parent_attempt_id &&
    wave.source_dispatch_id == member.source_dispatch_id

/-- The filter on a Wave that is still waited for. -/
def DelegationWave.is_open (wave : DelegationWave) : Bool :=
  wave.status == .open && wave.successor_dispatch_id.isNone

/-- The filter on the pending member that a terminal Checkpoint of its child settles. -/
def is_pending_member (db : TaskDb) (authority : NodeOperationAuthority) (key : WaveId × Nat)
    (member : DelegationWaveMember) : Bool :=
  member.child_assignment_id == authority.assignment_id && member.child_member_id == authority.member_id &&
    member.status == .pending &&
    (db.delegation_waves.get? key.1).any fun wave => wave.owns member && wave.is_open

/-- Settle the exact pending Wave member in its terminal Checkpoint transaction. No two members share a
    child Assignment. -/
def settle_wave_member_for_checkpoint (db : TaskDb) (authority : NodeOperationAuthority)
    (outcome : TerminalOutcome) : Result (WaveId × TaskDb) :=
  match db.delegation_wave_members.select (is_pending_member db authority) with
  | (key, member) :: _ => .ok (key.1, { db with
      delegation_wave_members := db.delegation_wave_members.set key
        { member with status := .settled authority.dispatch_id outcome } })
  | [] => .error (wave_conflict "terminal child Checkpoint no longer owns one pending Delegation Wave member")

/-- The wait row that an open Wave's parent selects. -/
def read_parent_wave_wait (db : TaskDb) (delegation_wave_id : WaveId) (wave : DelegationWave) :
    Option (WaitId × AttemptWait) :=
  (db.attempt_waits.select fun _ wait => wait.source == .delegation_wave delegation_wave_id &&
    wait.assignment_id == wave.parent_assignment_id && wait.attempt_id == wave.parent_attempt_id &&
    wait.source_dispatch_id == wave.source_dispatch_id).head?

def incomplete_member (db : TaskDb) (delegation_wave_id : WaveId) : Bool :=
  db.delegation_wave_members.any fun key member => key.1 == delegation_wave_id && !member.status.is_settled

/-- The conditional updates of the Task and of the Wave that its last member completed. -/
def claim_complete_wave (db : TaskDb) (delegation_wave_id : WaveId) : Option TaskDb := do
  ensure (db.task.status == .running)
  let delegation_waves ← db.delegation_waves.updateWhere delegation_wave_id
    (fun wave => wave.is_open && !incomplete_member db delegation_wave_id)
    fun wave => { wave with status := .settled }
  return { db with delegation_waves := delegation_waves }

/-- Clear the pointer of the parent Attempt and delete the wait row that it selected. -/
def clear_parent_wave_wait (db : TaskDb) (wait_id : WaitId) (wait : AttemptWait) : Option TaskDb := do
  let db ← clear_current_attempt_wait db
    { assignment_id := wait.assignment_id, attempt_id := wait.attempt_id, wait_id }
  ensure (db.attempt_waits.get? wait_id == some wait)
  return { db with attempt_waits := db.attempt_waits.delete wait_id }

/-- Settle one complete Wave and clear only its exact parent Attempt wait. Returns whether it settled. -/
def settle_delegation_wave (db : TaskDb) (delegation_wave_id : WaveId) : Result (Bool × TaskDb) :=
  match (db.delegation_waves.get? delegation_wave_id).filter DelegationWave.is_open with
  | none => .ok (false, db)
  | some wave =>
    match read_parent_wave_wait db delegation_wave_id wave with
    | none => .error (wave_conflict "open Delegation Wave is missing its exact parent wait")
    | some (wait_id, wait) =>
      match claim_complete_wave db delegation_wave_id with
      | none => .ok (false, db)
      | some claimed => do
        let cleared ← require_some (clear_parent_wave_wait claimed wait_id wait)
          (wave_conflict "Delegation Wave parent wait changed before join settlement")
        return (true, cleared)

theorem DelegationWave.is_open_iff {wave : DelegationWave} :
    wave.is_open = true ↔ wave.status = .open ∧ wave.successor_dispatch_id = none := by
  simp [DelegationWave.is_open]

/-- A settled member was pending in an open Wave. -/
theorem settle_wave_member_for_checkpoint_success {db db' : TaskDb} {authority : NodeOperationAuthority}
    {outcome : TerminalOutcome} {wave_id : WaveId}
    (h : settle_wave_member_for_checkpoint db authority outcome = .ok (wave_id, db')) :
    ∃ index member wave, db.delegation_wave_members.get? (wave_id, index) = some member ∧
      member.child_assignment_id = authority.assignment_id ∧ member.status = .pending ∧
      db.delegation_waves.get? wave_id = some wave ∧ wave.status = .open ∧ wave.successor_dispatch_id = none ∧
      db' = { db with
        delegation_wave_members := db.delegation_wave_members.set (wave_id, index)
          { member with status := .settled authority.dispatch_id outcome } } := by
  unfold settle_wave_member_for_checkpoint at h
  split at h
  · next key member rest hselect =>
    cases h
    have hmem : (key, member) ∈ db.delegation_wave_members.select (is_pending_member db authority) := by
      rw [hselect]
      exact List.mem_cons_self
    obtain ⟨hrow, hpending⟩ := Table.mem_select_iff.mp hmem
    simp only [is_pending_member, Bool.and_eq_true, beq_iff_eq, Option.any_eq_true,
      DelegationWave.is_open_iff] at hpending
    obtain ⟨⟨⟨hchild, -⟩, hstatus⟩, wave, hwave, -, hopen, hnone⟩ := hpending
    exact ⟨key.2, member, wave, hrow, hchild, hstatus, hwave, hopen, hnone, rfl⟩
  · cases h

/-- A Wave settles when it is open and complete, and its parent waits for it; the wait goes with it. -/
theorem settle_delegation_wave_success {db db' : TaskDb} {delegation_wave_id : WaveId}
    (h : settle_delegation_wave db delegation_wave_id = .ok (true, db')) :
    ∃ wave wait_id wait attempt, db.task.status = .running ∧
      db.delegation_waves.get? delegation_wave_id = some wave ∧ wave.status = .open ∧
      wave.successor_dispatch_id = none ∧ db.attempt_waits.get? wait_id = some wait ∧
      wait.source = .delegation_wave delegation_wave_id ∧
      (∀ index member, db.delegation_wave_members.get? (delegation_wave_id, index) = some member →
        member.status.is_settled = true) ∧
      db.attempts.get? wait.attempt_id = some attempt ∧ attempt.status = .running ∧
      attempt.current_dispatch_id = none ∧ attempt.current_wait_id = some wait_id ∧
      db' = { db with
        delegation_waves := db.delegation_waves.set delegation_wave_id { wave with status := .settled }
        attempts := db.attempts.set wait.attempt_id { attempt with current_wait_id := none }
        attempt_waits := db.attempt_waits.delete wait_id } := by
  unfold settle_delegation_wave at h
  split at h
  · cases h
  · next wave hfilter =>
    obtain ⟨hwave, hopen⟩ := Option.filter_eq_some_iff.mp hfilter
    obtain ⟨hstatus, hnone⟩ := DelegationWave.is_open_iff.mp hopen
    split at h
    · cases h
    · next wait_id wait hwait =>
      unfold read_parent_wave_wait at hwait
      have hmem := Table.mem_select_iff.mp (List.mem_of_mem_head? (Option.mem_def.mpr hwait))
      simp only [Bool.and_eq_true, beq_iff_eq] at hmem
      obtain ⟨hrow, ⟨⟨hsource, -⟩, -⟩, -⟩ := hmem
      split at h
      · cases h
      · next claimed hclaim =>
        simp only [bind_eq_ok_iff, require_some_eq_ok_iff] at h
        obtain ⟨cleared, hclear, h⟩ := h
        cases h
        unfold claim_complete_wave at hclaim
        simp only [Option.bind_eq_bind, Option.bind_eq_some_iff, ensure_eq_some_iff, beq_iff_eq,
          Table.updateWhere_eq_some, Bool.and_eq_true, Bool.not_eq_true', incomplete_member,
          Table.any_eq_false_iff, Option.pure_def, Option.some.injEq] at hclaim
        obtain ⟨_, hrunning, _, ⟨wave', hwave', ⟨-, hcomplete⟩, rfl⟩, rfl⟩ := hclaim
        rw [hwave] at hwave'
        cases hwave'
        unfold clear_parent_wave_wait at hclear
        simp only [Option.bind_eq_bind, Option.bind_eq_some_iff, clear_current_attempt_wait_eq_some,
          Option.pure_def, Option.some.injEq] at hclear
        obtain ⟨_, ⟨attempt, hattempt, -, hrun, hdispatch, hcurrent, rfl⟩, _, -, rfl⟩ := hclear
        refine ⟨wave, wait_id, wait, attempt, hrunning, hwave, hstatus, hnone, hrow, hsource, ?_, hattempt, hrun,
          hdispatch, hcurrent, rfl⟩
        intro index member hmember
        simpa using hcomplete _ member hmember

/-- A call that settles nothing leaves every row alone. -/
theorem settle_delegation_wave_skipped {db db' : TaskDb} {delegation_wave_id : WaveId}
    (h : settle_delegation_wave db delegation_wave_id = .ok (false, db')) : db' = db := by
  unfold settle_delegation_wave at h
  split at h
  · cases h; rfl
  · split at h
    · cases h
    · split at h
      · cases h; rfl
      · simp only [bind_eq_ok_iff] at h
        obtain ⟨_, -, h⟩ := h
        cases h

end OhMySubagents
