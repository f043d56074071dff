import OhMySubagents.Control.Transitions
import OhMySubagents.Dispatch.Successor

open Relational

namespace OhMySubagents

def command_run_continuation_basis (run_id : RunId) (source : CommandRun)
    (opened_reason : DispatchOpenedReason) : OrdinaryContinuationBasis where
  assignment_id := source.assignment_id
  attempt_id := source.attempt_id
  source_dispatch_id := source.source_dispatch_id
  source_dispatch_closed_reason := .command_run_wait
  opened_reason := opened_reason
  trigger := .command_result run_id source.source_dispatch_id source.state
  continuation_source_id := none

def CommandRun.is_terminal_unconsumed (run : CommandRun) : Bool :=
  run.state.is_terminal && run.successor_dispatch_id.isNone

/-- Read one terminal, unconsumed command source and its bounded result. -/
def read_command_run_continuation_basis (run_id : RunId) (db : TaskDb) :
    Result (Option OrdinaryContinuationBasis) :=
  match db.command_runs.get? run_id with
  | none => .ok none
  | some source =>
    if source.is_terminal_unconsumed then
      .ok (some (command_run_continuation_basis run_id source .command_result))
    else .ok none

/-- Conditionally record the one successor identity on the exact command source. -/
def claim_command_run_continuation : OrdinarySourceClaim := fun db snapshot prepared =>
  match snapshot.basis.trigger with
  | .command_result run_id source_dispatch_id state => do
    let command_runs ← db.command_runs.updateWhere run_id
      (fun run => run.assignment_id == snapshot.basis.assignment_id &&
        run.attempt_id == snapshot.basis.attempt_id &&
        run.source_dispatch_id == snapshot.basis.source_dispatch_id &&
        run.source_dispatch_id == source_dispatch_id && run.state == state && run.successor_dispatch_id.isNone)
      fun run => { run with successor_dispatch_id := some prepared.dispatch_id }
    return { db with command_runs := command_runs }
  | _ => none

/-- Pause the exact failed source and every runnable sibling Attempt lane. -/
def pause_failed_command_run_continuation (run_id : RunId) (db : TaskDb) : Result TaskDb :=
  pause_task_for_runtime_transition_failure db <|
    (db.command_runs.get? run_id).any fun run => run.is_terminal_unconsumed &&
      (db.attempts.get? run.attempt_id).any fun attempt => attempt.is_idle run.assignment_id

/-- Open at most one successor from one exact terminal command run. -/
def open_command_run_successor (stale db : TaskDb) (run_id : RunId) (drawn : Option DrawnDispatchRequest) :
    Result (OrdinaryOpeningOutcome × TaskDb) :=
  open_ordinary_successor stale db drawn (read_command_run_continuation_basis run_id)
    claim_command_run_continuation (pause_failed_command_run_continuation run_id)

theorem CommandRun.is_terminal_unconsumed_iff {run : CommandRun} :
    run.is_terminal_unconsumed = true ↔
      run.state.is_terminal = true ∧ run.successor_dispatch_id = none := by
  simp [CommandRun.is_terminal_unconsumed]

theorem read_command_run_continuation_basis_success {db : TaskDb} {run_id : RunId}
    {basis : OrdinaryContinuationBasis} (h : read_command_run_continuation_basis run_id db = .ok (some basis)) :
    ∃ source, db.command_runs.get? run_id = some source ∧ source.state.is_terminal = true ∧
      source.successor_dispatch_id = none ∧
      basis = command_run_continuation_basis run_id source .command_result := by
  unfold read_command_run_continuation_basis at h
  split at h
  · cases h
  · next source hsource =>
    split at h
    · next hterminal =>
      cases h
      obtain ⟨hstate, hnone⟩ := CommandRun.is_terminal_unconsumed_iff.mp hterminal
      exact ⟨source, hsource, hstate, hnone, rfl⟩
    · cases h

/-- A successful claim consumes a terminal run of the snapshot's own lane. -/
theorem claim_command_run_continuation_claims {db claimed : TaskDb} {snapshot : OrdinaryDispatchSnapshot}
    {prepared : PreparedDispatchRequest} {run_id : RunId} {source : CommandRun} {opened_reason : DispatchOpenedReason}
    (hterminal : source.state.is_terminal = true)
    (hbasis : snapshot.basis = command_run_continuation_basis run_id source opened_reason)
    (h : claim_command_run_continuation db snapshot prepared = some claimed) :
    ∃ x, ClaimsSource db claimed snapshot prepared (.command_run run_id) x := by
  have htrigger : snapshot.basis.trigger = .command_result run_id snapshot.basis.source_dispatch_id
      source.state := by rw [hbasis]; rfl
  unfold claim_command_run_continuation at h
  rw [htrigger] at h
  simp only [Option.bind_eq_bind, Option.bind_eq_some_iff, Table.updateWhere_eq_some, Bool.and_eq_true,
    beq_iff_eq, Option.isNone_iff_eq_none] at h
  obtain ⟨_, ⟨row, hrow, ⟨⟨⟨⟨⟨hassignment, hattempt⟩, hsource⟩, -⟩, hstate⟩, hnone⟩, rfl⟩, h⟩ := h
  cases h
  refine ⟨row.lane, Table.view_eq_some.mpr ⟨row, hrow, rfl⟩, ?_, hattempt, hassignment, congrArg some hsource,
    ?_, rfl, rfl⟩
  · simp [CommandRun.lane, SourcePhase.of, hnone, hstate, hterminal]
  · rw [lanes_command_run]
    rfl

end OhMySubagents
