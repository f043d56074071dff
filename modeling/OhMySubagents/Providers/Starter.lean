import Mathlib.Algebra.Group.Nat.Defs
import OhMySubagents.Control.Transitions
import OhMySubagents.Dispatch.ProviderStart
import OhMySubagents.Rows

open Relational

namespace OhMySubagents

section

/-- Whether the current Team selects a Member whose configuration requests a retired provider. The parameter
    reads the kind of a requested provider. -/
def current_team_uses_retired_provider (db : TaskDb) (is_retired_provider : String → Bool) : Bool :=
  (db.team_revisions.get? db.task.current_team_revision_id).any fun rev =>
    rev.members.any fun selected =>
      (db.member_configurations.get? selected.member_configuration_id).any fun configuration =>
        configuration.member_id == selected.member_id && configuration.content.provider_json.any is_retired_provider

/-- Pause one nonterminal Task whose current Team still selects a retired provider. -/
def pause_task_using_retired_provider (db : TaskDb) (is_retired_provider : String → Bool) : Option TaskDb := do
  ensure ((db.task.status == .running || db.task.status == .paused) &&
    current_team_uses_retired_provider db is_retired_provider && db.task.pause_reason != some .provider_retired)
  (close_current_task_dispatches { db with task := db.task.pause .provider_retired } .paused fun _ => none).toOption

variable {db db' : TaskDb} {is_retired_provider : String → Bool}

/-- A Task that is already paused only gets a new reason: none of its lanes has a Dispatch to close. -/
theorem pause_task_using_retired_provider_success (hinv : db.lanes.Invariant)
    (h : pause_task_using_retired_provider db is_retired_provider = some db') :
    TaskPaused db db' .provider_retired ∨
      db.task.status = .paused ∧ db' = { db with task := db.task.pause .provider_retired } := by
  unfold pause_task_using_retired_provider at h
  simp only [Option.bind_eq_bind, Option.bind_eq_some_iff, ensure_eq_some_iff, Bool.and_eq_true, Bool.or_eq_true,
    beq_iff_eq, toOption_eq_some_iff] at h
  obtain ⟨_, ⟨⟨hstatus | hstatus, -⟩, -⟩, hclose⟩ := h
  · exact .inl (close_current_task_dispatches_pause hstatus (by simp) hclose)
  · refine .inr ⟨hstatus, ?_⟩
    rw [close_current_task_dispatches_idle] at hclose
    · cases hclose
      rfl
    · intro a r hr
      cases hd : r.current_dispatch_id with
      | none => rfl
      | some d =>
        have hrunning := (hinv.pointers.dispatch_pointer a r.lane d (Table.view_eq_some.mpr ⟨r, hr, rfl⟩) hd).1
        exact absurd (hstatus.symm.trans hrunning) (by decide)

end

section

def ProviderStartCandidate.identity (candidate : ProviderStartCandidate) (signal : DispatchStartDue) :
    AttemptDispatchIdentity where
  assignment_id := candidate.assignment_id
  attempt_id := candidate.attempt_id
  dispatch_id := signal.dispatch_id

/-- The filter on the exact starting Dispatch that a candidate was read from. -/
def DispatchTurn.is_candidate (dispatch : DispatchTurn) (signal : DispatchStartDue)
    (candidate : ProviderStartCandidate) : Bool :=
  dispatch.assignment_id == candidate.assignment_id && dispatch.attempt_id == candidate.attempt_id &&
    dispatch.team_revision_id == candidate.team_revision_id && dispatch.member_id == candidate.member_id &&
    dispatch.is_starting_generation signal candidate

/-- Pause the Task of one exact invalid start. -/
def pause_invalid_starting_task (db : TaskDb) (signal : DispatchStartDue) (candidate : ProviderStartCandidate) :
    Option TaskDb := do
  ensure (db.task.status == .running && db.task.control_revision == candidate.task_control_revision &&
    attempt_dispatch_is_current db (candidate.identity signal) &&
    (db.dispatches.get? signal.dispatch_id).any fun dispatch => dispatch.is_candidate signal candidate &&
      current_team_selects_member db dispatch.selection)
  return { db with task := db.task.pause .runtime_transition_failed }

def close_invalid_starting_dispatch (db : TaskDb) (signal : DispatchStartDue) (candidate : ProviderStartCandidate) :
    Option TaskDb := do
  let dispatches ← db.dispatches.updateWhere signal.dispatch_id
    (fun dispatch => dispatch.is_candidate signal candidate &&
      dispatch_attempt_is_current db signal.dispatch_id dispatch)
    fun dispatch => dispatch.close .control_failed
  return { db with dispatches := dispatches }

/-- Pause one invalid start and close every runnable sibling Attempt lane. A lost race or a conflict
    rolls everything back. -/
def pause_invalid_provider_start (db : TaskDb) (signal : DispatchStartDue) (candidate : ProviderStartCandidate) :
    Option TaskDb := do
  let db ← pause_invalid_starting_task db signal candidate
  let db ← close_invalid_starting_dispatch db signal candidate
  let db ← clear_current_attempt_dispatch db (candidate.identity signal)
  (close_current_task_dispatches db .paused fun _ => none).toOption

/-- The lane of the invalid start closed first. -/
def TaskDb.fail_start (db : TaskDb) (signal : DispatchStartDue) (dispatch : DispatchTurn) (attempt : Attempt) :
    TaskDb :=
  { db with
    dispatches := db.dispatches.set signal.dispatch_id (dispatch.close .control_failed)
    attempts := db.attempts.set dispatch.attempt_id { attempt with current_dispatch_id := none } }

/-- What a pause for an invalid start leaves behind. -/
structure StartPaused (db : TaskDb) (signal : DispatchStartDue) (candidate : ProviderStartCandidate)
    (dispatch : DispatchTurn) (attempt : Attempt) (db' : TaskDb) : Prop where
  generation : StartsGeneration db signal candidate dispatch
  control : db.task.control_revision = candidate.task_control_revision
  assignment : dispatch.assignment_id = candidate.assignment_id
  attempt_id : dispatch.attempt_id = candidate.attempt_id
  attempt_row : db.attempts.get? dispatch.attempt_id = some attempt
  holds : attempt.holds (candidate.identity signal) = true
  paused : TaskPaused (db.fail_start signal dispatch attempt) db' .runtime_transition_failed

variable {db db' : TaskDb} {signal : DispatchStartDue} {candidate : ProviderStartCandidate}

theorem pause_invalid_provider_start_success (h : pause_invalid_provider_start db signal candidate = some db') :
    ∃ dispatch attempt, StartPaused db signal candidate dispatch attempt db' := by
  unfold pause_invalid_provider_start pause_invalid_starting_task close_invalid_starting_dispatch
    clear_current_attempt_dispatch at h
  simp only [Option.bind_eq_bind, Option.bind_eq_some_iff, ensure_eq_some_iff, Table.updateWhere_eq_some,
    Bool.and_eq_true, beq_iff_eq] at h
  obtain ⟨paused, ⟨_, ⟨⟨⟨hrunning, hcontrol⟩, -⟩, -⟩, hpaused⟩, closed,
    ⟨_, ⟨dispatch, hdispatch, ⟨hcandidate, hlane⟩, rfl⟩, hclosed⟩, cleared,
    ⟨_, ⟨attempt, hattempt, hholds, rfl⟩, hcleared⟩, hsiblings⟩ := h
  cases hpaused
  cases hclosed
  cases hcleared
  simp only [DispatchTurn.is_candidate, DispatchTurn.is_starting_generation, Bool.and_eq_true, beq_iff_eq]
    at hcandidate
  obtain ⟨⟨⟨⟨hassignment, hattemptId⟩, -⟩, -⟩, ⟨⟨hdue, hrevision⟩, hcount⟩⟩ := hcandidate
  have hid : dispatch.attempt_id = (candidate.identity signal).attempt_id := hattemptId
  rw [← hid] at hattempt hsiblings
  refine ⟨dispatch, attempt, ⟨hdispatch, hdue, hrevision, hcount, hlane, hrunning⟩, hcontrol, hassignment,
    hattemptId, hattempt, hholds, ?_⟩
  exact close_current_task_dispatches_pause hrunning (by simp) (toOption_eq_some_iff.mp hsiblings)

/-- An invalid start halts its own lane, then every other one, and pauses the Task. -/
theorem StartPaused.steps {dispatch : DispatchTurn} {attempt : Attempt}
    (h : StartPaused db signal candidate dispatch attempt db') (hinv : db.lanes.Invariant) :
    Lanes.Steps db.lanes db'.lanes := by
  obtain ⟨hassignment, hstatus, hcurrent, hwait⟩ := Attempt.holds_iff.mp h.holds
  obtain ⟨kind, hstarting⟩ := DispatchTurn.starting_of_next h.generation.due
  have hhalt : Lanes.Step db.lanes (db.fail_start signal dispatch attempt).lanes := by
    rw [TaskDb.fail_start, lanes_release]
    refine .halt ⟨h.generation.running, ?_, hstatus, hcurrent, hwait, ?_, rfl, ?_, ?_⟩ (.inr (.inl rfl))
    · exact Table.view_eq_some.mpr ⟨attempt, h.attempt_row, rfl⟩
    · exact Table.view_eq_some.mpr ⟨dispatch, h.generation.row, rfl⟩
    · exact h.assignment.trans hassignment.symm
    · simp [DispatchTurn.lane, DispatchStatus.closed_reason, hstarting]
  exact .head hhalt (h.paused.steps (hinv.step hhalt))

end

/-- What one external start call of an adapter ended with. -/
inductive ProviderStartCall
  | accepted
  | definite_failure
  | uncertain_acceptance
  deriving DecidableEq, Repr

/-- How one due generation was handled: its request is invalid, it was recovered by the startup audit, or
    its adapter was called. -/
inductive ProviderStartHandling
  | invalid
  | recovered
  | called (call : ProviderStartCall)
  deriving DecidableEq, Repr

/-- `_next_retry_signal`: the next generation after an exponential backoff. -/
def next_retry_signal (settings : RuntimeSettings) (signal : DispatchStartDue) (attempt_count : Nat)
    (now : Instant) : DispatchStartDue where
  dispatch_id := signal.dispatch_id
  provider_start_revision := signal.provider_start_revision + 1
  due_at := now + min settings.dispatch_launch_retry_max_backoff_seconds
    (settings.dispatch_launch_retry_initial_backoff_seconds * 2 ^ min attempt_count 63)

/-- `_record_provider_failure`: commit the next generation. -/
def record_provider_failure (settings : RuntimeSettings) (db : TaskDb) (signal : DispatchStartDue)
    (candidate : ProviderStartCandidate) (failure_kind : ProviderStartRetryKind) (now : Instant) : Option TaskDb :=
  rotate_provider_start_after_failure db signal candidate
    (next_retry_signal settings signal candidate.provider_start_attempt_count now) failure_kind

/-- The transaction that records how one due generation was handled; a loser changes nothing. An acceptance
    whose commit is ambiguous is reread, and then recorded as an uncertain failure if it is not found. -/
def record_provider_start (settings : RuntimeSettings) (db : TaskDb) (signal : DispatchStartDue)
    (candidate : ProviderStartCandidate) (handling : ProviderStartHandling) (now : Instant) : Option TaskDb :=
  match handling with
  | .invalid => pause_invalid_provider_start db signal candidate
  | .recovered => record_provider_failure settings db signal candidate .uncertain_acceptance now
  | .called .accepted => accept_provider_start_if_current db signal candidate now
  | .called .definite_failure => record_provider_failure settings db signal candidate .definite_failure now
  | .called .uncertain_acceptance =>
    if read_provider_start_acceptance_after_commit db signal candidate then none
    else record_provider_failure settings db signal candidate .uncertain_acceptance now

/-- Process one due exact generation once. `stale` are the rows that its candidate was read from. -/
def start_due_dispatch (settings : RuntimeSettings) (stale db : TaskDb) (signal : DispatchStartDue)
    (handling : ProviderStartHandling) (observed_at recorded_at : Instant) : Option TaskDb := do
  ensure (signal.due_at ≤ observed_at)
  let candidate ← read_provider_start_candidate stale signal
  record_provider_start settings db signal candidate handling recorded_at

/-- Everything that one handled generation can leave behind. -/
inductive ProviderStartRecorded (settings : RuntimeSettings) (db : TaskDb) (signal : DispatchStartDue)
    (candidate : ProviderStartCandidate) (now : Instant) : TaskDb → Prop
  | accepted {dispatch} (generation : StartsGeneration db signal candidate dispatch) :
      ProviderStartRecorded settings db signal candidate now
        { db with dispatches := db.dispatches.set signal.dispatch_id (dispatch.accept_start now) }
  | rotated {dispatch failure_kind} (generation : StartsGeneration db signal candidate dispatch) :
      ProviderStartRecorded settings db signal candidate now
        { db with
          dispatches := db.dispatches.set signal.dispatch_id (dispatch.rotate_start
            (next_retry_signal settings signal candidate.provider_start_attempt_count now) failure_kind) }
  | paused {dispatch attempt db'} (paused : StartPaused db signal candidate dispatch attempt db') :
      ProviderStartRecorded settings db signal candidate now db'

variable {settings : RuntimeSettings} {stale db db' : TaskDb} {signal : DispatchStartDue}
  {candidate : ProviderStartCandidate} {handling : ProviderStartHandling} {now : Instant}

private theorem record_provider_failure_success {failure_kind : ProviderStartRetryKind}
    (h : record_provider_failure settings db signal candidate failure_kind now = some db') :
    ProviderStartRecorded settings db signal candidate now db' := by
  obtain ⟨dispatch, hgeneration, rfl⟩ := rotate_provider_start_success h
  exact .rotated hgeneration

theorem record_provider_start_success (h : record_provider_start settings db signal candidate handling now = some db') :
    ProviderStartRecorded settings db signal candidate now db' := by
  cases handling with
  | invalid =>
    obtain ⟨dispatch, attempt, hpaused⟩ := pause_invalid_provider_start_success h
    exact .paused hpaused
  | recovered => exact record_provider_failure_success h
  | called call =>
    cases call with
    | accepted =>
      obtain ⟨dispatch, hgeneration, rfl⟩ := accept_provider_start_success h
      exact .accepted hgeneration
    | definite_failure => exact record_provider_failure_success h
    | uncertain_acceptance =>
      rw [record_provider_start] at h
      split at h
      · cases h
      · exact record_provider_failure_success h

theorem start_due_dispatch_success {observed_at : Instant}
    (h : start_due_dispatch settings stale db signal handling observed_at now = some db') :
    signal.due_at ≤ observed_at ∧ ∃ candidate, read_provider_start_candidate stale signal = some candidate ∧
      ProviderStartRecorded settings db signal candidate now db' := by
  unfold start_due_dispatch at h
  simp only [Option.bind_eq_bind, Option.bind_eq_some_iff, ensure_eq_some_iff, decide_eq_true_eq] at h
  obtain ⟨_, hdue, candidate, hread, hrecord⟩ := h
  exact ⟨hdue, candidate, hread, record_provider_start_success hrecord⟩

/-- An accepted or rotated generation is the same lane; an invalid one halts every lane. -/
theorem ProviderStartRecorded.steps (hinv : db.lanes.Invariant)
    (h : ProviderStartRecorded settings db signal candidate now db') : Lanes.Steps db.lanes db'.lanes := by
  cases h with
  | accepted generation => rw [lanes_live_dispatch generation.row generation.accept_lanes]
  | rotated generation => rw [lanes_live_dispatch generation.row generation.rotate_lanes]
  | paused paused => exact paused.steps hinv

end OhMySubagents
