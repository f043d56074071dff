import OhMySubagents.Dispatch.Currentness
import OhMySubagents.Lanes.Abstraction
import OhMySubagents.Lanes.Participation
import OhMySubagents.Dispatch.OrdinaryContinuation
import OhMySubagents.Lanes.Pointers

open Relational

namespace OhMySubagents

/-- `DELETE FROM attempt_waits … RETURNING`: the filter names a unique source, so at most one row goes. -/
def delete_attempt_wait (db : TaskDb) (wait : AttemptWait) : Option (WaitId × TaskDb) :=
  ((db.attempt_waits.select fun _ other => other == wait).head?).map fun row =>
    (row.1, { db with attempt_waits := db.attempt_waits.delete row.1 })

/-- The rows after the wait of one Attempt was cleared and deleted. -/
def TaskDb.clear_wait (db : TaskDb) (wait_id : WaitId) (attempt_id : AttemptId) (attempt : Attempt) : TaskDb :=
  { db with
    attempts := db.attempts.set attempt_id { attempt with current_wait_id := none }
    attempt_waits := db.attempt_waits.delete wait_id }

/-- One Attempt waits for exactly this source. -/
structure WaitsFor (db : TaskDb) (wait_id : WaitId) (wait : AttemptWait) (attempt : Attempt) : Prop where
  wait_row : db.attempt_waits.get? wait_id = some wait
  attempt_row : db.attempts.get? wait.attempt_id = some attempt
  attempt_assignment : attempt.assignment_id = wait.assignment_id
  running : attempt.status = .running
  no_dispatch : attempt.current_dispatch_id = none
  waiting : attempt.current_wait_id = some wait_id

theorem delete_attempt_wait_success {db db' : TaskDb} {wait : AttemptWait} {wait_id : WaitId}
    (h : delete_attempt_wait db wait = some (wait_id, db')) :
    db.attempt_waits.get? wait_id = some wait ∧
      db' = { db with attempt_waits := db.attempt_waits.delete wait_id } := by
  unfold delete_attempt_wait at h
  simp only [Option.map_eq_some_iff, Prod.mk.injEq] at h
  obtain ⟨row, hrow, rfl, rfl⟩ := h
  obtain ⟨hget, heq⟩ := Table.mem_select_iff.mp (List.mem_of_mem_head? (Option.mem_def.mpr hrow))
  rw [beq_iff_eq] at heq
  exact ⟨heq ▸ hget, rfl⟩

theorem TaskDb.clear_wait_lanes (db : TaskDb) (wait_id : WaitId) (attempt_id : AttemptId) (attempt : Attempt) :
    (db.clear_wait wait_id attempt_id attempt).lanes = db.lanes.unpark attempt_id attempt.lane wait_id := by
  apply Lanes.ext <;> first | rfl | simp [TaskDb.clear_wait, Attempt.lane]

/-- Clearing a wait whose source became terminal settles that source in the lanes. -/
theorem WaitsFor.settle_step {db db' : TaskDb} {wait_id : WaitId} {wait : AttemptWait} {attempt : Attempt}
    {x : LaneSource} (h : WaitsFor db wait_id wait attempt) (active : db.lanes.Active)
    (row : db.lanes.sources wait.source.source_id = some x) (unresolved : x.phase = .unresolved)
    (joined : ∀ wave k m, wait.source.source_id = .delegation_wave wave →
      db.lanes.wave_members (wave, k) = some m → m.status.is_settled = true)
    (lanes : db'.lanes = (db.clear_wait wait_id wait.attempt_id attempt).lanes.putSource wait.source.source_id
      { x with phase := .resolved }) : Lanes.Step db.lanes db'.lanes := by
  rw [lanes, TaskDb.clear_wait_lanes]
  exact .settle active (Table.view_eq_some.mpr ⟨wait, h.wait_row, rfl⟩)
    (Table.view_eq_some.mpr ⟨attempt, h.attempt_row, rfl⟩) rfl h.waiting rfl row unresolved joined

/-- What an opening needs of the rows, besides a free lane: the Dispatch that it follows is closed, its
    Assignment is open, and the current Team selects what the snapshot pinned. -/
structure LaneReady (db : TaskDb) (snapshot : OrdinaryDispatchSnapshot) (source : DispatchTurn)
    (assignment : Assignment) : Prop where
  source_row : db.dispatches.get? snapshot.basis.source_dispatch_id = some source
  source_assignment : source.assignment_id = snapshot.basis.assignment_id
  source_attempt : source.attempt_id = snapshot.basis.attempt_id
  source_closed : source.status = .closed snapshot.basis.source_dispatch_closed_reason
  team : db.task.current_team_revision_id = snapshot.team_revision_id
  selected : current_team_selects_member db snapshot.selection = true
  assignment_row : db.assignments.get? snapshot.basis.assignment_id = some assignment
  assignment_member : assignment.member_id = snapshot.selection.member_id
  assignment_attempt : assignment.current_attempt_id = snapshot.basis.attempt_id
  assignment_open : assignment.terminal_outcome = none

/-- What a claim does to the source that it claims: a resolved row becomes consumed. -/
structure ClaimsSource (db claimed : TaskDb) (snapshot : OrdinaryDispatchSnapshot)
    (prepared : PreparedDispatchRequest) (s : SourceId) (x : LaneSource) : Prop where
  row : db.lanes.sources s = some x
  resolved : x.phase = .resolved
  attempt : x.attempt_id = snapshot.basis.attempt_id
  assignment : x.assignment_id = snapshot.basis.assignment_id
  source_dispatch : x.source_dispatch_id = some snapshot.basis.source_dispatch_id
  lanes : claimed.lanes = db.lanes.putSource s { x with phase := .consumed prepared.dispatch_id }
  attempts : claimed.attempts = db.attempts
  dispatches : claimed.dispatches = db.dispatches

variable {db claimed db' : TaskDb} {snapshot : OrdinaryDispatchSnapshot} {prepared : PreparedDispatchRequest}
  {source : DispatchTurn} {assignment : Assignment} {attempt : Attempt} {s : SourceId} {x : LaneSource}

theorem ContextCurrent.ready (h : ContextCurrent db snapshot source assignment attempt) :
    LaneReady db snapshot source assignment :=
  ⟨h.source_row, h.source_assignment, h.source_attempt, h.source_closed, h.team, h.selected, h.assignment_row,
    h.assignment_member, h.assignment_attempt, h.assignment_open⟩

theorem Attempt.accepts_iff {assignment_id : AssignmentId} {predecessor : Option DispatchId} :
    attempt.accepts assignment_id predecessor = true ↔ attempt.assignment_id = assignment_id ∧
      attempt.status = .running ∧ attempt.current_wait_id = none ∧ (attempt.current_dispatch_id = none ∨
        predecessor.isSome = true ∧ attempt.current_dispatch_id = predecessor) := by
  simp [Attempt.accepts, and_assoc]

theorem lanes_occupy (d : DispatchId) (q : DispatchTurn) (a : AttemptId) (r : Attempt) :
    ({ db with
      attempts := db.attempts.set a { r with current_dispatch_id := some d }
      dispatches := db.dispatches.set d q } : TaskDb).lanes = db.lanes.occupy d q.lane a r.lane := by
  apply Lanes.ext <;> first | rfl | simp [Attempt.lane]

/-- A lane that accepts a successor of a closed Dispatch is free: what it points at would be live. -/
theorem LaneReady.idle (h : LaneReady db snapshot source assignment) (hp : db.lanes.Pointers)
    (row : db.attempts.get? snapshot.basis.attempt_id = some attempt)
    (haccepts : attempt.accepts snapshot.basis.assignment_id (some snapshot.basis.source_dispatch_id) = true) :
    attempt.lane.Idle ∧ attempt.assignment_id = snapshot.basis.assignment_id := by
  obtain ⟨hassignment, hrunning, hwait, hdispatch⟩ := Attempt.accepts_iff.mp haccepts
  refine ⟨⟨hrunning, ?_, hwait⟩, hassignment⟩
  rcases hdispatch with hnone | ⟨-, hcurrent⟩
  · exact hnone
  · obtain ⟨-, -, -, q, hq, -, hlive⟩ := hp.dispatch_pointer _ attempt.lane _
      (Table.view_eq_some.mpr ⟨attempt, row, rfl⟩) hcurrent
    obtain ⟨q', hq', rfl⟩ := Table.view_eq_some.mp hq
    rw [h.source_row] at hq'
    cases hq'
    rw [DispatchTurn.lane, h.source_closed] at hlive
    cases hlive

theorem LaneReady.serves (h : LaneReady db snapshot source assignment)
    (hassignment : attempt.assignment_id = snapshot.basis.assignment_id) :
    db.lanes.Serves attempt.lane.assignment_id snapshot.basis.attempt_id assignment.lane :=
  ⟨Table.view_eq_some.mpr ⟨assignment, by rw [← h.assignment_row, ← hassignment]; rfl, rfl⟩,
    h.assignment_attempt, h.assignment_open⟩

theorem LaneReady.fits (h : LaneReady db snapshot source assignment)
    (hinsert : DispatchInsertable db prepared.dispatch_id
      (build_starting_dispatch_model snapshot.starting_basis prepared)) :
    db.lanes.Fits prepared.dispatch_id (build_starting_dispatch_model snapshot.starting_basis prepared).lane
      assignment.lane.member_id where
  fresh := Table.view_eq_none.mpr hinsert.fresh
  live := rfl
  revision := h.team.symm
  selected := team_revision_selects_member_iff.mp h.selected
  member := h.assignment_member.symm
  predecessor d' q' hq' hsome := by
    obtain ⟨other, hother, rfl⟩ := Table.view_eq_some.mp hq'
    exact hinsert.follows_alone d' other hother hsome

/-- Claiming a source and staging its Dispatch opens the one successor of that source. -/
theorem stage_successor_step (hp : db.lanes.Pointers) (running : db.task.status = .running)
    (ready : LaneReady db snapshot source assignment) (claims : ClaimsSource db claimed snapshot prepared s x)
    (hopened : snapshot.basis.opened_reason ≠ .watchdog_recovery)
    (h : stage_starting_dispatch claimed snapshot.starting_basis prepared = .ok db') :
    Lanes.Step db.lanes db'.lanes := by
  obtain ⟨attempt, hattempt, haccepts, hinsert, rfl⟩ := stage_starting_dispatch_eq_ok.mp h
  rw [claims.attempts] at hattempt
  have hinsert' : DispatchInsertable db prepared.dispatch_id
      (build_starting_dispatch_model snapshot.starting_basis prepared) := by
    obtain ⟨h1, h2, h3, h4⟩ := hinsert
    rw [claims.dispatches] at h1 h2 h3 h4
    exact ⟨h1, h2, h3, h4⟩
  obtain ⟨idle, hassignment⟩ := ready.idle hp hattempt haccepts
  have hrow : db.lanes.attempts snapshot.basis.attempt_id = some attempt.lane :=
    Table.view_eq_some.mpr ⟨attempt, hattempt, rfl⟩
  have hstep := Lanes.Step.open_successor (d := prepared.dispatch_id)
    (q := (build_starting_dispatch_model snapshot.starting_basis prepared).lane) running claims.row claims.resolved
    claims.attempt (claims.assignment.trans hassignment.symm) hrow idle (ready.serves hassignment)
    (ready.fits hinsert') ⟨hassignment.symm, rfl, claims.source_dispatch.symm⟩ hopened
  rw [lanes_occupy, claims.lanes]
  exact hstep

/-- Staging a Dispatch after the closed tail of a lane continues that lane. -/
theorem stage_tail_step (hp : db.lanes.Pointers) (running : db.task.status = .running)
    (ready : LaneReady db snapshot source assignment)
    (htail : snapshot.basis.source_dispatch_closed_reason.is_tail = true)
    (hopened : snapshot.basis.opened_reason ≠ .watchdog_recovery)
    (h : stage_starting_dispatch db snapshot.starting_basis prepared = .ok db') :
    Lanes.Step db.lanes db'.lanes := by
  obtain ⟨attempt, hattempt, haccepts, hinsert, rfl⟩ := stage_starting_dispatch_eq_ok.mp h
  obtain ⟨idle, hassignment⟩ := ready.idle hp hattempt haccepts
  have hrow : db.lanes.attempts snapshot.basis.attempt_id = some attempt.lane :=
    Table.view_eq_some.mpr ⟨attempt, hattempt, rfl⟩
  have htailrow : db.lanes.dispatches snapshot.basis.source_dispatch_id = some source.lane :=
    Table.view_eq_some.mpr ⟨source, ready.source_row, rfl⟩
  have hclosed : source.lane.closed_reason = some snapshot.basis.source_dispatch_closed_reason := by
    rw [DispatchTurn.lane, ready.source_closed]
    rfl
  rw [lanes_occupy]
  exact .open_tail running htailrow hclosed htail ready.source_attempt hrow idle (ready.serves hassignment)
    (ready.fits hinsert) ⟨hassignment.symm, rfl, rfl⟩ hopened

/-- An ordinary commit opens the one successor of the source that it claims. -/
theorem commit_ordinary_dispatch_step {claim_source : OrdinarySourceClaim} (hp : db.lanes.Pointers)
    (hstatus : snapshot.expected_task_status = .running)
    (hclaims : ∀ source assignment claimed, LaneReady db snapshot source assignment →
      claim_source db snapshot prepared = some claimed → ∃ s x, ClaimsSource db claimed snapshot prepared s x)
    (hopened : snapshot.basis.opened_reason ≠ .watchdog_recovery)
    (h : commit_ordinary_dispatch_if_current db snapshot prepared claim_source false = .ok (some db')) :
    Lanes.Step db.lanes db'.lanes := by
  obtain ⟨_, claimed, htask, hclaim, hstage⟩ := commit_ordinary_dispatch_if_current_success.mp h
  obtain ⟨hrunning, -, -, ⟨source, assignment, attempt, hcontext⟩, rfl⟩ := claim_ordinary_task_eq_some.mp htask
  obtain ⟨s, x, claims⟩ := hclaims source assignment claimed hcontext.ready hclaim
  exact stage_successor_step hp (hrunning.trans hstatus) hcontext.ready claims hopened hstage

end OhMySubagents
