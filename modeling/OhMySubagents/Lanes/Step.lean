import OhMySubagents.Lanes.State
import OhMySubagents.Team.Currentness
import OhMySubagents.Team.History

open Relational

namespace OhMySubagents

namespace Lanes

@[simps -fullyApplied] def putAssignment (lanes : Lanes) (id : AssignmentId) (row : LaneAssignment) : Lanes :=
  { lanes with assignments := Function.update lanes.assignments id (some row) }

@[simps -fullyApplied] def putAttempt (lanes : Lanes) (id : AttemptId) (row : LaneAttempt) : Lanes :=
  { lanes with attempts := Function.update lanes.attempts id (some row) }

@[simps -fullyApplied] def putDispatch (lanes : Lanes) (id : DispatchId) (row : LaneDispatch) : Lanes :=
  { lanes with dispatches := Function.update lanes.dispatches id (some row) }

@[simps -fullyApplied] def putWait (lanes : Lanes) (id : WaitId) (row : Option AttemptWait) : Lanes :=
  { lanes with waits := Function.update lanes.waits id row }

@[simps -fullyApplied] def putSource (lanes : Lanes) (id : SourceId) (row : LaneSource) : Lanes :=
  { lanes with sources := Function.update lanes.sources id (some row) }

@[simps -fullyApplied] def putWaveMember (lanes : Lanes) (id : WaveId × Nat) (row : LaneWaveMember) : Lanes :=
  { lanes with wave_members := Function.update lanes.wave_members id (some row) }

@[simps -fullyApplied] def putBoundary (lanes : Lanes) (id : DispatchId) (row : LaneBoundary) : Lanes :=
  { lanes with boundaries := Function.update lanes.boundaries id (some row) }

theorem putAssignment_fields (lanes : Lanes) (id : AssignmentId) (row : LaneAssignment) :
    (lanes.putAssignment id row).status = lanes.status ∧
    (lanes.putAssignment id row).root_assignment_id = lanes.root_assignment_id ∧
    (lanes.putAssignment id row).current_team_revision_id = lanes.current_team_revision_id ∧
    (lanes.putAssignment id row).result_boundary_id = lanes.result_boundary_id ∧
    (lanes.putAssignment id row).team = lanes.team ∧
    (∀ k, (lanes.putAssignment id row).assignments k = if k = id then some row else lanes.assignments k) ∧
    (∀ k, (lanes.putAssignment id row).attempts k = lanes.attempts k) ∧
    (∀ k, (lanes.putAssignment id row).dispatches k = lanes.dispatches k) ∧
    (∀ k, (lanes.putAssignment id row).waits k = lanes.waits k) ∧
    (∀ k, (lanes.putAssignment id row).sources k = lanes.sources k) ∧
    (∀ k, (lanes.putAssignment id row).wave_members k = lanes.wave_members k) ∧
    (∀ k, (lanes.putAssignment id row).boundaries k = lanes.boundaries k) := by
  simp [putAssignment, Function.update_apply]

grind_pattern putAssignment_fields => lanes.putAssignment id row

theorem putAttempt_fields (lanes : Lanes) (id : AttemptId) (row : LaneAttempt) :
    (lanes.putAttempt id row).status = lanes.status ∧
    (lanes.putAttempt id row).root_assignment_id = lanes.root_assignment_id ∧
    (lanes.putAttempt id row).current_team_revision_id = lanes.current_team_revision_id ∧
    (lanes.putAttempt id row).result_boundary_id = lanes.result_boundary_id ∧
    (lanes.putAttempt id row).team = lanes.team ∧
    (∀ k, (lanes.putAttempt id row).assignments k = lanes.assignments k) ∧
    (∀ k, (lanes.putAttempt id row).attempts k = if k = id then some row else lanes.attempts k) ∧
    (∀ k, (lanes.putAttempt id row).dispatches k = lanes.dispatches k) ∧
    (∀ k, (lanes.putAttempt id row).waits k = lanes.waits k) ∧
    (∀ k, (lanes.putAttempt id row).sources k = lanes.sources k) ∧
    (∀ k, (lanes.putAttempt id row).wave_members k = lanes.wave_members k) ∧
    (∀ k, (lanes.putAttempt id row).boundaries k = lanes.boundaries k) := by
  simp [putAttempt, Function.update_apply]

grind_pattern putAttempt_fields => lanes.putAttempt id row

theorem putDispatch_fields (lanes : Lanes) (id : DispatchId) (row : LaneDispatch) :
    (lanes.putDispatch id row).status = lanes.status ∧
    (lanes.putDispatch id row).root_assignment_id = lanes.root_assignment_id ∧
    (lanes.putDispatch id row).current_team_revision_id = lanes.current_team_revision_id ∧
    (lanes.putDispatch id row).result_boundary_id = lanes.result_boundary_id ∧
    (lanes.putDispatch id row).team = lanes.team ∧
    (∀ k, (lanes.putDispatch id row).assignments k = lanes.assignments k) ∧
    (∀ k, (lanes.putDispatch id row).attempts k = lanes.attempts k) ∧
    (∀ k, (lanes.putDispatch id row).dispatches k = if k = id then some row else lanes.dispatches k) ∧
    (∀ k, (lanes.putDispatch id row).waits k = lanes.waits k) ∧
    (∀ k, (lanes.putDispatch id row).sources k = lanes.sources k) ∧
    (∀ k, (lanes.putDispatch id row).wave_members k = lanes.wave_members k) ∧
    (∀ k, (lanes.putDispatch id row).boundaries k = lanes.boundaries k) := by
  simp [putDispatch, Function.update_apply]

grind_pattern putDispatch_fields => lanes.putDispatch id row

theorem putWait_fields (lanes : Lanes) (id : WaitId) (row : Option AttemptWait) :
    (lanes.putWait id row).status = lanes.status ∧
    (lanes.putWait id row).root_assignment_id = lanes.root_assignment_id ∧
    (lanes.putWait id row).current_team_revision_id = lanes.current_team_revision_id ∧
    (lanes.putWait id row).result_boundary_id = lanes.result_boundary_id ∧
    (lanes.putWait id row).team = lanes.team ∧
    (∀ k, (lanes.putWait id row).assignments k = lanes.assignments k) ∧
    (∀ k, (lanes.putWait id row).attempts k = lanes.attempts k) ∧
    (∀ k, (lanes.putWait id row).dispatches k = lanes.dispatches k) ∧
    (∀ k, (lanes.putWait id row).waits k = if k = id then row else lanes.waits k) ∧
    (∀ k, (lanes.putWait id row).sources k = lanes.sources k) ∧
    (∀ k, (lanes.putWait id row).wave_members k = lanes.wave_members k) ∧
    (∀ k, (lanes.putWait id row).boundaries k = lanes.boundaries k) := by
  simp [putWait, Function.update_apply]

grind_pattern putWait_fields => lanes.putWait id row

theorem putSource_fields (lanes : Lanes) (id : SourceId) (row : LaneSource) :
    (lanes.putSource id row).status = lanes.status ∧
    (lanes.putSource id row).root_assignment_id = lanes.root_assignment_id ∧
    (lanes.putSource id row).current_team_revision_id = lanes.current_team_revision_id ∧
    (lanes.putSource id row).result_boundary_id = lanes.result_boundary_id ∧
    (lanes.putSource id row).team = lanes.team ∧
    (∀ k, (lanes.putSource id row).assignments k = lanes.assignments k) ∧
    (∀ k, (lanes.putSource id row).attempts k = lanes.attempts k) ∧
    (∀ k, (lanes.putSource id row).dispatches k = lanes.dispatches k) ∧
    (∀ k, (lanes.putSource id row).waits k = lanes.waits k) ∧
    (∀ k, (lanes.putSource id row).sources k = if k = id then some row else lanes.sources k) ∧
    (∀ k, (lanes.putSource id row).wave_members k = lanes.wave_members k) ∧
    (∀ k, (lanes.putSource id row).boundaries k = lanes.boundaries k) := by
  simp [putSource, Function.update_apply]

grind_pattern putSource_fields => lanes.putSource id row

theorem putWaveMember_fields (lanes : Lanes) (id : WaveId × Nat) (row : LaneWaveMember) :
    (lanes.putWaveMember id row).status = lanes.status ∧
    (lanes.putWaveMember id row).root_assignment_id = lanes.root_assignment_id ∧
    (lanes.putWaveMember id row).current_team_revision_id = lanes.current_team_revision_id ∧
    (lanes.putWaveMember id row).result_boundary_id = lanes.result_boundary_id ∧
    (lanes.putWaveMember id row).team = lanes.team ∧
    (∀ k, (lanes.putWaveMember id row).assignments k = lanes.assignments k) ∧
    (∀ k, (lanes.putWaveMember id row).attempts k = lanes.attempts k) ∧
    (∀ k, (lanes.putWaveMember id row).dispatches k = lanes.dispatches k) ∧
    (∀ k, (lanes.putWaveMember id row).waits k = lanes.waits k) ∧
    (∀ k, (lanes.putWaveMember id row).sources k = lanes.sources k) ∧
    (∀ k, (lanes.putWaveMember id row).wave_members k = if k = id then some row else lanes.wave_members k) ∧
    (∀ k, (lanes.putWaveMember id row).boundaries k = lanes.boundaries k) := by
  simp [putWaveMember, Function.update_apply]

grind_pattern putWaveMember_fields => lanes.putWaveMember id row

theorem putBoundary_fields (lanes : Lanes) (id : DispatchId) (row : LaneBoundary) :
    (lanes.putBoundary id row).status = lanes.status ∧
    (lanes.putBoundary id row).root_assignment_id = lanes.root_assignment_id ∧
    (lanes.putBoundary id row).current_team_revision_id = lanes.current_team_revision_id ∧
    (lanes.putBoundary id row).result_boundary_id = lanes.result_boundary_id ∧
    (lanes.putBoundary id row).team = lanes.team ∧
    (∀ k, (lanes.putBoundary id row).assignments k = lanes.assignments k) ∧
    (∀ k, (lanes.putBoundary id row).attempts k = lanes.attempts k) ∧
    (∀ k, (lanes.putBoundary id row).dispatches k = lanes.dispatches k) ∧
    (∀ k, (lanes.putBoundary id row).waits k = lanes.waits k) ∧
    (∀ k, (lanes.putBoundary id row).sources k = lanes.sources k) ∧
    (∀ k, (lanes.putBoundary id row).wave_members k = lanes.wave_members k) ∧
    (∀ k, (lanes.putBoundary id row).boundaries k = if k = id then some row else lanes.boundaries k) := by
  simp [putBoundary, Function.update_apply]

grind_pattern putBoundary_fields => lanes.putBoundary id row

/-- The Task still has lanes that run or may run again. -/
def Active (lanes : Lanes) : Prop := lanes.status = .running ∨ lanes.status = .paused

/-- One live Dispatch holds the lane of its running Attempt. -/
structure Holds (lanes : Lanes) (d : DispatchId) (a : AttemptId) (q : LaneDispatch) (r : LaneAttempt) :
    Prop where
  running : lanes.status = .running
  attempt : lanes.attempts a = some r
  attempt_running : r.status = .running
  current : r.current_dispatch_id = some d
  no_wait : r.current_wait_id = none
  dispatch : lanes.dispatches d = some q
  dispatch_attempt : q.attempt_id = a
  dispatch_assignment : q.assignment_id = r.assignment_id
  live : q.closed_reason = none

/-- The Assignment of a lane is open and runs that lane. -/
structure Serves (lanes : Lanes) (i : AssignmentId) (a : AttemptId) (c : LaneAssignment) : Prop where
  row : lanes.assignments i = some c
  attempt : c.current_attempt_id = a
  is_open : c.terminal_outcome = none

/-- A new Dispatch fits the current Team and the Assignment it works on. -/
structure Fits (lanes : Lanes) (d : DispatchId) (q : LaneDispatch) (member : MemberId) : Prop where
  fresh : lanes.dispatches d = none
  live : q.closed_reason = none
  revision : q.team_revision_id = lanes.current_team_revision_id
  selected : lanes.SelectedNow q.selection
  member : q.selection.member_id = member
  predecessor : ∀ d' q', lanes.dispatches d' = some q' → q.predecessor_dispatch_id.isSome →
    q'.predecessor_dispatch_id ≠ q.predecessor_dispatch_id

/-- Every direct child that a green boundary needs has one of its own, authored under exactly the
    selection that the closing Dispatch's Team revision shows. -/
def Participated (lanes : Lanes) (q : LaneDispatch) : Prop :=
  ∀ rev, lanes.team.team_revisions.get? q.team_revision_id = some rev →
    ∀ child ∈ rev.children q.selection.member_id, ∃ selected d' b' q',
      rev.select child = some selected ∧ lanes.boundaries d' = some b' ∧ b'.outcome = .green ∧
        lanes.dispatches d' = some q' ∧ q'.selection =
          ⟨child, selected.member_configuration_id, selected.member_branch_basis_id⟩

/-- The Dispatch closes and its lane is free. -/
@[simps! -fullyApplied] def release (lanes : Lanes) (d : DispatchId) (q : LaneDispatch) (a : AttemptId)
    (r : LaneAttempt) (reason : DispatchClosedReason) : Lanes :=
  (lanes.putDispatch d (q.close reason)).putAttempt a r.free

/-- A Dispatch opens in a free lane. -/
@[simps! -fullyApplied] def occupy (lanes : Lanes) (d : DispatchId) (q : LaneDispatch) (a : AttemptId)
    (r : LaneAttempt) : Lanes :=
  (lanes.putDispatch d q).putAttempt a { r with current_dispatch_id := some d }

/-- A free lane starts to wait. -/
@[simps! -fullyApplied] def park (lanes : Lanes) (a : AttemptId) (r : LaneAttempt) (w : WaitId)
    (v : AttemptWait) : Lanes :=
  (lanes.putAttempt a { r with current_wait_id := some w }).putWait w (some v)

/-- A waiting lane is free again. -/
@[simps! -fullyApplied] def unpark (lanes : Lanes) (a : AttemptId) (r : LaneAttempt) (w : WaitId) : Lanes :=
  (lanes.putAttempt a { r with current_wait_id := none }).putWait w none

/-- A free lane ends, and closes its Assignment. -/
@[simps! -fullyApplied] def finish (lanes : Lanes) (a : AttemptId) (r : LaneAttempt) (c : LaneAssignment)
    (outcome : TerminalOutcome) : Lanes :=
  (lanes.putAttempt a { r with status := .completed }).putAssignment r.assignment_id
    { c with terminal_outcome := some outcome }

/-- A free lane ends, and a fresh one works on its Assignment. -/
@[simps! -fullyApplied] def hand_over (lanes : Lanes) (a : AttemptId) (r : LaneAttempt) (c : LaneAssignment)
    (a' : AttemptId) :
    Lanes :=
  ((lanes.putAttempt a { r with status := .completed }).putAttempt a'
    (LaneAttempt.start r.assignment_id)).putAssignment r.assignment_id { c with current_attempt_id := a' }

/-- A new Assignment starts with a free lane. -/
@[simps! -fullyApplied] def enlist (lanes : Lanes) (i : AssignmentId) (c : LaneAssignment) : Lanes :=
  (lanes.putAssignment i c).putAttempt c.current_attempt_id (LaneAttempt.start i)

@[simps -fullyApplied] def putTeam (lanes : Lanes) (team : TeamTables) (id : RevisionId) : Lanes :=
  { lanes with team := team, current_team_revision_id := id }

@[simps -fullyApplied] def putStatus (lanes : Lanes) (status : TaskStatus) (result : Option DispatchId) : Lanes :=
  { lanes with status := status, result_boundary_id := result }

/-- Every lane that is left ends without an outcome. -/
@[simps! -fullyApplied] def drop_lanes (lanes : Lanes) : Lanes :=
  { lanes with
    attempts := fun a => (lanes.attempts a).map LaneAttempt.cancel
    wave_members := fun k => (lanes.wave_members k).map LaneWaveMember.cancel }

theorem putTeam_fields (lanes : Lanes) (team : TeamTables) (id : RevisionId) :
    (lanes.putTeam team id).status = lanes.status ∧
    (lanes.putTeam team id).root_assignment_id = lanes.root_assignment_id ∧
    (lanes.putTeam team id).current_team_revision_id = id ∧
    (lanes.putTeam team id).result_boundary_id = lanes.result_boundary_id ∧
    (lanes.putTeam team id).team = team ∧
    (∀ k, (lanes.putTeam team id).assignments k = lanes.assignments k) ∧
    (∀ k, (lanes.putTeam team id).attempts k = lanes.attempts k) ∧
    (∀ k, (lanes.putTeam team id).dispatches k = lanes.dispatches k) ∧
    (∀ k, (lanes.putTeam team id).waits k = lanes.waits k) ∧
    (∀ k, (lanes.putTeam team id).sources k = lanes.sources k) ∧
    (∀ k, (lanes.putTeam team id).wave_members k = lanes.wave_members k) ∧
    (∀ k, (lanes.putTeam team id).boundaries k = lanes.boundaries k) := by
  simp [putTeam]

grind_pattern putTeam_fields => lanes.putTeam team id

theorem putStatus_fields (lanes : Lanes) (status : TaskStatus) (result : Option DispatchId) :
    (lanes.putStatus status result).status = status ∧
    (lanes.putStatus status result).root_assignment_id = lanes.root_assignment_id ∧
    (lanes.putStatus status result).current_team_revision_id = lanes.current_team_revision_id ∧
    (lanes.putStatus status result).result_boundary_id = result ∧
    (lanes.putStatus status result).team = lanes.team ∧
    (∀ k, (lanes.putStatus status result).assignments k = lanes.assignments k) ∧
    (∀ k, (lanes.putStatus status result).attempts k = lanes.attempts k) ∧
    (∀ k, (lanes.putStatus status result).dispatches k = lanes.dispatches k) ∧
    (∀ k, (lanes.putStatus status result).waits k = lanes.waits k) ∧
    (∀ k, (lanes.putStatus status result).sources k = lanes.sources k) ∧
    (∀ k, (lanes.putStatus status result).wave_members k = lanes.wave_members k) ∧
    (∀ k, (lanes.putStatus status result).boundaries k = lanes.boundaries k) := by
  simp [putStatus]

grind_pattern putStatus_fields => lanes.putStatus status result

theorem drop_lanes_fields (lanes : Lanes) :
    (lanes.drop_lanes).status = lanes.status ∧
    (lanes.drop_lanes).root_assignment_id = lanes.root_assignment_id ∧
    (lanes.drop_lanes).current_team_revision_id = lanes.current_team_revision_id ∧
    (lanes.drop_lanes).result_boundary_id = lanes.result_boundary_id ∧
    (lanes.drop_lanes).team = lanes.team ∧
    (∀ k, (lanes.drop_lanes).assignments k = lanes.assignments k) ∧
    (∀ k, (lanes.drop_lanes).attempts k = (lanes.attempts k).map LaneAttempt.cancel) ∧
    (∀ k, (lanes.drop_lanes).dispatches k = lanes.dispatches k) ∧
    (∀ k, (lanes.drop_lanes).waits k = lanes.waits k) ∧
    (∀ k, (lanes.drop_lanes).sources k = lanes.sources k) ∧
    (∀ k, (lanes.drop_lanes).wave_members k = (lanes.wave_members k).map LaneWaveMember.cancel) ∧
    (∀ k, (lanes.drop_lanes).boundaries k = lanes.boundaries k) := by
  simp [drop_lanes]

grind_pattern drop_lanes_fields => lanes.drop_lanes

/-- One change of the lanes. Every committed transaction of the runtime is a sequence of these. -/
inductive Step : Lanes → Lanes → Prop
  /-- A live Dispatch leaves a source behind, and its lane waits for it. -/
  | suspend {lanes d a q r w source reason} (holds : lanes.Holds d a q r)
      (fresh_wait : lanes.waits w = none) (fresh_source : lanes.sources source.source_id = none)
      (hreason : source.source_id.closed_reason = some reason) :
      Step lanes (((lanes.release d q a r reason).park a r.free w ⟨r.assignment_id, a, d, source⟩).putSource
        source.source_id ⟨r.assignment_id, a, some d, .unresolved⟩)
  /-- A Wave that its parent waits for takes one more child, with its first Dispatch. -/
  | add_child {lanes i p r w v wave x k c ca cd q member selected rev}
      (running : lanes.status = .running) (parent : lanes.Serves i p.current_attempt_id p)
      (attempt : lanes.attempts p.current_attempt_id = some r) (waiting : r.current_wait_id = some w)
      (wait : lanes.waits w = some v) (hsource : v.source = .delegation_wave wave)
      (source : lanes.sources (.delegation_wave wave) = some x) (unresolved : x.phase = .unresolved)
      (fresh_member : lanes.wave_members (wave, k) = none) (fresh_assignment : lanes.assignments c = none)
      (fresh_attempt : lanes.attempts ca = none) (fits : lanes.Fits cd q member)
      (hq : q.assignment_id = c ∧ q.attempt_id = ca ∧ q.predecessor_dispatch_id = none)
      (hopened : q.opened_reason = .delegation)
      (unassigned : ∀ i' c', lanes.assignments i' = some c' → c'.terminal_outcome = none →
        c'.member_id ≠ member)
      (team : lanes.current_team = some rev) (hselected : rev.select member = some selected)
      (hparent : selected.parent_member_id = some p.member_id) :
      Step lanes (((lanes.enlist c ⟨member, some i, ca, none⟩).occupy cd q ca (LaneAttempt.start c)).putWaveMember
        (wave, k) ⟨c, .pending⟩)
  /-- A child finishes: its boundary settles its member of the parent's Wave. -/
  | complete {lanes d a q r c outcome wave k x} (holds : lanes.Holds d a q r)
      (serves : lanes.Serves r.assignment_id a c) (child : c.parent_assignment_id.isSome)
      (fresh : lanes.boundaries d = none)
      (member : lanes.wave_members (wave, k) = some ⟨r.assignment_id, .pending⟩)
      (source : lanes.sources (.delegation_wave wave) = some x) (unresolved : x.phase = .unresolved)
      (participated : outcome = .green → lanes.Participated q) :
      Step lanes ((((lanes.release d q a r .boundary).finish a r.free c outcome).putBoundary d
        ⟨r.assignment_id, a, outcome.boundary⟩).putWaveMember (wave, k)
          ⟨r.assignment_id, .settled d outcome⟩)
  /-- The root finishes, and the Task with it. -/
  | complete_root {lanes d a q r c outcome} (holds : lanes.Holds d a q r)
      (serves : lanes.Serves r.assignment_id a c) (root : r.assignment_id = lanes.root_assignment_id)
      (fresh : lanes.boundaries d = none)
      (others : ∀ a' r', lanes.attempts a' = some r' → a' ≠ a → r'.status ≠ .running)
      (participated : outcome = .green → lanes.Participated q) (no_wait : ∀ w, lanes.waits w = none)
      (no_wave : ∀ wave x, lanes.sources (.delegation_wave wave) = some x →
        x.phase ≠ .unresolved ∧ x.phase ≠ .resolved) :
      Step lanes ((((lanes.release d q a r .boundary).finish a r.free c outcome).putBoundary d
        ⟨r.assignment_id, a, outcome.boundary⟩).putStatus .completed (some d))
  /-- A fresh Attempt takes the Assignment over. -/
  | retry {lanes d a q r c a' d' q'} (holds : lanes.Holds d a q r)
      (serves : lanes.Serves r.assignment_id a c) (fresh : lanes.boundaries d = none)
      (fresh_attempt : lanes.attempts a' = none)
      (fits : lanes.Fits d' q' c.member_id)
      (hq : q'.assignment_id = r.assignment_id ∧ q'.attempt_id = a' ∧ q'.predecessor_dispatch_id = none)
      (hopened : q'.opened_reason = .semantic_retry) :
      Step lanes ((((lanes.release d q a r .boundary).hand_over a r.free c a').putBoundary d
        ⟨r.assignment_id, a, .retry⟩).occupy d' q' a' (LaneAttempt.start r.assignment_id))
  /-- A live Dispatch installs a successor Team and leaves the transition behind. -/
  | replan {lanes d a q r t rev rev' successor_id team'} (holds : lanes.Holds d a q r)
      (fresh : lanes.sources (.replan_transition t) = none) (current : lanes.current_team = some rev)
      (staged : TeamReplanned lanes.team team' lanes.current_team_revision_id rev successor_id
        q.selection.member_id rev') :
      Step lanes (((lanes.release d q a r .structural_replan).putSource (.replan_transition t)
        ⟨r.assignment_id, a, some d, .resolved⟩).putTeam team' successor_id)
  /-- The source that a lane waits for is resolved, and the lane is free. -/
  | settle {lanes w v a r source x} (active : lanes.Active) (wait : lanes.waits w = some v)
      (attempt : lanes.attempts a = some r) (hattempt : v.attempt_id = a)
      (waiting : r.current_wait_id = some w) (hsource : v.source = source)
      (row : lanes.sources source.source_id = some x) (unresolved : x.phase = .unresolved)
      (joined : ∀ wave k m, source.source_id = .delegation_wave wave → lanes.wave_members (wave, k) = some m →
        m.status.is_settled = true) :
      Step lanes ((lanes.unpark a r w).putSource source.source_id { x with phase := .resolved })
  /-- The one successor of a resolved source opens. -/
  | open_successor {lanes s x a r c d q} (running : lanes.status = .running)
      (row : lanes.sources s = some x) (resolved : x.phase = .resolved)
      (hattempt : x.attempt_id = a) (hassignment : x.assignment_id = r.assignment_id)
      (attempt : lanes.attempts a = some r) (idle : r.Idle)
      (serves : lanes.Serves r.assignment_id a c) (fits : lanes.Fits d q c.member_id)
      (hq : q.assignment_id = r.assignment_id ∧ q.attempt_id = a ∧
        q.predecessor_dispatch_id = x.source_dispatch_id)
      (hopened : q.opened_reason ≠ .watchdog_recovery) :
      Step lanes ((lanes.occupy d q a r).putSource s { x with phase := .consumed d })
  /-- A lane without a source continues from its last Dispatch. -/
  | open_tail {lanes p qp reason a r c d q} (running : lanes.status = .running)
      (tail : lanes.dispatches p = some qp) (closed : qp.closed_reason = some reason)
      (hreason : reason.is_tail = true) (hattempt : qp.attempt_id = a)
      (attempt : lanes.attempts a = some r) (idle : r.Idle)
      (serves : lanes.Serves r.assignment_id a c) (fits : lanes.Fits d q c.member_id)
      (hq : q.assignment_id = r.assignment_id ∧ q.attempt_id = a ∧ q.predecessor_dispatch_id = some p)
      (hopened : q.opened_reason ≠ .watchdog_recovery) :
      Step lanes (lanes.occupy d q a r)
  /-- A Dispatch that fell silent is replaced. -/
  | replace {lanes d a q r c d' q'} (holds : lanes.Holds d a q r)
      (serves : lanes.Serves r.assignment_id a c) (fits : lanes.Fits d' q' c.member_id)
      (hq : q'.assignment_id = r.assignment_id ∧ q'.attempt_id = a ∧ q'.predecessor_dispatch_id = some d)
      (hopened : q'.opened_reason = .watchdog_recovery) :
      Step lanes ((lanes.release d q a r .watchdog_superseded).occupy d' q' a r.free)
  /-- A Dispatch is stopped without a consequence. -/
  | halt {lanes d a q r reason} (holds : lanes.Holds d a q r)
      (hreason : reason = .paused ∨ reason = .control_failed ∨ reason = .cancelled) :
      Step lanes (lanes.release d q a r reason)
  | pause {lanes} (running : lanes.status = .running)
      (halted : ∀ a r, lanes.attempts a = some r → r.current_dispatch_id = none) :
      Step lanes (lanes.putStatus .paused lanes.result_boundary_id)
  | resume {lanes} (paused : lanes.status = .paused) : Step lanes (lanes.putStatus .running lanes.result_boundary_id)
  | cancel {lanes} (active : lanes.Active)
      (halted : ∀ a r, lanes.attempts a = some r → r.current_dispatch_id = none) :
      Step lanes (lanes.putStatus .cancelled none)
  /-- In a cancelled Task a wait is given up, together with its source unless that is a process still
      to be stopped. -/
  | drop_wait {lanes w v a r x phase} (cancelled : lanes.status = .cancelled)
      (wait : lanes.waits w = some v) (attempt : lanes.attempts a = some r) (hattempt : v.attempt_id = a)
      (waiting : r.current_wait_id = some w) (row : lanes.sources v.source.source_id = some x)
      (unresolved : x.phase = .unresolved) (hphase : phase = .cancelled ∨ phase = .unresolved ∨
        phase = .resolved ∧ ∃ request, v.source = .human_request request) :
      Step lanes ((lanes.unpark a r w).putSource v.source.source_id { x with phase := phase })
  /-- In a cancelled Task every lane that is left ends. -/
  | drop_lanes {lanes} (cancelled : lanes.status = .cancelled) (no_wait : ∀ w, lanes.waits w = none) :
      Step lanes lanes.drop_lanes
  /-- In a cancelled Task a source that never opened a successor is given up, or its process ends. -/
  | drop_source {lanes s x phase} (cancelled : lanes.status = .cancelled)
      (row : lanes.sources s = some x)
      (hphase : phase = .cancelled ∧ (x.phase = .unresolved ∨ x.phase = .resolved) ∨
        phase = .resolved ∧ x.phase = .unresolved ∧ ∃ run, s = .command_run run) :
      Step lanes (lanes.putSource s { x with phase := phase })

end Lanes

end OhMySubagents
