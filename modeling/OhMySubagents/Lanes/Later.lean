import OhMySubagents.Lanes.Pointers
import OhMySubagents.Relational.Table

open Relational

namespace OhMySubagents

/-- A phase only moves from unresolved over resolved to its end. -/
def SourcePhase.Advances (phase phase' : SourcePhase) : Prop :=
  phase' = phase ∨ phase = .unresolved ∨ phase = .resolved ∧ phase' ≠ .unresolved

structure LaneAssignment.Later (c c' : LaneAssignment) : Prop where
  member_id : c'.member_id = c.member_id
  parent_assignment_id : c'.parent_assignment_id = c.parent_assignment_id
  closed : c.terminal_outcome ≠ none → c' = c

structure LaneAttempt.Later (r r' : LaneAttempt) : Prop where
  assignment_id : r'.assignment_id = r.assignment_id
  ended : r.status = .completed ∨ r.status = .cancelled → r'.status = r.status

structure LaneDispatch.Later (q q' : LaneDispatch) : Prop where
  same : q' = { q with closed_reason := q'.closed_reason }
  closed : q.closed_reason ≠ none → q'.closed_reason = q.closed_reason

structure LaneSource.Later (x x' : LaneSource) : Prop where
  same : x' = { x with phase := x'.phase }
  phase : x.phase.Advances x'.phase

structure LaneWaveMember.Later (m m' : LaneWaveMember) : Prop where
  child_assignment_id : m'.child_assignment_id = m.child_assignment_id
  ended : m.status ≠ .pending → m' = m

theorem LaneAssignment.Later.refl (c : LaneAssignment) : c.Later c := ⟨rfl, rfl, fun _ => rfl⟩

theorem LaneAttempt.Later.refl (r : LaneAttempt) : r.Later r := ⟨rfl, fun _ => rfl⟩

theorem LaneDispatch.Later.refl (q : LaneDispatch) : q.Later q := ⟨rfl, fun _ => rfl⟩

theorem LaneSource.Later.refl (x : LaneSource) : x.Later x := ⟨rfl, .inl rfl⟩

theorem LaneWaveMember.Later.refl (m : LaneWaveMember) : m.Later m := ⟨rfl, fun _ => rfl⟩

theorem LaneAssignment.Later.trans (c₁ c₂ c₃ : LaneAssignment) (h : c₁.Later c₂) (h' : c₂.Later c₃) :
    c₁.Later c₃ := by
  refine ⟨h'.member_id.trans h.member_id, h'.parent_assignment_id.trans h.parent_assignment_id, fun hc => ?_⟩
  have hsame := h.closed hc
  exact (h'.closed (hsame ▸ hc)).trans hsame

theorem LaneAttempt.Later.trans (r₁ r₂ r₃ : LaneAttempt) (h : r₁.Later r₂) (h' : r₂.Later r₃) :
    r₁.Later r₃ := by
  refine ⟨h'.assignment_id.trans h.assignment_id, fun hr => ?_⟩
  have hsame := h.ended hr
  exact (h'.ended (hsame ▸ hr)).trans hsame

theorem LaneDispatch.Later.trans (q₁ q₂ q₃ : LaneDispatch) (h : q₁.Later q₂) (h' : q₂.Later q₃) :
    q₁.Later q₃ := by
  refine ⟨?_, fun hq => ?_⟩
  · rw [h'.same, h.same]
  · have hsame := h.closed hq
    exact (h'.closed (hsame ▸ hq)).trans hsame

theorem LaneSource.Later.trans (x₁ x₂ x₃ : LaneSource) (h : x₁.Later x₂) (h' : x₂.Later x₃) :
    x₁.Later x₃ := by
  refine ⟨?_, ?_⟩
  · rw [h'.same, h.same]
  · have h₁ := h.phase
    have h₂ := h'.phase
    unfold SourcePhase.Advances at *
    grind

theorem LaneWaveMember.Later.trans (m₁ m₂ m₃ : LaneWaveMember) (h : m₁.Later m₂) (h' : m₂.Later m₃) :
    m₁.Later m₃ := by
  refine ⟨h'.child_assignment_id.trans h.child_assignment_id, fun hm => ?_⟩
  have hsame := h.ended hm
  exact (h'.ended (hsame ▸ hm)).trans hsame

namespace Lanes

/-- What time cannot undo: no row disappears, and what has ended stays as it ended. -/
structure Later (lanes lanes' : Lanes) : Prop where
  status : lanes.status = .completed ∨ lanes.status = .cancelled → lanes'.status = lanes.status
  root : lanes'.root_assignment_id = lanes.root_assignment_id
  revisions : Grows Eq lanes.team.team_revisions.get? lanes'.team.team_revisions.get?
  assignments : Grows LaneAssignment.Later lanes.assignments lanes'.assignments
  attempts : Grows LaneAttempt.Later lanes.attempts lanes'.attempts
  dispatches : Grows LaneDispatch.Later lanes.dispatches lanes'.dispatches
  sources : Grows LaneSource.Later lanes.sources lanes'.sources
  wave_members : Grows LaneWaveMember.Later lanes.wave_members lanes'.wave_members
  boundaries : Grows Eq lanes.boundaries lanes'.boundaries

namespace Later

variable {lanes lanes' lanes'' : Lanes}

theorem refl (lanes : Lanes) : lanes.Later lanes :=
  ⟨fun _ => rfl, rfl, .refl (fun _ => rfl) _, .refl LaneAssignment.Later.refl _, .refl LaneAttempt.Later.refl _,
    .refl LaneDispatch.Later.refl _, .refl LaneSource.Later.refl _, .refl LaneWaveMember.Later.refl _,
    .refl (fun _ => rfl) _⟩

theorem trans (h : lanes.Later lanes') (h' : lanes'.Later lanes'') : lanes.Later lanes'' where
  status hend := (h'.status (h.status hend ▸ hend)).trans (h.status hend)
  root := h'.root.trans h.root
  revisions := h.revisions.trans (fun _ _ _ => Eq.trans) h'.revisions
  assignments := h.assignments.trans LaneAssignment.Later.trans h'.assignments
  attempts := h.attempts.trans LaneAttempt.Later.trans h'.attempts
  dispatches := h.dispatches.trans LaneDispatch.Later.trans h'.dispatches
  sources := h.sources.trans LaneSource.Later.trans h'.sources
  wave_members := h.wave_members.trans LaneWaveMember.Later.trans h'.wave_members
  boundaries := h.boundaries.trans (fun _ _ _ => Eq.trans) h'.boundaries

theorem add_assignment {i : AssignmentId} (fresh : lanes.assignments i = none) (c : LaneAssignment) :
    lanes.Later (lanes.putAssignment i c) :=
  { refl lanes with assignments := .update_fresh LaneAssignment.Later.refl fresh _ }

theorem putAssignment {i : AssignmentId} {c c' : LaneAssignment} (row : lanes.assignments i = some c)
    (hlater : c.Later c') : lanes.Later (lanes.putAssignment i c') :=
  { refl lanes with assignments := .update LaneAssignment.Later.refl row hlater }

theorem add_attempt {a : AttemptId} (fresh : lanes.attempts a = none) (r : LaneAttempt) :
    lanes.Later (lanes.putAttempt a r) :=
  { refl lanes with attempts := .update_fresh LaneAttempt.Later.refl fresh _ }

theorem putAttempt {a : AttemptId} {r s : LaneAttempt} (row : lanes.attempts a = some r) (hlater : r.Later s) :
    lanes.Later (lanes.putAttempt a s) :=
  { refl lanes with attempts := .update LaneAttempt.Later.refl row hlater }

theorem add_dispatch {d : DispatchId} (fresh : lanes.dispatches d = none) (q : LaneDispatch) :
    lanes.Later (lanes.putDispatch d q) :=
  { refl lanes with dispatches := .update_fresh LaneDispatch.Later.refl fresh _ }

theorem close {d : DispatchId} {q : LaneDispatch} (row : lanes.dispatches d = some q) (live : q.closed_reason = none)
    (reason : DispatchClosedReason) : lanes.Later (lanes.putDispatch d (q.close reason)) :=
  { refl lanes with
    dispatches := .update LaneDispatch.Later.refl row ⟨rfl, fun hclosed => absurd live hclosed⟩ }

theorem putWait (w : WaitId) (row : Option AttemptWait) : lanes.Later (lanes.putWait w row) :=
  { refl lanes with }

theorem add_source {s : SourceId} (fresh : lanes.sources s = none) (x : LaneSource) :
    lanes.Later (lanes.putSource s x) :=
  { refl lanes with sources := .update_fresh LaneSource.Later.refl fresh _ }

theorem advance {s : SourceId} {x : LaneSource} (row : lanes.sources s = some x) {phase : SourcePhase}
    (hphase : x.phase.Advances phase) : lanes.Later (lanes.putSource s { x with phase := phase }) :=
  { refl lanes with sources := .update LaneSource.Later.refl row ⟨rfl, hphase⟩ }

theorem add_wave_member {k : WaveId × Nat} (fresh : lanes.wave_members k = none) (m : LaneWaveMember) :
    lanes.Later (lanes.putWaveMember k m) :=
  { refl lanes with wave_members := .update_fresh LaneWaveMember.Later.refl fresh _ }

theorem end_wave_member {k : WaveId × Nat} {i : AssignmentId} (row : lanes.wave_members k = some ⟨i, .pending⟩)
    (status : WaveMemberStatus) : lanes.Later (lanes.putWaveMember k ⟨i, status⟩) :=
  { refl lanes with
    wave_members := .update LaneWaveMember.Later.refl row ⟨rfl, fun hended => absurd rfl hended⟩ }

theorem add_boundary {d : DispatchId} (fresh : lanes.boundaries d = none) (b : LaneBoundary) :
    lanes.Later (lanes.putBoundary d b) :=
  { refl lanes with boundaries := .update_fresh (fun _ => rfl) fresh _ }

theorem putStatus (active : lanes.Active) (status : TaskStatus) (result : Option DispatchId) :
    lanes.Later (lanes.putStatus status result) :=
  { refl lanes with
    status := by rcases active with hstatus | hstatus <;> simp [hstatus] }

theorem putTeam {source_id successor_id : RevisionId} {rev rev' : TeamRevision} {caller : MemberId}
    {team' : TeamTables} (staged : TeamReplanned lanes.team team' source_id rev successor_id caller rev') :
    lanes.Later (lanes.putTeam team' successor_id) := by
  refine { refl lanes with revisions := ?_ }
  rintro r before hr
  refine ⟨before, ?_, rfl⟩
  rw [putTeam_team, staged.revisions, Table.get?_set, if_neg, hr]
  rintro rfl
  rw [staged.free] at hr
  cases hr

theorem drop_lanes (lanes : Lanes) : lanes.Later lanes.drop_lanes := by
  refine { refl lanes with attempts := .map fun r => ?_, wave_members := .map fun m => ?_ }
  · unfold LaneAttempt.cancel
    split
    · next hopen => exact ⟨rfl, fun hended => by rcases hopen with h | h <;> simp [h] at hended⟩
    · exact LaneAttempt.Later.refl r
  · unfold LaneWaveMember.cancel
    split
    · next hpending => exact ⟨rfl, fun hended => absurd hpending hended⟩
    · exact LaneWaveMember.Later.refl m

variable {d : DispatchId} {a : AttemptId} {q : LaneDispatch} {r : LaneAttempt} {c : LaneAssignment}

theorem keep_running (hrunning : r.status = .running) {r' : LaneAttempt}
    (hassignment : r'.assignment_id = r.assignment_id) : r.Later r' :=
  ⟨hassignment, fun hended => by simp [hrunning] at hended⟩

theorem release (holds : lanes.Holds d a q r) (reason : DispatchClosedReason) :
    lanes.Later (lanes.release d q a r reason) :=
  (close holds.dispatch holds.live reason).trans
    (putAttempt (a := a) holds.attempt (keep_running holds.attempt_running rfl))

theorem occupy (attempt : lanes.attempts a = some r) (hrunning : r.status = .running)
    (fresh : lanes.dispatches d = none) (q : LaneDispatch) : lanes.Later (lanes.occupy d q a r) :=
  (add_dispatch fresh q).trans (putAttempt (a := a) attempt (keep_running hrunning rfl))

theorem park (attempt : lanes.attempts a = some r) (hrunning : r.status = .running) (w : WaitId)
    (v : AttemptWait) : lanes.Later (lanes.park a r w v) :=
  (putAttempt (s := { r with current_wait_id := some w }) attempt (keep_running hrunning rfl)).trans (putWait ..)

theorem unpark (attempt : lanes.attempts a = some r) (hrunning : r.status = .running) (w : WaitId) :
    lanes.Later (lanes.unpark a r w) :=
  (putAttempt (s := { r with current_wait_id := none }) attempt (keep_running hrunning rfl)).trans (putWait ..)

theorem finish (attempt : lanes.attempts a = some r) (hrunning : r.status = .running)
    (serves : lanes.Serves r.assignment_id a c) (outcome : TerminalOutcome) :
    lanes.Later (lanes.finish a r c outcome) := by
  refine (putAttempt (s := { r with status := .completed }) attempt (keep_running hrunning rfl)).trans ?_
  exact putAssignment serves.row ⟨rfl, rfl, fun hclosed => absurd serves.is_open hclosed⟩

theorem hand_over (attempt : lanes.attempts a = some r) (hrunning : r.status = .running)
    (serves : lanes.Serves r.assignment_id a c) {b : AttemptId} (fresh : lanes.attempts b = none) :
    lanes.Later (lanes.hand_over a r c b) := by
  have hne : b ≠ a := by
    rintro rfl
    rw [attempt] at fresh
    cases fresh
  refine (putAttempt (s := { r with status := .completed }) attempt (keep_running hrunning rfl)).trans ?_
  refine (add_attempt (a := b) (by simpa [hne] using fresh) (LaneAttempt.start r.assignment_id)).trans ?_
  exact putAssignment serves.row ⟨rfl, rfl, fun hclosed => absurd serves.is_open hclosed⟩

theorem enlist {i : AssignmentId} (fresh : lanes.assignments i = none)
    (fresh_attempt : lanes.attempts c.current_attempt_id = none) : lanes.Later (lanes.enlist i c) := by
  refine (add_assignment fresh c).trans ?_
  exact add_attempt (by simpa using fresh_attempt) _

end Later

/-- No step undoes anything that has ended. -/
theorem Step.later {lanes lanes' : Lanes} (hp : lanes.Pointers) (hstep : Step lanes lanes') :
    lanes.Later lanes' := by
  cases hstep with
  | @suspend d a q r w source reason holds _ fresh_source _ =>
    refine (Later.release holds reason).trans ?_
    refine (Later.park (holds.release_attempt reason) holds.attempt_running w
      ⟨r.assignment_id, a, d, source⟩).trans ?_
    exact .add_source (by simpa using fresh_source) _
  | @add_child i p r w v wave x k c ca cd q member selected rev _ _ _ _ _ _ _ _ fresh_member fresh fresh_attempt
      fits =>
    refine (Later.enlist (c := ⟨member, some i, ca, none⟩) fresh fresh_attempt).trans ?_
    refine (Later.occupy (a := ca) (r := LaneAttempt.start c) (by simp) rfl (by simpa using fits.fresh) q).trans ?_
    exact .add_wave_member (by simpa using fresh_member) _
  | @complete d a q r c outcome wave k x holds serves _ fresh member =>
    refine (Later.release holds .boundary).trans ?_
    refine (Later.finish (holds.release_attempt .boundary) holds.attempt_running
      (holds.release_serves serves) outcome).trans ?_
    refine (Later.add_boundary (d := d) (by simpa using fresh) ⟨r.assignment_id, a, outcome.boundary⟩).trans ?_
    exact .end_wave_member (by simpa using member) _
  | @complete_root d a q r c outcome holds serves _ fresh _ _ _ _ =>
    refine (Later.release holds .boundary).trans ?_
    refine (Later.finish (holds.release_attempt .boundary) holds.attempt_running
      (holds.release_serves serves) outcome).trans ?_
    refine (Later.add_boundary (d := d) (by simpa using fresh) ⟨r.assignment_id, a, outcome.boundary⟩).trans ?_
    exact .putStatus (.inl (by simpa using holds.running)) _ _
  | @retry d a q r c a' d' q' holds serves fresh fresh_attempt fits =>
    have hne := holds.ne_fresh_attempt fresh_attempt
    have hned := holds.ne_fresh_dispatch fits.fresh
    refine (Later.release holds .boundary).trans ?_
    refine (Later.hand_over (holds.release_attempt .boundary) holds.attempt_running
      (holds.release_serves serves) (b := a') (by simpa [hne] using fresh_attempt)).trans ?_
    refine (Later.add_boundary (d := d) (by simpa using fresh) ⟨r.assignment_id, a, .retry⟩).trans ?_
    exact .occupy (by simp) rfl (by simpa [hned] using fits.fresh) q'
  | @replan d a q r t rev rev' successor_id team' holds fresh current staged =>
    refine (Later.release holds .structural_replan).trans ?_
    refine (Later.add_source (s := .replan_transition t) (by simpa using fresh)
      ⟨r.assignment_id, a, some d, .resolved⟩).trans ?_
    exact .putTeam staged
  | @settle w v a r source x active _ attempt _ waiting _ row unresolved _ =>
    have hrunning := (hp.wait_pointer a r w attempt waiting).1
    refine (Later.unpark attempt hrunning w).trans ?_
    exact .advance (by simpa using row) (.inr (.inl unresolved))
  | @open_successor s x a r c d q _ row resolved _ _ attempt idle _ fits =>
    refine (Later.occupy attempt idle.running fits.fresh q).trans ?_
    exact .advance (by simpa using row) (.inr (.inr ⟨resolved, by simp⟩))
  | @open_tail p qp reason a r c d q _ _ _ _ _ attempt idle _ fits =>
    exact .occupy attempt idle.running fits.fresh q
  | @replace d a q r c d' q' holds _ fits =>
    have hned := holds.ne_fresh_dispatch fits.fresh
    refine (Later.release holds .watchdog_superseded).trans ?_
    exact .occupy (holds.release_attempt _) holds.attempt_running (by simpa [hned] using fits.fresh) q'
  | halt holds => exact .release holds _
  | pause running => exact .putStatus (.inl running) _ _
  | resume paused => exact .putStatus (.inr paused) _ _
  | cancel active => exact .putStatus active _ _
  | @drop_wait w v a r x phase _ _ attempt _ waiting row unresolved hphase =>
    have hrunning := (hp.wait_pointer a r w attempt waiting).1
    refine (Later.unpark attempt hrunning w).trans ?_
    exact .advance (by simpa using row) (.inr (.inl unresolved))
  | drop_lanes => exact .drop_lanes lanes
  | @drop_source s x phase _ row hphase =>
    refine .advance row ?_
    rcases hphase with ⟨rfl, h | h⟩ | ⟨rfl, h, -⟩
    · exact .inr (.inl h)
    · exact .inr (.inr ⟨h, by simp⟩)
    · exact .inr (.inl h)

end Lanes

end OhMySubagents
