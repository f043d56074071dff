import OhMySubagents.Lanes.Participation

open Relational

namespace OhMySubagents

/-- One child that a Wave takes on, with its Assignment, its Attempt and its first Dispatch. -/
structure Enrollment where
  order_index : Nat
  assignment_id : AssignmentId
  attempt_id : AttemptId
  dispatch_id : DispatchId
  dispatch : LaneDispatch
  member_id : MemberId

/-- Two children share nothing that identifies them. -/
structure Enrollment.Apart (e e' : Enrollment) : Prop where
  order_index : e.order_index ≠ e'.order_index
  assignment_id : e.assignment_id ≠ e'.assignment_id
  attempt_id : e.attempt_id ≠ e'.attempt_id
  dispatch_id : e.dispatch_id ≠ e'.dispatch_id
  member_id : e.member_id ≠ e'.member_id

namespace Lanes

def enroll (wave : WaveId) (i : AssignmentId) (lanes : Lanes) (e : Enrollment) : Lanes :=
  ((lanes.enlist e.assignment_id ⟨e.member_id, some i, e.attempt_id, none⟩).occupy e.dispatch_id e.dispatch e.attempt_id
    (LaneAttempt.start e.assignment_id)).putWaveMember (wave, e.order_index) ⟨e.assignment_id, .pending⟩

/-- An open Assignment waits for an open Wave. -/
structure Awaits (lanes : Lanes) (wave : WaveId) (i : AssignmentId) (p : LaneAssignment) : Prop where
  running : lanes.status = .running
  serves : lanes.Serves i p.current_attempt_id p
  waits : ∃ r w v x, lanes.attempts p.current_attempt_id = some r ∧ r.current_wait_id = some w ∧
    lanes.waits w = some v ∧ v.source = .delegation_wave wave ∧
      lanes.sources (.delegation_wave wave) = some x ∧ x.phase = .unresolved

/-- A child is new, free, and stands directly below the Member that takes it on. -/
structure Enrollable (lanes : Lanes) (wave : WaveId) (p : LaneAssignment) (e : Enrollment) : Prop where
  fresh_member : lanes.wave_members (wave, e.order_index) = none
  fresh_assignment : lanes.assignments e.assignment_id = none
  fresh_attempt : lanes.attempts e.attempt_id = none
  fits : lanes.Fits e.dispatch_id e.dispatch e.member_id
  first : e.dispatch.assignment_id = e.assignment_id ∧ e.dispatch.attempt_id = e.attempt_id ∧
    e.dispatch.predecessor_dispatch_id = none
  opened : e.dispatch.opened_reason = .delegation
  unassigned : ∀ i c, lanes.assignments i = some c → c.terminal_outcome = none → c.member_id ≠ e.member_id
  child : ∃ rev selected, lanes.current_team = some rev ∧ rev.select e.member_id = some selected ∧
    selected.parent_member_id = some p.member_id

variable {lanes : Lanes} {wave : WaveId} {i : AssignmentId} {p : LaneAssignment} {e e' : Enrollment}

theorem enroll_fields (wave : WaveId) (i : AssignmentId) (lanes : Lanes) (e : Enrollment) :
    (lanes.enroll wave i e).status = lanes.status ∧
    (lanes.enroll wave i e).current_team_revision_id = lanes.current_team_revision_id ∧
    (lanes.enroll wave i e).team = lanes.team ∧
    (∀ k, (lanes.enroll wave i e).assignments k =
      if k = e.assignment_id then some ⟨e.member_id, some i, e.attempt_id, none⟩ else lanes.assignments k) ∧
    (∀ k, (lanes.enroll wave i e).attempts k = if k = e.attempt_id then
      some { LaneAttempt.start e.assignment_id with current_dispatch_id := some e.dispatch_id }
      else lanes.attempts k) ∧
    (∀ k, (lanes.enroll wave i e).dispatches k = if k = e.dispatch_id then some e.dispatch else lanes.dispatches k) ∧
    (lanes.enroll wave i e).waits = lanes.waits ∧ (lanes.enroll wave i e).sources = lanes.sources ∧
    (∀ k, (lanes.enroll wave i e).wave_members k =
      if k = (wave, e.order_index) then some ⟨e.assignment_id, .pending⟩ else lanes.wave_members k) := by
  simp +contextual [enroll, Function.update_apply]

/-- Taking a child on is one step. -/
theorem Awaits.enroll_step (h : lanes.Awaits wave i p) (he : lanes.Enrollable wave p e) :
    Step lanes (lanes.enroll wave i e) := by
  obtain ⟨r, w, v, x, attempt, waiting, wait, hsource, source, unresolved⟩ := h.waits
  obtain ⟨rev, selected, team, hselected, hparent⟩ := he.child
  exact .add_child h.running h.serves attempt waiting wait hsource source unresolved he.fresh_member
    he.fresh_assignment he.fresh_attempt he.fits he.first he.opened he.unassigned team hselected hparent

theorem Awaits.enroll (h : lanes.Awaits wave i p) (he : lanes.Enrollable wave p e) :
    (lanes.enroll wave i e).Awaits wave i p := by
  obtain ⟨running, ⟨hrow, hattempt, hopen⟩, r, w, v, x, hr, hw, hv, hsource, hx, hphase⟩ := h
  obtain ⟨hstatus, -, -, hassignments, hattempts, -, hwaits, hsources, -⟩ := enroll_fields wave i lanes e
  have hi : i ≠ e.assignment_id := by
    rintro rfl
    rw [he.fresh_assignment] at hrow
    cases hrow
  have ha : p.current_attempt_id ≠ e.attempt_id := by
    intro heq
    rw [heq, he.fresh_attempt] at hr
    cases hr
  refine ⟨hstatus.trans running, ⟨?_, hattempt, hopen⟩, r, w, v, x, ?_, hw, ?_, hsource, ?_, hphase⟩
  · rw [hassignments, if_neg hi, hrow]
  · rw [hattempts, if_neg ha, hr]
  · rw [hwaits, hv]
  · rw [hsources, hx]

/-- A child stays new while another one is taken on. -/
theorem Enrollable.enroll (h : lanes.Enrollable wave p e') (hne : e.Apart e') :
    (lanes.enroll wave i e).Enrollable wave p e' := by
  obtain ⟨-, hrevision, hteam, hassignments, hattempts, hdispatches, -, -, hmembers⟩ := enroll_fields wave i lanes e
  obtain ⟨fresh, live, revision, selected, member, predecessor⟩ := h.fits
  have hcurrent : (lanes.enroll wave i e).current_team = lanes.current_team := by
    rw [current_team, current_team, hteam, hrevision]
  refine ⟨?_, ?_, ?_, ⟨?_, live, revision.trans hrevision.symm, ?_, member, ?_⟩, h.first, h.opened, ?_, ?_⟩
  · rw [hmembers, if_neg (by simp [hne.order_index.symm]), h.fresh_member]
  · rw [hassignments, if_neg hne.assignment_id.symm, h.fresh_assignment]
  · rw [hattempts, if_neg hne.attempt_id.symm, h.fresh_attempt]
  · rw [hdispatches, if_neg hne.dispatch_id.symm, fresh]
  · rwa [SelectedNow, hcurrent]
  · intro d q hq hsome
    rw [h.first.2.2] at hsome
    cases hsome
  · intro j c hc hopen
    rw [hassignments] at hc
    split at hc
    · cases hc
      exact hne.member_id
    · exact h.unassigned j c hc hopen
  · rw [hcurrent]
    exact h.child

/-- A whole Wave is taken on child by child. -/
theorem Awaits.enroll_steps (h : lanes.Awaits wave i p) {entries : List Enrollment}
    (he : ∀ e ∈ entries, lanes.Enrollable wave p e) (apart : entries.Pairwise Enrollment.Apart) :
    Steps lanes (entries.foldl (Lanes.enroll wave i) lanes) := by
  induction entries generalizing lanes with
  | nil => exact .refl
  | cons e entries ih =>
    obtain ⟨hfirst, hrest⟩ := List.pairwise_cons.mp apart
    have hhead := he e List.mem_cons_self
    refine .head (h.enroll_step hhead) (ih (h.enroll hhead) (fun e' he' => ?_) hrest)
    exact (he e' (List.mem_cons_of_mem _ he')).enroll (hfirst e' he')

/-- The lanes once a list of children was taken on: their rows, and all rows that were there before. -/
structure Enrolled (lanes lanes' : Lanes) (wave : WaveId) (i : AssignmentId) (entries : List Enrollment) : Prop where
  frame : lanes' = { lanes with
    assignments := lanes'.assignments, attempts := lanes'.attempts, dispatches := lanes'.dispatches
    wave_members := lanes'.wave_members }
  assignments : ∀ k row, lanes'.assignments k = some row ↔ lanes.assignments k = some row ∨
    ∃ e ∈ entries, e.assignment_id = k ∧ row = ⟨e.member_id, some i, e.attempt_id, none⟩
  attempts : ∀ k row, lanes'.attempts k = some row ↔ lanes.attempts k = some row ∨
    ∃ e ∈ entries, e.attempt_id = k ∧
      row = { LaneAttempt.start e.assignment_id with current_dispatch_id := some e.dispatch_id }
  dispatches : ∀ k row, lanes'.dispatches k = some row ↔ lanes.dispatches k = some row ∨
    ∃ e ∈ entries, e.dispatch_id = k ∧ row = e.dispatch
  wave_members : ∀ k row, lanes'.wave_members k = some row ↔ lanes.wave_members k = some row ∨
    ∃ e ∈ entries, (wave, e.order_index) = k ∧ row = ⟨e.assignment_id, .pending⟩

/-- What was taken on fixes the lanes. -/
theorem Enrolled.unique {lanes₁ lanes₂ : Lanes} {entries : List Enrollment}
    (h₁ : lanes.Enrolled lanes₁ wave i entries) (h₂ : lanes.Enrolled lanes₂ wave i entries) : lanes₁ = lanes₂ := by
  rw [h₁.frame, h₂.frame]
  have hassignments : lanes₁.assignments = lanes₂.assignments := by
    funext k
    exact Option.ext fun row => (h₁.assignments k row).trans (h₂.assignments k row).symm
  have hattempts : lanes₁.attempts = lanes₂.attempts := by
    funext k
    exact Option.ext fun row => (h₁.attempts k row).trans (h₂.attempts k row).symm
  have hdispatches : lanes₁.dispatches = lanes₂.dispatches := by
    funext k
    exact Option.ext fun row => (h₁.dispatches k row).trans (h₂.dispatches k row).symm
  have hmembers : lanes₁.wave_members = lanes₂.wave_members := by
    funext k
    exact Option.ext fun row => (h₁.wave_members k row).trans (h₂.wave_members k row).symm
  rw [hassignments, hattempts, hdispatches, hmembers]

/-- A row that was put under a fresh key is the only new one. -/
private theorem put_fresh_iff {κ α : Type} [DecidableEq κ] {t t' : κ → Option α} {k : κ} {r : α}
    (fresh : t k = none) (h : ∀ k', t' k' = if k' = k then some r else t k') (k' : κ) (row : α) :
    t' k' = some row ↔ t k' = some row ∨ k = k' ∧ row = r := by
  rw [h]
  split
  · next heq =>
    subst heq
    simp [fresh, eq_comm]
  · next hne => simp [Ne.symm hne]

theorem Enrollable.enrolled_one (he : lanes.Enrollable wave p e) :
    lanes.Enrolled (lanes.enroll wave i e) wave i [e] := by
  obtain ⟨-, -, -, hassignments, hattempts, hdispatches, -, -, hmembers⟩ := enroll_fields wave i lanes e
  refine ⟨rfl, fun k row => ?_, fun k row => ?_, fun k row => ?_, fun k row => ?_⟩
  · simpa using put_fresh_iff he.fresh_assignment hassignments k row
  · simpa using put_fresh_iff he.fresh_attempt hattempts k row
  · simpa using put_fresh_iff he.fits.fresh hdispatches k row
  · simpa using put_fresh_iff he.fresh_member hmembers k row

theorem Enrolled.append {lanes₁ lanes₂ : Lanes} {left right : List Enrollment}
    (h₁ : lanes.Enrolled lanes₁ wave i left) (h₂ : lanes₁.Enrolled lanes₂ wave i right) :
    lanes.Enrolled lanes₂ wave i (left ++ right) := by
  refine ⟨?_, fun k row => ?_, fun k row => ?_, fun k row => ?_, fun k row => ?_⟩
  · rw [h₂.frame, h₁.frame]
  · simp only [h₂.assignments, h₁.assignments, List.mem_append, or_and_right, exists_or, or_assoc]
  · simp only [h₂.attempts, h₁.attempts, List.mem_append, or_and_right, exists_or, or_assoc]
  · simp only [h₂.dispatches, h₁.dispatches, List.mem_append, or_and_right, exists_or, or_assoc]
  · simp only [h₂.wave_members, h₁.wave_members, List.mem_append, or_and_right, exists_or, or_assoc]

theorem enrolled_foldl {entries : List Enrollment} (he : ∀ e ∈ entries, lanes.Enrollable wave p e)
    (apart : entries.Pairwise Enrollment.Apart) :
    lanes.Enrolled (entries.foldl (Lanes.enroll wave i) lanes) wave i entries := by
  induction entries generalizing lanes with
  | nil => exact ⟨rfl, by simp, by simp, by simp, by simp⟩
  | cons e entries ih =>
    obtain ⟨hfirst, hrest⟩ := List.pairwise_cons.mp apart
    have hhead := he e List.mem_cons_self
    change lanes.Enrolled _ wave i ([e] ++ entries)
    refine hhead.enrolled_one.append (ih (fun e' he' => ?_) hrest)
    exact (he e' (List.mem_cons_of_mem _ he')).enroll (hfirst e' he')

/-- The lanes that a Wave leaves behind are reached child by child. -/
theorem Awaits.enrolled_steps {lanes' : Lanes} (h : lanes.Awaits wave i p) {entries : List Enrollment}
    (he : ∀ e ∈ entries, lanes.Enrollable wave p e) (apart : entries.Pairwise Enrollment.Apart)
    (henrolled : lanes.Enrolled lanes' wave i entries) : Steps lanes lanes' := by
  rw [henrolled.unique (enrolled_foldl he apart)]
  exact h.enroll_steps he apart

end Lanes

end OhMySubagents
