import OhMySubagents.Checkpoint.Persistence
import OhMySubagents.Lanes.Abstraction
import OhMySubagents.Lanes.Participation

open Relational

namespace OhMySubagents

variable {db db' : TaskDb} {authority : NodeOperationAuthority} {checkpoint_id : CheckpointId}
  {drawn : Option DrawnSemanticRetry}

/-- Every direct child that a green Checkpoint needs has a green boundary. -/
theorem missing_participation_eq_nil (hs : db.lanes.Selection)
    (h : missing_participation db authority = []) : db.lanes.Participated authority.dispatch.lane := by
  intro rev hrev child hchild
  have hwf := hs.history.well_formed _ rev hrev
  obtain ⟨selected, hselected, hparent⟩ := TeamRevision.parent_eq_some_iff.mp (hwf.mem_children_iff.mp hchild)
  have hrow : db.team_revisions.get? authority.dispatch.team_revision_id = some rev := hrev
  unfold missing_participation at h
  rw [hrow] at h
  simp only [List.map_eq_nil_iff, List.filter_eq_nil_iff, Bool.not_eq_true', Bool.not_eq_false] at h
  have haccepted := h selected (List.mem_filter.mpr ⟨TeamRevision.mem_of_select hselected, beq_iff_eq.mpr hparent⟩)
  obtain ⟨d, boundary, dispatch, hboundary, hgreen, hdispatch, hselection⟩ :=
    read_accepted_green_participation_iff.mp haccepted
  refine ⟨selected, d, boundary.lane, dispatch.lane, hselected, Table.view_eq_some.mpr ⟨boundary, hboundary, rfl⟩,
    hgreen, Table.view_eq_some.mpr ⟨dispatch, hdispatch, rfl⟩, ?_⟩
  rw [← TeamRevision.select_member_id hselected]
  exact hselection

/-- The lane that an accepted boundary ends. -/
theorem completed_attempt_lane (hauth : AuthorityHolds db authority) (outcome : BoundaryOutcome) :
    (completed_attempt authority checkpoint_id outcome).lane =
      { authority.attempt.lane.free with status := .completed } := by
  simp [completed_attempt, Attempt.lane, LaneAttempt.free, hauth.lane.no_wait]

/-- Once the root may end, no other lane runs. -/
private theorem root_complete_others (hinv : db.lanes.Invariant) (hauth : AuthorityHolds db authority)
    (hattempts : ∀ a, a ≠ authority.attempt_id → db'.attempts.get? a = db.attempts.get? a)
    (hassignments : ∀ i, i ≠ authority.assignment_id → db'.assignments.get? i = db.assignments.get? i)
    (hroot : db.task.root_assignment_id = authority.assignment_id) (h : RootComplete db' authority) :
    ∀ a r, db.lanes.attempts a = some r → a ≠ authority.attempt_id → r.status ≠ .running := by
  intro a r hr hne hrunning
  obtain ⟨attempt, hattempt, rfl⟩ := Table.view_eq_some.mp hr
  obtain ⟨c, hc, hcurrent, -⟩ := hinv.pointers.running_attempt a _ hr hrunning
  obtain ⟨assignment, hassignment, rfl⟩ := Table.view_eq_some.mp hc
  have hother : attempt.assignment_id ≠ authority.assignment_id := by
    intro heq
    rw [show attempt.lane.assignment_id = authority.assignment_id from heq, hauth.assignment_row] at hassignment
    cases hassignment
    exact hne (hcurrent.symm.trans hauth.assignment_attempt)
  cases hparent : assignment.parent_assignment_id with
  | none => exact hother ((hinv.selection.root_parent _ _ hc hparent).trans hroot)
  | some parent =>
    have hended := h.no_descendant a attempt assignment ((hattempts a hne).trans hattempt)
      ((hassignments _ hother).trans hassignment) (by simp [hparent])
    rw [show attempt.status = .running from hrunning] at hended
    cases hended

/-- The changes that a committed Checkpoint makes to the lanes. -/
theorem CheckpointCommitted.steps {outcome : Option BoundaryOutcome} {wave_id : Option WaveId}
    (hinv : db.lanes.Invariant) (hauth : AuthorityHolds db authority)
    (h : CheckpointCommitted db authority checkpoint_id drawn outcome wave_id db') :
    Lanes.Steps db.lanes db'.lanes := by
  have hassignment : authority.attempt.lane.assignment_id = authority.assignment_id := hauth.attempt_assignment
  cases h with
  | progress =>
    rw [show (db.with_checkpoint authority none checkpoint_id).lanes = db.lanes by
      apply Lanes.ext <;> first | rfl | exact Table.view_set_same hauth.lane.attempt_row rfl]
  | @child outcome wave_id index member wave parent participated fresh member_row member_child member_pending wave_row
      wave_open wave_free =>
    have hmember : db.lanes.wave_members (wave_id, index) = some ⟨authority.attempt.lane.assignment_id, .pending⟩ :=
      Table.view_eq_some.mpr ⟨member, member_row, by
        rw [DelegationWaveMember.lane, member_child, member_pending, hassignment]⟩
    have hwave : db.lanes.sources (.delegation_wave wave_id) = some wave.lane :=
      Table.view_eq_some.mpr ⟨wave, wave_row, rfl⟩
    have hstep := Lanes.Step.complete (k := index) hauth.lanes_holds hauth.lanes_serves parent
      (Table.view_eq_none.mpr fresh) hmember hwave (by simp [DelegationWave.lane, SourcePhase.of, wave_free, wave_open,
        WaveStatus.phase]) fun hgreen => missing_participation_eq_nil hinv.selection (participated hgreen)
    refine .single ?_
    convert hstep using 1
    apply Lanes.ext <;> first | rfl | skip
    all_goals simp [TaskDb.with_boundary, completed_attempt_lane hauth, hassignment, Assignment.lane,
      DelegationWaveMember.lane, member_child, checkpoint_boundary, AcceptedBoundary.lane]
  | @root outcome no_parent participated fresh complete =>
    have hwaves : ∀ wave x, db.lanes.sources (.delegation_wave wave) = some x →
        x.phase ≠ .unresolved ∧ x.phase ≠ .resolved := by
      intro wave x hx
      obtain ⟨row, hrow, rfl⟩ := Table.view_eq_some.mp hx
      obtain ⟨hopen, hsettled⟩ := complete.no_wave wave row hrow
      unfold DelegationWave.lane SourcePhase.of
      cases hstatus : row.status <;> cases hnext : row.successor_dispatch_id <;>
        simp_all [WaveStatus.phase]
    have hothers := root_complete_others hinv hauth (fun a hne => Table.get?_set_ne _ hne _)
      (fun i hne => Table.get?_set_ne _ hne _) complete.root complete
    have hstep := Lanes.Step.complete_root hauth.lanes_holds hauth.lanes_serves
      (hassignment.trans complete.root.symm) (Table.view_eq_none.mpr fresh) hothers
      (fun hgreen => missing_participation_eq_nil hinv.selection (participated hgreen))
      (fun w => Table.view_eq_none.mpr (complete.no_wait w)) hwaves
    refine .single ?_
    convert hstep using 1
    apply Lanes.ext <;> first | rfl | skip
    all_goals simp [TaskDb.with_boundary, completed_attempt_lane hauth, hassignment, Assignment.lane,
      checkpoint_boundary, AcceptedBoundary.lane]
  | @retry draw retried _ hdrawn budget selected fresh fresh_attempt hretried staged =>
    obtain ⟨attempt, hattempt, -, hinsert, rfl⟩ := stage_starting_dispatch_eq_ok.mp staged
    have hrow : attempt = new_attempt authority.assignment_id (some authority.attempt_id) := by
      subst hretried
      simpa [semantic_retry_basis] using hattempt.symm
    subst hrow hretried
    have hne : draw.request.dispatch_id ≠ authority.dispatch_id := by
      intro heq
      have hfree := hinsert.fresh
      simp [prepare_dispatch_request, heq, TaskDb.with_boundary] at hfree
    have hfree : db.dispatches.get? draw.request.dispatch_id = none := by
      have hfree := hinsert.fresh
      simpa [prepare_dispatch_request, TaskDb.with_boundary, Table.get?_set, hne] using hfree
    have hfits : db.lanes.Fits draw.request.dispatch_id (build_starting_dispatch_model
        (semantic_retry_basis db authority draw.attempt_id) (prepare_dispatch_request draw.request
          (read_assignment_prompt_steers draw.prompted authority.assignment_id))).lane
        authority.assignment.lane.member_id :=
      ⟨Table.view_eq_none.mpr hfree, rfl, rfl, team_revision_selects_member_iff.mp selected,
        hauth.assignment_member.symm, fun _ _ _ hsome => by cases hsome⟩
    have hstep := Lanes.Step.retry hauth.lanes_holds hauth.lanes_serves (Table.view_eq_none.mpr fresh)
      (Table.view_eq_none.mpr fresh_attempt) hfits ⟨hassignment.symm, rfl, rfl⟩ rfl
    refine .single ?_
    convert hstep using 1
    apply Lanes.ext <;> first | rfl | skip
    case attempts =>
      simp [completed_attempt_lane hauth, hassignment, prepare_dispatch_request, semantic_retry_basis]
      rfl
    all_goals simp [TaskDb.with_boundary, hassignment, Assignment.lane,
      checkpoint_boundary, AcceptedBoundary.lane, prepare_dispatch_request, semantic_retry_basis]

end OhMySubagents
