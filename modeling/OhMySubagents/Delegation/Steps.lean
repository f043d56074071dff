import OhMySubagents.Delegation.Settlement
import OhMySubagents.Delegation.Staging
import OhMySubagents.Dispatch.Successor
import OhMySubagents.Lanes.Enrollment

open Relational

namespace OhMySubagents

/-- The children of a Wave as the lanes take them on. -/
def PreparedWaveMember.enrollment (team_revision_id : RevisionId) (member : PreparedWaveMember)
    (order_index : Nat) : Enrollment where
  order_index := order_index
  assignment_id := member.assignment_id
  attempt_id := member.attempt_id
  dispatch_id := member.dispatch.dispatch_id
  dispatch := (build_starting_dispatch_model (wave_member_basis team_revision_id member) member.dispatch).lane
  member_id := member.target.member_id

def wave_enrollments (team_revision_id : RevisionId) (members : List PreparedWaveMember) : List Enrollment :=
  members.zipIdx.map fun (member, order_index) => member.enrollment team_revision_id order_index

variable {db rows consumed dispatched db' : TaskDb} {authority : NodeOperationAuthority} {request : DelegateRequest}
  {wave_id : WaveId} {wait_id : WaitId} {rev : TeamRevision} {members : List PreparedWaveMember}

theorem mem_wave_enrollments {team_revision_id : RevisionId} {e : Enrollment} :
    e ∈ wave_enrollments team_revision_id members ↔ ∃ (order_index : Nat) (member : PreparedWaveMember),
      members[order_index]? = some member ∧ e = member.enrollment team_revision_id order_index := by
  unfold wave_enrollments
  rw [List.mem_map]
  constructor
  · rintro ⟨⟨member, order_index⟩, hmem, rfl⟩
    exact ⟨order_index, member, List.mem_zipIdx_iff_getElem?.mp hmem, rfl⟩
  · rintro ⟨order_index, member, hmember, rfl⟩
    exact ⟨(member, order_index), List.mem_zipIdx_iff_getElem?.mpr hmember, rfl⟩

/-- Children that differ in every identity are apart, whatever their order. -/
theorem wave_enrollments_apart (team_revision_id : RevisionId)
    (hassignments : (members.map PreparedWaveMember.assignment_id).Nodup)
    (hattempts : (members.map PreparedWaveMember.attempt_id).Nodup)
    (hdispatches : members.Pairwise fun member other => member.dispatch.dispatch_id ≠ other.dispatch.dispatch_id)
    (hmembers : (members.map fun member => member.target.member_id).Nodup) :
    (wave_enrollments team_revision_id members).Pairwise Enrollment.Apart := by
  have hassignments' := List.pairwise_iff_getElem.mp (List.pairwise_map.mp hassignments)
  have hattempts' := List.pairwise_iff_getElem.mp (List.pairwise_map.mp hattempts)
  have hmembers' := List.pairwise_iff_getElem.mp (List.pairwise_map.mp hmembers)
  have hdispatches' := List.pairwise_iff_getElem.mp hdispatches
  refine List.pairwise_map.mpr (List.pairwise_iff_getElem.mpr fun i j hi hj hij => ?_)
  rw [List.length_zipIdx] at hi hj
  rw [List.getElem_zipIdx, List.getElem_zipIdx]
  exact ⟨by simp [PreparedWaveMember.enrollment]; omega, hassignments' i j hi hj hij, hattempts' i j hi hj hij,
    hdispatches' i j hi hj hij, hmembers' i j hi hj hij⟩

/-- The lanes of a parent that suspended on its Wave, before any child is taken on. -/
def Lanes.await_wave (lanes : Lanes) (authority : NodeOperationAuthority) (wave_id : WaveId) (wait_id : WaitId) :
    Lanes :=
  ((lanes.release authority.dispatch_id authority.dispatch.lane authority.attempt_id authority.attempt.lane
    .delegation).park authority.attempt_id authority.attempt.lane.free wait_id
      ⟨authority.attempt.lane.assignment_id, authority.attempt_id, authority.dispatch_id,
        .delegation_wave wave_id⟩).putSource (.delegation_wave wave_id)
          ⟨authority.attempt.lane.assignment_id, authority.attempt_id, some authority.dispatch_id, .unresolved⟩

theorem AuthorityHolds.await_wave (hauth : AuthorityHolds db authority)
    (hwait : db.attempt_waits.get? wait_id = none) (hwave : db.delegation_waves.get? wave_id = none) :
    Lanes.Step db.lanes (db.lanes.await_wave authority wave_id wait_id) ∧
      (db.lanes.await_wave authority wave_id wait_id).Awaits wave_id authority.assignment_id
        authority.assignment.lane := by
  have hassignment : authority.attempt.lane.assignment_id = authority.assignment_id := hauth.attempt_assignment
  refine ⟨.suspend hauth.lanes_holds (Table.view_eq_none.mpr hwait) (Table.view_eq_none.mpr hwave) rfl, ?_, ?_, ?_⟩
  · simpa [Lanes.await_wave] using hauth.lane.running
  · exact ⟨by simpa [Lanes.await_wave, hassignment] using hauth.lanes_serves.row, rfl, hauth.assignment_open⟩
  · refine ⟨{ authority.attempt.lane.free with current_wait_id := some wait_id }, wait_id,
      ⟨authority.attempt.lane.assignment_id, authority.attempt_id, authority.dispatch_id, .delegation_wave wave_id⟩,
      ⟨authority.attempt.lane.assignment_id, authority.attempt_id, some authority.dispatch_id, .unresolved⟩,
      ?_, rfl, ?_, rfl, ?_, rfl⟩
    · simp [Lanes.await_wave, hauth.lanes_serves.attempt]
    · simp [Lanes.await_wave]
    · simp [Lanes.await_wave]

/-- The tables of a committed delegation, against the rows that it found. -/
structure DelegationTables (db db' : TaskDb) (authority : NodeOperationAuthority) (wave_id : WaveId)
    (wait_id : WaitId) (members : List PreparedWaveMember) : Prop where
  free_wait : db.attempt_waits.get? wait_id = none
  free_wave : db.delegation_waves.get? wave_id = none
  assignments : ∃ children : Table AssignmentId Assignment, db.assignments.insertAll (members.map fun member =>
      (member.assignment_id, new_child_assignment authority db.task.assignment_budget member)) = some children ∧
    members.length ≤ authority.assignment.child_assignments_remaining ∧
    db'.assignments = children.set authority.assignment_id
      { authority.assignment with
        child_assignments_remaining := authority.assignment.child_assignments_remaining - members.length }
  fresh_attempts : ∀ member ∈ members, db.attempts.get? member.attempt_id = none
  distinct_attempts : (members.map PreparedWaveMember.attempt_id).Nodup
  attempts : ∀ a r, db'.attempts.get? a = some r ↔
    a ≠ authority.attempt_id ∧ db.attempts.get? a = some r ∨
    a = authority.attempt_id ∧
      r = { authority.attempt with current_dispatch_id := none, current_wait_id := some wait_id } ∨
    ∃ member ∈ members, member.attempt_id = a ∧
      r = { new_child_attempt member with current_dispatch_id := some member.dispatch.dispatch_id }
  fresh_dispatches : ∀ member ∈ members, db.dispatches.get? member.dispatch.dispatch_id = none
  apart : members.Pairwise fun member other => member.dispatch.dispatch_id ≠ other.dispatch.dispatch_id
  dispatches : ∀ d q, db'.dispatches.get? d = some q ↔
    d ≠ authority.dispatch_id ∧ db.dispatches.get? d = some q ∨
    d = authority.dispatch_id ∧ q = authority.dispatch.close .delegation ∨
    ∃ member ∈ members, member.dispatch.dispatch_id = d ∧
      q = build_starting_dispatch_model (wave_member_basis db.task.current_team_revision_id member) member.dispatch
  wave_members : db.delegation_wave_members.insertAll (members.zipIdx.map fun (member, order_index) =>
    ((wave_id, order_index), new_wave_member authority member)) = some db'.delegation_wave_members
  frame : db' = { db with
    assignments := db'.assignments
    attempts := db'.attempts
    dispatches := db'.dispatches
    delegation_wave_members := db'.delegation_wave_members
    delegation_waves := db.delegation_waves.set wave_id (new_delegation_wave authority)
    attempt_waits := db.attempt_waits.set wait_id
      { assignment_id := authority.assignment_id
        attempt_id := authority.attempt_id
        source_dispatch_id := authority.dispatch_id
        source := .delegation_wave wave_id } }

/-- Each new Attempt points at its own first Dispatch, and no other row changed. -/
private theorem started_attempts {attempts started dispatched : Table AttemptId Attempt}
    (hnodup : (members.map PreparedWaveMember.attempt_id).Nodup)
    (hstarted : attempts.insertAll (members.map fun member => (member.attempt_id, new_child_attempt member)) =
      some started)
    (hown : ∀ member ∈ members, ∃ attempt, started.get? member.attempt_id = some attempt ∧
      dispatched.get? member.attempt_id =
        some { attempt with current_dispatch_id := some member.dispatch.dispatch_id })
    (hothers : ∀ a, (∀ member ∈ members, member.attempt_id ≠ a) → dispatched.get? a = started.get? a)
    (a : AttemptId) (r : Attempt) : dispatched.get? a = some r ↔ attempts.get? a = some r ∨
      ∃ member ∈ members, member.attempt_id = a ∧
        r = { new_child_attempt member with current_dispatch_id := some member.dispatch.dispatch_id } := by
  obtain ⟨hget, hfresh, -⟩ := Table.insertAll_eq_some hstarted
  by_cases ha : ∃ member ∈ members, member.attempt_id = a
  · obtain ⟨member, hmember, rfl⟩ := ha
    have hmem := List.mem_map_of_mem (f := fun member => (member.attempt_id, new_child_attempt member)) hmember
    obtain ⟨attempt, hattempt, hnew⟩ := hown member hmember
    rw [(hget _ _).mpr (.inr hmem)] at hattempt
    cases hattempt
    have hfree := hfresh _ hmem
    simp only at hfree
    rw [hnew, hfree]
    constructor
    · rintro heq
      cases heq
      exact .inr ⟨member, hmember, rfl, rfl⟩
    · rintro (hnone | ⟨other, hother, heq, rfl⟩)
      · cases hnone
      · rw [List.inj_on_of_nodup_map hnodup hother hmember heq]
  · have hne : ∀ member ∈ members, member.attempt_id ≠ a := fun member hmember heq => ha ⟨member, hmember, heq⟩
    rw [hothers a hne, hget]
    refine or_congr_right ⟨fun hmem => ?_, fun ⟨member, hmember, heq, _⟩ => absurd heq (hne member hmember)⟩
    obtain ⟨member, hmember, heq⟩ := List.mem_map.mp hmem
    exact absurd (congrArg Prod.fst heq) (hne member hmember)

theorem DelegationCommitted.tables (hauth : AuthorityHolds db authority)
    (h : DelegationCommitted db authority request wave_id wait_id rev members rows consumed dispatched db') :
    DelegationTables db db' authority wave_id wait_id members := by
  obtain ⟨children, started, wave_members, hfree, hchildren, hstarted, hmembers, rfl⟩ :=
    stage_wave_rows_success h.staged
  obtain ⟨assignment, hassignment, hcount, rfl⟩ := consume_assignment_budget_success h.consumption
  obtain ⟨hgetChildren, hfreshChildren, -⟩ := Table.insertAll_eq_some hchildren
  obtain ⟨hgetStarted, hfreshStarted, hnodup⟩ := Table.insertAll_eq_some hstarted
  have hnodup' : (members.map PreparedWaveMember.attempt_id).Nodup := by simpa [Function.comp_def] using hnodup
  have hfreshAttempts : ∀ member ∈ members, db.attempts.get? member.attempt_id = none := fun member hmember =>
    hfreshStarted _ (List.mem_map_of_mem hmember)
  have hrow : assignment = authority.assignment := by
    rcases (hgetChildren _ _).mp hassignment with hold | hnew
    · exact Option.some.inj (hold.symm.trans hauth.assignment_row)
    · have hnone := hfreshChildren _ hnew
      rw [hauth.assignment_row] at hnone
      cases hnone
  subst hrow
  have hdispatched := stage_wave_dispatches_success hnodup' h.dispatches
  obtain ⟨attempt, dispatch, hfreeWait, hlane, hdb'⟩ := stage_attempt_wait_success h.wait
  have hfreshDispatches : ∀ member ∈ members, db.dispatches.get? member.dispatch.dispatch_id = none :=
    hdispatched.fresh
  have hgetDispatches : ∀ d q, dispatched.dispatches.get? d = some q ↔ db.dispatches.get? d = some q ∨
      ∃ member ∈ members, member.dispatch.dispatch_id = d ∧ q = build_starting_dispatch_model
        (wave_member_basis db.task.current_team_revision_id member) member.dispatch := hdispatched.dispatches
  have hown : ∀ member ∈ members, ∃ attempt, started.get? member.attempt_id = some attempt ∧
      dispatched.attempts.get? member.attempt_id =
        some { attempt with current_dispatch_id := some member.dispatch.dispatch_id } := hdispatched.own
  have hothers : ∀ a, (∀ member ∈ members, member.attempt_id ≠ a) → dispatched.attempts.get? a = started.get? a :=
    hdispatched.others
  have hgetAttempts : ∀ a r, dispatched.attempts.get? a = some r ↔ db.attempts.get? a = some r ∨
      ∃ member ∈ members, member.attempt_id = a ∧
        r = { new_child_attempt member with current_dispatch_id := some member.dispatch.dispatch_id } :=
    started_attempts hnodup' hstarted hown hothers
  have hneAttempt : ∀ member ∈ members, member.attempt_id ≠ authority.attempt_id := by
    intro member hmember heq
    have hnone := hfreshAttempts member hmember
    rw [heq, show db.attempts.get? authority.attempt_id = some authority.attempt from hauth.lane.attempt_row] at hnone
    cases hnone
  have hneDispatch : ∀ member ∈ members, member.dispatch.dispatch_id ≠ authority.dispatch_id := by
    intro member hmember heq
    have hnone := hfreshDispatches member hmember
    rw [heq, show db.dispatches.get? authority.dispatch_id = some authority.dispatch from hauth.lane.dispatch_row]
      at hnone
    cases hnone
  have hattemptRow : attempt = authority.attempt := by
    have hold := (hgetAttempts authority.attempt_id authority.attempt).mpr (.inl hauth.lane.attempt_row)
    exact Option.some.inj (hlane.attempt_row.symm.trans hold)
  have hdispatchRow : dispatch = authority.dispatch := by
    have hold := (hgetDispatches authority.dispatch_id authority.dispatch).mpr (.inl hauth.lane.dispatch_row)
    exact Option.some.inj (hlane.dispatch_row.symm.trans hold)
  subst hattemptRow hdispatchRow
  have hframe := hdispatched.frame
  refine ⟨?_, hfree, ⟨children, hchildren, hcount, ?_⟩, hfreshAttempts, hnodup', ?_, hfreshDispatches,
    hdispatched.apart, ?_, ?_, ?_⟩
  · rw [hframe] at hfreeWait
    exact hfreeWait
  · rw [hdb', hframe]
  · intro a r
    rw [hdb', Table.get?_set]
    split
    · next ha =>
      subst ha
      constructor
      · intro heq
        cases heq
        exact .inr (.inl ⟨rfl, rfl⟩)
      · rintro (⟨hne, -⟩ | ⟨-, rfl⟩ | ⟨member, hmember, heq, -⟩)
        · exact absurd rfl hne
        · rfl
        · exact absurd heq (hneAttempt member hmember)
    · next ha =>
      have hne : a ≠ authority.attempt_id := ha
      rw [hgetAttempts]
      simp only [hne, ne_eq, not_false_eq_true, true_and, false_and, false_or]
  · intro d q
    rw [hdb', Table.get?_set]
    split
    · next hd =>
      subst hd
      constructor
      · intro heq
        cases heq
        exact .inr (.inl ⟨rfl, rfl⟩)
      · rintro (⟨hne, -⟩ | ⟨-, rfl⟩ | ⟨member, hmember, heq, -⟩)
        · exact absurd rfl hne
        · rfl
        · exact absurd heq (hneDispatch member hmember)
    · next hd =>
      have hne : d ≠ authority.dispatch_id := hd
      rw [hgetDispatches]
      simp only [hne, ne_eq, not_false_eq_true, true_and, false_and, false_or]
  · rw [hdb', hframe]
    exact hmembers
  · rw [hdb', hframe]

/-- Every child of a committed delegation can be taken on. -/
private theorem DelegationTables.enrollable (hauth : AuthorityHolds db authority)
    (h : DelegationCommitted db authority request wave_id wait_id rev members rows consumed dispatched db')
    (ht : DelegationTables db db' authority wave_id wait_id members) :
    ∀ e ∈ wave_enrollments db.task.current_team_revision_id members,
      (db.lanes.await_wave authority wave_id wait_id).Enrollable wave_id authority.assignment.lane e := by
  intro e he
  obtain ⟨order_index, member, hget, rfl⟩ := mem_wave_enrollments.mp he
  have hmember := List.mem_of_getElem? hget
  obtain ⟨hselect, hparent⟩ := h.direct member hmember
  obtain ⟨children, hchildren, -, -⟩ := ht.assignments
  obtain ⟨-, hfreshChildren, -⟩ := Table.insertAll_eq_some hchildren
  obtain ⟨-, hfreshMembers, -⟩ := Table.insertAll_eq_some ht.wave_members
  have hrow : db.lanes.current_team = some rev := h.team
  refine ⟨?_, ?_, ?_, ⟨?_, rfl, ?_, ?_, rfl, fun _ _ _ hsome => by cases hsome⟩, ⟨rfl, rfl, rfl⟩, rfl, ?_, ?_⟩
  · have hfree := hfreshMembers ((wave_id, order_index), new_wave_member authority member)
      (List.mem_map.mpr ⟨(member, order_index), List.mem_zipIdx_iff_getElem?.mpr hget, rfl⟩)
    simpa [Lanes.await_wave, PreparedWaveMember.enrollment] using Table.view_eq_none.mpr hfree
  · have hfree := hfreshChildren _ (List.mem_map_of_mem hmember)
    simpa [Lanes.await_wave, PreparedWaveMember.enrollment] using Table.view_eq_none.mpr hfree
  · have hfree := ht.fresh_attempts member hmember
    have hne : member.attempt_id ≠ authority.attempt_id := by
      rintro heq
      rw [heq, show db.attempts.get? authority.attempt_id = some authority.attempt from hauth.lane.attempt_row] at hfree
      cases hfree
    simpa [Lanes.await_wave, PreparedWaveMember.enrollment, hne] using Table.view_eq_none.mpr hfree
  · have hfree := ht.fresh_dispatches member hmember
    have hne : member.dispatch.dispatch_id ≠ authority.dispatch_id := by
      rintro heq
      rw [heq, show db.dispatches.get? authority.dispatch_id = some authority.dispatch from hauth.lane.dispatch_row]
        at hfree
      cases hfree
    simpa [Lanes.await_wave, PreparedWaveMember.enrollment, hne] using Table.view_eq_none.mpr hfree
  · simp [Lanes.await_wave, PreparedWaveMember.enrollment, DispatchTurn.lane, build_starting_dispatch_model,
      wave_member_basis]
  · refine ⟨rev, by simpa [Lanes.await_wave, Lanes.current_team] using hrow, TeamRevision.selects_iff.mpr ?_⟩
    exact ⟨member.target, hselect, rfl, rfl⟩
  · intro i c hc hopen
    obtain ⟨assignment, hassignment, rfl⟩ := Table.view_eq_some.mp
      (show db.assignments.view Assignment.lane i = some c by simpa [Lanes.await_wave] using hc)
    exact h.available member hmember i assignment hassignment hopen
  · refine ⟨rev, member.target, by simpa [Lanes.await_wave, Lanes.current_team] using hrow, hselect, ?_⟩
    rw [hparent]
    exact congrArg some hauth.assignment_member.symm

/-- What does not depend on the order of the children can be said of the children themselves. -/
private theorem exists_enrollment_iff {team_revision_id : RevisionId} {P : Enrollment → Prop}
    {Q : PreparedWaveMember → Prop} (h : ∀ member k, P (member.enrollment team_revision_id k) ↔ Q member) :
    (∃ e ∈ wave_enrollments team_revision_id members, P e) ↔ ∃ member ∈ members, Q member := by
  constructor
  · rintro ⟨e, he, hP⟩
    obtain ⟨k, member, hget, rfl⟩ := mem_wave_enrollments.mp he
    exact ⟨member, List.mem_of_getElem? hget, (h member k).mp hP⟩
  · rintro ⟨member, hmember, hQ⟩
    obtain ⟨k, hget⟩ := List.getElem?_of_mem hmember
    exact ⟨_, mem_wave_enrollments.mpr ⟨k, member, hget, rfl⟩, (h member k).mpr hQ⟩

/-- The lanes of a committed delegation are those of the suspended parent with the children taken on. -/
private theorem DelegationTables.enrolled (hauth : AuthorityHolds db authority)
    (ht : DelegationTables db db' authority wave_id wait_id members) :
    (db.lanes.await_wave authority wave_id wait_id).Enrolled db'.lanes wave_id authority.assignment_id
      (wave_enrollments db.task.current_team_revision_id members) := by
  have hassignment : authority.attempt.lane.assignment_id = authority.assignment_id := hauth.attempt_assignment
  obtain ⟨children, hchildren, -, hassignments⟩ := ht.assignments
  refine ⟨?_, fun k row => ?_, fun k row => ?_, fun k row => ?_, fun k row => ?_⟩
  · rw [ht.frame]
    apply Lanes.ext <;> first | rfl | skip
    · simp [Lanes.await_wave, hassignment]
    · funext s
      cases s <;> simp [Lanes.await_wave, TaskDb.source, Function.update_apply, hassignment, DelegationWave.lane,
        new_delegation_wave, SourcePhase.of, WaveStatus.phase]
  · have hrow : children.get? authority.assignment_id = some authority.assignment :=
      ((Table.insertAll_eq_some hchildren).1 _ _).mpr (.inl hauth.assignment_row)
    have hview : db'.lanes.assignments = children.view Assignment.lane := by
      rw [TaskDb.lanes_assignments, hassignments]
      exact Table.view_set_same hrow rfl
    rw [hview, Table.view_insertAll hchildren, exists_enrollment_iff (Q := fun member => member.assignment_id = k ∧
      row = (new_child_assignment authority db.task.assignment_budget member).lane) fun _ _ => Iff.rfl]
    refine or_congr (by simp [Lanes.await_wave]) ?_
    simp only [List.mem_map, exists_exists_and_eq_and]
  · rw [exists_enrollment_iff (Q := fun member => member.attempt_id = k ∧ row = { LaneAttempt.start member.assignment_id
      with current_dispatch_id := some member.dispatch.dispatch_id }) fun _ _ => Iff.rfl]
    constructor
    · intro hrow
      obtain ⟨r, hr, rfl⟩ := Table.view_eq_some.mp hrow
      rcases (ht.attempts k r).mp hr with ⟨hne, hold⟩ | ⟨rfl, rfl⟩ | ⟨member, hmember, rfl, rfl⟩
      · exact .inl (by simpa [Lanes.await_wave, hne] using Table.view_eq_some.mpr ⟨r, hold, rfl⟩)
      · exact .inl (by simp [Lanes.await_wave, Attempt.lane, LaneAttempt.free])
      · exact .inr ⟨member, hmember, rfl, rfl⟩
    · rintro (hold | ⟨member, hmember, rfl, rfl⟩)
      · by_cases hk : k = authority.attempt_id
        · subst hk
          have hparked := (ht.attempts authority.attempt_id _).mpr (.inr (.inl ⟨rfl, rfl⟩))
          refine Table.view_eq_some.mpr ⟨_, hparked, ?_⟩
          simpa [Lanes.await_wave, Attempt.lane, LaneAttempt.free] using hold
        · obtain ⟨r, hr, rfl⟩ := Table.view_eq_some.mp
            (show db.attempts.view Attempt.lane k = some row by simpa [Lanes.await_wave, hk] using hold)
          exact Table.view_eq_some.mpr ⟨r, (ht.attempts k r).mpr (.inl ⟨hk, hr⟩), rfl⟩
      · exact Table.view_eq_some.mpr ⟨_, (ht.attempts _ _).mpr (.inr (.inr ⟨member, hmember, rfl, rfl⟩)), rfl⟩
  · rw [exists_enrollment_iff (Q := fun member => member.dispatch.dispatch_id = k ∧ row =
      (build_starting_dispatch_model (wave_member_basis db.task.current_team_revision_id member)
        member.dispatch).lane) fun _ _ => Iff.rfl]
    constructor
    · intro hrow
      obtain ⟨q, hq, rfl⟩ := Table.view_eq_some.mp hrow
      rcases (ht.dispatches k q).mp hq with ⟨hne, hold⟩ | ⟨rfl, rfl⟩ | ⟨member, hmember, rfl, rfl⟩
      · exact .inl (by simpa [Lanes.await_wave, hne] using Table.view_eq_some.mpr ⟨q, hold, rfl⟩)
      · exact .inl (by simp [Lanes.await_wave])
      · exact .inr ⟨member, hmember, rfl, rfl⟩
    · rintro (hold | ⟨member, hmember, rfl, rfl⟩)
      · by_cases hk : k = authority.dispatch_id
        · subst hk
          have hclosed := (ht.dispatches authority.dispatch_id _).mpr (.inr (.inl ⟨rfl, rfl⟩))
          refine Table.view_eq_some.mpr ⟨_, hclosed, ?_⟩
          simpa [Lanes.await_wave] using hold
        · obtain ⟨q, hq, rfl⟩ := Table.view_eq_some.mp
            (show db.dispatches.view DispatchTurn.lane k = some row by simpa [Lanes.await_wave, hk] using hold)
          exact Table.view_eq_some.mpr ⟨q, (ht.dispatches k q).mpr (.inl ⟨hk, hq⟩), rfl⟩
      · exact Table.view_eq_some.mpr ⟨_, (ht.dispatches _ _).mpr (.inr (.inr ⟨member, hmember, rfl, rfl⟩)), rfl⟩
  · rw [show db'.lanes.wave_members = db'.delegation_wave_members.view DelegationWaveMember.lane from rfl,
      Table.view_insertAll ht.wave_members]
    refine or_congr (by simp [Lanes.await_wave]) ?_
    simp only [wave_enrollments, List.mem_map, exists_exists_and_eq_and]
    rfl

/-- A committed delegation suspends its parent on the Wave and takes its children on. -/
theorem DelegationCommitted.steps (hauth : AuthorityHolds db authority)
    (h : DelegationCommitted db authority request wave_id wait_id rev members rows consumed dispatched db') :
    Lanes.Steps db.lanes db'.lanes := by
  have ht := h.tables hauth
  obtain ⟨children, hchildren, -, -⟩ := ht.assignments
  obtain ⟨-, -, hnodup⟩ := Table.insertAll_eq_some hchildren
  obtain ⟨hstep, hawaits⟩ := hauth.await_wave ht.free_wait ht.free_wave
  refine .head hstep (hawaits.enrolled_steps (ht.enrollable hauth h) ?_ (ht.enrolled hauth))
  refine wave_enrollments_apart _ (by simpa [Function.comp_def] using hnodup) ht.distinct_attempts ht.apart ?_
  rw [h.children]
  exact request.unique

/-- A settled Wave frees its parent. -/
theorem settle_delegation_wave_step {delegation_wave_id : WaveId}
    (h : settle_delegation_wave db delegation_wave_id = .ok (true, db')) : Lanes.Step db.lanes db'.lanes := by
  obtain ⟨wave, wait_id, wait, attempt, hrunning, hwave, hstatus, hnone, hwait, hsource, hcomplete, hattempt, -, -,
    hwaiting, rfl⟩ := settle_delegation_wave_success h
  have hrow : db.lanes.sources wait.source.source_id = some wave.lane := by
    rw [hsource]
    exact Table.view_eq_some.mpr ⟨wave, hwave, rfl⟩
  have hlanes : ({ db with
      delegation_waves := db.delegation_waves.set delegation_wave_id { wave with status := .settled }
      attempts := db.attempts.set wait.attempt_id { attempt with current_wait_id := none }
      attempt_waits := db.attempt_waits.delete wait_id } : TaskDb).lanes =
      (db.lanes.unpark wait.attempt_id attempt.lane wait_id).putSource wait.source.source_id
        { wave.lane with phase := .resolved } := by
    rw [hsource, show ({ wave.lane with phase := .resolved } : LaneSource) =
      ({ wave with status := .settled } : DelegationWave).lane by
        simp [DelegationWave.lane, SourcePhase.of, hnone, WaveStatus.phase], ← TaskDb.clear_wait_lanes]
    exact @lanes_wave (db.clear_wait wait_id wait.attempt_id attempt) delegation_wave_id _
  rw [hlanes]
  refine .settle (.inl hrunning) (Table.view_eq_some.mpr ⟨wait, hwait, rfl⟩)
    (Table.view_eq_some.mpr ⟨attempt, hattempt, rfl⟩) rfl hwaiting rfl hrow ?_ fun id index m hid hm => ?_
  · simp [DelegationWave.lane, SourcePhase.of, hnone, hstatus, WaveStatus.phase]
  · rw [hsource] at hid
    cases hid
    obtain ⟨member, hmember, rfl⟩ := Table.view_eq_some.mp hm
    exact hcomplete index member hmember

end OhMySubagents
