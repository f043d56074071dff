import OhMySubagents.System.Reachable

open Relational

namespace OhMySubagents

/-- What a branch basis says of the Team revisions of a Task. -/
structure BranchBasesIdentify (db : TaskDb) : Prop where
  same_subtree : ∀ r rev r' rev' m s s', db.team_revisions.get? r = some rev → db.team_revisions.get? r' = some rev' →
    rev.select m = some s → rev'.select m = some s' → s.member_branch_basis_id = s'.member_branch_basis_id →
    ∀ depth, rev.subtree depth m = rev'.subtree depth m
  same_members : ∀ r rev r' rev' m s s', db.team_revisions.get? r = some rev → db.team_revisions.get? r' = some rev' →
    rev.select m = some s → rev'.select m = some s' → s.member_branch_basis_id = s'.member_branch_basis_id →
    ∀ n, Forest.BelowOrEq rev.parent n m ↔ Forest.BelowOrEq rev'.parent n m
  changes : ∀ r rev p before m s s', db.team_revisions.get? r = some rev →
    rev.predecessor_team_revision_id = some p → db.team_revisions.get? p = some before →
    before.select m = some s → rev.select m = some s' →
    (s.member_branch_basis_id ≠ s'.member_branch_basis_id ↔ before.BranchDiffers rev m)

variable {controller : Controller} {db : TaskDb}

/-- Members of one branch stay in the branch of a revision that agrees on its root. -/
theorem TeamRevision.Agree.below {rev rev' : TeamRevision} (hrev : rev.WellFormed) (hrev' : rev'.WellFormed)
    (h : rev.Agree rev') {n m : MemberId} {s s' : TeamRevisionMember} (hs : rev.select m = some s)
    (hs' : rev'.select m = some s') (hbasis : s.member_branch_basis_id = s'.member_branch_basis_id)
    (hbelow : Forest.BelowOrEq rev.parent n m) : Forest.BelowOrEq rev'.parent n m := by
  induction hbelow using Relation.ReflTransGen.head_induction_on with
  | refl => exact .refl
  | @head child parent hparent hrest ih =>
    obtain ⟨sp, sp', hsp, hsp', hsame, -⟩ := h.select_below hrev hrest hs hs' hbasis
    obtain ⟨-, hchildren, -⟩ := h parent sp sp' hsp hsp' hsame
    have hchild : child ∈ rev'.children parent := hchildren ▸ hrev.mem_children_iff.mpr hparent
    exact .head (hrev'.mem_children_iff.mp hchild) ih

/-- Two Team revisions that select a Member with one branch basis have the same branch below it, and between
    consecutive revisions the basis of a Member changes exactly when its branch does. -/
theorem branch_bases_identify (h : controller.runtime.Reachable db) : BranchBasesIdentify db := by
  have hteam : TeamHistory db.toTeamTables := (Controller.sound h).lanes.selection.history
  refine ⟨fun r rev r' rev' m s s' hr hr' hs hs' hbasis depth => ?_,
    fun r rev r' rev' m s s' hr hr' hs hs' hbasis n => ?_,
    fun r rev p before m s s' hr hp hbefore hs hs' => hteam.basis_changes_iff hr hp hbefore hs hs'⟩
  · exact (hteam.agree r rev r' rev' hr hr').subtree_eq depth hs hs' hbasis
  · have hagree := hteam.agree r rev r' rev' hr hr'
    have hrev := hteam.well_formed r rev hr
    have hrev' := hteam.well_formed r' rev' hr'
    exact ⟨hagree.below hrev hrev' hs hs' hbasis, hagree.symm.below hrev' hrev hs' hs hbasis.symm⟩

/-- The first manager appoints another Member. -/
def manager_grows : Move := .replan 7 (.add_child (.mk ⟨6, 6, 6⟩ two_managers.plain [])) 2 1

theorem replay_manager_rejoined : (replay_two_managers manager_rejoined).isSome = true := by decide +kernel

theorem replay_manager_grown : (replay_two_managers (manager_rejoined ++ [manager_grows])).isSome = true := by
  decide +kernel

/-- The second revision gives the first manager a new branch basis and leaves the second one its old one. -/
theorem branch_bases_identify_manager_grown :
    ((replayed _ replay_manager_grown).team_revisions.get? 2).any (fun rev =>
        rev.predecessor_team_revision_id == some 1 && rev.children 2 == [4, 6] &&
          (rev.select 2).any (·.member_branch_basis_id != 2) && (rev.select 3).any (·.member_branch_basis_id == 3)) ∧
      ((replayed _ replay_manager_grown).team_revisions.get? 1).any (fun rev =>
        rev.children 2 == [4] && (rev.select 2).any (·.member_branch_basis_id == 2) &&
          (rev.select 3).any (·.member_branch_basis_id == 3)) ∧
      BranchBasesIdentify (replayed _ replay_manager_grown) :=
  ⟨by decide +kernel, by decide +kernel, branch_bases_identify (replayed_reachable _)⟩

/-- Nothing is open below a Member that a Dispatch runs as. -/
def QuietBelow (db : TaskDb) : Prop :=
  ∀ d dispatch rev, db.dispatches.get? d = some dispatch → dispatch.is_live = true →
    db.team_revisions.get? db.task.current_team_revision_id = some rev →
    ∀ i assignment, db.assignments.get? i = some assignment → assignment.terminal_outcome = none →
      ¬ Forest.Below rev.parent assignment.member_id dispatch.member_id

/-- A replan of a Dispatch leaves the rest of the Task authoritative: the other live Dispatches are those that the new
    Team selects, and a Member at work stays as it is, unless it is the caller or waits above it. -/
structure ReplanKeepsOthers (db db' : TaskDb) (caller_id : DispatchId) (caller : DispatchTurn) : Prop where
  live_selected : ∀ d dispatch, d ≠ caller_id → db.dispatches.get? d = some dispatch → dispatch.is_live = true →
    db'.dispatches.get? d = some dispatch ∧ ∃ rev',
      db'.team_revisions.get? db'.task.current_team_revision_id = some rev' ∧ rev'.selects dispatch.selection = true
  at_work : ∀ rev rev' i assignment a attempt,
    db.team_revisions.get? db.task.current_team_revision_id = some rev →
    db'.team_revisions.get? db'.task.current_team_revision_id = some rev' →
    db.assignments.get? i = some assignment → db.attempts.get? a = some attempt → attempt.assignment_id = i →
    attempt.status = .running ∨ attempt.status = .pending →
    assignment.member_id = caller.member_id ∨
      Forest.Below rev.parent caller.member_id assignment.member_id ∧ attempt.current_wait_id.isSome ∨
      ∃ s s', rev.select assignment.member_id = some s ∧ rev'.select assignment.member_id = some s' ∧
        s'.parent_member_id = s.parent_member_id ∧ s'.member_configuration_id = s.member_configuration_id ∧
        s'.member_branch_basis_id = s.member_branch_basis_id

variable {controller : Controller} {db db' : TaskDb}

namespace Lanes

variable {lanes : Lanes} {i : AssignmentId} {c : LaneAssignment} {rev : TeamRevision}

/-- The Member of an open Assignment is one of the current Team. -/
theorem Invariant.open_selected (h : lanes.Invariant) (active : lanes.Active) (hrev : lanes.current_team = some rev)
    (row : lanes.assignments i = some c) (is_open : c.terminal_outcome = none) :
    ∃ s, rev.select c.member_id = some s := by
  cases hparent : c.parent_assignment_id with
  | none =>
    obtain ⟨root, rev₀, hroot, hrev₀, hmember⟩ := h.selection.root_member
    obtain rfl := Option.some.inj (hrev.symm.trans hrev₀)
    obtain rfl := h.selection.root_parent i c row hparent
    obtain rfl := Option.some.inj (row.symm.trans hroot)
    obtain ⟨s, hs, -⟩ := (h.selection.history.well_formed _ _ hrev).root
    exact ⟨s, hmember ▸ hs⟩
  | some p =>
    obtain ⟨cp, -, -, hteam⟩ := h.quiescence.open_parent i c p active row is_open hparent
    obtain ⟨s, hs, -⟩ := TeamRevision.parent_eq_some_iff.mp (hteam rev hrev)
    exact ⟨s, hs⟩

/-- Whoever is open above an open Assignment waits. -/
theorem Invariant.waits_above (h : lanes.Invariant) (active : lanes.Active) (hrev : lanes.current_team = some rev)
    (row : lanes.assignments i = some c) (is_open : c.terminal_outcome = none) {j : AssignmentId}
    {above : LaneAssignment} {r : LaneAttempt} (hbelow : Forest.Below rev.parent c.member_id above.member_id)
    (hrow : lanes.assignments j = some above) (hopen : above.terminal_outcome = none)
    (hattempt : lanes.attempts above.current_attempt_id = some r) : r.current_wait_id ≠ none := by
  obtain ⟨k, ck, p, cp, hk, hok, hp, hcp, hop, hm⟩ := h.quiescence.climb h.selection active hrev hbelow row is_open rfl
  obtain rfl := h.quiescence.open_unique p cp j above active hcp hrow hop hopen hm
  exact h.quiescence.awaited k ck p above r active hk hok hp hrow hattempt

end Lanes

/-- No open Assignment lies below a live Dispatch. -/
theorem Sound.quiet_below (h : Sound db) : QuietBelow db := by
  intro d dispatch rev hd hlive hrev i assignment hi hopen
  have hlane : db.lanes.dispatches d = some dispatch.lane := Table.view_eq_some.mpr ⟨dispatch, hd, rfl⟩
  obtain ⟨r, c, holds, serves⟩ := h.lanes.pointers.holds_of_live hlane (DispatchTurn.lane_live.mpr hlive)
  have hquiet := h.lanes.quiescence.quiescent h.lanes.selection (.inl holds.running) hrev serves
    (h.lanes.quiescence.unawaited holds.attempt holds.no_wait) (Table.view_eq_some.mpr ⟨assignment, hi, rfl⟩) hopen
  rw [h.lanes.selection.serves_member holds serves] at hquiet
  exact hquiet

section ReplanCommitted

variable {authority : NodeOperationAuthority} {request : ReplanRequest} {drawn : DrawnReplan} {rev : TeamRevision}
  {loaded : PlannedMembers} {mutation : ReplanMutation}

theorem ReplanCommitted.successor_team (h : ReplanCommitted db authority request drawn rev loaded mutation db') :
    db'.team_revisions.get? db'.task.current_team_revision_id =
      some (successor_revision db.task.current_team_revision_id rev mutation) := by
  rw [h.result]
  exact Table.get?_set_self ..

/-- A replan leaves a Member at work as it is, unless it is the caller's own or waits above it. -/
private theorem ReplanCommitted.keeps_at_work (hsound : Sound db) (hauth : AuthorityHolds db authority)
    (h : ReplanCommitted db authority request drawn rev loaded mutation db') {i : AssignmentId}
    {assignment : Assignment} {a : AttemptId} {attempt : Attempt} (hi : db.assignments.get? i = some assignment)
    (ha : db.attempts.get? a = some attempt) (hserved : attempt.assignment_id = i)
    (hwork : attempt.status = .running ∨ attempt.status = .pending) :
    assignment.member_id = authority.dispatch.member_id ∨
      Forest.Below rev.parent authority.dispatch.member_id assignment.member_id ∧ attempt.current_wait_id.isSome ∨
      ∃ s s', rev.select assignment.member_id = some s ∧
        (successor_revision db.task.current_team_revision_id rev mutation).select assignment.member_id = some s' ∧
        s'.parent_member_id = s.parent_member_id ∧ s'.member_configuration_id = s.member_configuration_id ∧
        s'.member_branch_basis_id = s.member_branch_basis_id := by
  have hinv := hsound.lanes
  have hactive : db.lanes.Active := .inl hauth.lanes_holds.running
  have hattempt : db.lanes.attempts a = some attempt.lane := Table.view_eq_some.mpr ⟨attempt, ha, rfl⟩
  have hassignment : db.lanes.assignments i = some assignment.lane := Table.view_eq_some.mpr ⟨assignment, hi, rfl⟩
  have hrunning : attempt.lane.status = .running :=
    hwork.resolve_right fun hpending => hinv.pointers.not_pending a _ hattempt hpending
  obtain ⟨c, hc, hown, hopen⟩ := hinv.pointers.running_attempt a _ hattempt hrunning
  obtain rfl : assignment.lane = c := Option.some.inj
    (hassignment.symm.trans ((congrArg db.lanes.assignments hserved).symm.trans hc))
  have hcaller : authority.assignment.lane.member_id = authority.dispatch.member_id :=
    hauth.assignment_member.trans hauth.member
  have hrevision : db.lanes.current_team = some rev := h.team
  by_cases hsame : assignment.member_id = authority.dispatch.member_id
  · exact .inl hsame
  by_cases habove : Forest.Below rev.parent authority.dispatch.member_id assignment.member_id
  · have hwaits := hinv.waits_above hactive hrevision hauth.lanes_serves.row hauth.lanes_serves.is_open
      (hcaller ▸ habove) hassignment hopen (hown ▸ hattempt)
    exact .inr (.inl ⟨habove, Option.isSome_iff_ne_none.mpr hwaits⟩)
  · refine .inr (.inr ?_)
    obtain ⟨s, hs⟩ := hinv.open_selected hactive hrevision hassignment hopen
    have hstep := (h.replanned hauth hinv.selection.history).step
    have hquiet : ¬ Forest.Below rev.parent assignment.member_id authority.dispatch.member_id :=
      hsound.quiet_below _ _ rev hauth.lane.dispatch_row hauth.lane.live h.team i assignment hi hopen
    have hselects : rev.selects ⟨assignment.member_id, s.member_configuration_id, s.member_branch_basis_id⟩ = true :=
      TeamRevision.selects_iff.mpr ⟨s, hs, rfl, rfl⟩
    have hkept := hstep.selects_apart hselects (fun hle => hle.eq_or_below.elim hsame hquiet)
      (fun hle => hle.eq_or_below.elim (hsame ·.symm) habove)
    obtain ⟨s', hs', hconfiguration, hbasis⟩ := TeamRevision.selects_iff.mp hkept
    exact ⟨s, s', hs, hs', hstep.parent _ s s' hs hs', hconfiguration, hbasis⟩

/-- A committed replan keeps the rest of the Task authoritative. -/
theorem ReplanCommitted.keeps_others (hsound : Sound db) (hsound' : Sound db') (hauth : AuthorityHolds db authority)
    (h : ReplanCommitted db authority request drawn rev loaded mutation db') :
    ReplanKeepsOthers db db' authority.dispatch_id authority.dispatch := by
  refine ⟨fun d dispatch hne hd hlive => ?_,
    fun rev₀ rev' i assignment a attempt hrev hrev' hi ha hserved hwork => ?_⟩
  · have hd' : db'.dispatches.get? d = some dispatch := by
      rw [h.result]
      simpa [Table.get?_set, hne] using hd
    have hlane : db'.lanes.dispatches d = some dispatch.lane := Table.view_eq_some.mpr ⟨dispatch, hd', rfl⟩
    exact ⟨hd', hsound'.lanes.selection.live_selected d dispatch.lane hlane (DispatchTurn.lane_live.mpr hlive)⟩
  · obtain rfl : rev = rev₀ := Option.some.inj (h.team.symm.trans hrev)
    obtain rfl := Option.some.inj (h.successor_team.symm.trans hrev')
    exact h.keeps_at_work hsound hauth hi ha hserved hwork

end ReplanCommitted

/-- In every reachable state nothing is open below a live Dispatch, and therefore a replan leaves the Members at work
    outside the caller's own path, and all their live Dispatches, as they are. -/
theorem quiet_branches (h : controller.runtime.Reachable db) :
    QuietBelow db ∧ ∀ scope request failure drawn allowed db',
      (Transaction.commit_node_operation scope (.replan request failure drawn) allowed).commit controller db =
        some db' →
      ∃ caller, db.dispatches.get? scope.dispatch_id = some caller ∧
        ReplanKeepsOthers db db' scope.dispatch_id caller := by
  have hsound := Controller.sound h
  refine ⟨hsound.quiet_below, fun scope request failure drawn allowed db' hcommit => ?_⟩
  have hsound' : Sound db' := Controller.sound (h.step rfl hcommit)
  obtain ⟨authority, hid, hauth, -, hcommitted⟩ := commit_node_operation_success (toOption_eq_some_iff.mp hcommit)
  cases hcommitted with
  | replan hreplan =>
    rw [← hid]
    exact ⟨authority.dispatch, hauth.lane.dispatch_row, hreplan.keeps_others hsound hsound' hauth⟩

/-- Below the first manager an Assignment has ended, and its replan leaves the second one at work. -/
theorem quiet_branches_manager_rejoined :
    ((replayed _ replay_manager_rejoined).assignments.get? 4).any (·.terminal_outcome == some .green) ∧
      ((replayed _ replay_manager_rejoined).dispatches.get? 3).any DispatchTurn.is_live ∧
      QuietBelow (replayed _ replay_manager_rejoined) ∧
      ∃ db' caller, (manager_grows.transaction (replayed _ replay_manager_rejoined)).commit plain_controller
          (replayed _ replay_manager_rejoined) = some db' ∧
        (replayed _ replay_manager_rejoined).dispatches.get? 7 = some caller ∧
        ReplanKeepsOthers (replayed _ replay_manager_rejoined) db' 7 caller := by
  have hcommits : ((manager_grows.transaction (replayed _ replay_manager_rejoined)).commit plain_controller
      (replayed _ replay_manager_rejoined)).isSome = true := by
    decide +kernel
  obtain ⟨db', hcommit⟩ := Option.isSome_iff_exists.mp hcommits
  obtain ⟨hquiet, hreplan⟩ := quiet_branches (replayed_reachable replay_manager_rejoined)
  obtain ⟨caller, hcaller, hkeeps⟩ := hreplan _ _ _ _ _ db' hcommit
  exact ⟨by decide +kernel, by decide +kernel, hquiet, db', caller, hcommit, hcaller, hkeeps⟩

end OhMySubagents
