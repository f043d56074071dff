import OhMySubagents.System.Reachable
import OhMySubagents.System.Completion

open Relational

namespace OhMySubagents

/-- A Member has a green boundary whose Dispatch ran under exactly what a Team revision selects for it, and under the
    very same branch below it. -/
structure GreenUnder (db : TaskDb) (rev : TeamRevision) (m : MemberId) (selected : TeamRevisionMember)
    (source_dispatch_id : DispatchId) (dispatch : DispatchTurn) (authored : TeamRevision) : Prop where
  shown : rev.select m = some selected
  accepted : ∃ boundary, db.accepted_boundaries.get? source_dispatch_id = some boundary ∧ boundary.outcome = .green
  authored_by : db.dispatches.get? source_dispatch_id = some dispatch
  member : dispatch.member_id = m
  configuration : dispatch.member_configuration_id = selected.member_configuration_id
  branch_basis : dispatch.member_branch_basis_id = selected.member_branch_basis_id
  authored_under : db.team_revisions.get? dispatch.team_revision_id = some authored
  subtree : ∀ depth, authored.subtree depth m = rev.subtree depth m

def HasGreen (db : TaskDb) (rev : TeamRevision) (m : MemberId) : Prop :=
  ∃ selected source_dispatch_id dispatch authored, GreenUnder db rev m selected source_dispatch_id dispatch authored

/-- What green boundaries say of the current Team. -/
structure GreenSound (controller : Controller) (db : TaskDb) : Prop where
  /-- A green Checkpoint is accepted only when every direct child in the current Team has a green boundary. -/
  children : ∀ scope checkpoint_id drawn allowed db',
    (Transaction.commit_node_operation scope (.checkpoint (some .green) checkpoint_id drawn) allowed).commit
      controller db = some db' →
    ∃ author rev, db.dispatches.get? scope.dispatch_id = some author ∧
      db.team_revisions.get? db.task.current_team_revision_id = some rev ∧
      ∀ child ∈ rev.children author.member_id, HasGreen db rev child
  /-- Under a green result every Member of the current Team has one. -/
  result : ∀ d boundary rev, db.task.result_boundary_id = some d → db.accepted_boundaries.get? d = some boundary →
    boundary.outcome = .green → db.team_revisions.get? db.task.current_team_revision_id = some rev →
    ∀ m, (rev.select m).isSome → HasGreen db rev m

variable {controller : Controller} {db db' : TaskDb} {authority : NodeOperationAuthority}

theorem CheckpointCommitted.participated {checkpoint_id : CheckpointId} {drawn : Option DrawnSemanticRetry}
    {outcome : Option BoundaryOutcome} {wave_id : Option WaveId}
    (h : CheckpointCommitted db authority checkpoint_id drawn outcome wave_id db') (hgreen : outcome = some .green) :
    missing_participation db authority = [] := by
  cases h with
  | progress => cases hgreen
  | child _ participated => exact participated (TerminalOutcome.boundary_green_iff.mp (Option.some.inj hgreen))
  | root _ participated => exact participated (TerminalOutcome.boundary_green_iff.mp (Option.some.inj hgreen))
  | retry => cases hgreen

/-- An accepted selection of the current Team was accepted with the branch that the current Team has. -/
private theorem Sound.has_green (h : Sound db) {rev : TeamRevision}
    (hrev : db.team_revisions.get? db.task.current_team_revision_id = some rev) {m : MemberId}
    {s : TeamRevisionMember} (hs : rev.select m = some s)
    (haccepted : db.lanes.Accepted ⟨m, s.member_configuration_id, s.member_branch_basis_id⟩) : HasGreen db rev m := by
  obtain ⟨d, b, q, hb, hgreen, hq, hselection⟩ := haccepted
  obtain ⟨boundary, hboundary, rfl⟩ := Table.view_eq_some.mp hb
  obtain ⟨dispatch, hdispatch, rfl⟩ := Table.view_eq_some.mp hq
  obtain ⟨authored, hauthored, hselects⟩ := h.lanes.selection.own_selected d _ hq
  have hselection : dispatch.selection = ⟨m, s.member_configuration_id, s.member_branch_basis_id⟩ := hselection
  obtain ⟨s₀, hs₀, -, hbasis₀⟩ := TeamRevision.selects_iff.mp hselects
  rw [show dispatch.lane.selection = dispatch.selection from rfl, hselection] at hs₀ hbasis₀
  have hagree := h.lanes.selection.history.agree _ authored _ rev hauthored hrev
  exact ⟨s, d, dispatch, authored,
    { shown := hs
      accepted := ⟨boundary, hboundary, hgreen⟩
      authored_by := hdispatch
      member := congrArg MemberSelection.member_id hselection
      configuration := congrArg MemberSelection.member_configuration_id hselection
      branch_basis := congrArg MemberSelection.member_branch_basis_id hselection
      authored_under := hauthored
      subtree := fun depth => hagree.subtree_eq depth hs₀ hs hbasis₀ }⟩

/-- A green result speaks for the whole current Team. -/
private theorem Sound.green_result (h : Sound db) {d : DispatchId} {boundary : AcceptedBoundary} {rev : TeamRevision}
    (hd : db.task.result_boundary_id = some d) (hboundary : db.accepted_boundaries.get? d = some boundary)
    (hgreen : boundary.outcome = .green)
    (hrev : db.team_revisions.get? db.task.current_team_revision_id = some rev) {m : MemberId}
    (hm : (rev.select m).isSome) : HasGreen db rev m := by
  have hinv := h.lanes
  obtain ⟨d', b, q, hd', hb, hq, ⟨rev', hrev', hselects⟩, hroot⟩ :=
    hinv.participation.result (h.result.completed.mpr (Option.isSome_of_eq_some hd))
  obtain rfl : d = d' := Option.some.inj (hd.symm.trans hd')
  obtain rfl : rev = rev' := Option.some.inj (hrev.symm.trans hrev')
  obtain ⟨other, hother, rfl⟩ := Table.view_eq_some.mp hb
  obtain rfl : boundary = other := Option.some.inj (hboundary.symm.trans hother)
  obtain ⟨s, hs, hconfiguration, hbasis⟩ := TeamRevision.selects_iff.mp hselects
  have haccepted : db.lanes.Accepted ⟨q.selection.member_id, s.member_configuration_id, s.member_branch_basis_id⟩ :=
    ⟨d, _, q, hb, hgreen, hq, by rw [hconfiguration, hbasis]⟩
  -- the result was authored for the root, below which every Member stands
  obtain ⟨c₀, rev₀, hc₀, hrev₀, hmember⟩ := hinv.selection.root_member
  obtain rfl : rev = rev₀ := Option.some.inj (hrev.symm.trans hrev₀)
  obtain ⟨c, hc, hown⟩ := hinv.selection.dispatch_member d q hq
  obtain rfl : c = c₀ := Option.some.inj (hc.symm.trans ((congrArg db.lanes.assignments hroot).trans hc₀))
  have hbelow := (hinv.selection.history.well_formed _ rev hrev).rooted m hm
  rw [← hmember, hown] at hbelow
  obtain ⟨t, ht, hgreen'⟩ := hinv.participation.accepted_below hinv.selection hrev hbelow hs haccepted
  exact h.has_green hrev ht hgreen'

/-- A green of a Manager speaks for the branch that the current Team has below it, not for an earlier one. -/
theorem green_sound (h : controller.runtime.Reachable db) : GreenSound controller db where
  children scope checkpoint_id drawn allowed db' hcommit := by
    have hsound := Controller.sound h
    obtain ⟨authority, hid, hauth, -, hcommitted⟩ := commit_node_operation_success (toOption_eq_some_iff.mp hcommit)
    cases hcommitted with
    | checkpoint committed =>
      have hparticipated := missing_participation_eq_nil hsound.lanes.selection (committed.participated rfl)
      obtain ⟨rev, hrev, hselects⟩ := hauth.selected
      refine ⟨authority.dispatch, rev, hid ▸ hauth.lane.dispatch_row, hrev, fun child hchild => ?_⟩
      obtain ⟨s, hs, haccepted⟩ := hsound.lanes.selection.children_accepted hrev hauth.lanes_holds.dispatch hselects
        hparticipated hchild
      exact hsound.has_green hrev hs haccepted
  result _ _ _ hd hboundary hgreen hrev _ hm := (Controller.sound h).green_result hd hboundary hgreen hrev hm

/-- Every Member below the lead has ended green, and the lead continues. -/
def members_green : List Move :=
  manager_rejoined ++ [.end_attempt 7 .green 2, .delegate 3 5 5, .accept_start 5 0 0,
    .end_attempt 5 .green 3, .settle 5,
    .open_wave_successor 5 8, .accept_start 8 0 0, .end_attempt 8 .green 4, .settle 2, .open_wave_successor 2 9,
    .accept_start 9 0 0]

theorem replay_members_green : (replay_two_managers members_green).isSome = true := by decide +kernel

theorem replay_lead_green : (replay_two_managers (members_green ++ [.end_attempt 9 .green 5])).isSome = true := by
  decide +kernel

/-- The green of the lead is accepted over the greens of both managers, and then it speaks for all five Members. -/
theorem green_sound_members_green :
    (∃ author rev, (replayed _ replay_members_green).dispatches.get? 9 = some author ∧ author.member_id = 1 ∧
      (replayed _ replay_members_green).team_revisions.get?
        (replayed _ replay_members_green).task.current_team_revision_id = some rev ∧ rev.children 1 = [2, 3] ∧
      HasGreen (replayed _ replay_members_green) rev 2 ∧ HasGreen (replayed _ replay_members_green) rev 3) ∧
    ((replayed _ replay_lead_green).task.result_boundary_id == some 9 &&
        ((replayed _ replay_lead_green).accepted_boundaries.get? 9).any (·.outcome == .green)) = true ∧
      GreenSound plain_controller (replayed _ replay_lead_green) := by
  have hcommits : (((Move.end_attempt 9 .green 5).transaction (replayed _ replay_members_green)).commit plain_controller
      (replayed _ replay_members_green)).isSome = true := by
    decide +kernel
  have hauthor : (((replayed _ replay_members_green).dispatches.get? 9).any (·.member_id == 1) &&
      ((replayed _ replay_members_green).team_revisions.get?
        (replayed _ replay_members_green).task.current_team_revision_id).any (·.children 1 == [2, 3])) = true := by
    decide +kernel
  obtain ⟨db', hcommit⟩ := Option.isSome_iff_exists.mp hcommits
  obtain ⟨author, rev, hrow, hrev, hchildren⟩ :=
    (green_sound (replayed_reachable replay_members_green)).children _ _ _ _ db' hcommit
  have hrow : (replayed _ replay_members_green).dispatches.get? 9 = some author := hrow
  rw [hrow, hrev, Option.any_some, Option.any_some, Bool.and_eq_true, beq_iff_eq, beq_iff_eq] at hauthor
  obtain ⟨hmember, hteam⟩ := hauthor
  rw [hmember, hteam] at hchildren
  exact ⟨⟨author, rev, hrow, hmember, hrev, hteam, hchildren 2 (by simp), hchildren 3 (by simp)⟩, by decide +kernel,
    green_sound (replayed_reachable _)⟩

variable {db'' : TaskDb} {t : Transaction}

/-- No Checkpoint was recorded and no boundary accepted. -/
structure SameBoundaries (db db' : TaskDb) : Prop where
  checkpoints : db'.attempt_checkpoints = db.attempt_checkpoints
  boundaries : db'.accepted_boundaries = db.accepted_boundaries

theorem SameBoundaries.trans (h : SameBoundaries db db') (h' : SameBoundaries db' db'') : SameBoundaries db db'' :=
  ⟨h'.checkpoints.trans h.checkpoints, h'.boundaries.trans h.boundaries⟩

theorem LanesHalted.same_boundaries (h : LanesHalted db db') : SameBoundaries db db' := by
  rw [h.frame]
  exact ⟨rfl, rfl⟩

theorem TaskPaused.same_boundaries {reason : PauseReason} (h : TaskPaused db db' reason) : SameBoundaries db db' := by
  have hpaused : SameBoundaries db { db with task := db.task.pause reason } := ⟨rfl, rfl⟩
  exact hpaused.trans h.halted.same_boundaries

theorem StartPaused.same_boundaries {signal : DispatchStartDue} {candidate : ProviderStartCandidate}
    {dispatch : DispatchTurn} {attempt : Attempt} (h : StartPaused db signal candidate dispatch attempt db') :
    SameBoundaries db db' := by
  have hfailed : SameBoundaries db (db.fail_start signal dispatch attempt) := ⟨rfl, rfl⟩
  exact hfailed.trans h.paused.same_boundaries

theorem DispatchOpened.same_boundaries {claimed : TaskDb} {snapshot : OrdinaryDispatchSnapshot}
    {prepared : PreparedDispatchRequest} {attempt : Attempt}
    (h : DispatchOpened db claimed db' snapshot prepared attempt) : SameBoundaries db db' := by
  rw [h.frame]
  exact ⟨rfl, rfl⟩

theorem ContinuationsOpened.same_boundaries {items : List PreparedPausedContinuation}
    (h : ContinuationsOpened items db db') : SameBoundaries db db' := by
  induction h with
  | nil => exact ⟨rfl, rfl⟩
  | cons opened _ _ ih => exact opened.same_boundaries.trans ih

theorem TaskCancelled.same_boundaries {closed unwaited : TaskDb} (h : TaskCancelled db closed unwaited db') :
    SameBoundaries db db' := by
  have hcancelled : SameBoundaries db { db with task := db.task.cancel } := ⟨rfl, rfl⟩
  have hdropped : SameBoundaries closed unwaited := by
    rw [h.dropped.frame]
    exact ⟨rfl, rfl⟩
  have hrows : SameBoundaries unwaited db' := by
    rw [h.rows]
    exact ⟨rfl, rfl⟩
  exact ((hcancelled.trans h.halted.same_boundaries).trans hdropped).trans hrows

/-- Only an operation that checkpoints records a Checkpoint or accepts a boundary. -/
theorem NodeOperationCommitted.boundaries {authority : NodeOperationAuthority} {operation : NodeOperation}
    (hauth : AuthorityHolds db authority) (h : NodeOperationCommitted db authority operation db') :
    SameBoundaries db db' ∨ ∃ outcome checkpoint_id drawn wave_id, operation = .checkpoint outcome checkpoint_id drawn ∧
      CheckpointCommitted db authority checkpoint_id drawn outcome wave_id db' := by
  cases h with
  | get_current_context => exact .inl ⟨rfl, rfl⟩
  | set_work_plan committed =>
    rcases set_assignment_work_plan_success committed with rfl | ⟨_, _, -, rfl⟩ <;> exact .inl ⟨rfl, rfl⟩
  | checkpoint committed => exact .inr ⟨_, _, _, _, rfl, committed⟩
  | delegate committed =>
    refine .inl ?_
    rw [(committed.tables hauth).frame]
    exact ⟨rfl, rfl⟩
  | replan committed =>
    refine .inl ?_
    rw [committed.result]
    exact ⟨rfl, rfl⟩
  | open_human_request committed =>
    obtain ⟨-, -, -, rfl⟩ := open_human_request_success hauth committed
    exact .inl ⟨rfl, rfl⟩
  | start_command_run committed =>
    obtain ⟨-, -, -, rfl⟩ := start_command_run_success hauth committed
    exact .inl ⟨rfl, rfl⟩

theorem Committed.boundaries (h : Committed controller db t db') :
    SameBoundaries db db' ∨ ∃ scope outcome checkpoint_id drawn allowed authority wave_id,
      t = .commit_node_operation scope (.checkpoint outcome checkpoint_id drawn) allowed ∧
        AuthorityHolds db authority ∧ CheckpointCommitted db authority checkpoint_id drawn outcome wave_id db' := by
  cases h with
  | operated _ auth _ committed =>
    rcases committed.boundaries auth with hsame | ⟨outcome, checkpoint_id, drawn, wave_id, rfl, hcommitted⟩
    · exact .inl hsame
    · exact .inr ⟨_, outcome, checkpoint_id, drawn, _, _, wave_id, rfl, auth, hcommitted⟩
  | unchanged | admitted | retired | launch_claimed | marked_running | cancellation_requested | steered =>
    exact .inl ⟨rfl, rfl⟩
  | wave_settled settled =>
    obtain ⟨_, _, _, _, -, -, -, -, -, -, -, -, -, -, -, rfl⟩ := settle_delegation_wave_success settled
    exact .inl ⟨rfl, rfl⟩
  | opened _ opened => exact .inl opened.opened.same_boundaries
  | barrier moved => cases moved <;> exact .inl ⟨rfl, rfl⟩
  | provider_start _ _ recorded =>
    cases recorded with
    | accepted => exact .inl ⟨rfl, rfl⟩
    | rotated => exact .inl ⟨rfl, rfl⟩
    | paused paused => exact .inl paused.same_boundaries
  | paused paused => exact .inl paused.same_boundaries
  | replaced _ _ replaced =>
    rw [replaced.result]
    exact .inl ⟨rfl, rfl⟩
  | human_resolved resolved =>
    rw [resolved.result]
    exact .inl ⟨rfl, rfl⟩
  | command_ended ended => cases ended.terminated <;> exact .inl ⟨rfl, rfl⟩
  | continued _ continued =>
    have hresumed : SameBoundaries db db.resumed := ⟨rfl, rfl⟩
    exact .inl (hresumed.trans continued.opened.same_boundaries)
  | cancelled cancelled => exact .inl cancelled.same_boundaries

/-- A Checkpoint is recorded under an identifier of its own. -/
theorem commit_checkpoint_fresh {scope : NodeOperationScope} {outcome : Option BoundaryOutcome}
    {checkpoint_id : CheckpointId} {drawn : Option DrawnSemanticRetry} {allowed : Bool}
    (h : commit_node_operation db scope (.checkpoint outcome checkpoint_id drawn) allowed = .ok db') :
    db.attempt_checkpoints.get? checkpoint_id = none := by
  unfold commit_node_operation execute_node_operation_transaction at h
  simp only [mapError_eq_ok_iff, bind_eq_ok_iff, execute_operation, map_eq_ok_iff] at h
  obtain ⟨authority, hread, _, -, _, -, _, -, ⟨_, committed⟩, hcommit, -⟩ := h
  obtain ⟨-, hauth⟩ := read_node_operation_authority_success hread
  have hstaged : ∃ staged latest, stage_checkpoint db authority outcome checkpoint_id = .ok staged ∧
      advance_latest_checkpoint staged authority checkpoint_id = .ok latest := by
    unfold commit_checkpoint at hcommit
    rcases outcome with _ | outcome
    · simp only [reduceCtorEq, if_false, bind_eq_ok_iff] at hcommit
      obtain ⟨_, -, staged, hstage, latest, hlatest, -⟩ := hcommit
      exact ⟨staged, latest, hstage, hlatest⟩
    · cases outcome <;> simp only [reduceCtorEq, if_false, if_true, bind_eq_ok_iff, Option.some.injEq] at hcommit
      case green =>
        obtain ⟨_, -, _, -, staged, hstage, latest, hlatest, -⟩ := hcommit
        exact ⟨staged, latest, hstage, hlatest⟩
      all_goals
        obtain ⟨_, -, staged, hstage, latest, hlatest, -⟩ := hcommit
        exact ⟨staged, latest, hstage, hlatest⟩
  obtain ⟨staged, latest, hstage, hlatest⟩ := hstaged
  exact (stage_checkpoint_success hauth hstage hlatest).1

/-- The Checkpoint that every accepted boundary points at is there, and of the same Attempt. -/
def BoundaryCheckpoints (db : TaskDb) : Prop :=
  ∀ d boundary, db.accepted_boundaries.get? d = some boundary → ∃ checkpoint,
    db.attempt_checkpoints.get? boundary.checkpoint_id = some checkpoint ∧
      checkpoint.assignment_id = boundary.assignment_id ∧ checkpoint.attempt_id = boundary.attempt_id

/-- The Checkpoint of every accepted boundary says what the boundary says. -/
def BoundariesRecorded (db : TaskDb) : Prop :=
  ∀ d boundary, db.accepted_boundaries.get? d = some boundary → ∃ checkpoint,
    db.attempt_checkpoints.get? boundary.checkpoint_id = some checkpoint ∧
      checkpoint.assignment_id = boundary.assignment_id ∧ checkpoint.attempt_id = boundary.attempt_id ∧
        checkpoint.authoring_dispatch_id = d ∧ checkpoint.outcome = some boundary.outcome

theorem BoundariesRecorded.same (h : BoundariesRecorded db) (hsame : SameBoundaries db db') :
    BoundariesRecorded db' := by
  unfold BoundariesRecorded
  rw [hsame.checkpoints, hsame.boundaries]
  exact h

/-- A fresh Checkpoint leaves those that boundaries point at. -/
theorem BoundariesRecorded.with_checkpoint {authority : NodeOperationAuthority} {outcome : Option BoundaryOutcome}
    {checkpoint_id : CheckpointId} (h : BoundariesRecorded db)
    (hfresh : db.attempt_checkpoints.get? checkpoint_id = none) :
    BoundariesRecorded (db.with_checkpoint authority outcome checkpoint_id) := by
  intro d boundary hrow
  obtain ⟨checkpoint, hcheckpoint, hsame⟩ := h d boundary hrow
  refine ⟨checkpoint, ?_, hsame⟩
  change (db.attempt_checkpoints.set checkpoint_id _).get? _ = _
  rw [Table.get?_set, if_neg]
  · exact hcheckpoint
  · intro heq
    rw [heq, hfresh] at hcheckpoint
    cases hcheckpoint

theorem BoundariesRecorded.with_boundary {authority : NodeOperationAuthority} {outcome : BoundaryOutcome}
    {checkpoint_id : CheckpointId} {drawn : Option DrawnSemanticRetry} (h : BoundariesRecorded db)
    (hfresh : db.attempt_checkpoints.get? checkpoint_id = none) :
    BoundariesRecorded (db.with_boundary authority outcome checkpoint_id drawn) := by
  intro d boundary hrow
  change (db.accepted_boundaries.set authority.dispatch_id _).get? d = _ at hrow
  rw [Table.get?_set] at hrow
  split at hrow
  · next hdispatch =>
    obtain rfl := Option.some.inj hrow
    exact ⟨_, Table.get?_set_self .., rfl, rfl, hdispatch.symm, rfl⟩
  · exact h.with_checkpoint hfresh d boundary hrow

theorem CheckpointCommitted.boundaries_recorded {authority : NodeOperationAuthority} {checkpoint_id : CheckpointId}
    {drawn : Option DrawnSemanticRetry} {outcome : Option BoundaryOutcome} {wave_id : Option WaveId}
    (hfresh : db.attempt_checkpoints.get? checkpoint_id = none) (hold : BoundariesRecorded db)
    (h : CheckpointCommitted db authority checkpoint_id drawn outcome wave_id db') : BoundariesRecorded db' := by
  cases h with
  | progress => exact hold.with_checkpoint hfresh
  | child => exact (hold.with_boundary hfresh).same ⟨rfl, rfl⟩
  | root => exact (hold.with_boundary hfresh).same ⟨rfl, rfl⟩
  | retry _ _ _ _ _ hretried staged =>
    obtain ⟨_, -, -, -, rfl⟩ := stage_starting_dispatch_eq_ok.mp staged
    rw [hretried]
    exact (hold.with_boundary hfresh).same ⟨rfl, rfl⟩

theorem Controller.boundaries_recorded (h : controller.runtime.Reachable db) : BoundariesRecorded db := by
  refine (Transactional.Reachable.invariant (P := fun db => Sound db ∧ BoundariesRecorded db) h ?_ ?_).2
  · rintro db ⟨input, drawn, hstart⟩
    have hreachable : controller.runtime.Reachable db := Controller.start_reachable hstart
    refine ⟨Controller.sound hreachable, fun d boundary hrow => ?_⟩
    obtain ⟨-, request, basis, -, -, -, hrows⟩ := start_task_rows hstart
    rw [hrows] at hrow
    cases hrow
  · rintro t db db' ⟨hsound, hold⟩ hcommit
    have hcommitted := commit_success hsound hcommit
    refine ⟨hcommitted.sound hsound, ?_⟩
    rcases hcommitted.boundaries with hsame |
      ⟨scope, outcome, checkpoint_id, drawn, allowed, authority, wave_id, rfl, -, h⟩
    · exact hold.same hsame
    · exact h.boundaries_recorded (commit_checkpoint_fresh (toOption_eq_some_iff.mp hcommit)) hold

theorem Controller.boundary_checkpoints (h : controller.runtime.Reachable db) : BoundaryCheckpoints db := by
  intro d boundary hrow
  obtain ⟨checkpoint, hcheckpoint, hassignment, hattempt, -⟩ := Controller.boundaries_recorded h d boundary hrow
  exact ⟨checkpoint, hcheckpoint, hassignment, hattempt⟩

/-- A Task with an outcome has a result. -/
theorem Controller.outcome_result (h : controller.runtime.Reachable db) (houtcome : db.task.terminal_outcome ≠ none) :
    db.task.result_boundary_id.isSome := by
  revert houtcome
  refine Controller.invariant (P := fun db => db.task.terminal_outcome ≠ none → db.task.result_boundary_id.isSome) h
    ?_ ?_
  · intro input drawn db hstart houtcome
    obtain ⟨-, request, basis, -, -, -, hrows⟩ := start_task_rows hstart
    rw [hrows] at houtcome
    exact absurd rfl houtcome
  · intro t db db' hsound hcommitted hold
    rcases hcommitted.task with hmoves | ⟨_, _, hcancelled⟩
    · cases hmoves with
      | same task | pause _ task | retire _ task | replan _ task | resume _ task =>
        rw [task]
        exact hold
      | complete _ task =>
        rw [task]
        exact fun _ => rfl
    · rw [hcancelled.task]
      exact fun houtcome => absurd rfl houtcome

end OhMySubagents
