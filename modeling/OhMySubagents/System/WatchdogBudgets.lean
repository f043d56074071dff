import OhMySubagents.System.DispatchRows
import OhMySubagents.TaskControl.Enabled

open Relational

namespace OhMySubagents

/-- The Dispatches that the watchdog opened for one Attempt. -/
def TaskDb.watchdog_replacements (db : TaskDb) (a : AttemptId) : Nat :=
  (db.dispatches.select fun _ dispatch =>
    dispatch.attempt_id == a && dispatch.opened_reason == .watchdog_recovery).length

/-- Whose turn a Dispatch is, and why it was opened. -/
def DispatchTurn.turn (dispatch : DispatchTurn) : AttemptId × DispatchOpenedReason :=
  (dispatch.attempt_id, dispatch.opened_reason)

/-- The rows of the Attempts after a transaction that counts no replacement. -/
abbrev SameCounts (db db' : TaskDb) : Prop :=
  Alters (fun (_ : AttemptId) attempt => attempt.watchdog_replacement_count = 0)
    (fun _ attempt attempt' => attempt'.watchdog_replacement_count = attempt.watchdog_replacement_count)
    db.attempts db'.attempts

/-- The rows of the Dispatches after a transaction that opens no replacement. -/
abbrev SameReplacements (db db' : TaskDb) : Prop :=
  Alters (fun (_ : DispatchId) dispatch => dispatch.opened_reason ≠ .watchdog_recovery)
    (fun _ dispatch dispatch' => dispatch'.turn = dispatch.turn) db.dispatches db'.dispatches

def Transaction.is_watchdog : Transaction → Bool
  | .recover_stale_dispatch .. => true
  | _ => false

/-- What one transaction does to the watchdog budgets of the Attempts. -/
inductive WatchdogMoves (settings : RuntimeSettings) (db : TaskDb) : Transaction → TaskDb → Prop
  | same {t db'} (attempts : SameCounts db db') (dispatches : SameReplacements db db') : WatchdogMoves settings db t db'
  | resumed {checked stale snapshot workspace_available drawn drawn_root db'}
      (attempts : SameCounts db.resumed db') (dispatches : SameReplacements db db') :
      WatchdogMoves settings db (.continue_task checked stale snapshot workspace_available drawn drawn_root) db'
  | replaced {stale reread signal observed_at committed_at request snapshot source assignment attempt db'}
      (activity : snapshot.activity_revision = signal.activity_revision)
      (source_id : snapshot.dispatch.basis.source_dispatch_id = signal.dispatch_id)
      (reason : snapshot.dispatch.basis.opened_reason = .watchdog_recovery)
      (due : calculate_watchdog_due_at snapshot.adapter_started_at snapshot.last_node_activity_at
        settings.watchdog_inactivity_timeout_seconds = snapshot.authoritative_due_at)
      (below : snapshot.watchdog_replacement_count < settings.watchdog_same_attempt_replacement_limit)
      (replaced : WatchdogReplaced db snapshot (prepare_dispatch_request request snapshot.dispatch.steering)
        committed_at source assignment attempt db') :
      WatchdogMoves settings db (.recover_stale_dispatch stale reread signal observed_at committed_at (.drawn request))
        db'

variable {controller : Controller} {db db' : TaskDb} {t : Transaction} {settings : RuntimeSettings} {a : AttemptId}

/-! # One transaction -/

private theorem counts_same (h : db'.attempts = db.attempts) : SameCounts db db' := by
  unfold SameCounts
  rw [h]
  exact Alters.refl (R := fun _ (r r' : Attempt) => r'.watchdog_replacement_count = r.watchdog_replacement_count)
    (fun _ _ => rfl) _

private theorem counts_set {attempt attempt' : Attempt} (row : db.attempts.get? a = some attempt)
    (hrows : db'.attempts = db.attempts.set a attempt')
    (h : attempt'.watchdog_replacement_count = attempt.watchdog_replacement_count) : SameCounts db db' := by
  unfold SameCounts
  rw [hrows]
  exact .set (fun _ _ => rfl) row h

private theorem counts_evolve {R : Attempt → Attempt → Prop} (h : Evolves R db.attempts db'.attempts)
    (hR : ∀ r r', R r r' → r'.watchdog_replacement_count = r.watchdog_replacement_count) : SameCounts db db' :=
  Alters.of_evolves h fun _ _ _ _ hr => hR _ _ hr

private theorem SameCounts.trans {db'' : TaskDb} (h : SameCounts db db') (h' : SameCounts db' db'') :
    SameCounts db db'' :=
  Alters.trans (fun _ _ _ hnew hsame => hsame.trans hnew) (fun _ _ _ _ hr hr' => hr'.trans hr) h h'

theorem TaskPaused.counts {reason : PauseReason} (h : TaskPaused db db' reason) : SameCounts db db' :=
  counts_evolve h.halted.attempts fun r r' hfrees => by obtain rfl | rfl := hfrees <;> rfl

theorem StartPaused.counts {signal : DispatchStartDue} {candidate : ProviderStartCandidate} {dispatch : DispatchTurn}
    {attempt : Attempt} (h : StartPaused db signal candidate dispatch attempt db') : SameCounts db db' := by
  have hfailed : SameCounts db (db.fail_start signal dispatch attempt) := counts_set h.attempt_row rfl rfl
  exact hfailed.trans h.paused.counts

theorem DispatchOpened.counts {claimed : TaskDb} {snapshot : OrdinaryDispatchSnapshot}
    {prepared : PreparedDispatchRequest} {attempt : Attempt}
    (h : DispatchOpened db claimed db' snapshot prepared attempt) : SameCounts db db' := by
  rw [h.rows]
  exact counts_set h.attempt_row rfl rfl

theorem ContinuationsOpened.counts {items : List PreparedPausedContinuation} (h : ContinuationsOpened items db db') :
    SameCounts db db' := by
  induction h with
  | nil => exact counts_same rfl
  | cons opened _ _ ih => exact opened.counts.trans ih

theorem CheckpointCommitted.counts {authority : NodeOperationAuthority} {checkpoint_id : CheckpointId}
    {drawn : Option DrawnSemanticRetry} {outcome : Option BoundaryOutcome} {wave_id : Option WaveId}
    (hauth : AuthorityHolds db authority)
    (h : CheckpointCommitted db authority checkpoint_id drawn outcome wave_id db') : SameCounts db db' := by
  have row : db.attempts.get? authority.attempt_id = some authority.attempt := hauth.lane.attempt_row
  cases h with
  | progress => exact counts_set row rfl rfl
  | child => exact counts_set row rfl rfl
  | root => exact counts_set row rfl rfl
  | @retry draw _ _ _ budget _ _ fresh_attempt hretried staged =>
    obtain ⟨attempt, hattempt, -, -, rfl⟩ := stage_starting_dispatch_eq_ok.mp staged
    rw [hretried] at hattempt ⊢
    have hdraw : (((db.attempts.set authority.attempt_id (completed_attempt authority checkpoint_id .retry)).set
        draw.attempt_id (new_attempt authority.assignment_id (some authority.attempt_id))).get? draw.attempt_id) =
          some attempt := hattempt
    rw [Table.get?_set_self] at hdraw
    cases hdraw
    dsimp only [semantic_retry_basis, SameCounts]
    rw [Table.set_set]
    exact .set_add (fun _ _ => rfl) row rfl fresh_attempt rfl

theorem DelegationTables.counts {authority : NodeOperationAuthority} {wave_id : WaveId} {wait_id : WaitId}
    {members : List PreparedWaveMember} (hauth : AuthorityHolds db authority)
    (h : DelegationTables db db' authority wave_id wait_id members) : SameCounts db db' := by
  have row : db.attempts.get? authority.attempt_id = some authority.attempt := hauth.lane.attempt_row
  refine .intro (fun a attempt hrow => ?_) fun a attempt hfresh hrow => ?_
  · by_cases ha : a = authority.attempt_id
    · subst ha
      obtain rfl := Option.some.inj (row.symm.trans hrow)
      exact ⟨_, (h.attempts _ _).mpr (.inr (.inl ⟨rfl, rfl⟩)), rfl⟩
    · exact ⟨attempt, (h.attempts _ _).mpr (.inl ⟨ha, hrow⟩), rfl⟩
  · rcases (h.attempts _ _).mp hrow with ⟨-, hold⟩ | ⟨rfl, -⟩ | ⟨member, -, -, rfl⟩
    · rw [hfresh] at hold
      cases hold
    · rw [row] at hfresh
      cases hfresh
    · rfl

theorem NodeOperationCommitted.counts {authority : NodeOperationAuthority} {operation : NodeOperation}
    (hauth : AuthorityHolds db authority) (h : NodeOperationCommitted db authority operation db') :
    SameCounts db db' := by
  have row : db.attempts.get? authority.attempt_id = some authority.attempt := hauth.lane.attempt_row
  cases h with
  | get_current_context => exact counts_same rfl
  | set_work_plan committed =>
    rcases set_assignment_work_plan_success committed with rfl | ⟨_, _, -, rfl⟩ <;> exact counts_same rfl
  | checkpoint committed => exact committed.counts hauth
  | delegate committed => exact (committed.tables hauth).counts hauth
  | replan committed =>
    rw [committed.result]
    exact counts_set row rfl rfl
  | open_human_request committed =>
    obtain ⟨-, -, -, rfl⟩ := open_human_request_success hauth committed
    exact counts_set row rfl rfl
  | start_command_run committed =>
    obtain ⟨-, -, -, rfl⟩ := start_command_run_success hauth committed
    exact counts_set row rfl rfl

theorem TaskCancelled.counts {closed unwaited : TaskDb} (h : TaskCancelled db closed unwaited db') :
    SameCounts db db' := by
  have hclosed : SameCounts db closed :=
    counts_evolve h.halted.attempts fun r r' hfrees => by obtain rfl | rfl := hfrees <;> rfl
  have hunwaited : SameCounts closed unwaited :=
    counts_evolve h.dropped.attempts fun r r' hunparks => by obtain rfl | ⟨-, rfl⟩ := hunparks <;> rfl
  refine (hclosed.trans hunwaited).trans ?_
  rw [h.rows]
  refine .mapRows fun _ attempt _ => ?_
  unfold Attempt.cancel
  split <;> rfl

private theorem replacements_same (h : db'.dispatches = db.dispatches) : SameReplacements db db' := by
  unfold SameReplacements
  rw [h]
  exact Alters.refl (R := fun _ (q q' : DispatchTurn) => q'.turn = q.turn) (fun _ _ => rfl) _

theorem DispatchTurn.Moved.turn {d : DispatchId} {dispatch dispatch' : DispatchTurn}
    (h : DispatchTurn.Moved t d dispatch dispatch') : dispatch'.turn = dispatch.turn := by
  cases h <;> rfl

/-- Only a transaction of the watchdog opens a replacement. -/
private theorem replacements_of_rows (h : DispatchRows db t db'.dispatches)
    (hother : t.is_watchdog = false) : SameReplacements db db' := by
  refine h.mono (fun d dispatch hopened => ?_) fun _ _ _ hmoved => hmoved.turn
  cases hopened with
  | child _ reason =>
    rw [build_starting_dispatch_model, reason]
    rintro ⟨⟩
  | retry _ reason =>
    rw [build_starting_dispatch_model, reason]
    rintro ⟨⟩
  | continuation _ _ _ _ _ reason => exact reason
  | replacement signalled =>
    rw [signalled] at hother
    cases hother

theorem Committed.watchdog (h : Committed controller db t db') :
    WatchdogMoves controller.settings db t db' := by
  have hrows := h.dispatches
  cases h with
  | unchanged => exact .same (counts_same rfl) (replacements_same rfl)
  | admitted => exact .same (counts_same rfl) (replacements_of_rows hrows rfl)
  | operated _ auth _ committed => exact .same (committed.counts auth) (replacements_of_rows hrows rfl)
  | wave_settled settled =>
    obtain ⟨wave, _, wait, attempt, -, hwave, -, -, -, -, -, hattempt, -, -, -, rfl⟩ :=
      settle_delegation_wave_success settled
    exact .same (counts_set hattempt rfl rfl) (replacements_same rfl)
  | opened _ opened =>
    refine .same opened.opened.counts ?_
    unfold SameReplacements
    rw [opened.opened.dispatches]
    exact .add (fun _ _ => rfl) opened.opened.fresh opened.reason
  | barrier moved => exact .same (counts_same (by cases moved <;> rfl)) (replacements_same (by cases moved <;> rfl))
  | provider_start _ _ recorded =>
    refine .same ?_ (replacements_of_rows hrows rfl)
    cases recorded with
    | accepted => exact counts_same rfl
    | rotated => exact counts_same rfl
    | paused paused => exact paused.counts
  | paused paused =>
    refine .same paused.counts (.of_evolves paused.halted.dispatches fun _ _ _ _ hcloses => ?_)
    obtain rfl | ⟨-, reason, rfl⟩ := hcloses <;> rfl
  | retired => exact .same (counts_same rfl) (replacements_same rfl)
  | replaced read below replaced =>
    obtain ⟨_, _, _, _, hstale, hdue, -, hsnapshot⟩ := read_watchdog_recovery_snapshot_success read
    refine .replaced ?_ ?_ ?_ ?_ below replaced
    · rw [hsnapshot]
      exact hstale.activity
    · rw [hsnapshot]
      rfl
    · rw [hsnapshot]
      rfl
    · rw [hsnapshot]
      exact hdue
  | human_resolved resolved =>
    rw [resolved.result]
    exact .same (counts_set resolved.waits.attempt_row rfl rfl) (replacements_same rfl)
  | launch_claimed => exact .same (counts_same rfl) (replacements_same rfl)
  | marked_running => exact .same (counts_same rfl) (replacements_same rfl)
  | cancellation_requested => exact .same (counts_same rfl) (replacements_same rfl)
  | command_ended ended =>
    cases ended.terminated with
    | cleared waits => exact .same (counts_set waits.attempt_row rfl rfl) (replacements_same rfl)
    | orphaned => exact .same (counts_same rfl) (replacements_same rfl)
  | continued _ continued => exact .resumed continued.opened.counts (replacements_of_rows hrows rfl)
  | cancelled cancelled => exact .same cancelled.counts (replacements_of_rows hrows rfl)
  | steered => exact .same (counts_same rfl) (replacements_same rfl)

/-! # Counting -/

/-- The replacements that the budget of one Attempt counts. -/
def TaskDb.counted_replacements (db : TaskDb) (a : AttemptId) : Nat :=
  (db.attempts.get? a).elim 0 Attempt.watchdog_replacement_count

theorem SameCounts.counted (h : SameCounts db db') (a : AttemptId) :
    db'.counted_replacements a = db.counted_replacements a := by
  unfold TaskDb.counted_replacements
  cases hrow : db.attempts.get? a with
  | some attempt =>
    obtain ⟨attempt', hrow', hsame⟩ := h.forward hrow
    rw [hrow']
    exact hsame
  | none =>
    cases hrow' : db'.attempts.get? a with
    | none => rfl
    | some attempt' => exact h.added hrow hrow'

private theorem replacements_counts (db : TaskDb) (a : AttemptId) :
    Counts (db.dispatches.view DispatchTurn.turn)
      (fun _ turn => (turn.1 == a && turn.2 == .watchdog_recovery) = true) (db.watchdog_replacements a) :=
  db.dispatches.counts_select DispatchTurn.turn fun _ turn => turn.1 == a && turn.2 == .watchdog_recovery

private theorem replacements_eq {n : Nat} (h : Counts (db.dispatches.view DispatchTurn.turn)
    (fun _ turn => (turn.1 == a && turn.2 == .watchdog_recovery) = true) n) : db.watchdog_replacements a = n :=
  (replacements_counts db a).unique h

theorem SameReplacements.replacements (h : SameReplacements db db') (a : AttemptId) :
    db'.watchdog_replacements a = db.watchdog_replacements a := by
  refine replacements_eq ((replacements_counts db a).congr fun d => ⟨?_, ?_⟩)
  · rintro ⟨turn, hturn, hq⟩
    obtain ⟨dispatch', hrow', rfl⟩ := Table.view_eq_some.mp hturn
    rcases h.backward hrow' with ⟨-, hnew⟩ | ⟨dispatch, hrow, hsame⟩
    · rw [Bool.and_eq_true, beq_iff_eq, beq_iff_eq] at hq
      exact absurd hq.2 hnew
    · exact ⟨dispatch'.turn, Table.view_eq_some.mpr ⟨dispatch, hrow, hsame.symm⟩, hq⟩
  · rintro ⟨turn, hturn, hq⟩
    obtain ⟨dispatch, hrow, rfl⟩ := Table.view_eq_some.mp hturn
    obtain ⟨dispatch', hrow', hsame⟩ := h.forward hrow
    exact ⟨dispatch.turn, Table.view_eq_some.mpr ⟨dispatch', hrow', hsame⟩, hq⟩

section Replaced

variable {snapshot : WatchdogRecoverySnapshot} {prepared : PreparedDispatchRequest} {committed_at : Instant}
  {source : DispatchTurn} {assignment : Assignment} {attempt : Attempt}

/-- A replacement counts one for its own Attempt, and nothing for the others. -/
theorem WatchdogReplaced.counted
    (h : WatchdogReplaced db snapshot prepared committed_at source assignment attempt db') (a : AttemptId) :
    db'.counted_replacements a =
      db.counted_replacements a + if snapshot.dispatch.basis.attempt_id = a then 1 else 0 := by
  have hrow : db.attempts.get? snapshot.dispatch.basis.attempt_id = some attempt := h.lane.attempt_row
  unfold TaskDb.counted_replacements
  rw [h.result]
  change (((db.attempts.set _ _).get? a).elim 0 Attempt.watchdog_replacement_count) = _
  by_cases ha : a = snapshot.dispatch.basis.attempt_id
  · rw [ha, Table.get?_set_self, hrow, if_pos rfl]
    rfl
  · rw [Table.get?_set_ne _ ha, if_neg (Ne.symm ha), Nat.add_zero]

theorem WatchdogReplaced.replacements (hreason : snapshot.dispatch.basis.opened_reason = .watchdog_recovery)
    (h : WatchdogReplaced db snapshot prepared committed_at source assignment attempt db') (a : AttemptId) :
    db'.watchdog_replacements a =
      db.watchdog_replacements a + if snapshot.dispatch.basis.attempt_id = a then 1 else 0 := by
  have hview : ∀ d, db'.dispatches.view DispatchTurn.turn d = if d = prepared.dispatch_id then
      some (snapshot.dispatch.basis.attempt_id, .watchdog_recovery) else db.dispatches.view DispatchTurn.turn d := by
    intro d
    have hsource : (db.dispatches.set snapshot.dispatch.basis.source_dispatch_id
        (source.close .watchdog_superseded)).view DispatchTurn.turn = db.dispatches.view DispatchTurn.turn :=
      Table.view_set_same h.lane.dispatch_row rfl
    rw [h.result]
    dsimp only
    rw [Table.view_set, hsource, Function.update_apply]
    split
    · rw [← hreason]
      rfl
    · rfl
  have hfresh : db.dispatches.view DispatchTurn.turn prepared.dispatch_id = none := Table.view_eq_none.mpr h.fresh
  by_cases ha : snapshot.dispatch.basis.attempt_id = a
  · rw [if_pos ha]
    have hnew : [prepared.dispatch_id].Nodup := List.nodup_singleton _
    refine replacements_eq ((replacements_counts db a).add hnew (fun d hd => ?_) fun d => ?_)
    · rw [List.mem_singleton.mp hd]
      exact hfresh
    · rw [hview, List.mem_singleton]
      by_cases hd : d = prepared.dispatch_id
      · rw [if_pos hd, ha]
        simp [hd]
      · rw [if_neg hd]
        simp [hd]
  · rw [if_neg ha, Nat.add_zero]
    refine replacements_eq ((replacements_counts db a).congr fun d => ?_)
    rw [hview]
    split
    · next hd =>
      rw [hd, hfresh]
      simp [ha]
    · rfl

end Replaced

/-- Whether a transaction resumes the Task, which resets the budgets of its halted Attempts. -/
def Transaction.is_continuation : Transaction → Bool
  | .continue_task .. => true
  | _ => false

theorem TaskDb.resumed_counted (db : TaskDb) (a : AttemptId) :
    db.resumed.counted_replacements a ≤ db.counted_replacements a := by
  unfold TaskDb.counted_replacements TaskDb.resumed
  rw [Table.get?_mapRows]
  cases db.attempts.get? a with
  | none => exact le_rfl
  | some attempt =>
    change attempt.reset_watchdog.watchdog_replacement_count ≤ attempt.watchdog_replacement_count
    unfold Attempt.reset_watchdog
    split
    · exact Nat.zero_le _
    · exact le_rfl

/-- No transaction takes an Attempt over the limit. -/
theorem WatchdogMoves.within (h : WatchdogMoves settings db t db')
    (hwithin : db.counted_replacements a ≤ settings.watchdog_same_attempt_replacement_limit) :
    db'.counted_replacements a ≤ settings.watchdog_same_attempt_replacement_limit := by
  cases h with
  | same attempts => exact (attempts.counted a).trans_le hwithin
  | resumed attempts => exact (attempts.counted a).trans_le ((db.resumed_counted a).trans hwithin)
  | @replaced _ _ _ _ _ _ snapshot _ _ attempt _ _ _ _ _ below replaced =>
    rw [replaced.counted]
    split
    · next ha =>
      have hcount : db.counted_replacements a = snapshot.watchdog_replacement_count := by
        have hrow : db.attempts.get? snapshot.dispatch.basis.attempt_id = some attempt := replaced.lane.attempt_row
        unfold TaskDb.counted_replacements
        rw [← ha, hrow]
        exact replaced.count
      rw [hcount]
      exact below
    · exact hwithin

/-- Every transaction but a resume counts exactly the replacements that it opens. -/
theorem WatchdogMoves.opens_counted (h : WatchdogMoves settings db t db') (hother : t.is_continuation = false)
    (a : AttemptId) : ∃ n, db'.watchdog_replacements a = db.watchdog_replacements a + n ∧
      db'.counted_replacements a = db.counted_replacements a + n := by
  cases h with
  | same attempts dispatches => exact ⟨0, dispatches.replacements a, attempts.counted a⟩
  | resumed => cases hother
  | replaced _ _ reason _ _ replaced => exact ⟨_, replaced.replacements reason a, replaced.counted a⟩

/-- An Attempt never has more replacements counted than the limit allows. -/
theorem Controller.watchdog_within (h : controller.runtime.Reachable db) (a : AttemptId) :
    db.counted_replacements a ≤ controller.settings.watchdog_same_attempt_replacement_limit := by
  refine invariant h (fun input drawn db hstart => ?_) fun _ _ _ _ hcommitted hwithin =>
    hcommitted.watchdog.within hwithin
  obtain ⟨-, request, _, -, -, -, hrows⟩ := start_task_rows hstart
  have hattempts : db.attempts = (∅ : Table AttemptId Attempt).set input.attempt_id
      { new_attempt input.assignment_id none with current_dispatch_id := some request.dispatch_id } := by rw [hrows]
  unfold TaskDb.counted_replacements
  rw [hattempts, Table.get?_set]
  split
  · exact Nat.zero_le _
  · rw [Table.get?_empty]
    exact Nat.zero_le _

/-- What happens between two states of one run while nobody resumes the Task. -/
abbrev Controller.UnresumedPath (controller : Controller) : TaskDb → TaskDb → Prop :=
  Relation.ReflTransGen fun (db db' : TaskDb) => controller.runtime.Reachable db ∧
    ∃ t : Transaction, t.is_continuation = false ∧ t.commit controller db = some db'

/-- Until somebody resumes the Task, its Attempts pay for every replacement, and no more is opened than is left. -/
theorem Controller.unresumed_replacements (hpath : controller.UnresumedPath db db') (a : AttemptId) :
    ∃ n, db'.watchdog_replacements a = db.watchdog_replacements a + n ∧
      db'.counted_replacements a = db.counted_replacements a + n := by
  induction hpath with
  | refl => exact ⟨0, rfl, rfl⟩
  | tail _ hstep ih =>
    obtain ⟨n, hopened, hcounted⟩ := ih
    obtain ⟨hreachable, t, hother, hcommit⟩ := hstep
    obtain ⟨k, hopened', hcounted'⟩ :=
      (commit_success (sound hreachable) hcommit).watchdog.opens_counted hother a
    exact ⟨n + k, by rw [hopened', hopened, Nat.add_assoc], by rw [hcounted', hcounted, Nat.add_assoc]⟩

/-! # A stale Dispatch is replaced or the Task is paused -/

/-- What a signal that reads current rows finds in them lets it act on them. -/
structure WatchdogActs (db : TaskDb) (signal : WatchdogDue) (snapshot : WatchdogRecoverySnapshot)
    (source : DispatchTurn) (attempt : Attempt) : Prop where
  lane : HoldsLane db ⟨snapshot.dispatch.basis.assignment_id, snapshot.dispatch.basis.attempt_id,
    snapshot.dispatch.basis.source_dispatch_id⟩ attempt source
  source_matches : source.is_watchdog_source snapshot = true
  count : attempt.watchdog_replacement_count = snapshot.watchdog_replacement_count
  signalled : snapshot.dispatch.basis.source_dispatch_id = signal.dispatch_id
  due : snapshot.authoritative_due_at = signal.due_at
  team : snapshot.dispatch.team_revision_id = db.task.current_team_revision_id
  control : snapshot.dispatch.task_control_revision = db.task.control_revision
  context : watchdog_context_is_current db snapshot = true
  count_matches : watchdog_replacement_count_matches db snapshot = true
  unowned : dispatch_has_no_external_source db snapshot.dispatch.basis.source_dispatch_id = true
  unfollowed : dispatch_has_no_successor db snapshot.dispatch.basis.source_dispatch_id = true

theorem watchdog_acts {signal : WatchdogDue} {now : Instant} {inactivity_timeout_seconds : Nat}
    {snapshot : WatchdogRecoverySnapshot} (hlineage : db.lanes.Lineage)
    (h : read_watchdog_recovery_snapshot db signal now inactivity_timeout_seconds = some snapshot) :
    ∃ source attempt, WatchdogActs db signal snapshot source attempt := by
  unfold read_watchdog_recovery_snapshot read_watchdog_recovery_candidate at h
  simp only [Option.bind_eq_bind, Option.bind_eq_some_iff, ensure_eq_some_iff, Option.pure_def,
    Option.some.injEq] at h
  obtain ⟨_, ⟨⟨source, assignment, attempt, started⟩, hread, _, -, _, -, rfl⟩, rfl⟩ := h
  obtain ⟨hstale, -, -, hunowned⟩ := read_stale_dispatch_success hread
  have hlane := hstale.lane
  have hholds : attempt.holds ⟨source.assignment_id, source.attempt_id, signal.dispatch_id⟩ = true :=
    Attempt.holds_iff.mpr ⟨hlane.attempt_assignment, hlane.attempt_running, hlane.current, hlane.no_wait⟩
  have hcurrent : assignment.is_current source.member_id source.attempt_id = true :=
    Assignment.is_current_iff.mpr ⟨hstale.assignment_member, hstale.assignment_attempt, hstale.assignment_open⟩
  refine ⟨source, attempt, hlane, ?_, rfl, rfl, rfl, rfl, rfl, ?_, ?_, ?_, ?_⟩
  · simp [DispatchTurn.is_watchdog_source, build_watchdog_replacement_dispatch, hstale.is_open, hstale.started,
      DispatchTurn.selection]
  · unfold watchdog_context_is_current build_watchdog_replacement_dispatch
    simp only [hlane.running, hstale.assignment_row, hlane.attempt_row, hlane.dispatch_row, hstale.is_open,
      Option.any_some, Assignment.is_snapshot, beq_self_eq_true, Bool.and_true, Bool.true_and, Bool.and_eq_true]
    exact ⟨⟨hstale.selected, hcurrent⟩, hholds⟩
  · simp [watchdog_replacement_count_matches, build_watchdog_replacement_dispatch, hlane.attempt_row,
      hlane.attempt_assignment]
  · simp [dispatch_has_no_external_source, build_watchdog_replacement_dispatch, hunowned]
  · unfold dispatch_has_no_successor
    rw [Bool.not_eq_true', Table.any_eq_false_iff]
    intro d successor hrow
    rw [beq_eq_false_iff_ne]
    intro hpredecessor
    obtain ⟨q, hq, -, -, hclosed⟩ := hlineage.predecessor d successor.lane _
      (Table.view_eq_some.mpr ⟨successor, hrow, rfl⟩) hpredecessor
    obtain ⟨row, hrow', rfl⟩ := Table.view_eq_some.mp hq
    obtain rfl := Option.some.inj (hlane.dispatch_row.symm.trans hrow')
    exact hclosed (DispatchTurn.lane_live.mpr hlane.live)

section Acting

variable {signal : WatchdogDue} {observed_at committed_at : Instant}
  {snapshot : WatchdogRecoverySnapshot} {preparation : WatchdogPreparation} {request : DrawnDispatchRequest}

/-- A stale Dispatch whose Attempt has no replacement left pauses the Task, whatever else is going on in it. -/
theorem recover_stale_dispatch_exhausted (hinv : db.lanes.Invariant) (reread : TaskDb)
    (hread : read_watchdog_recovery_snapshot db signal observed_at settings.watchdog_inactivity_timeout_seconds =
      some snapshot)
    (hlimit : settings.watchdog_same_attempt_replacement_limit ≤ snapshot.watchdog_replacement_count)
    (hrendered : preparation ≠ .rendering_failed) :
    ∃ db', recover_stale_dispatch settings db reread db signal observed_at committed_at preparation =
      .ok (.paused, db') ∧ TaskPaused db db' .runtime_recovery_exhausted := by
  obtain ⟨source, attempt, hacts⟩ := watchdog_acts hinv.lineage hread
  obtain ⟨db', hclosed⟩ := close_replaced_task_ok hinv.pointers (db.task.pause .runtime_recovery_exhausted) .paused
    fun d => if d = snapshot.dispatch.basis.source_dispatch_id then some .control_failed else none
  have hpaused : pause_watchdog_snapshot db snapshot .runtime_recovery_exhausted = some db' := by
    unfold pause_watchdog_snapshot commit_watchdog_pause
    rw [hacts.context, hacts.count_matches, hacts.unowned, hacts.unfollowed, hacts.team, hacts.control,
      hacts.lane.running, hclosed]
    simp [ensure]
    rfl
  refine ⟨db', ?_, pause_watchdog_snapshot_success hpaused⟩
  unfold recover_stale_dispatch
  dsimp only
  rw [hread]
  dsimp only
  rw [if_neg hrendered, if_pos hlimit, hpaused]
  rfl

/-- A Dispatch that is stale stays so while its rows do. -/
theorem read_stale_dispatch_later {now later : Instant} {timeout_seconds : Nat}
    {candidate : DispatchTurn × Assignment × Attempt × Instant}
    (h : read_stale_dispatch db signal now timeout_seconds = some candidate) (hdue : signal.due_at ≤ later) :
    read_stale_dispatch db signal later timeout_seconds = some candidate := by
  unfold read_stale_dispatch at h ⊢
  simp only [Option.bind_eq_bind, Option.bind_eq_some_iff, ensure_eq_some_iff, Bool.and_eq_true, beq_iff_eq,
    decide_eq_true_eq] at h ⊢
  obtain ⟨rows, hrows, started, hstarted, _, ⟨⟨⟨hcontext, htimeout⟩, -⟩, hexternal⟩, hresult⟩ := h
  exact ⟨rows, hrows, started, hstarted, (), ⟨⟨⟨hcontext, htimeout⟩, hdue⟩, hexternal⟩, hresult⟩

/-- A stale Dispatch whose replacement cannot be prepared pauses the Task as well. -/
theorem recover_stale_dispatch_failed (hinv : db.lanes.Invariant)
    (hread : read_watchdog_recovery_snapshot db signal observed_at settings.watchdog_inactivity_timeout_seconds =
      some snapshot)
    (hfailed : preparation = .rendering_failed ∨ preparation = .preparation_failed ∧
      snapshot.watchdog_replacement_count < settings.watchdog_same_attempt_replacement_limit)
    (hdue : signal.due_at ≤ committed_at) :
    ∃ db', recover_stale_dispatch settings db db db signal observed_at committed_at preparation = .ok (.paused, db') ∧
      TaskPaused db db' .runtime_transition_failed := by
  obtain ⟨source, attempt, hacts⟩ := watchdog_acts hinv.lineage hread
  have hcandidate : ∃ assignment started, read_stale_dispatch db signal committed_at
      settings.watchdog_inactivity_timeout_seconds = some (source, assignment, attempt, started) := by
    unfold read_watchdog_recovery_snapshot read_watchdog_recovery_candidate at hread
    simp only [Option.bind_eq_bind, Option.bind_eq_some_iff, Option.pure_def, Option.some.injEq] at hread
    obtain ⟨_, ⟨⟨source', assignment, attempt', started⟩, hstale, _, -, _, -, rfl⟩, rfl⟩ := hread
    have hfound := (read_stale_dispatch_success hstale).1.lane
    obtain rfl := Option.some.inj (hfound.dispatch_row.symm.trans hacts.lane.dispatch_row)
    obtain rfl := Option.some.inj (hfound.attempt_row.symm.trans hacts.lane.attempt_row)
    exact ⟨assignment, started, read_stale_dispatch_later hstale hdue⟩
  obtain ⟨assignment, started, hcandidate⟩ := hcandidate
  obtain ⟨hstale, -⟩ := read_stale_dispatch_success hcandidate
  have hcurrent : failed_watchdog_candidate_is_current db db.task.current_team_revision_id signal source = true := by
    unfold failed_watchdog_candidate_is_current
    simp only [hstale.assignment_row, hstale.lane.attempt_row, hstale.lane.dispatch_row, hstale.is_open,
      hstale.activity, Option.any_some, beq_self_eq_true, Bool.and_true, Bool.and_eq_true]
    exact ⟨⟨hstale.selected, Assignment.is_current_iff.mpr ⟨hstale.assignment_member, hstale.assignment_attempt,
      hstale.assignment_open⟩⟩, Attempt.holds_iff.mpr ⟨hstale.lane.attempt_assignment, hstale.lane.attempt_running,
      hstale.lane.current, hstale.lane.no_wait⟩⟩
  obtain ⟨db', hclosed⟩ := close_replaced_task_ok hinv.pointers (db.task.pause .runtime_transition_failed) .paused
    fun d => if d = signal.dispatch_id then some .control_failed else none
  have hpaused : pause_failed_watchdog_signal db db signal committed_at settings.watchdog_inactivity_timeout_seconds =
      some db' := by
    unfold pause_failed_watchdog_signal commit_watchdog_pause
    rw [hcandidate, Option.bind_eq_bind, Option.bind_some]
    dsimp only
    rw [hcurrent, ← hacts.signalled, hacts.unowned, hacts.unfollowed, hacts.lane.running, hacts.signalled, hclosed]
    simp [ensure]
    rfl
  refine ⟨db', ?_, pause_failed_watchdog_signal_success hpaused⟩
  unfold recover_stale_dispatch
  dsimp only
  rw [hread, hpaused]
  dsimp only
  obtain rfl | ⟨rfl, hbelow⟩ := hfailed
  · rfl
  · rw [if_neg (by rintro ⟨⟩), if_neg (Nat.not_le.mpr hbelow)]
    rfl

/-- The unique indexes admit the replacement of an open Dispatch. -/
theorem HoldsLane.replacement_insertable {identity : AttemptDispatchIdentity} {attempt : Attempt}
    {source dispatch : DispatchTurn} {d : DispatchId} (hpointers : db.lanes.Pointers)
    (hlane : HoldsLane db identity attempt source)
    (hunfollowed : dispatch_has_no_successor db identity.dispatch_id = true)
    (hfresh : db.dispatches.get? d = none) (hpredecessor : dispatch.predecessor_dispatch_id = some identity.dispatch_id)
    (hattempt : dispatch.attempt_id = identity.attempt_id) (reason : DispatchClosedReason) :
    DispatchInsertable { db with dispatches := db.dispatches.set identity.dispatch_id (source.close reason) } d
      dispatch := by
  unfold dispatch_has_no_successor at hunfollowed
  rw [Bool.not_eq_true', Table.any_eq_false_iff] at hunfollowed
  have hrows : ∀ {k other}, (db.dispatches.set identity.dispatch_id (source.close reason)).get? k = some other →
      (k = identity.dispatch_id ∧ other = source.close reason) ∨
        k ≠ identity.dispatch_id ∧ db.dispatches.get? k = some other := by
    intro k other hk
    rw [Table.get?_set] at hk
    split at hk
    · next hsame =>
      cases hk
      exact .inl ⟨hsame, rfl⟩
    · next hne => exact .inr ⟨hne, hk⟩
  refine ⟨?_, fun k other hk _ => ?_, fun k other _ hnone => ?_, fun k other hk hlive => ?_⟩
  · dsimp only
    rw [Table.get?_set_ne _ ?_]
    · exact hfresh
    · rintro rfl
      rw [hlane.dispatch_row] at hfresh
      cases hfresh
  · rw [hpredecessor]
    rcases hrows hk with ⟨-, rfl⟩ | ⟨-, hold⟩
    · exact beq_eq_false_iff_ne.mp (hunfollowed _ source hlane.dispatch_row)
    · exact beq_eq_false_iff_ne.mp (hunfollowed k other hold)
  · rw [hpredecessor] at hnone
    cases hnone
  · rcases hrows hk with ⟨-, rfl⟩ | ⟨hne, hold⟩
    · cases hlive
    · rw [hattempt]
      intro hsame
      obtain ⟨r, hr, hcurrent⟩ := hpointers.live_dispatch k other.lane (Table.view_eq_some.mpr ⟨other, hold, rfl⟩)
        (DispatchTurn.lane_live.mpr hlive)
      obtain ⟨row, hrow, rfl⟩ := Table.view_eq_some.mp hr
      rw [show other.lane.attempt_id = identity.attempt_id from hsame, hlane.attempt_row] at hrow
      obtain rfl := Option.some.inj hrow
      exact hne (Option.some.inj (hcurrent.symm.trans hlane.current))

/-- A stale Dispatch whose Attempt has a replacement left is replaced, when its fresh successor is ready in time. -/
theorem recover_stale_dispatch_replaces (hinv : db.lanes.Invariant) (reread : TaskDb)
    (hread : read_watchdog_recovery_snapshot db signal observed_at settings.watchdog_inactivity_timeout_seconds =
      some snapshot)
    (hbelow : snapshot.watchdog_replacement_count < settings.watchdog_same_attempt_replacement_limit)
    (hfresh : db.dispatches.get? request.dispatch_id = none) (htime : signal.due_at ≤ committed_at) :
    ∃ db', recover_stale_dispatch settings db reread db signal observed_at committed_at (.drawn request) =
      .ok (.opened request.dispatch_id, db') := by
  obtain ⟨source, attempt, hacts⟩ := watchdog_acts hinv.lineage hread
  have hlane := hacts.lane
  let closed : TaskDb := { db with
    dispatches := db.dispatches.set snapshot.dispatch.basis.source_dispatch_id (source.close .watchdog_superseded) }
  have hclose : close_watchdog_source_dispatch db snapshot = some closed := by
    unfold close_watchdog_source_dispatch
    rw [Table.updateWhere_eq_some.mpr ⟨source, hlane.dispatch_row, by
      rw [hacts.source_matches, hacts.context, hacts.count_matches, hacts.unowned, hacts.unfollowed]; rfl, rfl⟩]
    rfl
  let counted : TaskDb := { closed with
    attempts := db.attempts.set snapshot.dispatch.basis.attempt_id attempt.count_replacement }
  have hcounted : increment_watchdog_replacement_count closed snapshot = some counted := by
    unfold increment_watchdog_replacement_count
    rw [Table.updateWhere_eq_some.mpr ⟨attempt, hlane.attempt_row, ?_, rfl⟩]
    · rfl
    · rw [Bool.and_eq_true, beq_iff_eq, Attempt.holds_iff]
      exact ⟨⟨hlane.attempt_assignment, hlane.attempt_running, hlane.current, hlane.no_wait⟩, hacts.count⟩
  have hclaimed : claim_watchdog_replacement db snapshot committed_at = some counted := by
    unfold claim_watchdog_replacement claim_watchdog_replacement_task
    rw [hacts.due, hacts.context, hacts.count_matches, hacts.unowned, hacts.unfollowed, decide_eq_true htime, hclose]
    exact hcounted
  have haccepts : attempt.count_replacement.accepts snapshot.dispatch.basis.assignment_id
      (some snapshot.dispatch.basis.source_dispatch_id) = true := by
    simp [Attempt.accepts, Attempt.count_replacement, hlane.attempt_assignment, hlane.attempt_running, hlane.no_wait,
      hlane.current]
  let prepared := prepare_dispatch_request request snapshot.dispatch.steering
  have hinsertable : DispatchInsertable closed prepared.dispatch_id
      (build_starting_dispatch_model snapshot.dispatch.starting_basis prepared) :=
    hlane.replacement_insertable hinv.pointers hacts.unfollowed hfresh rfl rfl _
  have hstaged : ∃ db', stage_starting_dispatch counted snapshot.dispatch.starting_basis prepared = .ok db' :=
    ⟨_, stage_starting_dispatch_eq_ok.mpr ⟨attempt.count_replacement, Table.get?_set_self _ _ _, haccepts,
      ⟨hinsertable.fresh, hinsertable.follows_alone, hinsertable.first, hinsertable.live⟩, rfl⟩⟩
  obtain ⟨db', hstaged⟩ := hstaged
  refine ⟨db', ?_⟩
  unfold recover_stale_dispatch commit_watchdog_replacement
  dsimp only
  rw [hread]
  dsimp only
  rw [if_neg (by rintro ⟨⟩), if_neg (not_le.mpr hbelow), hclaimed]
  dsimp only
  rw [hstaged]
  rfl

end Acting

/-- A Dispatch of an Attempt that a signal found open and silent for the whole timeout. -/
structure SilentDispatch (settings : RuntimeSettings) (db : TaskDb) (signal : WatchdogDue) (committed_at : Instant)
    (a : AttemptId) (dispatch : DispatchTurn) : Prop where
  row : db.dispatches.get? signal.dispatch_id = some dispatch
  attempt : dispatch.attempt_id = a
  is_open : dispatch.status = .open
  activity : dispatch.node_activity_revision = signal.activity_revision
  silent : ∃ started, dispatch.adapter_started_at = some started ∧ calculate_watchdog_due_at started
    dispatch.last_node_activity_at settings.watchdog_inactivity_timeout_seconds ≤ committed_at

/-- Only a signal opens a replacement, and only for a Dispatch that is still silent and has one left. -/
theorem WatchdogMoves.silent (h : WatchdogMoves settings db t db')
    (hmore : db.watchdog_replacements a < db'.watchdog_replacements a) :
    ∃ stale reread signal observed_at committed_at preparation dispatch,
      t = .recover_stale_dispatch stale reread signal observed_at committed_at preparation ∧
      SilentDispatch settings db signal committed_at a dispatch ∧
      db.counted_replacements a < settings.watchdog_same_attempt_replacement_limit := by
  cases h with
  | same _ dispatches => exact absurd (dispatches.replacements a) (Nat.ne_of_gt hmore)
  | resumed _ dispatches => exact absurd (dispatches.replacements a) (Nat.ne_of_gt hmore)
  | @replaced _ _ _ _ committed_at _ snapshot source _ attempt _ activity source_id reason due below replaced =>
    have hlane := replaced.lane
    have ha : snapshot.dispatch.basis.attempt_id = a := by
      by_contra hne
      rw [replaced.replacements reason, if_neg hne] at hmore
      exact absurd hmore (lt_irrefl _)
    refine ⟨_, _, _, _, _, _, source, rfl, ⟨?_, ?_, replaced.is_open, ?_, snapshot.adapter_started_at,
      replaced.started, ?_⟩, ?_⟩
    · rw [← source_id]
      exact hlane.dispatch_row
    · rw [← ha]
      exact hlane.dispatch_attempt
    · rw [← activity]
      exact replaced.activity
    · rw [replaced.last_activity, due]
      exact replaced.due
    · have hrow : db.attempts.get? a = some attempt := by
        rw [← ha]
        exact hlane.attempt_row
      unfold TaskDb.counted_replacements
      rw [hrow]
      exact replaced.count.trans_lt below

/-- How the watchdog spends the budget of the Attempts of a Task. -/
structure WatchdogBudget (controller : Controller) (db : TaskDb) : Prop where
  /-- Until somebody resumes the Task, every replacement is counted, and the count stays within the limit. -/
  paid : ∀ db', controller.UnresumedPath db db' → ∀ a, ∃ n,
    db'.watchdog_replacements a = db.watchdog_replacements a + n ∧
      db'.counted_replacements a = db.counted_replacements a + n ∧
      db.counted_replacements a + n ≤ controller.settings.watchdog_same_attempt_replacement_limit
  /-- Whatever opens a replacement found a silent Dispatch of an Attempt with a replacement left. -/
  silent : ∀ (t : Transaction) (db' : TaskDb) (a : AttemptId), t.commit controller db = some db' →
    db.watchdog_replacements a < db'.watchdog_replacements a →
    ∃ stale reread signal observed_at committed_at preparation dispatch,
      t = .recover_stale_dispatch stale reread signal observed_at committed_at preparation ∧
      SilentDispatch controller.settings db signal committed_at a dispatch ∧
      db.counted_replacements a < controller.settings.watchdog_same_attempt_replacement_limit
  /-- A signal that reads a stale Dispatch replaces it while the budget lasts. -/
  replaces : ∀ reread signal observed_at committed_at snapshot request,
    read_watchdog_recovery_snapshot db signal observed_at controller.settings.watchdog_inactivity_timeout_seconds =
      some snapshot →
    snapshot.watchdog_replacement_count < controller.settings.watchdog_same_attempt_replacement_limit →
    db.dispatches.get? request.dispatch_id = none → signal.due_at ≤ committed_at →
    ∃ db', recover_stale_dispatch controller.settings db reread db signal observed_at committed_at (.drawn request) =
      .ok (.opened request.dispatch_id, db')
  /-- After that it pauses the Task. -/
  exhausted : ∀ reread signal observed_at committed_at snapshot preparation,
    read_watchdog_recovery_snapshot db signal observed_at controller.settings.watchdog_inactivity_timeout_seconds =
      some snapshot →
    controller.settings.watchdog_same_attempt_replacement_limit ≤ snapshot.watchdog_replacement_count →
    preparation ≠ .rendering_failed →
    ∃ db', recover_stale_dispatch controller.settings db reread db signal observed_at committed_at preparation =
      .ok (.paused, db') ∧ TaskPaused db db' .runtime_recovery_exhausted
  /-- A replacement that cannot be prepared pauses the Task too, for another reason. -/
  failed : ∀ signal observed_at committed_at snapshot preparation,
    read_watchdog_recovery_snapshot db signal observed_at controller.settings.watchdog_inactivity_timeout_seconds =
      some snapshot →
    preparation = .rendering_failed ∨ preparation = .preparation_failed ∧
      snapshot.watchdog_replacement_count < controller.settings.watchdog_same_attempt_replacement_limit →
    signal.due_at ≤ committed_at →
    ∃ db', recover_stale_dispatch controller.settings db db db signal observed_at committed_at preparation =
      .ok (.paused, db') ∧ TaskPaused db db' .runtime_transition_failed

/-- In every reachable state, and whatever else happens to the Task, the watchdog keeps to the budget of each Attempt
    and acts on what is stale. -/
theorem watchdog_budget (hreachable : controller.runtime.Reachable db) : WatchdogBudget controller db where
  paid db' hpath a := by
    obtain ⟨n, hopened, hcounted⟩ := Controller.unresumed_replacements hpath a
    refine ⟨n, hopened, hcounted, ?_⟩
    rw [← hcounted]
    rcases hpath.cases_tail with rfl | ⟨before, -, hbefore, t, -, hcommit⟩
    · exact Controller.watchdog_within hreachable a
    · exact (commit_success (Controller.sound hbefore) hcommit).watchdog.within (Controller.watchdog_within hbefore a)
  silent _ _ _ hcommit hmore := (commit_success (Controller.sound hreachable) hcommit).watchdog.silent hmore
  replaces reread _ _ _ _ _ hread hbelow hfresh htime :=
    recover_stale_dispatch_replaces (Controller.sound hreachable).lanes reread hread hbelow hfresh htime
  exhausted reread _ _ _ _ _ hread hlimit hrendered :=
    recover_stale_dispatch_exhausted (Controller.sound hreachable).lanes reread hread hlimit hrendered
  failed _ _ _ _ _ hread hfailed hdue :=
    recover_stale_dispatch_failed (Controller.sound hreachable).lanes hread hfailed hdue

/-- The root whose one replacement is silent as well can only be paused. -/
theorem watchdog_budget_spent : ∃ db db', db.counted_replacements 1 = 1 ∧ WatchdogBudget plain_controller db ∧
    recover_stale_dispatch plain_controller.settings db db db ⟨2, 0, 20⟩ 20 20 .preparation_failed = .ok
      (.paused, db') ∧ TaskPaused db db' .runtime_recovery_exhausted := by
  obtain ⟨db, hreachable, hspent⟩ := reachable_of_replay
    [.accept_start 1 0 0, .watchdog_due 1 0 10 2, .accept_start 2 0 10]
    (P := fun db : TaskDb => db.counted_replacements 1 == 1 &&
      (read_watchdog_recovery_snapshot db ⟨2, 0, 20⟩ 20 10).any
        fun snapshot : WatchdogRecoverySnapshot => decide (1 ≤ snapshot.watchdog_replacement_count))
    (by decide +kernel)
  rw [Bool.and_eq_true, beq_iff_eq, Option.any_eq_true] at hspent
  obtain ⟨hcounted, snapshot, hread, hlimit⟩ := hspent
  have hbudget := watchdog_budget hreachable
  obtain ⟨db', hrecovered, hpaused⟩ := hbudget.exhausted db ⟨2, 0, 20⟩ 20 20 snapshot .preparation_failed hread
    (of_decide_eq_true hlimit) (by rintro ⟨⟩)
  exact ⟨db, db', hcounted, hbudget, hrecovered, hpaused⟩

end OhMySubagents
