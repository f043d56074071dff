import OhMySubagents.Lanes.Tails
import OhMySubagents.System.DispatchRows
import OhMySubagents.System.Reachable

open Relational

namespace OhMySubagents

variable {controller : Controller} {db db' stale : TaskDb} {t : Transaction}

theorem CheckpointCommitted.member_steered_events {authority : NodeOperationAuthority} {checkpoint_id : CheckpointId}
    {drawn : Option DrawnSemanticRetry} {outcome : Option BoundaryOutcome} {wave_id : Option WaveId}
    (h : CheckpointCommitted db authority checkpoint_id drawn outcome wave_id db') :
    db'.member_steered_events = db.member_steered_events := by
  cases h with
  | progress => rfl
  | child => rfl
  | root => rfl
  | retry _ _ _ _ _ hretried staged =>
    obtain ⟨_, -, -, -, rfl⟩ := stage_starting_dispatch_eq_ok.mp staged
    rw [hretried]
    rfl

theorem NodeOperationCommitted.member_steered_events {authority : NodeOperationAuthority} {operation : NodeOperation}
    (hauth : AuthorityHolds db authority) (h : NodeOperationCommitted db authority operation db') :
    db'.member_steered_events = db.member_steered_events := by
  cases h with
  | get_current_context => rfl
  | set_work_plan committed =>
    rcases set_assignment_work_plan_success committed with rfl | ⟨_, _, -, rfl⟩ <;> rfl
  | checkpoint committed => exact committed.member_steered_events
  | delegate committed => rw [(committed.tables hauth).frame]
  | replan committed => rw [committed.result]
  | open_human_request committed =>
    obtain ⟨-, -, -, rfl⟩ := open_human_request_success hauth committed
    rfl
  | start_command_run committed =>
    obtain ⟨-, -, -, rfl⟩ := start_command_run_success hauth committed
    rfl

theorem ContinuationsOpened.member_steered_events {items : List PreparedPausedContinuation}
    (h : ContinuationsOpened items db db') : db'.member_steered_events = db.member_steered_events := by
  induction h with
  | nil => rfl
  | cons opened _ _ ih => rw [ih, opened.frame]

/-- The source of the steer that a transaction records, if its provider delivers one. -/
def Transaction.steered_source (controller : Controller) : Transaction → Option MemberSteerSource
  | steer_product_task_member stale counted member_id request (some .delivered) _ =>
    (read_requested_steer controller.steer_ids stale counted member_id request).toOption.join
  | _ => none

/-- The steer events after one transaction: the same, or one more of the source that it read. -/
inductive SteersMoved (controller : Controller) (db : TaskDb) (t : Transaction) (db' : TaskDb) : Prop
  | same (events : db'.member_steered_events = db.member_steered_events)
  | appended {source request event_id occurred_at} (steered : t.steered_source controller = some source)
      (events : db'.member_steered_events =
        db.member_steered_events ++ [MemberSteerSource.event source request event_id occurred_at])

theorem Committed.steers (h : Committed controller db t db') : SteersMoved controller db t db' := by
  cases h with
  | unchanged => exact .same rfl
  | admitted => exact .same rfl
  | operated _ auth _ committed => exact .same (committed.member_steered_events auth)
  | wave_settled settled =>
    obtain ⟨_, _, _, _, -, -, -, -, -, -, -, -, -, -, -, rfl⟩ := settle_delegation_wave_success settled
    exact .same rfl
  | opened _ opened => exact .same (by rw [opened.opened.frame])
  | barrier moved => cases moved <;> exact .same rfl
  | provider_start _ _ recorded =>
    cases recorded with
    | accepted => exact .same rfl
    | rotated => exact .same rfl
    | paused paused =>
      refine .same ?_
      rw [paused.paused.halted.frame]
      rfl
  | paused paused => exact .same (by rw [paused.halted.frame])
  | retired => exact .same rfl
  | replaced _ _ replaced => exact .same (by rw [replaced.result])
  | human_resolved resolved =>
    refine .same ?_
    rw [resolved.result]
    rfl
  | launch_claimed => exact .same rfl
  | marked_running => exact .same rfl
  | cancellation_requested => exact .same rfl
  | command_ended ended => cases ended.terminated <;> exact .same rfl
  | continued _ continued => exact .same continued.opened.member_steered_events
  | @cancelled _ _ _ closed unwaited _ cancelled =>
    refine .same ?_
    rw [cancelled.rows]
    change unwaited.member_steered_events = _
    rw [cancelled.dropped.frame]
    change closed.member_steered_events = _
    rw [cancelled.halted.frame]
  | steered read =>
    refine .appended ?_ rfl
    simp [Transaction.steered_source, read, Except.toOption]

theorem Transaction.retried_prompt_read {prompted : TaskDb} {i : AssignmentId}
    (h : t.retried_prompt db = some (prompted, i)) : prompted ∈ t.reads := by
  unfold retried_prompt at h
  split at h
  · obtain ⟨_, -, hrows⟩ := Option.map_eq_some_iff.mp h
    cases hrows
    simp [reads, NodeOperation.reads]
  · cases h

/-- What a transaction steers could be steered in rows that it read. -/
theorem Transaction.steered_source_read {source : MemberSteerSource} (h : t.steered_source controller = some source) :
    ∃ stale ∈ t.reads, ∃ assignment attempt dispatch, Steerable stale source assignment attempt dispatch := by
  unfold steered_source at h
  split at h
  · next stale counted member_id request occurred_at =>
    rw [Option.join_eq_some_iff, toOption_eq_some_iff] at h
    obtain ⟨-, -, hsteerable⟩ := read_requested_steer_source h
    exact ⟨stale, by simp [reads], hsteerable⟩
  · cases h

/-- The steers of an Assignment stay, unless the transaction steers it. -/
theorem SteersMoved.keeps (h : SteersMoved controller db t db') {i : AssignmentId}
    (hidle : ∀ source, t.steered_source controller = some source → source.assignment_id ≠ i) :
    read_assignment_prompt_steers db' i = read_assignment_prompt_steers db i := by
  unfold read_assignment_prompt_steers
  cases h with
  | same events => rw [events]
  | @appended source request event_id occurred_at steered events =>
    have hne : (source.event request event_id occurred_at).assignment_id ≠ i := hidle source steered
    rw [events, List.filter_append, List.filter_singleton, beq_eq_false_iff_ne.mpr hne]
    simp

/-- Steers are only ever added at the end. -/
theorem SteersMoved.grow (h : SteersMoved controller db t db') (i : AssignmentId) :
    read_assignment_prompt_steers db i <+: read_assignment_prompt_steers db' i := by
  unfold read_assignment_prompt_steers
  cases h with
  | same events => exact events ▸ List.prefix_rfl
  | appended _ events =>
    rw [events, List.filter_append, List.map_append]
    exact List.prefix_append _ _

/-- An Assignment that is not there yet was not there before. -/
theorem Lanes.Later.fresh_assignment (h : db.lanes.Later db'.lanes) {i : AssignmentId}
    (hfresh : db'.assignments.get? i = none) : db.assignments.get? i = none := by
  by_contra hne
  obtain ⟨assignment, hrow⟩ := Option.ne_none_iff_exists'.mp hne
  obtain ⟨c, hc, -⟩ := h.assignments i assignment.lane (Table.view_eq_some.mpr ⟨assignment, hrow, rfl⟩)
  obtain ⟨_, hrow', -⟩ := Table.view_eq_some.mp hc
  cases hfresh.symm.trans hrow'

/-- What has no successor had none before. -/
theorem Lanes.Later.unfollowed (h : db.lanes.Later db'.lanes) {p : DispatchId} (hunfollowed : db'.lanes.Unfollowed p) :
    db.lanes.Unfollowed p := by
  intro d q hq hp
  obtain ⟨q', hq', hsame⟩ := h.dispatches d q hq
  refine hunfollowed d q' hq' ?_
  rw [hsame.same]
  exact hp

/-- An Attempt that runs ran before, once it was there. -/
theorem LaneAttempt.Later.running {r r' : LaneAttempt} (h : r.Later r') (hpending : r.status ≠ .pending)
    (hrunning : r'.status = .running) : r.status = .running := by
  cases hstatus : r.status with
  | running => rfl
  | pending => exact absurd hstatus hpending
  | completed => cases hrunning.symm.trans ((h.ended (.inl hstatus)).trans hstatus)
  | cancelled => cases hrunning.symm.trans ((h.ended (.inr hstatus)).trans hstatus)

namespace Controller

/-- The Dispatches of every Attempt end in one tail. -/
theorem tails (h : controller.runtime.Reachable db) : db.lanes.Tails := by
  refine invariant (P := fun db => db.lanes.Tails) h (fun input drawn db hstart => ?_)
    fun t db db' hsound hcommitted htails => htails.steps hsound.lanes (hcommitted.steps hsound)
  obtain ⟨-, request, basis, -, -, -, hrows⟩ := start_task_rows hstart
  have hdispatches : db.lanes.dispatches = (((∅ : Table DispatchId DispatchTurn).set request.dispatch_id
      (build_starting_dispatch_model basis (prepare_dispatch_request request []))).view DispatchTurn.lane) := by
    rw [hrows]
    rfl
  refine ⟨fun x hx => ?_, fun d q d' q' hd hd' _ _ _ => ?_⟩
  · rw [hrows] at hx
    cases hx
    exact ⟨request.dispatch_id, rfl⟩
  · rw [hdispatches, Table.view_eq_some] at hd hd'
    obtain ⟨_, hd, -⟩ := hd
    obtain ⟨_, hd', -⟩ := hd'
    simp only [Table.get?_set, Table.get?_empty, Option.ite_none_right_eq_some] at hd hd'
    rw [hd.1, hd'.1]

/-- Every steer was recorded for an Assignment that exists. -/
theorem steered_assignment (h : controller.runtime.Reachable db) {i : AssignmentId}
    (hfresh : db.assignments.get? i = none) : read_assignment_prompt_steers db i = [] := by
  obtain ⟨history, hrun⟩ := h
  revert i
  refine hrun.invariant (P := fun db => ∀ {i}, db.assignments.get? i = none → read_assignment_prompt_steers db i = [])
    ?_ fun t history db db' hrun hreads hcommit hold i hfresh => ?_
  · rintro db ⟨input, drawn, hstart⟩ i -
    obtain ⟨-, request, basis, -, -, -, hrows⟩ := start_task_rows hstart
    rw [hrows]
    rfl
  · have hcommitted := commit_success (sound ⟨history, hrun⟩) hcommit
    have hsteps := hcommitted.steps (sound ⟨history, hrun⟩)
    have hbefore : db.assignments.get? i = none :=
      (hsteps.later (sound ⟨history, hrun⟩).lanes).fresh_assignment hfresh
    rw [hcommitted.steers.keeps fun source hsource hi => ?_]
    · exact hold hbefore
    · obtain ⟨stale, hread, assignment, attempt, dispatch, steerable⟩ := Transaction.steered_source_read hsource
      obtain ⟨hreachable, hpath⟩ := hrun.path (hreads stale hread)
      have hnone := (path_later hreachable hpath).fresh_assignment hbefore
      cases hnone.symm.trans (hi ▸ steerable.assignment_row)

end Controller

/-- The Assignment whose Dispatch a watchdog signal replaces, if it does. -/
def Transaction.replaced_assignment (controller : Controller) (db : TaskDb) : Transaction → Option AssignmentId
  | recover_stale_dispatch stale _ signal observed_at committed_at (.drawn _) => do
    let snapshot ← read_watchdog_recovery_snapshot stale signal observed_at
      controller.settings.watchdog_inactivity_timeout_seconds
    ensure (snapshot.watchdog_replacement_count < controller.settings.watchdog_same_attempt_replacement_limit)
    let _ ← claim_watchdog_replacement db snapshot committed_at
    return snapshot.dispatch.basis.assignment_id
  | _ => none

/-- What keeps every steer before the prompts that come after it. The first part is about the watchdog; where a
    transaction reads and writes the same rows, as on SQLite, the other two hold by themselves. -/
structure SteersInTime (controller : Controller) (t : Transaction) (db : TaskDb) : Prop where
  /-- No watchdog signal replaces a Dispatch of an Assignment that was steered. -/
  unsteered : ∀ i, t.replaced_assignment controller db = some i → read_assignment_prompt_steers db i = []
  /-- A steer is recorded while the Dispatch that it reached is still live. -/
  delivered : ∀ source, t.steered_source controller = some source →
    ∃ dispatch, db.dispatches.get? source.dispatch_id = some dispatch ∧ dispatch.is_live = true
  /-- Nothing was recorded for an Assignment since the prompt of its retry was read. -/
  prompted : ∀ rows i, t.retried_prompt db = some (rows, i) →
    (read_assignment_prompt_steers rows i).length = (read_assignment_prompt_steers db i).length

namespace Controller

/-- Where a lane waits for its successor, no Dispatch of its Assignment is live. -/
private theorem closed_lane (hreachable : controller.runtime.Reachable db) {p d : DispatchId} {q x : LaneDispatch}
    {r : LaneAttempt} (hq : db.lanes.dispatches p = some q) (hclosed : q.closed_reason ≠ none)
    (hr : db.lanes.attempts q.attempt_id = some r) (hrunning : r.status = .running)
    (hunfollowed : db.lanes.Unfollowed p) (hd : db.lanes.dispatches d = some x) (hlive : x.closed_reason = none) :
    x.assignment_id ≠ r.assignment_id := by
  intro hi
  have hinv := (sound hreachable).lanes
  obtain ⟨r', c', holds, serves⟩ := hinv.pointers.holds_of_live hd hlive
  obtain ⟨c, hc, hcurrent, -⟩ := hinv.pointers.running_attempt _ r hr hrunning
  obtain ⟨c₁, hc₁, hcurrent₁, -⟩ := hinv.pointers.running_attempt _ r' holds.attempt holds.attempt_running
  obtain ⟨r₂, hr₂, hsame⟩ := hinv.pointers.dispatch_attempt d x hd
  obtain rfl : r' = r₂ := Option.some.inj (holds.attempt.symm.trans hr₂)
  rw [hsame, hi, hc] at hc₁
  obtain rfl := Option.some.inj hc₁
  have hattempt : x.attempt_id = q.attempt_id := hcurrent₁.symm.trans hcurrent
  -- both it and the tail have no successor, so they are one Dispatch
  obtain rfl := (tails hreachable).unique _ _ _ _ hd hq hattempt (hinv.lineage.unfollowed_of_live hd hlive) hunfollowed
  obtain rfl := Option.some.inj (hd.symm.trans hq)
  exact hclosed hlive

/-- The prompt of a successor is built from all the steers that there are when it opens. -/
theorem steers_kept {history : List TaskDb}
    (hrun : (controller.runtime.restrict (SteersInTime controller)).Run (db :: history))
    (hstale : stale ∈ db :: history) {p : DispatchId} {q : LaneDispatch} {r : LaneAttempt}
    (hq : stale.lanes.dispatches p = some q) (hclosed : q.closed_reason ≠ none)
    (hr : db.lanes.attempts q.attempt_id = some r) (hrunning : r.status = .running)
    (hunfollowed : db.lanes.Unfollowed p) :
    read_assignment_prompt_steers db r.assignment_id = read_assignment_prompt_steers stale r.assignment_id := by
  revert r hunfollowed
  refine hrun.since (P := fun db => ∀ {r : LaneAttempt}, db.lanes.attempts q.attempt_id = some r →
    r.status = .running → db.lanes.Unfollowed p → read_assignment_prompt_steers db r.assignment_id =
      read_assignment_prompt_steers stale r.assignment_id) hstale ?_ ?_
  · intro r _ _ _
    rfl
  · intro t history db db' hrun hstale hreads hcommit hold r' hr' hrunning' hunfollowed'
    have hreachable : controller.runtime.Reachable db := ⟨history, hrun.of_restrict⟩
    have hinv := (sound hreachable).lanes
    have hcommitted := commit_success (sound hreachable) hcommit.2
    have hlater := (hcommitted.steps (sound hreachable)).later hinv
    obtain ⟨hwas, hpath⟩ := hrun.of_restrict.path hstale
    -- the tail, its Attempt and what follows it, in the rows that the transaction found
    obtain ⟨q₁, hq₁, hqsame⟩ := (path_later hwas hpath).dispatches p q hq
    have hattempt : q₁.attempt_id = q.attempt_id := by rw [hqsame.same]
    obtain ⟨r, hr, -⟩ := hinv.pointers.dispatch_attempt p q₁ hq₁
    obtain ⟨r'', hr'', hrsame⟩ := hlater.attempts _ r hr
    obtain rfl : r' = r'' := Option.some.inj (hr'.symm.trans (hattempt ▸ hr''))
    have hrunning : r.status = .running := hrsame.running (hinv.pointers.not_pending _ r hr) hrunning'
    have hunfollowed : db.lanes.Unfollowed p := hlater.unfollowed hunfollowed'
    rw [hrsame.assignment_id, ← hold (hattempt ▸ hr) hrunning hunfollowed]
    refine hcommitted.steers.keeps fun source hsource hi => ?_
    obtain ⟨dispatch, hrow, hlive⟩ := hcommit.1.delivered source hsource
    have hd : db.lanes.dispatches source.dispatch_id = some dispatch.lane :=
      Table.view_eq_some.mpr ⟨dispatch, hrow, rfl⟩
    obtain ⟨read, hread, _, _, steered, steerable⟩ := Transaction.steered_source_read hsource
    obtain ⟨hreadable, hsince⟩ := hrun.of_restrict.path (hreads read hread)
    obtain ⟨x, hx, hxsame⟩ := (path_later hreadable hsince).dispatches source.dispatch_id steered.lane
      (Table.view_eq_some.mpr ⟨steered, steerable.dispatch_row, rfl⟩)
    obtain rfl : dispatch.lane = x := Option.some.inj (hd.symm.trans hx)
    have hassignment : dispatch.lane.assignment_id = source.assignment_id := by
      rw [hxsame.same]
      exact steerable.dispatch_assignment
    exact closed_lane hreachable hq₁ (hqsame.closed hclosed ▸ hclosed) hr hrunning hunfollowed hd
      (DispatchTurn.lane_live.mpr hlive) (hassignment.trans hi)

/-- The steers of a path only grow. -/
theorem path_steers (hpath : controller.runtime.Path stale db) (i : AssignmentId) :
    read_assignment_prompt_steers stale i <+: read_assignment_prompt_steers db i := by
  refine Transactional.Path.rel (R := fun db db' =>
    read_assignment_prompt_steers db i <+: read_assignment_prompt_steers db' i)
    hpath (fun _ => List.prefix_rfl) (fun _ _ _ => List.IsPrefix.trans) fun db db' hstep => ?_
  obtain ⟨-, t, hcommitted⟩ := committed hstep
  exact hcommitted.steers.grow i

end Controller

/-- Every new Dispatch starts with a prompt that carries all the steers of its Assignment, in event order. -/
def OpensSteered (db db' : TaskDb) : Prop :=
  ∀ d dispatch, db.dispatches.get? d = none → db'.dispatches.get? d = some dispatch →
    dispatch.request_steering = read_assignment_prompt_steers db dispatch.assignment_id

/-- What a new Dispatch follows had no successor before. -/
theorem Committed.unfollowed_source (hsound : Sound db) (h : Committed controller db t db') {d p : DispatchId}
    {dispatch : DispatchTurn} (hfresh : db.dispatches.get? d = none) (hrow : db'.dispatches.get? d = some dispatch)
    (hp : dispatch.predecessor_dispatch_id = some p) : db.lanes.Unfollowed p := by
  intro d' q' hq' hp'
  obtain ⟨q'', hq'', hsame⟩ := ((h.steps hsound).later hsound.lanes).dispatches d' q' hq'
  have hd : d' = d := by
    refine (h.sound hsound).lanes.lineage.predecessor_unique d' q'' d dispatch.lane p hq''
      (Table.view_eq_some.mpr ⟨dispatch, hrow, rfl⟩) ?_ hp
    rw [hsame.same]
    exact hp'
  obtain ⟨_, hbefore, -⟩ := Table.view_eq_some.mp hq'
  cases hfresh.symm.trans (hd ▸ hbefore)

/-- A commit that opens a replacement replaced the Assignment of the new Dispatch. -/
private theorem replaced_assignment_of_opened {reread : TaskDb} {signal : WatchdogDue}
    {observed_at committed_at : Instant} {request : DrawnDispatchRequest} {d : DispatchId} {dispatch : DispatchTurn}
    (h : (Transaction.recover_stale_dispatch stale reread signal observed_at committed_at (.drawn request)).commit
      controller db = some db')
    (hfresh : db.dispatches.get? d = none) (hrow : db'.dispatches.get? d = some dispatch) :
    (Transaction.recover_stale_dispatch stale reread signal observed_at committed_at
      (.drawn request)).replaced_assignment
      controller db = some dispatch.assignment_id := by
  have hpause : ∀ reason, ¬ TaskPaused db db' reason := by
    intro reason hpaused
    obtain ⟨before, hbefore, -⟩ := Evolves.backward hpaused.halted.dispatches hrow
    cases hfresh.symm.trans hbefore
  obtain ⟨outcome, h⟩ := toOption_snd_eq_some h
  obtain ⟨rfl, -⟩ | ⟨snapshot, -, -, hpaused, -⟩ | ⟨hpaused, -⟩ |
      ⟨snapshot, drawn, hread, hlimit, hdrawn, hcommit, -⟩ := recover_stale_dispatch_cases h
  · cases hfresh.symm.trans hrow
  · exact absurd (pause_watchdog_snapshot_success hpaused) (hpause _)
  · exact absurd (pause_failed_watchdog_signal_success hpaused) (hpause _)
  · cases hdrawn
    obtain ⟨source, assignment, attempt, hreplaced⟩ := commit_watchdog_replacement_success hcommit
    unfold commit_watchdog_replacement at hcommit
    split at hcommit
    · cases hcommit
    · next counted hclaimed =>
      simp only [Transaction.replaced_assignment, Option.bind_eq_bind, Option.bind_eq_some_iff, ensure_eq_some_iff,
        decide_eq_true_eq, Option.pure_def]
      refine ⟨snapshot, hread, (), hlimit, counted, hclaimed, ?_⟩
      simp only [hreplaced.result, Table.get?_set] at hrow
      split at hrow
      · cases hrow
        rfl
      · split at hrow
        · next hsource =>
          cases hfresh.symm.trans (hsource ▸ hreplaced.lane.dispatch_row)
        · cases hfresh.symm.trans hrow

/-- Where the steers are in time, no later prompt of a steered Assignment misses one. -/
theorem steers_reach_later_dispatches {states : List TaskDb}
    (h : (controller.runtime.restrict (SteersInTime controller)).Run states) {rest : List TaskDb}
    (hsuffix : db' :: db :: rest <:+ states) : OpensSteered db db' := by
  cases h.of_suffix hsuffix (List.cons_ne_nil _ _) with
  | @step _ _ t _ run reads commit =>
    have hrun := run.of_restrict
    have hreachable : controller.runtime.Reachable db := ⟨rest, hrun⟩
    obtain ⟨intime, hcommit⟩ := commit
    have hcommitted := commit_success (Controller.sound hreachable) hcommit
    intro d dispatch hfresh hrow
    cases hcommitted.dispatches.added hfresh hrow with
    | child _ _ _ fresh_assignment unsteered =>
      exact unsteered.trans (Controller.steered_assignment hreachable fresh_assignment).symm
    | @retry prompted basis _ _ _ _ retried steering =>
      have hread : prompted ∈ t.reads := Transaction.retried_prompt_read retried
      have hgrow := Controller.path_steers (hrun.path (reads prompted hread)).2 basis.assignment_id
      exact steering.trans (hgrow.eq_of_length (intime.prompted prompted _ retried))
    | @continuation stale prompt prepared before now source attempt _ read current tail steering =>
      have hq : stale.lanes.dispatches prompt.basis.source_dispatch_id = some source.lane :=
        Table.view_eq_some.mpr ⟨source, tail.source_was, rfl⟩
      have hr : db.lanes.attempts source.lane.attempt_id = some attempt.lane :=
        Table.view_eq_some.mpr ⟨attempt, (congrArg _ tail.source_attempt).trans tail.attempt_row, rfl⟩
      have hkept := Controller.steers_kept run (reads stale read) hq
        (fun hnone => absurd (DispatchTurn.lane_live.mp hnone) (by simp [tail.source_closed])) hr tail.attempt_running
        (hcommitted.unfollowed_source (Controller.sound hreachable) hfresh hrow rfl)
      rw [show attempt.lane.assignment_id = prompt.basis.assignment_id from tail.attempt_assignment] at hkept
      exact steering.trans hkept.symm
    | replacement signalled _ _ unsteered =>
      subst signalled
      exact unsteered.trans (intime.unsteered _ (replaced_assignment_of_opened hcommit hfresh hrow)).symm

/-- A transaction that reads and writes the same rows is in time, unless the watchdog replaces what was steered. -/
theorem SteersInTime.of_alone (halone : ∀ stale ∈ t.reads, stale = db)
    (hunsteered : ∀ i, t.replaced_assignment controller db = some i → read_assignment_prompt_steers db i = []) :
    SteersInTime controller t db := by
  refine ⟨hunsteered, fun source hsource => ?_, fun rows i hretried => ?_⟩
  · obtain ⟨stale, hread, _, _, dispatch, steerable⟩ := Transaction.steered_source_read hsource
    obtain rfl := halone stale hread
    exact ⟨dispatch, steerable.dispatch_row, by simp [DispatchTurn.is_live, steerable.is_open]⟩
  · rw [halone rows (Transaction.retried_prompt_read hretried)]

/-- A Manager that was steered before it delegated, with its Wave settled. -/
def steered_wave_settled : List Move :=
  [.accept_start 1 0 0, .steer 1 "1.0", .delegate 1 2 2, .accept_start 2 0 0, .end_attempt 2 .blocked 1, .settle 2]

theorem steers_reach_later_dispatches_wave_settled : ∃ db db' history,
    (plain_controller.runtime.restrict (SteersInTime plain_controller)).Run (db' :: db :: history) ∧
      read_assignment_prompt_steers db 1 ≠ [] ∧ db.dispatches.get? 3 = none ∧ (db'.dispatches.get? 3).isSome ∧
      OpensSteered db db' := by
  have hmoves : ∀ move ∈ steered_wave_settled ++ [.open_wave_successor 2 3], ∀ db,
      SteersInTime plain_controller (move.transaction db) db := by
    refine fun move hmove db => .of_alone (move.alone db) fun i hi => ?_
    simp only [steered_wave_settled, List.cons_append, List.nil_append, List.mem_cons, List.not_mem_nil,
      or_false] at hmove
    obtain rfl | rfl | rfl | rfl | rfl | rfl | rfl := hmove <;> cases hi
  obtain ⟨db, history, hrun, hopens⟩ := run_of_replay (SteersInTime plain_controller) steered_wave_settled
    (P := fun db => !(read_assignment_prompt_steers db 1).isEmpty && (db.dispatches.get? 3).isNone &&
      (((Move.open_wave_successor 2 3).transaction db).commit plain_controller db).any fun db' =>
        (db'.dispatches.get? 3).isSome) (fun move hmove => hmoves move (List.mem_append_left _ hmove))
          (by decide +kernel)
  simp only [Bool.and_eq_true, Bool.not_eq_true', List.isEmpty_eq_false_iff, Option.isNone_iff_eq_none,
    Option.any_eq_true] at hopens
  obtain ⟨⟨hsteered, hnone⟩, db', hcommit, hsome⟩ := hopens
  have hrun' := hrun.step
    (by simp [Move.open_wave_successor, Transactional.restrict, Controller.runtime, Transaction.reads])
    ⟨hmoves _ (by simp) db, hcommit⟩
  exact ⟨db, db', history, hrun', hsteered, hnone, hsome, steers_reach_later_dispatches hrun' (List.suffix_refl _)⟩

/-- The replacement of a silent Dispatch starts without the steer that its Assignment accepted. -/
theorem watchdog_replacement_forgets_steer : ¬ ∀ states db db' rest, plain_controller.runtime.Run states →
    db' :: db :: rest <:+ states → OpensSteered db db' := by
  intro hclaim
  obtain ⟨db, ⟨history, hrun⟩, hforgets⟩ := reachable_of_replay [.accept_start 1 0 0, .steer 1 "1.0"]
    (P := fun db => (db.dispatches.get? 2).isNone &&
      (((Move.watchdog_due 1 0 10 2).transaction db).commit plain_controller db).any fun db' =>
        (db'.dispatches.get? 2).any fun q => q.request_steering != read_assignment_prompt_steers db q.assignment_id)
    (by decide +kernel)
  simp only [Bool.and_eq_true, Option.isNone_iff_eq_none, Option.any_eq_true, bne_iff_ne] at hforgets
  obtain ⟨hnone, db', hcommit, q, hrow, hne⟩ := hforgets
  have hrun' := hrun.step (by simp [Move.watchdog_due, Controller.runtime, Transaction.reads]) hcommit
  exact hne (hclaim _ db db' history hrun' (List.suffix_refl _) 2 q hnone hrow)

/-- A steer that is recorded after its Dispatch was closed misses the prompt that a successor read before it, with no
    watchdog signal in the run. -/
theorem late_steer_missed : ∃ db db' history q, plain_controller.runtime.Run (db' :: db :: history) ∧
    db.dispatches.get? 3 = none ∧ db'.dispatches.get? 3 = some q ∧ q.opened_reason = .delegation_wave ∧
      read_assignment_prompt_steers db q.assignment_id ≠ [] ∧ q.request_steering = [] := by
  have hrace : (replay_two_managers [.accept_start 1 0 0]).any fun delivered =>
      (plain_controller.replay delivered [.delegate 1 2 2, .accept_start 2 0 0, .end_attempt 2 .blocked 1,
        .settle 2]).any
        fun settled => ((Transaction.steer_product_task_member delivered delivered 1 ⟨"1.0", "go on"⟩ (some .delivered)
          0).commit plain_controller settled).any fun db =>
            ((Transaction.open_delegation_wave_successor settled 2 (some ⟨3, 0⟩)).commit plain_controller db).any
              fun db' => (db.dispatches.get? 3).isNone && (db'.dispatches.get? 3).any fun q =>
                q.opened_reason == .delegation_wave && !(read_assignment_prompt_steers db q.assignment_id).isEmpty &&
                  q.request_steering.isEmpty := by
    decide +kernel
  simp only [Option.any_eq_true, Bool.and_eq_true, Option.isNone_iff_eq_none, beq_iff_eq, Bool.not_eq_true',
    List.isEmpty_eq_false_iff, List.isEmpty_iff] at hrace
  obtain ⟨delivered, hdelivered, settled, hsettled, db, hsteer, db', hopen, hnone, q, hrow,
    ⟨hreason, hsteers⟩, hprompt⟩ :=
    hrace
  obtain ⟨history, hrun⟩ := replay_two_managers_reachable hdelivered
  obtain ⟨history', hrun', hsuffix⟩ := Controller.replay_extends _ rfl (fun _ _ _ _ hcommit => hcommit) hrun hsettled
  have hseen : delivered ∈ settled :: history' := hsuffix.subset List.mem_cons_self
  have hsteered := hrun'.step (by simp [Controller.runtime, Transaction.reads, List.mem_cons.mp hseen]) hsteer
  have hopened := hsteered.step (by simp [Controller.runtime, Transaction.reads]) hopen
  exact ⟨db, db', _, q, hopened, hnone, hrow, hreason, hsteers, hprompt⟩

end OhMySubagents
