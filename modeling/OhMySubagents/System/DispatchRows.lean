import OhMySubagents.Dispatch.PromptCurrentness
import OhMySubagents.Relational.Alteration
import OhMySubagents.System.Reachable

open Relational

namespace OhMySubagents

/-- How one transaction may change the row of one Dispatch. -/
inductive DispatchTurn.Moved (t : Transaction) (d : DispatchId) (dispatch : DispatchTurn) : DispatchTurn → Prop
  | same : Moved t d dispatch dispatch
  | refreshed {scope operation allowed occurred_at}
      (admitted : t = .admit_node_operation scope operation allowed occurred_at) (hd : scope.dispatch_id = d)
      (live : dispatch.is_live = true) : Moved t d dispatch (dispatch.refresh_activity occurred_at)
  | accepted {stale signal handling observed_at recorded_at}
      (signalled : t = .start_due_dispatch stale signal handling observed_at recorded_at) (hd : signal.dispatch_id = d)
      (due : dispatch.next_provider_start_at = some signal.due_at)
      (generation : dispatch.provider_start_revision = signal.provider_start_revision) :
      Moved t d dispatch (dispatch.accept_start recorded_at)
  | rotated {stale signal handling observed_at recorded_at next_due failure_kind}
      (signalled : t = .start_due_dispatch stale signal handling observed_at recorded_at) (hd : signal.dispatch_id = d)
      (due : dispatch.next_provider_start_at = some signal.due_at)
      (generation : dispatch.provider_start_revision = signal.provider_start_revision) :
      Moved t d dispatch (dispatch.rotate_start ⟨d, signal.provider_start_revision + 1, next_due⟩ failure_kind)
  | closed {reason} (live : dispatch.is_live = true) : Moved t d dispatch (dispatch.close reason)

/-- The rows that the prompt of a semantic retry is read from, and the Assignment that is tried again. -/
def Transaction.retried_prompt (db : TaskDb) : Transaction → Option (TaskDb × AssignmentId)
  | commit_node_operation scope (.checkpoint (some .retry) _ (some drawn)) _ =>
    (db.dispatches.get? scope.dispatch_id).map fun dispatch => (drawn.prompted, dispatch.assignment_id)
  | _ => none

/-- How one transaction may open a Dispatch, with the prompt that it stores. -/
inductive DispatchTurn.Opened (db : TaskDb) (t : Transaction) (d : DispatchId) : DispatchTurn → Prop
  | child {basis prepared} (hd : prepared.dispatch_id = d) (reason : basis.opened_reason = .delegation)
      (no_predecessor : basis.predecessor_dispatch_id = none)
      (fresh_assignment : db.assignments.get? basis.assignment_id = none) (unsteered : prepared.steering = []) :
      Opened db t d (build_starting_dispatch_model basis prepared)
  | retry {prompted basis prepared} (hd : prepared.dispatch_id = d) (reason : basis.opened_reason = .semantic_retry)
      (no_predecessor : basis.predecessor_dispatch_id = none)
      (retried : t.retried_prompt db = some (prompted, basis.assignment_id))
      (steering : prepared.steering = read_assignment_prompt_steers prompted basis.assignment_id) :
      Opened db t d (build_starting_dispatch_model basis prepared)
  | continuation {stale prompt prepared before now source attempt} (hd : prepared.dispatch_id = d)
      (read : stale ∈ t.reads) (current : PromptCurrent stale db prompt before now)
      (tail : PromptTail stale db prompt source attempt)
      (steering : prepared.steering = read_assignment_prompt_steers stale prompt.basis.assignment_id)
      (reason : prompt.basis.opened_reason ≠ .watchdog_recovery) :
      Opened db t d (build_starting_dispatch_model prompt.starting_basis prepared)
  | replacement {stale reread signal observed_at committed_at request prompt prepared before now}
      (signalled : t = .recover_stale_dispatch stale reread signal observed_at committed_at (.drawn request))
      (hd : prepared.dispatch_id = d) (current : PromptCurrent stale db prompt before now)
        (unsteered : prepared.steering = []) (reason : prompt.basis.opened_reason = .watchdog_recovery) :
      Opened db t d (build_starting_dispatch_model prompt.starting_basis prepared)

/-- The rows of the Dispatches after one transaction. -/
abbrev DispatchRows (db : TaskDb) (t : Transaction) (dispatches : Table DispatchId DispatchTurn) : Prop :=
  Alters (DispatchTurn.Opened db t) (DispatchTurn.Moved t) db.dispatches dispatches

variable {controller : Controller} {db db' : TaskDb} {t : Transaction}

private theorem dispatches_same : DispatchRows db t db.dispatches := .refl (fun _ _ => .same) _

private theorem DispatchTurn.Closes.moved {d : DispatchId} {dispatch dispatch' : DispatchTurn}
    (h : dispatch.Closes dispatch') : DispatchTurn.Moved t d dispatch dispatch' := by
  obtain rfl | ⟨hlive, reason, rfl⟩ := h
  · exact .same
  · exact .closed hlive

private theorem dispatches_halted {closed : TaskDb} (h : Evolves DispatchTurn.Closes db.dispatches closed.dispatches) :
    DispatchRows db t closed.dispatches := .of_evolves h fun _ _ _ _ hcloses => hcloses.moved

private theorem DispatchTurn.starting_live {dispatch : DispatchTurn} {due_at : Instant}
    (h : dispatch.next_provider_start_at = some due_at) : dispatch.is_live = true := by
  obtain ⟨kind, hstatus⟩ := starting_of_next h
  simp [DispatchTurn.is_live, hstatus]

theorem CheckpointCommitted.dispatches {authority : NodeOperationAuthority} {checkpoint_id : CheckpointId}
    {drawn : Option DrawnSemanticRetry} {outcome : Option BoundaryOutcome} {wave_id : Option WaveId}
    (hauth : AuthorityHolds db authority)
    (hretried : ∀ draw, outcome = some .retry → drawn = some draw →
      t.retried_prompt db = some (draw.prompted, authority.assignment_id))
    (h : CheckpointCommitted db authority checkpoint_id drawn outcome wave_id db') :
    DispatchRows db t db'.dispatches := by
  have row : db.dispatches.get? authority.dispatch_id = some authority.dispatch := hauth.lane.dispatch_row
  have hclosed : DispatchRows db t (db.dispatches.set authority.dispatch_id (authority.dispatch.close .boundary)) :=
    .set (fun _ _ => .same) row (.closed hauth.lane.live)
  cases h with
  | progress => exact dispatches_same
  | child => exact hclosed
  | root => exact hclosed
  | @retry draw retried _ hdrawn _ _ _ _ hrows staged =>
    obtain ⟨attempt, -, -, hinsert, rfl⟩ := stage_starting_dispatch_eq_ok.mp staged
    have hfresh := hinsert.fresh
    rw [hrows] at hfresh ⊢
    change (db.dispatches.set authority.dispatch_id (authority.dispatch.close .boundary)).get? _ = none at hfresh
    rw [Table.get?_set] at hfresh
    split at hfresh
    · cases hfresh
    · exact .set_add (fun _ _ => .same) row (.closed hauth.lane.live) hfresh
        (.retry rfl rfl rfl (hretried draw rfl hdrawn) rfl)

theorem DelegationCommitted.dispatch_rows {authority : NodeOperationAuthority} {request : DelegateRequest}
    {wave_id : WaveId} {wait_id : WaitId} {rev : TeamRevision} {members : List PreparedWaveMember}
    {rows consumed dispatched : TaskDb} (hauth : AuthorityHolds db authority)
    (h : DelegationCommitted db authority request wave_id wait_id rev members rows consumed dispatched db') :
    DispatchRows db t db'.dispatches := by
  have htables := h.tables hauth
  have row : db.dispatches.get? authority.dispatch_id = some authority.dispatch := hauth.lane.dispatch_row
  refine .intro (fun d dispatch hrow => ?_) fun d dispatch hfresh hrow => ?_
  · by_cases hd : d = authority.dispatch_id
    · subst hd
      obtain rfl := Option.some.inj (row.symm.trans hrow)
      exact ⟨_, (htables.dispatches _ _).mpr (.inr (.inl ⟨rfl, rfl⟩)), .closed hauth.lane.live⟩
    · exact ⟨_, (htables.dispatches _ _).mpr (.inl ⟨hd, hrow⟩), .same⟩
  · rcases (htables.dispatches _ _).mp hrow with ⟨-, hold⟩ | ⟨rfl, -⟩ | ⟨member, hmember, hd, rfl⟩
    · rw [hfresh] at hold
      cases hold
    · rw [row] at hfresh
      cases hfresh
    · obtain ⟨children, hchildren, -, -⟩ := htables.assignments
      obtain ⟨-, hfree, -⟩ := Table.insertAll_eq_some hchildren
      exact .child hd rfl rfl (hfree _ (List.mem_map_of_mem hmember)) (h.unsteered member hmember)

theorem NodeOperationCommitted.dispatches {scope : NodeOperationScope} {allowed : Bool}
    {authority : NodeOperationAuthority} {operation : NodeOperation} (hid : authority.dispatch_id = scope.dispatch_id)
    (hauth : AuthorityHolds db authority) (h : NodeOperationCommitted db authority operation db') :
    DispatchRows db (.commit_node_operation scope operation allowed) db'.dispatches := by
  have row : db.dispatches.get? authority.dispatch_id = some authority.dispatch := hauth.lane.dispatch_row
  have hclosed : ∀ reason, DispatchRows db (.commit_node_operation scope operation allowed)
      (db.dispatches.set authority.dispatch_id (authority.dispatch.close reason)) :=
    fun reason => .set (fun _ _ => .same) row (.closed hauth.lane.live)
  cases h with
  | get_current_context => exact dispatches_same
  | set_work_plan committed =>
    rcases set_assignment_work_plan_success committed with rfl | ⟨_, _, -, rfl⟩ <;> exact dispatches_same
  | checkpoint committed =>
    refine committed.dispatches hauth ?_
    rintro draw rfl rfl
    rw [Transaction.retried_prompt, ← hid, row]
    exact congrArg (fun i => some (draw.prompted, i)) hauth.lane.dispatch_assignment
  | delegate committed => exact committed.dispatch_rows hauth
  | replan committed =>
    rw [committed.result]
    exact hclosed .structural_replan
  | open_human_request committed =>
    obtain ⟨-, -, -, rfl⟩ := open_human_request_success hauth committed
    exact hclosed .human_request_wait
  | start_command_run committed =>
    obtain ⟨-, -, -, rfl⟩ := start_command_run_success hauth committed
    exact hclosed .command_run_wait

theorem ProviderStartRecorded.dispatches {settings : RuntimeSettings} {stale : TaskDb} {signal : DispatchStartDue}
    {handling : ProviderStartHandling} {observed_at recorded_at : Instant} {candidate : ProviderStartCandidate}
    (read : read_provider_start_candidate stale signal = some candidate)
    (h : ProviderStartRecorded settings db signal candidate recorded_at db') :
    DispatchRows db (.start_due_dispatch stale signal handling observed_at recorded_at) db'.dispatches := by
  obtain ⟨hdue, -⟩ := read_provider_start_candidate_success read
  cases h with
  | accepted generation =>
    exact .set (fun _ _ => .same) generation.row
      (.accepted rfl rfl (hdue ▸ generation.due) generation.revision)
  | rotated generation =>
    exact .set (fun _ _ => .same) generation.row (.rotated rfl rfl (hdue ▸ generation.due) generation.revision)
  | @paused dispatch attempt _ paused =>
    have hhalted := paused.paused.halted.dispatches
    have hrow := paused.generation.row
    have hlive := DispatchTurn.starting_live paused.generation.due
    refine fun d => ?_
    have hd := hhalted d
    change Option.Rel _ ((db.dispatches.set signal.dispatch_id (dispatch.close .control_failed)).get? d) _ at hd
    rw [Table.get?_set] at hd
    split at hd
    · next hsame =>
      subst hsame
      rw [hrow]
      generalize db'.dispatches.get? signal.dispatch_id = row' at hd ⊢
      cases hd with
      | some hcloses =>
        obtain rfl | ⟨hlive', -, -⟩ := hcloses
        · exact .kept (.closed hlive)
        · cases hlive'
    · generalize db.dispatches.get? d = row at hd ⊢
      generalize db'.dispatches.get? d = row' at hd ⊢
      cases hd with
      | none => exact .absent
      | some hcloses => exact .kept hcloses.moved

/-- One opened Dispatch is one more row. -/
theorem DispatchOpened.dispatches {claimed : TaskDb} {snapshot : OrdinaryDispatchSnapshot}
    {prepared : PreparedDispatchRequest} {attempt : Attempt}
    (h : DispatchOpened db claimed db' snapshot prepared attempt) : db'.dispatches =
      db.dispatches.set prepared.dispatch_id (build_starting_dispatch_model snapshot.starting_basis prepared) := by
  rw [h.rows]

theorem ContinuationOpened.dispatches {stale claimed : TaskDb} {snapshot : OrdinaryDispatchSnapshot}
    {prepared : PreparedDispatchRequest} {attempt : Attempt} (hread : stale ∈ t.reads)
    (h : ContinuationOpened stale db snapshot prepared claimed attempt db') : DispatchRows db t db'.dispatches := by
  obtain ⟨basis, hsnapshot⟩ := h.read
  obtain ⟨-, hstatus, before, read⟩ := read_ordinary_dispatch_snapshot_success hsnapshot
  obtain ⟨source, now, context⟩ := h.context
  rw [h.opened.dispatches]
  obtain ⟨_, tail⟩ := read_ordinary_dispatch_snapshot_tail hsnapshot context
  exact .add (fun _ _ => .same) h.opened.fresh (.continuation rfl hread
    (read.current (h.running.trans hstatus.symm) h.control context) tail (h.steering.trans read.steering) h.reason)

theorem WatchdogReplaced.dispatches {stale reread : TaskDb} {snapshot : WatchdogRecoverySnapshot}
    {signal : WatchdogDue} {observed_at committed_at : Instant} {timeout_seconds : Nat}
    {request : DrawnDispatchRequest} {source : DispatchTurn} {assignment : Assignment} {attempt : Attempt}
    (read : read_watchdog_recovery_snapshot stale signal observed_at timeout_seconds = some snapshot)
    (h : WatchdogReplaced db snapshot (prepare_dispatch_request request snapshot.dispatch.steering) committed_at source
      assignment attempt db') :
    DispatchRows db (.recover_stale_dispatch stale reread signal observed_at committed_at (.drawn request))
      db'.dispatches := by
  obtain ⟨before, current⟩ := h.current read
  obtain ⟨_, _, _, _, -, -, -, rfl⟩ := read_watchdog_recovery_snapshot_success read
  rw [h.result]
  exact .set_add (fun _ _ => .same) h.lane.dispatch_row (.closed h.lane.live) h.fresh
    (.replacement rfl rfl current rfl rfl)

/-- The opened lanes of a resume are that many more rows. -/
theorem ContinuationsOpened.dispatches {items : List PreparedPausedContinuation}
    (h : ContinuationsOpened items db db') :
    Alters (fun (d : DispatchId) (dispatch : DispatchTurn) => ∃ item ∈ items, item.prepared.dispatch_id = d ∧
        dispatch = build_starting_dispatch_model item.snapshot.starting_basis item.prepared)
      (fun _ dispatch dispatch' => dispatch' = dispatch) db.dispatches db'.dispatches := by
  induction h with
  | nil => exact Alters.refl (R := fun _ dispatch dispatch' => dispatch' = dispatch) (fun _ _ => rfl) _
  | @cons item items db claimed next db' attempt opened step rest ih =>
    refine .trans (fun _ _ _ hnew hsame => hsame ▸ hnew) (fun _ _ _ _ hr hr' => hr'.trans hr)
      (show Alters _ _ db.dispatches next.dispatches from ?_)
      (ih.mono (fun _ _ ⟨other, hother, hrow⟩ => ⟨other, List.mem_cons_of_mem _ hother, hrow⟩) fun _ _ _ hr => hr)
    rw [opened.dispatches]
    exact .add (fun _ _ => rfl) opened.fresh ⟨item, List.mem_cons_self, rfl, rfl⟩

/-- Every lane of a resume opens under an identifier that was free before. -/
theorem ContinuationsOpened.item_row {items : List PreparedPausedContinuation} {item : PreparedPausedContinuation}
    (h : ContinuationsOpened items db db') (hitem : item ∈ items) :
    db.dispatches.get? item.prepared.dispatch_id = none ∧ db'.dispatches.get? item.prepared.dispatch_id =
      some (build_starting_dispatch_model item.snapshot.starting_basis item.prepared) := by
  induction h with
  | nil => cases hitem
  | @cons first items db claimed next db' attempt opened step rest ih =>
    have hdispatches := opened.dispatches
    rcases List.mem_cons.mp hitem with rfl | hitem
    · refine ⟨opened.fresh, ?_⟩
      obtain ⟨_, hrow, rfl⟩ := rest.dispatches.forward (hdispatches ▸ Table.get?_set_self ..)
      exact hrow
    · obtain ⟨hfresh, hrow⟩ := ih hitem
      refine ⟨?_, hrow⟩
      rw [hdispatches, Table.get?_set] at hfresh
      split at hfresh
      · cases hfresh
      · exact hfresh

/-- Every prompt of a resume is still current when the Task runs again. -/
theorem TaskContinued.current_prompt {stale : TaskDb} {plan : PausedTaskContinuationPlan} {drawn : DrawnContinuations}
    {items : List PreparedPausedContinuation} {item : PreparedPausedContinuation}
    (h : TaskContinued stale db plan drawn items db') (hitem : item ∈ items) :
    ∃ before now, PromptCurrent stale db item.snapshot before now := by
  obtain ⟨source, hfrom⟩ := prepare_paused_continuations_success h.prepared hitem
  obtain ⟨-, hstatus, before, read⟩ := read_ordinary_dispatch_snapshot_success hfrom.read
  obtain ⟨tail, now, attempt, context⟩ := ordinary_context_is_current_iff.mp (h.contexts item hitem)
  refine ⟨before, now, read.current (h.paused.trans hstatus.symm) ?_ context⟩
  obtain ⟨team, control, hplan⟩ := h.plan_read
  obtain ⟨-, -, hcontrol⟩ := read_paused_task_continuation_plan_task hplan
  exact h.task.2.2.trans (hcontrol.trans read.control)

theorem TaskContinued.prompt_tail {stale : TaskDb} {plan : PausedTaskContinuationPlan} {drawn : DrawnContinuations}
    {items : List PreparedPausedContinuation} {item : PreparedPausedContinuation}
    (h : TaskContinued stale db plan drawn items db') (hitem : item ∈ items) :
    ∃ source attempt, PromptTail stale db item.snapshot source attempt := by
  obtain ⟨source, hfrom⟩ := prepare_paused_continuations_success h.prepared hitem
  obtain ⟨tail, now, attempt, context⟩ := ordinary_context_is_current_iff.mp (h.contexts item hitem)
  obtain ⟨source, htail⟩ := read_ordinary_dispatch_snapshot_tail hfrom.read context
  exact ⟨source, attempt, htail⟩

theorem TaskContinued.dispatches {stale : TaskDb} {plan : PausedTaskContinuationPlan} {drawn : DrawnContinuations}
    {items : List PreparedPausedContinuation} (hread : stale ∈ t.reads)
    (h : TaskContinued stale db plan drawn items db') : DispatchRows db t db'.dispatches := by
  refine .mono (fun d dispatch hnew => ?_) (fun d dispatch dispatch' hsame => ?_) h.opened.dispatches
  · obtain ⟨item, hitem, hd, rfl⟩ := hnew
    obtain ⟨before, now, current⟩ := h.current_prompt hitem
    obtain ⟨_, _, tail⟩ := h.prompt_tail hitem
    obtain ⟨source, hfrom⟩ := prepare_paused_continuations_success h.prepared hitem
    obtain ⟨hbasis, -, _, read⟩ := read_ordinary_dispatch_snapshot_success hfrom.read
    obtain ⟨team, control, hplan⟩ := h.plan_read
    have hsource := read_paused_task_continuation_plan_sources hplan hfrom.source_mem
    exact .continuation hd hread current tail (hfrom.steering.trans read.steering) (hbasis ▸ hsource.opened_reason)
  · subst hsame
    exact .same

/-- **Dispatch rows.** What one transaction does to the Dispatches: it opens some with a prompt, and each other
    one stays, records activity, records a start result of its own generation, or closes. -/
theorem Committed.dispatches (h : Committed controller db t db') : DispatchRows db t db'.dispatches := by
  cases h with
  | unchanged => exact dispatches_same
  | admitted dispatch_id auth =>
    exact .set (fun _ _ => .same) auth.lane.dispatch_row (.refreshed rfl dispatch_id.symm auth.lane.live)
  | operated hid auth _ committed => exact committed.dispatches hid auth
  | wave_settled settled =>
    obtain ⟨_, _, _, _, -, -, -, -, -, -, -, -, -, -, -, rfl⟩ := settle_delegation_wave_success settled
    exact dispatches_same
  | opened read opened => exact opened.dispatches read
  | barrier moved => cases moved <;> exact dispatches_same
  | provider_start _ read recorded => exact recorded.dispatches read
  | paused paused => exact dispatches_halted paused.halted.dispatches
  | retired => exact dispatches_same
  | replaced read _ replaced => exact replaced.dispatches read
  | human_resolved resolved =>
    rw [resolved.result]
    exact dispatches_same
  | launch_claimed => exact dispatches_same
  | marked_running => exact dispatches_same
  | cancellation_requested => exact dispatches_same
  | command_ended ended => cases ended.terminated <;> exact dispatches_same
  | continued _ continued => exact continued.dispatches (by simp [Transaction.reads])
  | @cancelled _ _ _ closed unwaited _ cancelled =>
    have hdispatches : db'.dispatches = closed.dispatches := by
      rw [cancelled.rows]
      change unwaited.dispatches = _
      rw [cancelled.dropped.frame]
    rw [hdispatches]
    exact dispatches_halted cancelled.halted.dispatches
  | steered => exact dispatches_same

end OhMySubagents
