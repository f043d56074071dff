import OhMySubagents.System.Committed

open Relational

namespace OhMySubagents

/-- How one committed transaction moves the Task row, unless it cancels the Task. -/
inductive TaskMoves (db db' : TaskDb) : Prop
  | same (task : db'.task = db.task)
  | pause {reason} (running : db.task.status = .running) (task : db'.task = db.task.pause reason)
  | retire (paused : db.task.status = .paused) (task : db'.task = db.task.pause .provider_retired)
  | replan {revision_id} (running : db.task.status = .running)
      (task : db'.task = { db.task with current_team_revision_id := revision_id })
  | complete {outcome boundary_id boundary} (running : db.task.status = .running)
      (task : db'.task = { db.task with
        status := .completed
        terminal_outcome := some outcome
        result_boundary_id := some boundary_id })
      (row : db'.accepted_boundaries.get? boundary_id = some boundary)
      (same_outcome : boundary.outcome = TerminalOutcome.boundary outcome)
  | resume (paused : db.task.status = .paused) (task : db'.task = db.task.resume)

variable {controller : Controller} {db db' : TaskDb} {t : Transaction}

theorem DispatchOpened.frame {claimed : TaskDb} {snapshot : OrdinaryDispatchSnapshot}
    {prepared : PreparedDispatchRequest} {attempt : Attempt}
    (h : DispatchOpened db claimed db' snapshot prepared attempt) : db' = { db with
      human_requests := claimed.human_requests
      command_runs := claimed.command_runs
      delegation_waves := claimed.delegation_waves
      replan_transitions := claimed.replan_transitions
      attempts := db'.attempts
      dispatches := db'.dispatches } := by
  rw [h.rows, h.claims.frame]

theorem ContinuationsOpened.task {items : List PreparedPausedContinuation} (h : ContinuationsOpened items db db') :
    db'.task = db.task := by
  induction h with
  | nil => rfl
  | cons opened _ _ ih => rw [ih, opened.frame]

theorem CheckpointCommitted.task {authority : NodeOperationAuthority} {checkpoint_id : CheckpointId}
    {drawn : Option DrawnSemanticRetry} {outcome : Option BoundaryOutcome} {wave_id : Option WaveId}
    (hauth : AuthorityHolds db authority)
    (h : CheckpointCommitted db authority checkpoint_id drawn outcome wave_id db') : TaskMoves db db' := by
  cases h with
  | progress => exact .same rfl
  | child => exact .same rfl
  | root => exact .complete hauth.lane.running rfl (Table.get?_set_self ..) rfl
  | retry _ _ _ _ _ hretried staged =>
    obtain ⟨_, -, -, -, rfl⟩ := stage_starting_dispatch_eq_ok.mp staged
    exact .same (by rw [hretried]; rfl)

theorem NodeOperationCommitted.task {authority : NodeOperationAuthority} {operation : NodeOperation}
    (hauth : AuthorityHolds db authority) (h : NodeOperationCommitted db authority operation db') :
    TaskMoves db db' := by
  cases h with
  | get_current_context => exact .same rfl
  | set_work_plan committed =>
    rcases set_assignment_work_plan_success committed with rfl | ⟨_, _, -, rfl⟩ <;> exact .same rfl
  | checkpoint committed => exact committed.task hauth
  | delegate committed => exact .same (by rw [(committed.tables hauth).frame])
  | replan committed => exact .replan hauth.lane.running (by rw [committed.result])
  | open_human_request committed =>
    obtain ⟨-, -, -, rfl⟩ := open_human_request_success hauth committed
    exact .same rfl
  | start_command_run committed =>
    obtain ⟨-, -, -, rfl⟩ := start_command_run_success hauth committed
    exact .same rfl

theorem TaskPaused.task_moves {reason : PauseReason} (h : TaskPaused db db' reason) : TaskMoves db db' :=
  .pause h.running h.task

theorem ProviderStartRecorded.task {settings : RuntimeSettings} {signal : DispatchStartDue}
    {candidate : ProviderStartCandidate} {now : Instant}
    (h : ProviderStartRecorded settings db signal candidate now db') : TaskMoves db db' := by
  cases h with
  | accepted => exact .same rfl
  | rotated => exact .same rfl
  | paused paused => exact .pause paused.paused.running paused.paused.task

theorem CommandRunTerminated.task {run_id : RunId} {request : CommandTerminalRequest} {run : CommandRun}
    {output : Option CommandOutputFacts} (h : CommandRunTerminated db run_id request run output db') :
    db'.task = db.task := by
  cases h <;> rfl

theorem BarrierMoved.task {transition_id : TransitionId} (h : BarrierMoved db transition_id db') :
    db'.task = db.task := by
  cases h <;> rfl

/-- Only a cancellation moves the Task row otherwise. -/
theorem Committed.task (h : Committed controller db t db') :
    TaskMoves db db' ∨ ∃ closed unwaited, TaskCancelled db closed unwaited db' := by
  cases h with
  | unchanged => exact .inl (.same rfl)
  | admitted => exact .inl (.same rfl)
  | operated _ auth _ committed => exact .inl (committed.task auth)
  | wave_settled settled =>
    obtain ⟨_, _, _, _, -, -, -, -, -, -, -, -, -, -, -, rfl⟩ := settle_delegation_wave_success settled
    exact .inl (.same rfl)
  | opened _ opened => exact .inl (.same (by rw [opened.opened.frame]))
  | barrier moved => exact .inl (.same moved.task)
  | provider_start _ _ recorded => exact .inl recorded.task
  | paused paused => exact .inl paused.task_moves
  | retired paused => exact .inl (.retire paused rfl)
  | replaced _ _ replaced => exact .inl (.same (by rw [replaced.result]))
  | human_resolved resolved => exact .inl (.same (by rw [resolved.result]; rfl))
  | launch_claimed => exact .inl (.same rfl)
  | marked_running => exact .inl (.same rfl)
  | cancellation_requested => exact .inl (.same rfl)
  | command_ended ended => exact .inl (.same ended.terminated.task)
  | continued _ continued => exact .inl (.resume continued.paused continued.opened.task)
  | cancelled cancelled => exact .inr ⟨_, _, cancelled⟩
  | steered => exact .inl (.same rfl)

theorem CheckpointCommitted.task_start_source {authority : NodeOperationAuthority} {checkpoint_id : CheckpointId}
    {drawn : Option DrawnSemanticRetry} {outcome : Option BoundaryOutcome} {wave_id : Option WaveId}
    (h : CheckpointCommitted db authority checkpoint_id drawn outcome wave_id db') :
    db'.task_start_source = db.task_start_source := by
  cases h with
  | progress => rfl
  | child => rfl
  | root => rfl
  | retry _ _ _ _ _ hretried staged =>
    obtain ⟨_, -, -, -, rfl⟩ := stage_starting_dispatch_eq_ok.mp staged
    rw [hretried]
    rfl

theorem NodeOperationCommitted.task_start_source {authority : NodeOperationAuthority} {operation : NodeOperation}
    (hauth : AuthorityHolds db authority) (h : NodeOperationCommitted db authority operation db') :
    db'.task_start_source = db.task_start_source := by
  cases h with
  | get_current_context => rfl
  | set_work_plan committed =>
    rcases set_assignment_work_plan_success committed with rfl | ⟨_, _, -, rfl⟩ <;> rfl
  | checkpoint committed => exact committed.task_start_source
  | delegate committed => rw [(committed.tables hauth).frame]
  | replan committed => rw [committed.result]
  | open_human_request committed =>
    obtain ⟨-, -, -, rfl⟩ := open_human_request_success hauth committed
    rfl
  | start_command_run committed =>
    obtain ⟨-, -, -, rfl⟩ := start_command_run_success hauth committed
    rfl

theorem ContinuationsOpened.task_start_source {items : List PreparedPausedContinuation}
    (h : ContinuationsOpened items db db') : db'.task_start_source = db.task_start_source := by
  induction h with
  | nil => rfl
  | cons opened _ _ ih => rw [ih, opened.frame]

/-- The Task start stays consumed. -/
theorem Committed.task_start_source (h : Committed controller db t db') :
    db'.task_start_source = db.task_start_source := by
  cases h with
  | unchanged => rfl
  | admitted => rfl
  | operated _ auth _ committed => exact committed.task_start_source auth
  | wave_settled settled =>
    obtain ⟨_, _, _, _, -, -, -, -, -, -, -, -, -, -, -, rfl⟩ := settle_delegation_wave_success settled
    rfl
  | opened _ opened => rw [opened.opened.frame]
  | barrier moved => cases moved <;> rfl
  | provider_start _ _ recorded =>
    cases recorded with
    | accepted => rfl
    | rotated => rfl
    | paused paused =>
      rw [paused.paused.halted.frame]
      rfl
  | paused paused => rw [paused.halted.frame]
  | retired => rfl
  | replaced _ _ replaced => rw [replaced.result]
  | human_resolved resolved =>
    rw [resolved.result]
    rfl
  | launch_claimed => rfl
  | marked_running => rfl
  | cancellation_requested => rfl
  | command_ended ended => cases ended.terminated <;> rfl
  | continued _ continued => exact continued.opened.task_start_source
  | @cancelled _ _ _ closed unwaited _ cancelled =>
    rw [cancelled.rows]
    change unwaited.task_start_source = _
    rw [cancelled.dropped.frame]
    change closed.task_start_source = _
    rw [cancelled.halted.frame]
  | steered => rfl

theorem TaskMoves.cancelled (h : TaskMoves db db') (hcancelled : db'.task.status = .cancelled) :
    db.task.status = .cancelled := by
  cases h with
  | same task => rwa [← task]
  | replan _ task =>
    rw [task] at hcancelled
    exact hcancelled
  | pause _ task | retire _ task | complete _ task | resume _ task =>
    rw [task] at hcancelled
    cases hcancelled

/-- A Task that has ended keeps its result, and a cancelled one has none. -/
theorem Committed.result (hsound : Sound db) (h : Committed controller db t db') : db'.lanes.Result := by
  rcases h.task with hmoves | ⟨_, _, hcancelled⟩
  · exact hsound.result.steps hsound.lanes (h.steps hsound) hmoves.cancelled
  · exact hcancelled.result

theorem Committed.sound (hsound : Sound db) (h : Committed controller db t db') : Sound db' where
  lanes := hsound.lanes.steps (h.steps hsound)
  result := h.result hsound
  started := by
    rw [h.task_start_source]
    exact hsound.started

namespace Controller

/-- Every state that the runtime of a Task can reach is sound. -/
theorem sound (h : controller.runtime.Reachable db) : Sound db := by
  refine h.invariant ?_ fun t db db' hsound hcommit => (commit_success hsound hcommit).sound hsound
  rintro db ⟨input, drawn, hstart⟩
  obtain ⟨hinv, hresult, hstarted⟩ := start_task_invariant hstart
  exact ⟨hinv, hresult, hstarted⟩

/-- What holds after the admission and is kept by whatever commits holds in every reachable state. -/
theorem invariant {P : TaskDb → Prop} (h : controller.runtime.Reachable db)
    (hstart : ∀ input drawn db, start_task input drawn = .ok db → P db)
    (hstep : ∀ t db db', Sound db → Committed controller db t db' → P db → P db') : P db := by
  refine (Transactional.Reachable.invariant (P := fun db => Sound db ∧ P db) h ?_ ?_).2
  · rintro db ⟨input, drawn, hdb⟩
    have hreachable : controller.runtime.Reachable db := ⟨[], .start ⟨input, drawn, hdb⟩⟩
    exact ⟨sound hreachable, hstart input drawn db hdb⟩
  · rintro t db db' ⟨hsound, hP⟩ hcommit
    have hcommitted := commit_success hsound hcommit
    exact ⟨hcommitted.sound hsound, hstep t db db' hsound hcommitted hP⟩

/-- A transaction that commits in a reachable state did one of the known things there. -/
theorem committed (h : controller.runtime.Step db db') : Sound db ∧ ∃ t, Committed controller db t db' := by
  obtain ⟨hreachable, t, hcommit⟩ := h
  exact ⟨sound hreachable, t, commit_success (sound hreachable) hcommit⟩

theorem path_sound (hsound : Sound db) (h : controller.runtime.Path db db') : Sound db' := by
  refine Transactional.Path.keep (P := Sound) h hsound fun db db' hstep hsound => ?_
  obtain ⟨-, t, hcommitted⟩ := committed hstep
  exact hcommitted.sound hsound

/-- What happens in a run moves the lanes by whole steps. -/
theorem path_steps (h : controller.runtime.Path db db') : Lanes.Steps db.lanes db'.lanes := by
  refine Transactional.Path.rel (R := fun db db' => Lanes.Steps db.lanes db'.lanes) h (fun _ => .refl)
    (fun _ _ _ => .trans) fun db db' hstep => ?_
  obtain ⟨hsound, t, hcommitted⟩ := committed hstep
  exact hcommitted.steps hsound

/-- Whatever has ended stays as it ended. -/
theorem path_later (hreachable : controller.runtime.Reachable db) (h : controller.runtime.Path db db') :
    db.lanes.Later db'.lanes := (path_steps h).later (sound hreachable).lanes

end Controller

/-- One transaction of a replay, which reads nothing but the newest rows. -/
structure Move where
  transaction : TaskDb → Transaction
  alone : ∀ db, ∀ stale ∈ (transaction db).reads, stale = db := by intros; simp_all [Transaction.reads]

namespace Move

/-- The adapter accepts the start of a Dispatch. -/
def accept_start (d : DispatchId) (revision : Nat) (due_at : Instant) : Move where
  transaction db := .start_due_dispatch db ⟨d, revision, due_at⟩ (.called .accepted) due_at due_at

/-- An agent runs one operation from its Dispatch. -/
def operate (d : DispatchId) (operation : NodeOperation) (reads_nothing : operation.reads = [] := by rfl) : Move where
  transaction _ := .commit_node_operation ⟨d, none⟩ operation true
  alone := by simp [Transaction.reads, reads_nothing]

/-- A Manager delegates to one Member, whose new rows share one identifier. -/
def delegate (d : DispatchId) (child : MemberId) (id : Nat) : Move :=
  operate d (.delegate ⟨[child], by simp, by simp, by simp⟩ id id fun _ => some ⟨id, id, ⟨id, 0⟩⟩)

/-- A Manager delegates to several Members, whose new rows are numbered as they are. -/
def delegate_wave (d : DispatchId) (request : DelegateRequest) (id : Nat) : Move :=
  operate d (.delegate request id id fun m => some ⟨m, m, ⟨m, 0⟩⟩)

/-- A Manager changes its branch; retained Members draw their new bases from the number of the new revision. -/
def replan (d : DispatchId) (request : ReplanRequest) (revision_id : RevisionId)
    (transition_id : TransitionId) : Move :=
  operate d (.replan request (fun _ => none)
    ⟨⟨fun m => 10 * revision_id + m, fun m => 10 * revision_id + m⟩, revision_id, transition_id⟩)

/-- A Member asks one question, which may be skipped. -/
def ask (d : DispatchId) (id : Nat) : Move :=
  operate d (.open_human_request ⟨[⟨"choice", none, some ["a", "b"], false, true⟩], some 5⟩ (.ok ()) id id)

/-- A Member ends its Attempt. -/
def end_attempt (d : DispatchId) (outcome : BoundaryOutcome) (checkpoint_id : CheckpointId) : Move :=
  operate d (.checkpoint (some outcome) checkpoint_id none)

/-- A Member gives up its Attempt for another one, whose rows share one identifier. -/
def retry (d : DispatchId) (checkpoint_id : CheckpointId) (id : Nat) : Move where
  transaction db := .commit_node_operation ⟨d, none⟩
    (.checkpoint (some .retry) checkpoint_id (some ⟨id, ⟨id, 0⟩, db⟩)) true
  alone := by simp [Transaction.reads, NodeOperation.reads]

def settle (wave_id : WaveId) : Move where
  transaction _ := .settle_delegation_wave wave_id

/-- The handler of a settled Wave opens its successor. -/
def open_wave_successor (wave_id : WaveId) (d : DispatchId) : Move where
  transaction db := .open_delegation_wave_successor db wave_id (some ⟨d, 0⟩)

/-- A human skips the question. -/
def skip (request_id : RequestId) : Move where
  transaction _ := .resolve_human_request request_id [("choice", .skipped)] none .control_api 3

/-- The handler of an answered question opens its successor. -/
def open_human_successor (request_id : RequestId) (d : DispatchId) : Move where
  transaction db := .open_human_request_successor db request_id (some ⟨d, 0⟩)

/-- The manifest of a replan is written, and its barrier becomes current. -/
def project_manifest (transition_id : TransitionId) : Move where
  transaction db := .ensure_replan_manifest_current db db transition_id true

/-- The handler of a replan opens its successor. -/
def open_replan_successor (transition_id : TransitionId) (d : DispatchId) : Move where
  transaction db := .open_replan_successor db transition_id (some ⟨d, 0⟩)

/-- The adapter refuses the start of a Dispatch for sure. -/
def fail_start (d : DispatchId) (revision : Nat) (due_at : Instant) : Move where
  transaction db := .start_due_dispatch db ⟨d, revision, due_at⟩ (.called .definite_failure) due_at due_at

/-- The provider delivers a steer of a Member. -/
def steer (member_id : MemberId) (action_id : String) : Move where
  transaction db := .steer_product_task_member db db member_id ⟨action_id, "go on"⟩ (some .delivered) 0

/-- The watchdog of a silent Dispatch is due, and its replacement is drawn. -/
def watchdog_due (d : DispatchId) (activity_revision : Nat) (due_at : Instant) (replacement : DispatchId) : Move where
  transaction db := .recover_stale_dispatch db db ⟨d, activity_revision, due_at⟩ due_at due_at
    (.drawn ⟨replacement, due_at⟩)

end Move

/-- The rows after the admission of a Task and some transactions; empty when one of them is rolled back. -/
def Controller.replay (controller : Controller) (db : TaskDb) (moves : List Move) : Option TaskDb :=
  moves.foldlM (fun db move => (move.transaction db).commit controller db) db

variable {controller : Controller}

/-- A replay extends every run in which its moves may commit. -/
theorem Controller.replay_extends (system : Transactional TaskDb Transaction) {db db' : TaskDb} {history : List TaskDb}
    {moves : List Move} (hreads : system.reads = Transaction.reads)
    (hcommit : ∀ move ∈ moves, ∀ db db', (move.transaction db).commit controller db = some db' →
      system.commit (move.transaction db) db db')
    (hrun : system.Run (db :: history)) (h : controller.replay db moves = some db') :
    ∃ history', system.Run (db' :: history') ∧ (db :: history) <:+ (db' :: history') := by
  unfold replay at h
  induction moves generalizing db history with
  | nil =>
    cases h
    exact ⟨history, hrun, List.suffix_rfl⟩
  | cons move moves ih =>
    rw [List.foldlM_cons, Option.bind_eq_bind, Option.bind_eq_some_iff] at h
    obtain ⟨next, hnext, hrest⟩ := h
    have hstep := hrun.step (fun stale hstale => by simp [move.alone db stale (hreads ▸ hstale)])
      (hcommit move List.mem_cons_self db next hnext)
    obtain ⟨history', hrun', hsuffix⟩ := ih (fun later hlater => hcommit later (List.mem_cons_of_mem _ hlater)) hstep
      hrest
    exact ⟨history', hrun', (List.suffix_cons _ _).trans hsuffix⟩

/-- Whatever a replay finds, some reachable rows show. -/
theorem Controller.replay_reachable {db db' : TaskDb} {moves : List Move} (hreachable : controller.runtime.Reachable db)
    (h : controller.replay db moves = some db') : controller.runtime.Reachable db' := by
  obtain ⟨history, hrun⟩ := hreachable
  obtain ⟨history', hrun', -⟩ := replay_extends _ rfl (fun _ _ _ _ hcommit => hcommit) hrun h
  exact ⟨history', hrun'⟩

theorem Controller.start_reachable {db : TaskDb} {input : RuntimeBootstrapInput} {drawn : Option DrawnDispatchRequest}
    (h : start_task input drawn = .ok db) : controller.runtime.Reachable db := ⟨[], .start ⟨input, drawn, h⟩⟩

/-- A Task led by Member 1, whose managers 2 and 3 have one Member each. -/
def two_managers : RuntimeBootstrapInput where
  assignment_id := 1
  attempt_id := 1
  initial_team := { team_revision_id := 1, configuration := id, branch_basis := id }
  lead := .mk 1 plain [.mk 2 plain [.mk 4 plain []], .mk 3 plain [.mk 5 plain []]]
  max_child_assignments_per_assignment := 8
  max_retries_per_assignment := 2
  max_wave_members := 4
where plain : MemberContent := ⟨none, none, none, none, none⟩

/-- A controller whose hashes read like what they hash, and whose validator accepts every value. -/
def plain_controller : Controller where
  settings :=
    { max_child_assignments_per_assignment := 8
      max_retries_per_assignment := 2
      max_wave_members := 4
      dispatch_launch_retry_initial_backoff_seconds := 1
      dispatch_launch_retry_max_backoff_seconds := 60
      watchdog_inactivity_timeout_seconds := 10
      watchdog_same_attempt_replacement_limit := 1 }
  steer_ids :=
    { action_id := fun source => s!"{source.dispatch_id}.{source.accepted_steer_count}"
      event_id := fun action_id => action_id ++ ".event" }
  is_retired_provider := fun _ => false
  schema_validator := fun _ _ => .valid

def wave_of_managers : DelegateRequest := ⟨[2, 3], by simp, by simp, by simp⟩

/-- Both managers of `two_managers` work on what their lead delegated. -/
def managers_at_work : List Move :=
  [.accept_start 1 0 0, .delegate_wave 1 wave_of_managers 2, .accept_start 2 0 0, .accept_start 3 0 0]

/-- Then the first manager tries again, and the second one asks a human and delegates in its next Dispatch. -/
def lanes_at_work : List Move :=
  managers_at_work ++ [.retry 2 1 6, .accept_start 6 0 0, .ask 3 1, .skip 1, .open_human_successor 1 7,
    .accept_start 7 0 0, .delegate 7 5 5, .accept_start 5 0 0]

/-- The Member of the first manager has ended green and the manager continues, while the second one is at work. -/
def manager_rejoined : List Move :=
  managers_at_work ++ [.delegate 2 4 4, .accept_start 4 0 0, .end_attempt 4 .green 1, .settle 4,
    .open_wave_successor 4 7, .accept_start 7 0 0]

/-- The rows of `two_managers` after its admission and some transactions. -/
def replay_two_managers (moves : List Move) : Option TaskDb :=
  (start_task two_managers (some ⟨1, 0⟩)).toOption.bind fun db => plain_controller.replay db moves

theorem replay_two_managers_reachable {moves : List Move} {db : TaskDb} (h : replay_two_managers moves = some db) :
    plain_controller.runtime.Reachable db := by
  obtain ⟨start, hstart, hmoves⟩ := Option.bind_eq_some_iff.mp h
  exact Controller.replay_reachable (Controller.start_reachable (toOption_eq_some_iff.mp hstart)) hmoves

/-- What a replay finds, a run finds whose transactions all meet a condition that its moves meet anywhere. -/
theorem run_of_replay (condition : Transaction → TaskDb → Prop) (moves : List Move) {P : TaskDb → Bool}
    (hcondition : ∀ move ∈ moves, ∀ db, condition (move.transaction db) db)
    (h : (replay_two_managers moves).any P = true) :
    ∃ db history, (plain_controller.runtime.restrict condition).Run (db :: history) ∧ P db = true := by
  obtain ⟨db, hreplay, hP⟩ := (Option.any_eq_true _ _).mp h
  obtain ⟨start, hstart, hmoves⟩ := Option.bind_eq_some_iff.mp hreplay
  obtain ⟨history, hrun, -⟩ := Controller.replay_extends (plain_controller.runtime.restrict condition) rfl
    (fun move hmove db db' hcommit => ⟨hcondition move hmove db, hcommit⟩)
    (.start ⟨two_managers, some ⟨1, 0⟩, toOption_eq_some_iff.mp hstart⟩) hmoves
  exact ⟨db, history, hrun, hP⟩

/-- The rows that a replay without a rollback ends with. -/
def replayed (moves : List Move) (h : (replay_two_managers moves).isSome = true) : TaskDb :=
  (replay_two_managers moves).get h

theorem replayed_reachable {moves : List Move} (h : (replay_two_managers moves).isSome = true) :
    plain_controller.runtime.Reachable (replayed moves h) := replay_two_managers_reachable (Option.some_get h).symm

theorem replay_start : (replay_two_managers []).isSome = true := by decide +kernel

theorem replay_lanes_at_work : (replay_two_managers lanes_at_work).isSome = true := by decide +kernel

/-- What a replay finds is reachable. -/
theorem reachable_of_replay (moves : List Move) {P : TaskDb → Bool} (h : (replay_two_managers moves).any P = true) :
    ∃ db, plain_controller.runtime.Reachable db ∧ P db = true := by
  obtain ⟨db, hreplay, hP⟩ := (Option.any_eq_true _ _).mp h
  exact ⟨db, replay_two_managers_reachable hreplay, hP⟩

end OhMySubagents
