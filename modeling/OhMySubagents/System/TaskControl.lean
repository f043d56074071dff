import OhMySubagents.System.CommandRuns
import OhMySubagents.System.Completion
import OhMySubagents.TaskControl.Enabled

open Relational

namespace OhMySubagents

variable {controller : Controller} {db db' db'' : TaskDb} {snapshot : ControlSnapshot} {actor : CancellationActor}
  {cancelled_at : Instant}

/-! # The operator can always pause and cancel -/

/-- What the operator may do with a Task: exactly what its status allows, against exactly its revisions. -/
structure OperatorControls (db : TaskDb) (snapshot : ControlSnapshot) : Prop where
  pause : (∃ db', pause_task db snapshot = .ok db') ↔ snapshot.Names db.task ∧ db.task.status = .running
  cancel : ∀ actor cancelled_at, (∃ db', cancel_task db snapshot actor cancelled_at = .ok db') ↔
    snapshot.Names db.task ∧ (db.task.status = .running ∨ db.task.status = .paused)

/-- In every reachable state a pause and a cancellation against the current revisions succeed: whatever the other
    transactions left behind, each current Dispatch can be closed and each wait be settled with its source. -/
theorem operator_controls (hreachable : controller.runtime.Reachable db) (snapshot : ControlSnapshot) :
    OperatorControls db snapshot where
  pause := by
    have hsound := Controller.sound hreachable
    refine ⟨fun ⟨db', h⟩ => ?_, fun ⟨hnames, hrunning⟩ => pause_task_ok hsound.lanes.pointers hnames hrunning⟩
    unfold pause_task at h
    obtain ⟨_, hsnapshot, -⟩ := bind_eq_ok_iff.mp h
    obtain ⟨hteam, hcontrol, hstatus⟩ := require_control_snapshot_success hsnapshot
    exact ⟨⟨hteam, hcontrol⟩, List.mem_singleton.mp hstatus⟩
  cancel actor cancelled_at := by
    have hsound := Controller.sound hreachable
    refine ⟨fun ⟨db', h⟩ => ?_, fun ⟨hnames, hactive⟩ => cancel_task_ok hsound.lanes hnames hactive actor cancelled_at⟩
    unfold cancel_task at h
    obtain ⟨_, hsnapshot, -⟩ := bind_eq_ok_iff.mp h
    obtain ⟨hteam, hcontrol, hstatus⟩ := require_control_snapshot_success hsnapshot
    exact ⟨⟨hteam, hcontrol⟩, by simpa using hstatus⟩

/-- The Task whose root waits for an answer can be cancelled. -/
theorem operator_controls_asked : ∃ db, db.human_requests.get? 1 = some asked_question ∧
    OperatorControls db ⟨db.task.current_team_revision_id, db.task.control_revision⟩ := by
  obtain ⟨db, hreachable, hrow⟩ := reachable_of_replay question_asked
    (P := fun db => db.human_requests.get? 1 == some asked_question) (by decide +kernel)
  exact ⟨db, beq_iff_eq.mp hrow, operator_controls hreachable _⟩

/-! # A cancellation is complete and final -/

/-- Nothing that a Task that has ended left behind asks anybody for anything, but a process may still be stopping. -/
structure AtRest (db : TaskDb) : Prop where
  nothing_live : NothingLive db
  requests : ∀ request_id request, db.human_requests.get? request_id = some request → request.status ≠ .open
  runs : ∀ run_id run, db.command_runs.get? run_id = some run →
    run.state.is_terminal = true ∨ run.state = .cancellation_requested

/-- The invariants of what the Attempts wait for. -/
structure WaitsOwned (db : TaskDb) : Prop where
  requests : OpenRequestsWait db
  runs : LiveRunsWait db

theorem Controller.waits_owned (h : controller.runtime.Reachable db) : WaitsOwned db :=
  ⟨open_requests_wait h, live_runs_wait h⟩

theorem Controller.path_waits_owned (hpath : controller.runtime.Path db db') (h : WaitsOwned db) : WaitsOwned db' := by
  refine Transactional.Path.keep (P := WaitsOwned) hpath h fun db db' hstep hP => ?_
  obtain ⟨hsound, t, hcommitted⟩ := committed hstep
  exact ⟨hP.requests.step hsound hcommitted, hP.runs.step hsound hcommitted⟩

theorem WaitsOwned.at_rest (h : WaitsOwned db) (hsound : Sound db) (hended : ¬ db.lanes.Active) : AtRest db where
  nothing_live := hsound.nothing_live hended
  requests request_id request hrow hopen := hended (h.requests request_id request hrow hopen).2
  runs run_id run hrow := by
    cases hstate : run.state.is_terminal with
    | true => exact .inl rfl
    | false => exact .inr ((h.runs run_id run hrow hstate).2.resolve_left hended)

namespace TaskCancelled

variable {closed unwaited : TaskDb}

theorem ended (h : TaskCancelled db closed unwaited db') : ¬ db'.lanes.Active := by
  unfold Lanes.Active
  rw [TaskDb.lanes_status, h.task]
  exact nofun

/-- Every Attempt that was active is cancelled. -/
theorem attempt {a : AttemptId} {attempt : Attempt} (h : TaskCancelled db closed unwaited db')
    (hrow : db.attempts.get? a = some attempt) (hactive : attempt.status.is_active = true) :
    ∃ attempt', db'.attempts.get? a = some attempt' ∧ attempt'.status = .cancelled := by
  obtain ⟨freed, hfreed, hfrees⟩ := h.halted.attempts.forward hrow
  obtain ⟨unparked, hunparked, hunparks⟩ := h.dropped.attempts.forward hfreed
  have hstatus : unparked.status = attempt.status := by
    obtain rfl | rfl := hfrees <;> obtain rfl | ⟨-, rfl⟩ := hunparks <;> rfl
  refine ⟨unparked.cancel, ?_, ?_⟩
  · rw [h.rows]
    exact (Table.get?_mapRows ..).trans (by rw [hunparked]; rfl)
  · rw [Attempt.cancel, hstatus, hactive]
    rfl

/-- Every Wave that opened no successor is cancelled. -/
theorem wave {wave_id : WaveId} {wave : DelegationWave} (h : TaskCancelled db closed unwaited db')
    (hrow : db.delegation_waves.get? wave_id = some wave) (hnone : wave.successor_dispatch_id = none) :
    ∃ wave', db'.delegation_waves.get? wave_id = some wave' ∧ wave'.status = .cancelled ∧
      wave'.successor_dispatch_id = none := by
  have hrow' : closed.delegation_waves.get? wave_id = some wave := by rwa [h.halted.frame]
  obtain ⟨given, hgiven, hgives⟩ := h.dropped.waves.forward hrow'
  have hsuccessor : given.successor_dispatch_id = none := by
    obtain rfl | ⟨-, rfl⟩ := hgives
    · exact hnone
    · exact hnone
  refine ⟨if given.is_cancellable then given.cancel else given, ?_, ?_⟩
  · rw [h.rows]
    exact (Table.get?_mapRows ..).trans (by rw [hgiven]; rfl)
  · split
    · exact ⟨rfl, hsuccessor⟩
    · next hkept =>
      refine ⟨?_, hsuccessor⟩
      cases hstatus : given.status <;> simp_all [DelegationWave.is_cancellable]

/-- Every Wave member that was pending is cancelled. -/
theorem member {key : WaveId × Nat} {member : DelegationWaveMember} (h : TaskCancelled db closed unwaited db')
    (hrow : db.delegation_wave_members.get? key = some member) (hpending : member.status = .pending) :
    ∃ member', db'.delegation_wave_members.get? key = some member' ∧ member'.status = .cancelled := by
  have hrow' : closed.delegation_wave_members.get? key = some member := by rwa [h.halted.frame]
  obtain ⟨given, hgiven, hgives⟩ := h.dropped.members.forward hrow'
  refine ⟨given.cancel, ?_, ?_⟩
  · rw [h.rows]
    exact (Table.get?_mapRows ..).trans (by rw [hgiven]; rfl)
  · obtain rfl | rfl := hgives <;> simp [DelegationWaveMember.cancel, hpending]

theorem request {request_id : RequestId} {request : HumanRequest} (h : TaskCancelled db closed unwaited db')
    (hrow : db.human_requests.get? request_id = some request) :
    ∃ request', db'.human_requests.get? request_id = some request' ∧ request.GivesUp request' := by
  have hrow' : closed.human_requests.get? request_id = some request := by rwa [h.halted.frame]
  rw [h.rows]
  exact h.dropped.human_requests.forward hrow'

theorem run {run_id : RunId} {run : CommandRun} (h : TaskCancelled db closed unwaited db')
    (hrow : db.command_runs.get? run_id = some run) :
    ∃ run', db'.command_runs.get? run_id = some run' ∧ run.GivesUp run' := by
  have hrow' : closed.command_runs.get? run_id = some run := by rwa [h.halted.frame]
  rw [h.rows]
  exact h.dropped.command_runs.forward hrow'

end TaskCancelled

/-- What a cancellation leaves of the Task for all time. -/
structure CancelledForGood (db db'' : TaskDb) : Prop where
  task : db''.task = db.task.cancel
  at_rest : AtRest db''
  dispatches : ∀ d, (db''.dispatches.get? d).isSome = (db.dispatches.get? d).isSome
  closed : ∀ d dispatch, db.dispatches.get? d = some dispatch → dispatch.is_live = true →
    ∃ dispatch', db''.dispatches.get? d = some dispatch' ∧ dispatch'.status = .closed .cancelled
  attempts : ∀ a attempt, db.attempts.get? a = some attempt → attempt.status.is_active = true →
    ∃ attempt', db''.attempts.get? a = some attempt' ∧ attempt'.status = .cancelled
  waves : ∀ w wave, db.delegation_waves.get? w = some wave → wave.successor_dispatch_id = none →
    ∃ wave', db''.delegation_waves.get? w = some wave' ∧ wave'.status = .cancelled ∧
      wave'.successor_dispatch_id = none
  members : ∀ k member, db.delegation_wave_members.get? k = some member → member.status = .pending →
    ∃ member', db''.delegation_wave_members.get? k = some member' ∧ member'.status = .cancelled
  requests : ∀ request_id request, db.human_requests.get? request_id = some request → request.status = .open →
    ∃ request', db''.human_requests.get? request_id = some request' ∧ request'.status = .cancelled
  runs : ∀ run_id run, db.command_runs.get? run_id = some run → run.state.is_terminal = false →
    ∃ run', db''.command_runs.get? run_id = some run' ∧
      (run'.state = .cancellation_requested ∨ run'.state = .cancelled ∨ run'.state = .abandoned)

/-- After a cancellation nothing of the Task is live, and whatever signals, timers, answers, exits, resumes and handlers
    come later, in whatever order, nothing opens again and all that was live stays cancelled. -/
theorem cancellation_final (hreachable : controller.runtime.Reachable db)
    (h : cancel_task db snapshot actor cancelled_at = .ok db') (hpath : controller.runtime.Path db' db'') :
    CancelledForGood db db'' := by
  have hsound := Controller.sound hreachable
  have hcommit : (Transaction.cancel_task snapshot actor cancelled_at).commit controller db = some db' :=
    toOption_eq_some_iff.mpr h
  have hcommitted := commit_success hsound hcommit
  have hsound' := hcommitted.sound hsound
  obtain ⟨closed, unwaited, hcancelled, -⟩ := cancel_task_success hsound.lanes h
  have hended := hcancelled.ended
  have howned := Controller.waits_owned (hreachable.step rfl hcommit)
  have hsettled := Controller.path_settled hended hpath
  have hlater : db'.lanes.Later db''.lanes := Controller.path_later (hreachable.step rfl hcommit) hpath
  have hrest := howned.at_rest hsound' hended
  refine ⟨(Controller.path_task hended hpath).trans hcancelled.task,
    (Controller.path_waits_owned hpath howned).at_rest (Controller.path_sound hsound' hpath) (hsettled.ended hended),
    fun d => ?_, fun d dispatch hrow hlive => ?_, fun a attempt hrow hactive => ?_, fun w wave hrow hnone => ?_,
    fun k member hrow hpending => ?_, fun request_id request hrow hopen => ?_, fun run_id run hrow hlive => ?_⟩
  · have hlanes : (db''.lanes.dispatches d).isSome = (db'.lanes.dispatches d).isSome := by rw [hsettled.dispatches]
    simp only [TaskDb.lanes_dispatches, Table.view, Option.isSome_map] at hlanes
    exact hlanes.trans ((cancel_task_dispatches h).isSome_get? d)
  · obtain ⟨dispatch', hrow', hcloses⟩ := (cancel_task_dispatches h).forward hrow
    obtain rfl | ⟨-, rfl⟩ := hcloses
    · rw [hrest.nothing_live.dispatches d _ hrow'] at hlive
      cases hlive
    · have hlane : db''.lanes.dispatches d = some (dispatch.close .cancelled).lane := by
        rw [hsettled.dispatches]
        exact Table.view_eq_some.mpr ⟨_, hrow', rfl⟩
      obtain ⟨last, hlast, hsame⟩ := Table.view_eq_some.mp hlane
      refine ⟨last, hlast, ?_⟩
      have hreason := congrArg LaneDispatch.closed_reason hsame
      change last.status.closed_reason = some .cancelled at hreason
      cases hstatus : last.status <;> simp_all [DispatchStatus.closed_reason]
  · obtain ⟨attempt', hrow', hstatus⟩ := hcancelled.attempt hrow hactive
    obtain ⟨r, hr, hr'⟩ := hlater.attempts a attempt'.lane (Table.view_eq_some.mpr ⟨attempt', hrow', rfl⟩)
    obtain ⟨last, hlast, rfl⟩ := Table.view_eq_some.mp hr
    exact ⟨last, hlast, (hr'.ended (.inr hstatus)).trans hstatus⟩
  · obtain ⟨wave', hrow', hstatus, hnone'⟩ := hcancelled.wave hrow hnone
    obtain ⟨x, hx, hx'⟩ := hlater.sources (.delegation_wave w) wave'.lane (Table.view_eq_some.mpr ⟨wave', hrow', rfl⟩)
    obtain ⟨last, hlast, rfl⟩ := Table.view_eq_some.mp hx
    refine ⟨last, hlast, ?_⟩
    have hphase := hx'.phase
    unfold DelegationWave.lane SourcePhase.of SourcePhase.Advances at hphase
    cases hsuccessor : last.successor_dispatch_id <;> cases hlast : last.status <;>
      simp_all [WaveStatus.phase]
  · obtain ⟨member', hrow', hstatus⟩ := hcancelled.member hrow hpending
    obtain ⟨m, hm, hm'⟩ := hlater.wave_members k member'.lane (Table.view_eq_some.mpr ⟨member', hrow', rfl⟩)
    obtain ⟨last, hlast, rfl⟩ := Table.view_eq_some.mp hm
    have hstatus' : member'.lane.status ≠ .pending := by
      change member'.status ≠ .pending
      rw [hstatus]
      rintro ⟨⟩
    exact ⟨last, hlast, (congrArg LaneWaveMember.status (hm'.ended hstatus')).trans hstatus⟩
  · obtain ⟨request', hrow', hgives⟩ := hcancelled.request hrow
    have hstatus : request'.status = .cancelled := by
      obtain rfl | ⟨-, -, resolution, rfl⟩ := hgives
      · exact absurd hopen (hrest.requests request_id request' hrow')
      · rfl
    obtain ⟨last, hlast, hlater⟩ := Controller.human_requests_later hpath request_id request' hrow'
    refine ⟨last, hlast, (hlater.settled ?_).1.trans hstatus⟩
    rw [hstatus]
    rintro ⟨⟩
  · obtain ⟨run', hrow', hgives⟩ := hcancelled.run hrow
    have hstate : run'.state = .cancellation_requested := by
      obtain rfl | ⟨-, requested_at, rfl⟩ := hgives
      · exact (hrest.runs run_id run' hrow').resolve_left (Bool.eq_false_iff.mp hlive)
      · rfl
    obtain ⟨last, hlast, hlater⟩ := Controller.command_runs_later hpath run_id run' hrow'
    have hreaches := hlater.state
    rw [hstate] at hreaches
    exact ⟨last, hlast, hreaches⟩

def second_manager_commands : Move := .operate 3 (.start_command_run none (.ok ()) 1 9)

/-- One manager waits for a human and the other one for a command, which a process owner has claimed. -/
def managers_waiting : List Move :=
  managers_at_work ++ [.ask 2 1, second_manager_commands, launch_owned]

/-- The owner of the command learns of the cancellation and ends its run, and the Task stays as it was cancelled. -/
theorem cancellation_final_managers_waiting : ∃ db db' db'', db.human_requests.get? 1 = some
      { asked_question with assignment_id := 2, attempt_id := 2, source_dispatch_id := 2 } ∧
    (∃ run, db.command_runs.get? 1 = some run ∧ run.state = .pending_start) ∧
    (∃ run', db'.command_runs.get? 1 = some run' ∧ run'.state = .cancellation_requested) ∧
    (∃ run'', db''.command_runs.get? 1 = some run'' ∧ run''.state = .cancelled) ∧
    plain_controller.runtime.Path db' db'' ∧ CancelledForGood db db'' := by
  obtain ⟨db, hreachable, hcancels⟩ := reachable_of_replay managers_waiting
    (P := fun db => db.human_requests.get? 1 ==
        some { asked_question with assignment_id := 2, attempt_id := 2, source_dispatch_id := 2 } &&
      (db.command_runs.get? 1).any (·.state == .pending_start) &&
      (cancel_task db ⟨1, 0⟩ ⟨none, .control_api⟩ 3).toOption.any fun db' =>
        (db'.command_runs.get? 1).any (·.state == .cancellation_requested) &&
          ((Transaction.end_command_run (.unlaunched_cancellation ⟨1, 1, none⟩) 4).commit plain_controller db').any
            fun db'' => (db''.command_runs.get? 1).any (·.state == .cancelled)) (by decide +kernel)
  simp only [Bool.and_eq_true, beq_iff_eq, Option.any_eq_true] at hcancels
  obtain ⟨⟨hrow, hpending⟩, db', hcancel, hrequested, db'', hend, hended⟩ := hcancels
  have hcancel := toOption_eq_some_iff.mp hcancel
  have hcommit : (Transaction.cancel_task ⟨1, 0⟩ ⟨none, .control_api⟩ 3).commit plain_controller db = some db' :=
    toOption_eq_some_iff.mpr hcancel
  have hpath : plain_controller.runtime.Path db' db'' := .single ⟨hreachable.step rfl hcommit, _, hend⟩
  exact ⟨db, db', db'', hrow, hpending, hrequested, hended, hpath, cancellation_final hreachable hcancel hpath⟩

/-! # A resume loses no lane -/

/-- How one lane goes on after a resume: with a Dispatch that was opened just now, or with the wait that it had. -/
inductive LaneGoesOn (db db' : TaskDb) (a : AttemptId) (attempt attempt' : Attempt) : Prop
  | opened {d dispatch} (waited_not : attempt.current_wait_id = none) (current : attempt'.current_dispatch_id = some d)
      (no_wait : attempt'.current_wait_id = none) (fresh : db.dispatches.get? d = none)
      (row : db'.dispatches.get? d = some dispatch) (owner : dispatch.attempt_id = a) (live : dispatch.is_live = true)
  | waiting {w wait} (waited : attempt.current_wait_id = some w) (idle : attempt'.current_dispatch_id = none)
      (current : attempt'.current_wait_id = some w) (kept : db.attempt_waits.get? w = some wait)
      (row : db'.attempt_waits.get? w = some wait) (owner : wait.attempt_id = a)
      (unresolved : wait_source_is_unresolved db' wait = true)

/-- What a resume leaves of the lanes. -/
structure LanesGoOn (db db' : TaskDb) : Prop where
  task : db'.task = db.task.resume
  lanes : ∀ a attempt, db.attempts.get? a = some attempt → attempt.status = .running →
    ∃ attempt', db'.attempts.get? a = some attempt' ∧ attempt'.status = .running ∧
      attempt'.watchdog_replacement_count = 0 ∧ LaneGoesOn db db' a attempt attempt'

theorem forM_ok_mem {α : Type} {f : α → Result Unit} {l : List α} (h : l.forM f = .ok ()) {a : α} (ha : a ∈ l) :
    f a = .ok () := by
  induction l with
  | nil => cases ha
  | cons head l ih =>
    obtain ⟨_, hhead, hrest⟩ := bind_eq_ok_iff.mp h
    rcases List.mem_cons.mp ha with rfl | ha
    · exact hhead
    · exact ih hrest ha

section Resume

variable {checked stale : TaskDb} {plan : PausedTaskContinuationPlan} {drawn : DrawnContinuations}
  {items : List PreparedPausedContinuation} {lane : PausedAttemptLane} {a : AttemptId} {attempt : Attempt}

/-- A plan has a source for each of its lanes that waits for nothing. -/
theorem read_paused_task_continuation_plan_lane {team : RevisionId} {control : Nat}
    (h : read_paused_task_continuation_plan stale team control = .ok plan)
    (hstart : plan.has_unconsumed_task_start = false) (hlane : lane ∈ plan.task.lanes)
    (hfree : lane.current_wait_id = none) : ∃ source ∈ plan.sources, source.lane_key = lane.key := by
  unfold read_paused_task_continuation_plan at h
  simp only [bind_eq_ok_iff] at h
  obtain ⟨task, -, sources, -, _, -, _, hvalid, h⟩ := h
  cases h
  unfold validate_lane_sources at hvalid
  obtain ⟨_, hlanes, -⟩ := bind_eq_ok_iff.mp hvalid
  have hsource := forM_ok_mem hlanes hlane
  unfold validate_lane_source at hsource
  rw [hfree] at hsource
  simp only [bind_eq_ok_iff, require_eq_ok_iff] at hsource
  obtain ⟨_, -, hsome⟩ := hsource
  dsimp only at hstart
  rw [hstart, Bool.or_false, Bool.not_eq_true', List.isEmpty_eq_false_iff_exists_mem] at hsome
  obtain ⟨source, hmem⟩ := hsome
  obtain ⟨hsource, hkey⟩ := List.mem_filter.mp hmem
  exact ⟨source, hsource, beq_iff_eq.mp hkey⟩

/-- Every source of a plan is prepared. -/
theorem prepare_paused_continuations_covers {source : OperatorContinueSource}
    (h : prepare_paused_continuations stale plan drawn = .ok items) (hsource : source ∈ plan.sources) :
    ∃ item ∈ items, item.snapshot.basis = source.basis := by
  unfold prepare_paused_continuations at h
  obtain ⟨candidates, hcandidates, hprepared⟩ := bind_eq_ok_iff.mp h
  obtain ⟨candidate, hcandidate, hread⟩ := mapM_ok_of_mem hcandidates hsource
  obtain ⟨item, hitem, hprepare⟩ := mapM_ok_of_mem hprepared hcandidate
  refine ⟨item, hitem, ?_⟩
  unfold read_paused_continuation at hread
  simp only [bind_eq_ok_iff, require_some_eq_ok_iff] at hread
  obtain ⟨_, hread, snapshot, rfl, hread'⟩ := hread
  cases hread'
  unfold prepare_paused_continuation at hprepare
  obtain ⟨request, -, hprepare⟩ := bind_eq_ok_iff.mp hprepare
  cases hprepare
  exact (read_ordinary_dispatch_snapshot_success hread).1

/-- Opening lanes only gives Attempts a Dispatch. -/
def Attempt.Opens (attempt attempt' : Attempt) : Prop :=
  attempt' = attempt ∨ attempt.current_wait_id = none ∧ ∃ d, attempt' = { attempt with current_dispatch_id := some d }

theorem Attempt.Opens.trans (r r' r'' : Attempt) (h : r.Opens r') (h' : r'.Opens r'') : r.Opens r'' := by
  obtain rfl | ⟨hnone, d, rfl⟩ := h
  · exact h'
  · obtain rfl | ⟨-, d', rfl⟩ := h'
    · exact .inr ⟨hnone, d, rfl⟩
    · exact .inr ⟨hnone, d', rfl⟩

theorem DispatchOpened.attempts {claimed : TaskDb} {snapshot : OrdinaryDispatchSnapshot}
    {prepared : PreparedDispatchRequest} (h : DispatchOpened db claimed db' snapshot prepared attempt) :
    Evolves Attempt.Opens db.attempts db'.attempts := by
  rw [h.rows]
  exact .set (fun _ => .inl rfl) h.attempt_row (.inr ⟨h.no_wait, _, rfl⟩)

theorem ContinuationsOpened.attempts (h : ContinuationsOpened items db db') :
    Evolves Attempt.Opens db.attempts db'.attempts := by
  induction h with
  | nil => exact .refl (fun _ => .inl rfl) _
  | cons opened _ _ ih => exact opened.attempts.trans Attempt.Opens.trans ih

theorem ContinuationsOpened.attempt_waits (h : ContinuationsOpened items db db') :
    db'.attempt_waits = db.attempt_waits := by
  induction h with
  | nil => rfl
  | cons opened _ _ ih => rw [ih, opened.frame]

/-- Every item gives its Attempt a Dispatch, which no later item takes away. -/
theorem ContinuationsOpened.item_attempt {item : PreparedPausedContinuation} (h : ContinuationsOpened items db db')
    (hitem : item ∈ items) : ∃ attempt d, db'.attempts.get? item.snapshot.basis.attempt_id = some attempt ∧
      attempt.current_dispatch_id = some d := by
  induction h with
  | nil => cases hitem
  | @cons first items db claimed next db' attempt opened step rest ih =>
    rcases List.mem_cons.mp hitem with rfl | hitem
    · have hrow : next.attempts.get? item.snapshot.basis.attempt_id =
          some { attempt with current_dispatch_id := some item.prepared.dispatch_id } := by
        rw [opened.rows]
        exact Table.get?_set_self ..
      obtain ⟨last, hlast, hopens⟩ := rest.attempts.forward hrow
      obtain rfl | ⟨-, d, rfl⟩ := hopens
      · exact ⟨_, _, hlast, rfl⟩
      · exact ⟨_, d, hlast, rfl⟩
    · exact ih hitem

/-- The waits of a Task that goes on are for sources that nothing has resolved. -/
theorem Sound.wait_unresolved {w : WaitId} {wait : AttemptWait} (h : Sound db) (hactive : db.lanes.Active)
    (hrow : db.attempt_waits.get? w = some wait) : wait_source_is_unresolved db wait = true := by
  unfold wait_source_is_unresolved
  cases source_ready h.lanes.waiting hactive hrow with
  | human_request source row waited =>
    rw [source]
    simp_all [HumanRequest.is_waited_by]
  | command_run row waited live unfollowed =>
    rw [← waited]
    simp [CommandRun.wait, row, live, unfollowed]
  | delegation_wave source row waited =>
    rw [source]
    simp_all [DelegationWave.is_waited_by]

/-- Every running Attempt of a paused Task is a lane of the plan. -/
theorem TaskContinued.planned_lane (h : TaskContinued stale db plan drawn items db') (hsound : Sound db)
    (hrow : db.attempts.get? a = some attempt) (hrunning : attempt.status = .running) :
    attempt.current_dispatch_id = none ∧ ∃ lane ∈ plan.task.lanes, lane.key = (attempt.assignment_id, a) ∧
      lane.current_wait_id = attempt.current_wait_id := by
  have hidle : attempt.current_dispatch_id = none := by
    cases hd : attempt.current_dispatch_id with
    | none => rfl
    | some d =>
      have hlane : db.lanes.attempts a = some attempt.lane := Table.view_eq_some.mpr ⟨attempt, hrow, rfl⟩
      cases (hsound.lanes.pointers.dispatch_pointer a _ d hlane hd).1.symm.trans h.paused
  obtain ⟨lane, hlane, hkey⟩ := h.lanes a attempt hrow (by simp [Attempt.is_halted, hrunning, hidle])
  refine ⟨hidle, lane, hlane, hkey, ?_⟩
  have hcurrent := h.current
  unfold paused_task_is_current at hcurrent
  rw [Bool.and_eq_true, List.all_eq_true] at hcurrent
  obtain ⟨row, hget, hpaused⟩ := (Option.any_eq_true _ _).mp (hcurrent.2 lane hlane)
  have ha : lane.attempt_id = a := congrArg Prod.snd hkey
  rw [ha, hrow] at hget
  cases hget
  simp only [Attempt.is_paused_lane, Bool.and_eq_true, beq_iff_eq] at hpaused
  exact hpaused.2.symm

/-- Every running Attempt of a resumed Task has a Dispatch, or waits as before. -/
theorem TaskContinued.lane_resumed (h : TaskContinued stale db plan drawn items db') (hsound : Sound db)
    (hrow : db.attempts.get? a = some attempt) (hrunning : attempt.status = .running) :
    ∃ attempt', db'.attempts.get? a = some attempt' ∧ attempt'.status = .running ∧
      attempt'.watchdog_replacement_count = 0 ∧ attempt'.current_wait_id = attempt.current_wait_id ∧
      (attempt'.current_dispatch_id = none → attempt'.current_wait_id ≠ none) := by
  obtain ⟨hidle, lane, hlane, hkey, hwait⟩ := h.planned_lane hsound hrow hrunning
  have hreset : db.resumed.attempts.get? a = some { attempt with watchdog_replacement_count := 0 } := by
    refine (Table.get?_mapRows ..).trans ?_
    rw [hrow]
    simp [Attempt.reset_watchdog, Attempt.is_halted, hrunning, hidle]
  obtain ⟨attempt', hrow', hopens⟩ := h.opened.attempts.forward hreset
  have hstatus : attempt'.status = .running ∧ attempt'.watchdog_replacement_count = 0 ∧
      attempt'.current_wait_id = attempt.current_wait_id := by
    obtain rfl | ⟨-, d, rfl⟩ := hopens
    · exact ⟨hrunning, rfl, rfl⟩
    · exact ⟨hrunning, rfl, rfl⟩
  refine ⟨attempt', hrow', hstatus.1, hstatus.2.1, hstatus.2.2, fun hcurrent hparked => ?_⟩
  obtain ⟨team, control, hplan⟩ := h.plan_read
  rw [hstatus.2.2, ← hwait] at hparked
  obtain ⟨source, hsource, hsame⟩ := read_paused_task_continuation_plan_lane hplan h.no_start hlane hparked
  obtain ⟨item, hitem, hbasis⟩ := prepare_paused_continuations_covers h.prepared hsource
  obtain ⟨last, d, hlast, hheld⟩ := h.opened.item_attempt hitem
  have ha : item.snapshot.basis.attempt_id = a := by
    rw [hbasis]
    exact congrArg Prod.snd (hsame.trans hkey)
  rw [ha, hrow'] at hlast
  cases hlast
  rw [hcurrent] at hheld
  cases hheld

end Resume

/-- The repairs that come before a resume are transactions of the runtime, one after the other, which a resume may
    follow as it is. -/
theorem repair_paused_replan_manifests_reachable (hreachable : controller.runtime.Reachable db)
    (snapshot : ControlSnapshot) (written : TransitionId → Bool) :
    controller.runtime.Reachable (repair_paused_replan_manifests db snapshot written).2 := by
  suffices h : ∀ (transitions : List (TransitionId × ReplanTransition)) (state : Bool × TaskDb),
      controller.runtime.Reachable state.2 →
      controller.runtime.Reachable (transitions.foldl (fun state row =>
        if state.1 then ensure_replan_manifest_current state.2 state.2 state.2 row.1 (written row.1) else state)
          state).2 from
    h _ (true, db) hreachable
  intro transitions
  induction transitions with
  | nil => exact fun _ h => h
  | cons row transitions ih =>
    intro state hstate
    rw [List.foldl_cons]
    refine ih _ ?_
    split
    · obtain ⟨history, hrun⟩ := hstate
      have hcommit : (Transaction.ensure_replan_manifest_current state.2 state.2 row.1 (written row.1)).commit
        controller
          state.2 = some (ensure_replan_manifest_current state.2 state.2 state.2 row.1 (written row.1)).2 := rfl
      exact ⟨_, hrun.step (by simp [Controller.runtime, Transaction.reads]) hcommit⟩
    · exact hstate

/-- After a resume, whenever and from whatever older rows it was planned, every running Attempt has a Dispatch that was
    opened with it or still waits for something that nobody has resolved. -/
theorem resume_loses_no_lane {checked stale : TaskDb} {workspace_available : Bool} {drawn : DrawnContinuations}
    {drawn_root : Option DrawnDispatchRequest} (hreachable : controller.runtime.Reachable db)
    (h : continue_task checked stale db snapshot workspace_available drawn drawn_root = .ok db') :
    LanesGoOn db db' := by
  have hsound := Controller.sound hreachable
  have hcommit : (Transaction.continue_task checked stale snapshot workspace_available drawn drawn_root).commit
    controller db = some db' := toOption_eq_some_iff.mpr h
  have hcommitted := commit_success hsound hcommit
  have hsound' := hcommitted.sound hsound
  unfold continue_task at h
  obtain ⟨_, -, hcontinue⟩ := bind_eq_ok_iff.mp h
  obtain ⟨plan, items, hplan, hcontinued⟩ := continue_paused_task_success hsound.lanes hsound.started hcontinue
  have hrunning' : db'.task.status = .running := by
    rw [hcontinued.opened.task]
    rfl
  refine ⟨hcontinued.opened.task, fun a attempt hrow hrunning => ?_⟩
  obtain ⟨attempt', hrow', hstatus, hcount, hwaited, hparks⟩ := hcontinued.lane_resumed hsound hrow hrunning
  refine ⟨attempt', hrow', hstatus, hcount, ?_⟩
  have hlane' : db'.lanes.attempts a = some attempt'.lane := Table.view_eq_some.mpr ⟨attempt', hrow', rfl⟩
  cases hcurrent : attempt'.current_dispatch_id with
  | some d =>
    obtain ⟨-, -, hfree, q, hq, hattempt, hopen⟩ := hsound'.lanes.pointers.dispatch_pointer a _ d hlane' hcurrent
    obtain ⟨dispatch, hdispatch, rfl⟩ := Table.view_eq_some.mp hq
    refine .opened (hwaited.symm.trans hfree) hcurrent hfree ?_ hdispatch hattempt (DispatchTurn.lane_live.mp hopen)
    -- A Dispatch that was there before was closed, since the Task was paused.
    cases hold : db.dispatches.get? d with
    | none => rfl
    | some before =>
      have hbefore : db.lanes.dispatches d = some before.lane := Table.view_eq_some.mpr ⟨before, hold, rfl⟩
      cases hreason : before.lane.closed_reason with
      | none =>
        obtain ⟨r, hr, hpoints⟩ := hsound.lanes.pointers.live_dispatch d _ hbefore hreason
        cases (hsound.lanes.pointers.dispatch_pointer _ r d hr hpoints).1.symm.trans hcontinued.paused
      | some reason =>
        obtain ⟨q', hq', hlater⟩ := ((hcommitted.steps hsound).later hsound.lanes).dispatches d _ hbefore
        rw [hq] at hq'
        cases hq'
        have hkept := hlater.closed (by rw [hreason]; rintro ⟨⟩)
        rw [hopen, hreason] at hkept
        cases hkept
  | none =>
    cases hparked : attempt'.current_wait_id with
    | some w =>
      obtain ⟨-, v, hv, howner⟩ := hsound'.lanes.pointers.wait_pointer a _ w hlane' hparked
      obtain ⟨wait, hstored, rfl⟩ := Table.view_eq_some.mp hv
      have hkept : db.attempt_waits.get? w = some wait := by
        rwa [hcontinued.opened.attempt_waits] at hstored
      exact .waiting (hwaited.symm.trans hparked) hcurrent hparked hkept hstored howner
        (hsound'.wait_unresolved (.inl hrunning') hstored)
    | none => exact absurd hparked (hparks hcurrent)

/-- The lead waits for both managers, one of which waits for a human, and the operator pauses the Task. -/
def delegation_paused : List Move :=
  managers_at_work ++ [.ask 2 1, { transaction := fun _ => .pause_task ⟨1, 0⟩ }]

/-- A resume opens a Dispatch for the other manager, and the two waits go on. -/
theorem resume_loses_no_lane_delegated : ∃ db db', db.task.status = .paused ∧
    (∃ attempt, db.attempts.get? 2 = some attempt ∧ attempt.status = .running ∧ attempt.current_wait_id = some 1) ∧
    (∃ attempt, db.attempts.get? 3 = some attempt ∧ attempt.status = .running ∧ attempt.current_wait_id = none) ∧
    LanesGoOn db db' := by
  obtain ⟨db, hreachable, hresumes⟩ := reachable_of_replay delegation_paused
    (P := fun db => db.task.status == .paused &&
      (db.attempts.get? 2).any (fun attempt => attempt.status == .running && attempt.current_wait_id == some 1) &&
      (db.attempts.get? 3).any (fun attempt => attempt.status == .running && attempt.current_wait_id == none) &&
      (continue_task db db db ⟨1, 1⟩ true (fun d => some ⟨d + 10, 0⟩) none).toOption.isSome) (by decide +kernel)
  simp only [Bool.and_eq_true, Option.any_eq_true, Option.isSome_iff_exists, beq_iff_eq] at hresumes
  obtain ⟨⟨⟨hpaused, hwaiting⟩, hidle⟩, db', hresume⟩ := hresumes
  exact ⟨db, db', hpaused, hwaiting, hidle, resume_loses_no_lane hreachable (toOption_eq_some_iff.mp hresume)⟩

end OhMySubagents
