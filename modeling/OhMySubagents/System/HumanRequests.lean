import OhMySubagents.Relational.Alteration
import OhMySubagents.System.Reachable

open Relational

namespace OhMySubagents

/-- A request is followed by a Dispatch once it is terminal, or is left alone. -/
def HumanRequest.Followed (request request' : HumanRequest) : Prop :=
  request' = request ∨ request.status ≠ .open ∧ request.successor_dispatch_id = none ∧
    ∃ d, request' = { request with successor_dispatch_id := some d }

/-- How one transaction may move the row of one request. -/
inductive HumanRequest.Moved (db db' : TaskDb) (request_id : RequestId) (request : HumanRequest) : HumanRequest → Prop
  | same : Moved db db' request_id request request
  | followed {d} (terminal : request.status ≠ .open) (unfollowed : request.successor_dispatch_id = none) :
      Moved db db' request_id request { request with successor_dispatch_id := some d }
  | settled {status resolution wait_id attempt}
      (resolved : HumanRequestResolved db request_id status resolution request wait_id attempt db')
      (outcome : status = .resolved ∨ status = .timed_out ∧
        ∃ due_at, request.due_at = some due_at ∧ due_at ≤ resolution.resolved_at) :
      Moved db db' request_id request (request.resolve status resolution)
  | given_up {resolution} (was_open : request.status = .open) (cancelled : db'.task.status = .cancelled) :
      Moved db db' request_id request (request.resolve .cancelled resolution)

/-- A request that one transaction opened, in a Task that runs. -/
structure HumanRequest.Asked (db' : TaskDb) (request : HumanRequest) : Prop where
  is_open : request.status = .open
  unanswered : request.resolution = none
  unfollowed : request.successor_dispatch_id = none
  running : db'.task.status = .running

/-- The rows of the requests after one transaction. -/
abbrev HumanRequestRows (db db' : TaskDb) : Prop :=
  Alters (fun (_ : RequestId) request => HumanRequest.Asked db' request) (HumanRequest.Moved db db') db.human_requests
    db'.human_requests

variable {controller : Controller} {db db' : TaskDb} {t : Transaction}

theorem HumanRequest.Followed.trans (r r' r'' : HumanRequest) (h : r.Followed r') (h' : r'.Followed r'') :
    r.Followed r'' := by
  obtain rfl | ⟨hterminal, hnone, d, rfl⟩ := h
  · exact h'
  · obtain rfl | ⟨-, hnone', -⟩ := h'
    · exact .inr ⟨hterminal, hnone, d, rfl⟩
    · cases hnone'

private theorem requests_same (h : db'.human_requests = db.human_requests) : HumanRequestRows db db' := by
  unfold HumanRequestRows
  rw [h]
  exact .refl (fun _ _ => .same) _

private theorem requests_followed (h : Evolves HumanRequest.Followed db.human_requests db'.human_requests) :
    HumanRequestRows db db' := by
  refine .of_evolves h fun request_id request request' _ hfollowed => ?_
  obtain rfl | ⟨hterminal, hnone, d, rfl⟩ := hfollowed
  · exact .same
  · exact .followed hterminal hnone

private theorem request_terminal {request : HumanRequest} (h : request.status.is_terminal = true) :
    request.status ≠ .open := by
  intro hopen
  rw [hopen] at h
  cases h

theorem SourceClaimed.human_requests {claimed : TaskDb} {snapshot : OrdinaryDispatchSnapshot} {dispatch_id : DispatchId}
    (h : SourceClaimed db snapshot dispatch_id claimed) :
    Evolves HumanRequest.Followed db.human_requests claimed.human_requests := by
  cases h with
  | human_request row terminal unfollowed =>
    exact .set (fun _ => .inl rfl) row (.inr ⟨request_terminal terminal, unfollowed, dispatch_id, rfl⟩)
  | command_run => exact .refl (fun _ => .inl rfl) _
  | delegation_wave => exact .refl (fun _ => .inl rfl) _
  | replan_transition => exact .refl (fun _ => .inl rfl) _
  | tail => exact .refl (fun _ => .inl rfl) _

theorem DispatchOpened.human_requests {claimed : TaskDb} {snapshot : OrdinaryDispatchSnapshot}
    {prepared : PreparedDispatchRequest} {attempt : Attempt}
    (h : DispatchOpened db claimed db' snapshot prepared attempt) :
    Evolves HumanRequest.Followed db.human_requests db'.human_requests := by
  rw [h.rows]
  exact h.claims.human_requests

theorem ContinuationsOpened.human_requests {items : List PreparedPausedContinuation}
    (h : ContinuationsOpened items db db') : Evolves HumanRequest.Followed db.human_requests db'.human_requests := by
  induction h with
  | nil => exact .refl (fun _ => .inl rfl) _
  | cons opened _ _ ih => exact opened.human_requests.trans HumanRequest.Followed.trans ih

theorem CheckpointCommitted.human_requests {authority : NodeOperationAuthority} {checkpoint_id : CheckpointId}
    {drawn : Option DrawnSemanticRetry} {outcome : Option BoundaryOutcome} {wave_id : Option WaveId}
    (h : CheckpointCommitted db authority checkpoint_id drawn outcome wave_id db') :
    db'.human_requests = db.human_requests := by
  cases h with
  | progress => rfl
  | child => rfl
  | root => rfl
  | retry _ _ _ _ _ hretried staged =>
    obtain ⟨_, -, -, -, rfl⟩ := stage_starting_dispatch_eq_ok.mp staged
    rw [hretried]
    rfl

theorem NodeOperationCommitted.human_requests {authority : NodeOperationAuthority} {operation : NodeOperation}
    (hauth : AuthorityHolds db authority) (h : NodeOperationCommitted db authority operation db') :
    HumanRequestRows db db' := by
  cases h with
  | get_current_context => exact requests_same rfl
  | set_work_plan committed =>
    rcases set_assignment_work_plan_success committed with rfl | ⟨_, _, -, rfl⟩ <;> exact requests_same rfl
  | checkpoint committed => exact requests_same committed.human_requests
  | delegate committed => exact requests_same (by rw [(committed.tables hauth).frame])
  | replan committed => exact requests_same (by rw [committed.result])
  | open_human_request committed =>
    obtain ⟨hfresh, -, -, rfl⟩ := open_human_request_success hauth committed
    exact .add (fun _ _ => .same) hfresh ⟨rfl, rfl, rfl, hauth.lane.running⟩
  | start_command_run committed =>
    obtain ⟨-, -, -, rfl⟩ := start_command_run_success hauth committed
    exact requests_same rfl

theorem CommandRunTerminated.human_requests {run_id : RunId} {request : CommandTerminalRequest} {run : CommandRun}
    {output : Option CommandOutputFacts} (h : CommandRunTerminated db run_id request run output db') :
    db'.human_requests = db.human_requests := by
  cases h <;> rfl

theorem BarrierMoved.human_requests {transition_id : TransitionId} (h : BarrierMoved db transition_id db') :
    db'.human_requests = db.human_requests := by
  cases h <;> rfl

theorem ProviderStartRecorded.human_requests {settings : RuntimeSettings} {signal : DispatchStartDue}
    {candidate : ProviderStartCandidate} {now : Instant}
    (h : ProviderStartRecorded settings db signal candidate now db') : db'.human_requests = db.human_requests := by
  cases h with
  | accepted => rfl
  | rotated => rfl
  | paused paused =>
    rw [paused.paused.halted.frame]
    rfl

/-- A cancelled Task gives its open requests up. -/
theorem TaskCancelled.human_requests {closed unwaited : TaskDb} (h : TaskCancelled db closed unwaited db') :
    HumanRequestRows db db' := by
  have hclosed : closed.human_requests = db.human_requests := by rw [h.halted.frame]
  have hrows : db'.human_requests = unwaited.human_requests := by
    rw [h.rows]
    rfl
  have hcancelled : db'.task.status = .cancelled := by
    rw [h.rows]
    change unwaited.task.status = .cancelled
    rw [h.dropped.frame]
    change closed.task.status = .cancelled
    rw [h.halted.frame]
    rfl
  have hgives := h.dropped.human_requests
  rw [hclosed, ← hrows] at hgives
  refine .of_evolves hgives fun request_id request request' _ hgives => ?_
  obtain rfl | ⟨hopen, -, resolution, rfl⟩ := hgives
  · exact .same
  · exact .given_up hopen hcancelled

/-- Everything that one transaction can do to the requests. -/
theorem Committed.human_requests (h : Committed controller db t db') : HumanRequestRows db db' := by
  cases h with
  | unchanged => exact requests_same rfl
  | admitted => exact requests_same rfl
  | operated _ auth _ committed => exact committed.human_requests auth
  | wave_settled settled =>
    obtain ⟨_, _, _, _, -, -, -, -, -, -, -, -, -, -, -, rfl⟩ := settle_delegation_wave_success settled
    exact requests_same rfl
  | opened _ opened => exact requests_followed opened.opened.human_requests
  | barrier moved => exact requests_same moved.human_requests
  | provider_start _ _ recorded => exact requests_same recorded.human_requests
  | paused paused => exact requests_same (by rw [paused.halted.frame])
  | retired => exact requests_same rfl
  | replaced _ _ replaced => exact requests_same (by rw [replaced.result])
  | human_resolved resolved outcome =>
    have hrows := congrArg TaskDb.human_requests resolved.result
    unfold HumanRequestRows
    rw [hrows]
    exact .set (fun _ _ => .same) resolved.row (.settled resolved outcome)
  | launch_claimed => exact requests_same rfl
  | marked_running => exact requests_same rfl
  | cancellation_requested => exact requests_same rfl
  | command_ended ended => exact requests_same ended.terminated.human_requests
  | continued _ continued => exact requests_followed continued.opened.human_requests
  | cancelled cancelled => exact cancelled.human_requests
  | steered => exact requests_same rfl

/-! # Open requests wait -/

/-- Nothing follows an open request, and its Task goes on. -/
def OpenRequestsWait (db : TaskDb) : Prop :=
  ∀ request_id request, db.human_requests.get? request_id = some request → request.status = .open →
    request.successor_dispatch_id = none ∧ db.lanes.Active

theorem HumanRequest.Moved.of_open {request_id : RequestId} {request request' : HumanRequest}
    (h : HumanRequest.Moved db db' request_id request request') (hopen : request'.status = .open) :
    request' = request := by
  cases h with
  | same => rfl
  | followed terminal => exact absurd hopen terminal
  | settled _ outcome => rcases outcome with rfl | ⟨rfl, -⟩ <;> cases hopen
  | given_up => cases hopen

/-- A transaction of a Dispatch that ends the Task changes no wait. -/
theorem NodeOperationCommitted.completed {authority : NodeOperationAuthority} {operation : NodeOperation}
    (hauth : AuthorityHolds db authority) (h : NodeOperationCommitted db authority operation db') :
    db'.task.status = .running ∨ db'.attempt_waits = db.attempt_waits := by
  have hrunning : db.task.status = .running := hauth.lane.running
  cases h with
  | get_current_context => exact .inl hrunning
  | set_work_plan committed =>
    rcases set_assignment_work_plan_success committed with rfl | ⟨_, _, -, rfl⟩ <;> exact .inl hrunning
  | checkpoint committed =>
    cases committed with
    | progress => exact .inl hrunning
    | child => exact .inl hrunning
    | root => exact .inr rfl
    | retry _ _ _ _ _ hretried staged =>
      obtain ⟨_, -, -, -, rfl⟩ := stage_starting_dispatch_eq_ok.mp staged
      rw [hretried]
      exact .inl hrunning
  | delegate committed =>
    rw [(committed.tables hauth).frame]
    exact .inl hrunning
  | replan committed =>
    rw [committed.result]
    exact .inl hrunning
  | open_human_request committed =>
    obtain ⟨-, -, -, rfl⟩ := open_human_request_success hauth committed
    exact .inl hrunning
  | start_command_run committed =>
    obtain ⟨-, -, -, rfl⟩ := start_command_run_success hauth committed
    exact .inl hrunning

/-- A transaction ends a Task only with a result, which changes no wait, or by a cancellation. -/
theorem Committed.still_active (h : Committed controller db t db') (hactive : db.lanes.Active) :
    db'.lanes.Active ∨ db'.attempt_waits = db.attempt_waits ∨
      ∃ closed unwaited, TaskCancelled db closed unwaited db' := by
  have hsame : db'.task = db.task → db'.lanes.Active := fun htask => by
    unfold Lanes.Active TaskDb.lanes
    rwa [htask]
  have hpaused : ∀ {reason}, db'.task = db.task.pause reason → db'.lanes.Active := fun htask =>
    .inr (by rw [TaskDb.lanes_status, htask]; rfl)
  cases h with
  | unchanged => exact .inl hactive
  | admitted => exact .inl hactive
  | operated _ auth _ committed => exact (committed.completed auth).imp .inl .inl
  | wave_settled settled =>
    obtain ⟨_, _, _, _, -, -, -, -, -, -, -, -, -, -, -, rfl⟩ := settle_delegation_wave_success settled
    exact .inl hactive
  | opened _ opened => exact .inl (hsame (by rw [opened.opened.frame]))
  | barrier moved => exact .inl (hsame moved.task)
  | provider_start _ _ recorded =>
    cases recorded with
    | accepted => exact .inl hactive
    | rotated => exact .inl hactive
    | paused paused => exact .inl (hpaused paused.paused.task)
  | paused paused => exact .inl (hpaused paused.task)
  | retired => exact .inl (hpaused rfl)
  | replaced _ _ replaced => exact .inl (hsame (by rw [replaced.result]))
  | human_resolved resolved => exact .inl (hsame (by rw [resolved.result]; rfl))
  | launch_claimed => exact .inl hactive
  | marked_running => exact .inl hactive
  | cancellation_requested => exact .inl hactive
  | command_ended ended => exact .inl (hsame ended.terminated.task)
  | continued _ continued =>
    refine .inl (.inl ?_)
    rw [TaskDb.lanes_status, continued.opened.task]
    rfl
  | cancelled cancelled => exact .inr (.inr ⟨_, _, cancelled⟩)
  | steered => exact .inl hactive

/-- An open request is waited for. -/
theorem OpenRequestsWait.wait_row {request_id : RequestId} {request : HumanRequest} (h : OpenRequestsWait db)
    (hsound : Sound db) (hrow : db.human_requests.get? request_id = some request) (hopen : request.status = .open) :
    ∃ wait_id wait, db.attempt_waits.get? wait_id = some wait ∧ wait.source = .human_request request_id := by
  obtain ⟨hnone, hactive⟩ := h request_id request hrow hopen
  have hsource : db.lanes.sources (.human_request request_id) = some request.lane :=
    Table.view_eq_some.mpr ⟨request, hrow, rfl⟩
  have hphase : request.lane.phase = .unresolved := by
    simp [HumanRequest.lane, SourcePhase.of, hnone, hopen, HumanRequestStatus.is_terminal]
  obtain ⟨wait_id, wait, hwait, hid⟩ := hsound.lanes.waiting.unresolved_waits _ _ hactive hsource hphase
  obtain ⟨wait, hget, rfl⟩ := Table.view_eq_some.mp hwait
  refine ⟨wait_id, wait, hget, ?_⟩
  change wait.source.source_id = _ at hid
  cases hsource : wait.source <;> simp_all [WaitSource.source_id]

theorem OpenRequestsWait.step (hsound : Sound db) (hcommitted : Committed controller db t db')
    (h : OpenRequestsWait db) : OpenRequestsWait db' := by
  intro request_id request hrow hopen
  rcases hcommitted.human_requests.backward hrow with ⟨-, hasked⟩ | ⟨before, hold, hmoved⟩
  · exact ⟨hasked.unfollowed, .inl hasked.running⟩
  · obtain rfl := hmoved.of_open hopen
    obtain ⟨hnone, hactive⟩ := h request_id request hold hopen
    refine ⟨hnone, ?_⟩
    obtain ⟨wait_id, wait, hwait, hsource⟩ := h.wait_row hsound hold hopen
    rcases hcommitted.still_active hactive with hactive' | hwaits | ⟨closed, unwaited, hcancelled⟩
    · exact hactive'
    · exact (hcommitted.result hsound).active_of_wait (Table.view_eq_some.mpr ⟨wait, by rwa [hwaits], rfl⟩)
    · have hclosed : closed.attempt_waits.get? wait_id = some wait := by rwa [hcancelled.halted.frame]
      obtain ⟨settled, hsettled, hnot⟩ :=
        (hcancelled.dropped.gone wait_id wait hclosed (hcancelled.no_wait wait_id)).1 request_id hsource
      have hrows : db'.human_requests = unwaited.human_requests := by
        rw [hcancelled.rows]
        rfl
      rw [hrows, hsettled] at hrow
      cases hrow
      exact absurd hopen hnot

/-! # Over a run -/

/-- What time cannot undo in a request: it asks the same, and its resolution and its successor are final. -/
structure HumanRequest.Later (request request' : HumanRequest) : Prop where
  same : request' = { request with
    status := request'.status
    resolution := request'.resolution
    successor_dispatch_id := request'.successor_dispatch_id }
  settled : request.status ≠ .open → request'.status = request.status ∧ request'.resolution = request.resolution
  followed : ∀ d, request.successor_dispatch_id = some d → request'.successor_dispatch_id = some d

/-- How an open request is settled: its answer or its deadline wins, clears exactly its own wait and changes nothing
    else, or its Task is cancelled. -/
inductive HumanRequest.Won (db db' : TaskDb) (request_id : RequestId) (request : HumanRequest) : HumanRequest → Prop
  | answered {resolution wait_id attempt}
      (resolved : HumanRequestResolved db request_id .resolved resolution request wait_id attempt db') :
      Won db db' request_id request (request.resolve .resolved resolution)
  | timed_out {resolution due_at wait_id attempt}
      (resolved : HumanRequestResolved db request_id .timed_out resolution request wait_id attempt db')
      (due : request.due_at = some due_at) (elapsed : due_at ≤ resolution.resolved_at) :
      Won db db' request_id request (request.resolve .timed_out resolution)
  | cancelled {resolution} (live : db.lanes.Active) (task : db'.task.status = .cancelled)
      (no_wait : ∀ wait_id, db'.attempt_waits.get? wait_id = none) :
      Won db db' request_id request (request.resolve .cancelled resolution)

section Later

variable {request request' request'' : HumanRequest} {request_id : RequestId}

theorem HumanRequest.Later.refl (request : HumanRequest) : request.Later request :=
  ⟨rfl, fun _ => ⟨rfl, rfl⟩, fun _ => id⟩

theorem HumanRequest.Later.trans (h : request.Later request') (h' : request'.Later request'') :
    request.Later request'' where
  same := by rw [h'.same, h.same]
  settled hterminal := by
    obtain ⟨hstatus, hresolution⟩ := h.settled hterminal
    obtain ⟨hstatus', hresolution'⟩ := h'.settled (by rwa [hstatus])
    exact ⟨hstatus'.trans hstatus, hresolution'.trans hresolution⟩
  followed d hd := h'.followed d (h.followed d hd)

theorem HumanRequest.Moved.later (h : HumanRequest.Moved db db' request_id request request') :
    request.Later request' := by
  cases h with
  | same => exact .refl request
  | followed _ unfollowed =>
    refine ⟨rfl, fun _ => ⟨rfl, rfl⟩, fun d hd => ?_⟩
    rw [unfollowed] at hd
    cases hd
  | settled resolved => exact ⟨rfl, fun hterminal => absurd resolved.was_open hterminal, fun _ => id⟩
  | given_up was_open => exact ⟨rfl, fun hterminal => absurd was_open hterminal, fun _ => id⟩

theorem HumanRequest.Moved.won (hsound : Sound db') (hactive : db.lanes.Active)
    (h : HumanRequest.Moved db db' request_id request request') (hopen : request.status = .open)
    (hsettled : request'.status ≠ .open) : HumanRequest.Won db db' request_id request request' := by
  cases h with
  | same => exact absurd hopen hsettled
  | followed terminal => exact absurd hopen terminal
  | settled resolved outcome =>
    rcases outcome with rfl | ⟨rfl, due_at, due, elapsed⟩
    · exact .answered resolved
    · exact .timed_out resolved due elapsed
  | given_up _ cancelled =>
    have hended : ¬db'.lanes.Active := by
      unfold Lanes.Active
      rw [TaskDb.lanes_status, cancelled]
      exact nofun
    exact .cancelled hactive cancelled fun wait_id => Table.view_eq_none.mp (hsound.result.no_wait hended wait_id)

end Later

namespace Controller

/-- In every reachable state nothing follows an open request, and its Task goes on. -/
theorem open_requests_wait (h : controller.runtime.Reachable db) : OpenRequestsWait db := by
  refine invariant h ?_ fun _ _ _ hsound hcommitted hP => hP.step hsound hcommitted
  intro input drawn db hstart request_id request hrow _
  obtain ⟨-, _, _, -, -, -, hdb⟩ := start_task_rows hstart
  have hrequests : db.human_requests = ∅ := by rw [hdb, new_task_db]
  rw [hrequests, Table.get?_empty] at hrow
  cases hrow

/-- No request is ever lost, and what time cannot undo stays. -/
theorem human_requests_later (h : controller.runtime.Path db db') :
    Grows HumanRequest.Later db.human_requests.get? db'.human_requests.get? := by
  refine Transactional.Path.rel (R := fun db db' => Grows HumanRequest.Later db.human_requests.get?
    db'.human_requests.get?) h (fun _ => .refl HumanRequest.Later.refl _)
    (fun _ _ _ => .trans fun _ _ _ h h' => h.trans h') fun db db' hstep request_id request hrow => ?_
  obtain ⟨-, t, hcommitted⟩ := committed hstep
  obtain ⟨request', hrow', hmoved⟩ := hcommitted.human_requests.forward hrow
  exact ⟨request', hrow', hmoved.later⟩

/-- An open request that a step does not leave as it was is settled by it. -/
theorem human_request_won {request_id : RequestId} {request request' : HumanRequest}
    (hstep : controller.runtime.Step db db') (hrow : db.human_requests.get? request_id = some request)
    (hopen : request.status = .open) (hrow' : db'.human_requests.get? request_id = some request')
    (hmoved : request' ≠ request) :
    request'.status ≠ .open ∧ HumanRequest.Won db db' request_id request request' := by
  obtain ⟨hsound, t, hcommitted⟩ := committed hstep
  obtain ⟨-, hactive⟩ := open_requests_wait hstep.1 request_id request hrow hopen
  have hkept := hcommitted.human_requests.kept hrow hrow'
  have hsettled : request'.status ≠ .open := fun hopen' => hmoved (hkept.of_open hopen')
  exact ⟨hsettled, hkept.won (hcommitted.sound hsound) hactive hopen hsettled⟩

end Controller

/-- The request is there, and open. -/
def RequestOpen (db : TaskDb) (request_id : RequestId) : Prop :=
  ∃ request, db.human_requests.get? request_id = some request ∧ request.status = .open

/-- The request is there, and settled. -/
def RequestSettled (db : TaskDb) (request_id : RequestId) : Prop :=
  ∃ request, db.human_requests.get? request_id = some request ∧ request.status ≠ .open

/-- The one transaction of a run that settled a request. -/
structure HumanRequestWinner (controller : Controller) (states : List TaskDb) (request_id : RequestId)
    (request settled : HumanRequest) (before after : TaskDb) (earlier : List TaskDb) : Prop where
  step : after :: before :: earlier <:+ states
  found : before.human_requests.get? request_id = some request
  left : after.human_requests.get? request_id = some settled
  closed : settled.status ≠ .open
  won : HumanRequest.Won before after request_id request settled
  /-- No other step of the run finds the request open and leaves it settled. -/
  only : ∀ before' after' earlier', after' :: before' :: earlier' <:+ states →
    RequestOpen before' request_id → RequestSettled after' request_id →
    after' :: before' :: earlier' = after :: before :: earlier
  /-- Whatever commits after it leaves the request as it was settled, but for its successor. -/
  kept : ∀ later, controller.runtime.Path after later → ∃ request',
    later.human_requests.get? request_id = some request' ∧
    request' = { settled with successor_dispatch_id := request'.successor_dispatch_id }
  /-- The successor is recorded after it, and once. -/
  unfollowed : settled.successor_dispatch_id = none
  followed_once : ∀ later latest request' request'' d, controller.runtime.Path after later →
    controller.runtime.Path later latest → later.human_requests.get? request_id = some request' →
    request'.successor_dispatch_id = some d → latest.human_requests.get? request_id = some request'' →
    request''.successor_dispatch_id = some d

theorem HumanRequest.Won.successor {request_id : RequestId} {request settled : HumanRequest}
    (h : HumanRequest.Won db db' request_id request settled) :
    settled.successor_dispatch_id = request.successor_dispatch_id := by
  cases h <;> rfl

/-- Whatever the order of answers, deadlines, cancellations and all other transactions: a request that was open in a
    run and is not any more was settled by exactly one of them, from the row as it was opened, and nothing settles it
    again or gives it a second successor. -/
theorem human_request_one_winner {states : List TaskDb} (hrun : controller.runtime.Run (db' :: states))
    (hdb : db ∈ db' :: states) {request_id : RequestId} {request final : HumanRequest}
    (hrow : db.human_requests.get? request_id = some request) (hopen : request.status = .open)
    (hfinal : db'.human_requests.get? request_id = some final) (hsettled : final.status ≠ .open) :
    ∃ settled before after earlier, db ∈ before :: earlier ∧
      HumanRequestWinner controller (db' :: states) request_id request settled before after earlier := by
  have hstays : ∀ s s', controller.runtime.Path s s' → RequestSettled s request_id → RequestSettled s' request_id := by
    rintro s s' hpath ⟨request, hrow, hclosed⟩
    obtain ⟨request', hrow', hlater⟩ := Controller.human_requests_later hpath request_id request hrow
    exact ⟨request', hrow', (hlater.settled hclosed).1 ▸ hclosed⟩
  have hapart : ∀ s, RequestOpen s request_id → ¬RequestSettled s request_id := by
    rintro s ⟨request, hfound, hopen⟩ ⟨request', hrow', hclosed⟩
    obtain rfl := Option.some.inj (hfound.symm.trans hrow')
    exact hclosed hopen
  have hmoved : ¬db'.human_requests.get? request_id = some request :=
    fun hsame => hapart db' ⟨request, hsame, hopen⟩ ⟨final, hfinal, hsettled⟩
  obtain ⟨later, after, before, earlier, hsplit, hmem, hfound, hnot⟩ := Transactional.exists_crossing
    (P := fun db : TaskDb => db.human_requests.get? request_id = some request) hdb hrow hmoved
  have hsuffix : after :: before :: earlier <:+ db' :: states := ⟨later, hsplit.symm⟩
  have hstep := (hrun.of_suffix hsuffix (List.cons_ne_nil _ _)).newest
  obtain ⟨-, t, hcommitted⟩ := Controller.committed hstep
  obtain ⟨settled, hleft, -⟩ := hcommitted.human_requests.forward hfound
  obtain ⟨hclosed, hwon⟩ := Controller.human_request_won hstep hfound hopen hleft fun heq => hnot (heq ▸ hleft)
  refine ⟨settled, before, after, earlier, hmem, hsuffix, hfound, hleft, hclosed, hwon,
    fun before' after' earlier' hsuffix' hopen' hsettled' => ?_, fun last hpath => ?_, ?_,
    fun last latest request' request'' d _ hpath hrow' hd hrow'' => ?_⟩
  · exact hrun.crossing_unique hapart hstays hsuffix ⟨request, hfound, hopen⟩ ⟨settled, hleft, hclosed⟩ hsuffix'
      hopen' hsettled'
  · obtain ⟨request', hrow', hlater⟩ := Controller.human_requests_later hpath request_id settled hleft
    obtain ⟨hstatus, hresolution⟩ := hlater.settled hclosed
    refine ⟨request', hrow', ?_⟩
    have hsame := hlater.same
    rw [hstatus, hresolution] at hsame
    exact hsame
  · exact hwon.successor.trans (Controller.open_requests_wait hstep.1 request_id request hfound hopen).1
  · obtain ⟨last', hlast, hlater⟩ := Controller.human_requests_later hpath request_id request' hrow'
    obtain rfl := Option.some.inj (hrow''.symm.trans hlast)
    exact hlater.followed d hd

/-- The root of a Task asks one question, which may be skipped. -/
def question_asked : List Move := [.accept_start 1 0 0, .ask 1 1]

def asked_question : HumanRequest where
  assignment_id := 1
  attempt_id := 1
  source_dispatch_id := 1
  items := [⟨"choice", none, some ["a", "b"], false, true⟩]
  due_at := some 5
  status := .open
  resolution := none
  successor_dispatch_id := none

/-- The question is skipped, its successor opens, and its deadline comes too late. -/
theorem human_request_one_winner_skipped : ∃ db db' states final settled before after earlier,
    plain_controller.runtime.Run (db' :: states) ∧ db ∈ db' :: states ∧
      db'.human_requests.get? 1 = some final ∧ final.status = .resolved ∧ final.successor_dispatch_id = some 2 ∧
      HumanRequestWinner plain_controller (db' :: states) 1 asked_question settled before after earlier := by
  have hskipped : (replay_two_managers question_asked).any fun db => db.human_requests.get? 1 == some asked_question &&
      (plain_controller.replay db [.skip 1, .open_human_successor 1 2,
        { transaction := fun _ => .expire_human_request ⟨1, 5⟩ 6 }]).any fun db' =>
          (db'.human_requests.get? 1).any fun final =>
            final.status == .resolved && final.successor_dispatch_id == some 2 := by
    decide +kernel
  simp only [Option.any_eq_true, Bool.and_eq_true, beq_iff_eq] at hskipped
  obtain ⟨db, hasked, hrow, db', hmoves, final, hfinal, hstatus, hsuccessor⟩ := hskipped
  obtain ⟨history, hrun⟩ := replay_two_managers_reachable hasked
  obtain ⟨states, hrun', hsuffix⟩ := Controller.replay_extends _ rfl (fun _ _ _ _ hcommit => hcommit) hrun hmoves
  have hdb : db ∈ db' :: states := hsuffix.subset List.mem_cons_self
  obtain ⟨settled, before, after, earlier, -, hwinner⟩ :=
    human_request_one_winner hrun' hdb hrow rfl hfinal (by simp [hstatus])
  exact ⟨db, db', states, final, settled, before, after, earlier, hrun', hdb, hfinal, hstatus, hsuccessor, hwinner⟩

end OhMySubagents
