import OhMySubagents.TaskControl.CancelledTask

open Relational

namespace OhMySubagents

variable {db db' middle : TaskDb} {wait other : AttemptWait} {wait_id other_id : WaitId} {actor : CancellationActor}
  {cancelled_at : Instant}

/-! # Closing every Dispatch of a Task -/

/-- One current Dispatch that can still be closed. -/
structure Closable (db : TaskDb) (current : AttemptDispatchIdentity) : Prop where
  dispatch_row : ∃ dispatch, db.dispatches.get? current.dispatch_id = some dispatch ∧
    dispatch.assignment_id = current.assignment_id ∧ dispatch.attempt_id = current.attempt_id ∧ dispatch.is_live = true
  attempt_row : ∃ attempt, db.attempts.get? current.attempt_id = some attempt ∧ attempt.holds current = true

/-- The Dispatches that are still to be closed are those that running Attempts point at, one of each Attempt. -/
structure ToClose (rest : List AttemptDispatchIdentity) (db : TaskDb) : Prop where
  closable : ∀ current ∈ rest, Closable db current
  distinct : rest.Pairwise fun x y => x.attempt_id ≠ y.attempt_id
  all : ∀ a attempt d, db.attempts.get? a = some attempt → attempt.status = .running →
    attempt.current_dispatch_id = some d → ∃ current ∈ rest, current.attempt_id = a

theorem current_task_dispatch_eq_some {attempt_id : AttemptId} {attempt : Attempt} {current : AttemptDispatchIdentity} :
    current_task_dispatch db attempt_id attempt = some current ↔ ∃ dispatch,
      attempt.current_dispatch_id = some current.dispatch_id ∧ db.dispatches.get? current.dispatch_id = some dispatch ∧
        attempt.status = .running ∧ attempt.current_wait_id = none ∧ dispatch.assignment_id = attempt.assignment_id ∧
        dispatch.attempt_id = attempt_id ∧ dispatch.is_live = true ∧
        current.assignment_id = attempt.assignment_id ∧ current.attempt_id = attempt_id := by
  unfold current_task_dispatch
  simp only [Option.bind_eq_bind, Option.bind_eq_some_iff, ensure_eq_some_iff, Bool.and_eq_true, beq_iff_eq,
    Option.isNone_iff_eq_none, Option.pure_def, Option.some.injEq]
  constructor
  · rintro ⟨d, hd, dispatch, hrow, -, ⟨⟨⟨⟨hrunning, hwait⟩, hassignment⟩, hattempt⟩, hlive⟩, rfl⟩
    exact ⟨dispatch, hd, hrow, hrunning, hwait, hassignment, hattempt, hlive, rfl, rfl⟩
  · rintro ⟨dispatch, hd, hrow, hrunning, hwait, hassignment, hattempt, hlive, hsame, hsame'⟩
    obtain ⟨_, _, _⟩ := current
    cases hsame
    cases hsame'
    exact ⟨_, hd, dispatch, hrow, (), ⟨⟨⟨⟨hrunning, hwait⟩, hassignment⟩, hattempt⟩, hlive⟩, rfl⟩

/-- In the rows of an invariant all current Dispatches can be closed. -/
theorem read_current_task_dispatches_to_close (h : db.lanes.Pointers) :
    ToClose (read_current_task_dispatches db) db := by
  refine ⟨fun current hcurrent => ?_, ?_, fun a attempt d hrow hrunning hd => ?_⟩
  · obtain ⟨⟨a, attempt⟩, hselected, hread⟩ := List.mem_filterMap.mp hcurrent
    obtain ⟨hrow, -⟩ := Table.mem_select_iff.mp hselected
    obtain ⟨dispatch, hd, hdispatch, hrunning, hwait, hassignment, hattempt, hlive, hsame, hsame'⟩ :=
      current_task_dispatch_eq_some.mp hread
    refine ⟨⟨dispatch, hdispatch, hassignment.trans hsame.symm, hattempt.trans hsame'.symm, hlive⟩, attempt, ?_, ?_⟩
    · rw [hsame']
      exact hrow
    · exact Attempt.holds_iff.mpr ⟨hsame.symm, hrunning, hd, hwait⟩
  · have hkeys := Table.select_keys_nodup db.attempts fun _ _ => true
    refine List.Pairwise.filterMap _ (fun x y hne b hb b' hb' => ?_) (List.pairwise_map.mp hkeys)
    obtain ⟨-, -, -, -, -, -, -, -, -, hsame⟩ := current_task_dispatch_eq_some.mp hb
    obtain ⟨-, -, -, -, -, -, -, -, -, hsame'⟩ := current_task_dispatch_eq_some.mp hb'
    rw [hsame, hsame']
    exact hne
  · have hlane : db.lanes.attempts a = some attempt.lane := Table.view_eq_some.mpr ⟨attempt, hrow, rfl⟩
    obtain ⟨-, -, hwait, q, hq, hattempt, hopen⟩ := h.dispatch_pointer a attempt.lane d hlane hd
    obtain ⟨r, hr, hassignment⟩ := h.dispatch_attempt d q hq
    rw [hattempt, hlane] at hr
    cases hr
    obtain ⟨dispatch, hdispatch, rfl⟩ := Table.view_eq_some.mp hq
    refine ⟨⟨attempt.assignment_id, a, d⟩, List.mem_filterMap.mpr ⟨(a, attempt), ?_, ?_⟩, rfl⟩
    · exact Table.mem_select_iff.mpr ⟨hrow, rfl⟩
    · exact current_task_dispatch_eq_some.mpr ⟨dispatch, hd, hdispatch, hrunning, hwait, hassignment.symm, hattempt,
        DispatchTurn.lane_live.mp hopen, rfl, rfl⟩

/-- Closing one of them leaves the others to be closed. -/
theorem ToClose.step {rest : List AttemptDispatchIdentity} {current : AttemptDispatchIdentity}
    (h : ToClose (current :: rest) db) (closed_reason : DispatchClosedReason) :
    ∃ db', close_current_task_dispatch closed_reason db current = .ok db' ∧ ToClose rest db' := by
  obtain ⟨⟨dispatch, hdispatch, hassignment, hattempt, hlive⟩, attempt, hrow, hholds⟩ :=
    h.closable current List.mem_cons_self
  obtain ⟨hdistinct, hrest⟩ := List.pairwise_cons.mp h.distinct
  refine ⟨{ db with
    dispatches := db.dispatches.set current.dispatch_id (dispatch.close closed_reason)
    attempts := db.attempts.set current.attempt_id { attempt with current_dispatch_id := none } }, ?_,
    fun other hother => ?_, hrest, fun a row d hget hrunning hd => ?_⟩
  · unfold close_current_task_dispatch
    rw [Table.updateWhere_eq_some.mpr ⟨dispatch, hdispatch, by simp [hassignment, hattempt, hlive], rfl⟩,
      Table.updateWhere_eq_some.mpr ⟨attempt, hrow, hholds, rfl⟩]
    rfl
  · obtain ⟨⟨q, hq, hqassignment, hqattempt, hqlive⟩, r, hr, hrholds⟩ := h.closable other (.tail _ hother)
    have hne := hdistinct other hother
    refine ⟨⟨q, ?_, hqassignment, hqattempt, hqlive⟩, r, ?_, hrholds⟩
    · refine (Table.get?_set_ne _ (fun hsame => hne ?_) _).trans hq
      rw [hsame, hdispatch] at hq
      cases hq
      exact hattempt.symm.trans hqattempt
    · exact (Table.get?_set_ne _ (Ne.symm hne) _).trans hr
  · by_cases ha : a = current.attempt_id
    · rw [ha, Table.get?_set_self] at hget
      cases hget
      cases hd
    · rw [Table.get?_set_ne _ ha] at hget
      obtain ⟨other, hother, hsame⟩ := h.all a row d hget hrunning hd
      rcases List.mem_cons.mp hother with rfl | hother
      · exact absurd hsame.symm ha
      · exact ⟨other, hother, hsame⟩

/-- Task control can always close the Dispatches of a Task. -/
theorem close_current_task_dispatches_ok (h : db.lanes.Pointers) (closed_reason : DispatchClosedReason)
    (reason_overrides : DispatchId → Option DispatchClosedReason) :
    ∃ db', close_current_task_dispatches db closed_reason reason_overrides = .ok db' := by
  obtain ⟨db', hfold, hclosed⟩ := foldlM_ok (P := ToClose) (fun _ _ _ hstep => hstep.step _)
    (read_current_task_dispatches_to_close h)
  refine ⟨db', ?_⟩
  unfold close_current_task_dispatches
  rw [hfold]
  refine bind_eq_ok_iff.mpr ⟨db', rfl, bind_eq_ok_iff.mpr ⟨(), require_eq_ok_iff.mpr ?_, rfl⟩⟩
  rw [Bool.not_eq_true', Table.any_eq_false_iff]
  intro a attempt hrow
  rw [Bool.and_eq_false_iff, beq_eq_false_iff_ne]
  by_contra hheld
  obtain ⟨hrunning, hsome⟩ := not_or.mp hheld
  obtain ⟨d, hd⟩ := Option.isSome_iff_exists.mp (Bool.not_eq_false _ ▸ hsome)
  obtain ⟨current, hmem, -⟩ := hclosed.all a attempt d hrow (not_not.mp hrunning) hd
  cases hmem

/-- Without overrides every Dispatch that closes closes for the reason of the whole Task. -/
theorem close_current_task_dispatches_closes {closed_reason : DispatchClosedReason}
    (h : close_current_task_dispatches db closed_reason (fun _ => none) = .ok db') :
    Evolves (fun dispatch dispatch' => dispatch' = dispatch ∨ dispatch.is_live = true ∧
      dispatch' = dispatch.close closed_reason) db.dispatches db'.dispatches := by
  unfold close_current_task_dispatches at h
  obtain ⟨closed, hfold, h⟩ := bind_eq_ok_iff.mp h
  obtain ⟨_, -, h⟩ := bind_eq_ok_iff.mp h
  cases h
  refine foldlM_invariant (P := fun db db' : TaskDb => Evolves (fun dispatch dispatch' => dispatch' = dispatch ∨
    dispatch.is_live = true ∧ dispatch' = dispatch.close closed_reason) db.dispatches db'.dispatches)
    (fun db => .refl (fun _ => .inl rfl) _) (fun db middle next current hmiddle hnext => ?_) hfold
  obtain ⟨dispatch, -, hdispatch, -, -, hlive, -, -, rfl⟩ := close_current_task_dispatch_success hnext
  refine hmiddle.trans (fun r r' r'' hr hr' => ?_) (.set (fun _ => .inl rfl) hdispatch (.inr ⟨hlive, rfl⟩))
  obtain rfl | ⟨hlive, rfl⟩ := hr
  · exact hr'
  · obtain rfl | ⟨hlive', rfl⟩ := hr'
    · exact .inr ⟨hlive, rfl⟩
    · cases hlive'

/-! # Settling every wait of a Task -/

/-- The source of a wait can still be cancelled with it. -/
inductive SourceReady (db : TaskDb) (wait : AttemptWait) : Prop
  | human_request {id request} (source : wait.source = .human_request id)
      (row : db.human_requests.get? id = some request) (waited : request.is_waited_by wait = true)
  | command_run {id run} (row : db.command_runs.get? id = some run) (waited : run.wait id = wait)
      (live : run.state.is_terminal = false) (unfollowed : run.successor_dispatch_id = none)
  | delegation_wave {id wave} (source : wait.source = .delegation_wave id)
      (row : db.delegation_waves.get? id = some wave) (waited : wave.is_waited_by wait = true)

/-- One current wait that can still be settled. -/
structure WaitReady (db : TaskDb) (wait_id : WaitId) (wait : AttemptWait) : Prop where
  row : db.attempt_waits.get? wait_id = some wait
  attempt_row : ∃ attempt, db.attempts.get? wait.attempt_id = some attempt ∧
    attempt.waits_on wait.assignment_id wait_id = true
  source : SourceReady db wait

/-- The waits that are still to be settled are all that are left, each with its own source. -/
structure ToSettle (rest : List (WaitId × AttemptWait)) (db : TaskDb) : Prop where
  ready : ∀ row ∈ rest, WaitReady db row.1 row.2
  distinct : rest.Pairwise fun x y => x.1 ≠ y.1 ∧ x.2.source ≠ y.2.source
  all : ∀ w v, db.attempt_waits.get? w = some v → (w, v) ∈ rest
  controlled : db.task.status = .running ∨ db.task.status = .paused ∨ db.task.status = .cancelled

theorem WaitReady.cancel_source (h : WaitReady db wait_id wait)
    (controlled : db.task.status = .running ∨ db.task.status = .paused ∨ db.task.status = .cancelled)
    (actor : CancellationActor) (cancelled_at : Instant) :
    ∃ middle, cancel_attempt_wait_source db wait actor cancelled_at = .ok middle := by
  cases h.source with
  | human_request source row waited =>
    unfold cancel_attempt_wait_source cancel_human_request
    rw [source]
    dsimp only
    rw [Table.updateWhere_eq_some.mpr ⟨_, row, waited, rfl⟩]
    exact ⟨_, rfl⟩
  | @command_run id run row waited live =>
    obtain rfl := waited
    obtain ⟨attempt, hattempt, hwaits⟩ := h.attempt_row
    have hcontrolled : (db.task.status == .running || db.task.status == .paused ||
        true && db.task.status == .cancelled) = true := by
      simpa [or_assoc] using controlled
    have hexists : current_command_wait_exists db id run true = true := by
      unfold current_command_wait_exists
      rw [Bool.and_eq_true, Table.any_eq_true_iff]
      refine ⟨hcontrolled, wait_id, run.wait id, h.row, ?_⟩
      rw [Bool.and_eq_true, beq_self_eq_true, Option.any_eq_true]
      exact ⟨rfl, attempt, hattempt, hwaits⟩
    have hrequest : ∃ result, request_command_run_cancellation db id cancelled_at true true = .ok result := by
      unfold request_command_run_cancellation
      rw [row]
      dsimp only
      rw [live, hexists]
      cases hstate : run.state with
      | cancellation_requested => exact ⟨_, rfl⟩
      | pending_start | running =>
        unfold commit_cancellation_request
        rw [hstate, Table.updateWhere_eq_some.mpr ⟨run, row, by simp [hstate, hexists], rfl⟩]
        exact ⟨_, rfl⟩
      | succeeded | failed | timed_out | cancelled | abandoned =>
        rw [hstate] at live
        cases live
    obtain ⟨result, hrequest⟩ := hrequest
    exact ⟨result.2, by
      unfold cancel_attempt_wait_source
      exact map_eq_ok_iff.mpr ⟨result, hrequest, rfl⟩⟩
  | delegation_wave source row waited =>
    unfold cancel_attempt_wait_source cancel_waiting_delegation_wave
    rw [source]
    dsimp only
    rw [Table.updateWhere_eq_some.mpr ⟨_, row, waited, rfl⟩]
    exact ⟨_, rfl⟩

/-- Giving one source up leaves every other source as it was. -/
theorem SourceReady.given_up (hgiven : SourceGivenUp db wait middle) (hother : other.source ≠ wait.source)
    (h : SourceReady db other) : SourceReady middle other := by
  cases hgiven with
  | @human_request request_id request resolution source row =>
    cases h with
    | human_request source' row' waited =>
      refine .human_request source' ((Table.get?_set_ne _ (fun hsame => hother ?_) _).trans row') waited
      rw [source, source', hsame]
    | command_run row' waited live unfollowed => exact .command_run row' waited live unfollowed
    | delegation_wave source' row' waited => exact .delegation_wave source' row' waited
  | @command_run run_id run requested_at source row =>
    cases h with
    | human_request source' row' waited => exact .human_request source' row' waited
    | command_run row' waited live unfollowed =>
      refine .command_run ((Table.get?_set_ne _ (fun hsame => hother ?_) _).trans row') waited live unfollowed
      rw [source, ← waited, CommandRun.wait, hsame]
    | delegation_wave source' row' waited => exact .delegation_wave source' row' waited
  | stopping_command_run => exact h
  | @delegation_wave wave_id wave source row =>
    cases h with
    | human_request source' row' waited => exact .human_request source' row' waited
    | command_run row' waited live unfollowed => exact .command_run row' waited live unfollowed
    | delegation_wave source' row' waited =>
      refine .delegation_wave source' ((Table.get?_set_ne _ (fun hsame => hother ?_) _).trans row') waited
      rw [source, source', hsame]

theorem SourceGivenUp.task (h : SourceGivenUp db wait middle) : middle.task = db.task := by
  cases h <;> rfl

theorem SourceGivenUp.attempts (h : SourceGivenUp db wait middle) : middle.attempts = db.attempts := by
  cases h <;> rfl

theorem Attempt.waits_on_iff {attempt : Attempt} {assignment_id : AssignmentId} :
    attempt.waits_on assignment_id wait_id = true ↔ attempt.assignment_id = assignment_id ∧
      attempt.status = .running ∧ attempt.current_dispatch_id = none ∧ attempt.current_wait_id = some wait_id := by
  simp [Attempt.waits_on, and_assoc]

/-- A wait that is ready is settled, and only it. -/
theorem WaitReady.cancel (h : WaitReady db wait_id wait)
    (controlled : db.task.status = .running ∨ db.task.status = .paused ∨ db.task.status = .cancelled)
    (actor : CancellationActor) (cancelled_at : Instant) :
    ∃ middle attempt, SourceGivenUp db wait middle ∧ db.attempts.get? wait.attempt_id = some attempt ∧
      attempt.current_wait_id = some wait_id ∧
      cancel_attempt_wait actor cancelled_at db (wait_id, wait) =
        .ok (middle.clear_wait wait_id wait.attempt_id attempt) := by
  obtain ⟨middle, hsource⟩ := h.cancel_source controlled actor cancelled_at
  have hgiven := cancel_attempt_wait_source_success hsource
  obtain ⟨attempt, hattempt, hwaits⟩ := h.attempt_row
  obtain ⟨hassignment, hrunning, hidle, hcurrent⟩ := Attempt.waits_on_iff.mp hwaits
  refine ⟨middle, attempt, hgiven, hattempt, hcurrent, ?_⟩
  unfold cancel_attempt_wait
  rw [hsource]
  have hcleared : clear_current_attempt_wait middle
      { assignment_id := wait.assignment_id, attempt_id := wait.attempt_id, wait_id } = some { middle with
        attempts := middle.attempts.set wait.attempt_id { attempt with current_wait_id := none } } :=
    clear_current_attempt_wait_eq_some.mpr
      ⟨attempt, by rw [hgiven.attempts]; exact hattempt, hassignment, hrunning, hidle, hcurrent, rfl⟩
  have hrow : middle.attempt_waits.get? wait_id = some wait := by
    rw [hgiven.attempt_waits]
    exact h.row
  change clear_and_delete_attempt_wait middle wait_id wait = _
  unfold clear_and_delete_attempt_wait
  dsimp only
  rw [hcleared]
  refine bind_eq_ok_iff.mpr ⟨_, rfl, bind_eq_ok_iff.mpr ⟨(), require_eq_ok_iff.mpr ?_, rfl⟩⟩
  rw [Option.any_eq_true]
  exact ⟨wait, hrow, by simp [AttemptWait.is_same_owner]⟩

theorem ToSettle.step {rest : List (WaitId × AttemptWait)} {row : WaitId × AttemptWait}
    (h : ToSettle (row :: rest) db) :
    ∃ db', cancel_attempt_wait actor cancelled_at db row = .ok db' ∧ ToSettle rest db' := by
  obtain ⟨wait_id, wait⟩ := row
  have hready := h.ready (wait_id, wait) List.mem_cons_self
  obtain ⟨middle, attempt, hgiven, hattempt, hcurrent, hcancel⟩ :=
    hready.cancel h.controlled actor cancelled_at
  obtain ⟨hdistinct, hrest⟩ := List.pairwise_cons.mp h.distinct
  refine ⟨_, hcancel, fun other hother => ?_, hrest, fun w v hv => ?_, ?_⟩
  · obtain ⟨hne, hsource⟩ := hdistinct other hother
    obtain ⟨hrow, ⟨parked, hparked, hwaits⟩, hother⟩ := h.ready other (.tail _ hother)
    refine ⟨?_, ⟨parked, ?_, hwaits⟩, ?_⟩
    · rw [TaskDb.clear_wait, hgiven.attempt_waits, Table.get?_delete, if_neg (Ne.symm hne)]
      exact hrow
    · rw [TaskDb.clear_wait, hgiven.attempts]
      refine (Table.get?_set_ne _ (fun hsame => hne ?_) _).trans hparked
      rw [hsame, hattempt] at hparked
      cases hparked
      exact Option.some.inj (hcurrent.symm.trans (Attempt.waits_on_iff.mp hwaits).2.2.2)
    · have hleft := hother.given_up hgiven (Ne.symm hsource)
      cases hleft with
      | human_request source' row' waited => exact .human_request source' row' waited
      | command_run row' waited live unfollowed => exact .command_run row' waited live unfollowed
      | delegation_wave source' row' waited => exact .delegation_wave source' row' waited
  · rw [TaskDb.clear_wait, hgiven.attempt_waits, Table.get?_delete] at hv
    split at hv
    · cases hv
    · next hne =>
      rcases List.mem_cons.mp (h.all w v hv) with hsame | hmem
      · exact absurd (congrArg Prod.fst hsame) hne
      · exact hmem
  · rw [TaskDb.clear_wait]
    change middle.task.status = _ ∨ middle.task.status = _ ∨ middle.task.status = _
    rw [hgiven.task]
    exact h.controlled

private theorem of_unresolved {successor : Option DispatchId} {phase : SourcePhase}
    (h : SourcePhase.of successor phase = .unresolved) : successor = none ∧ phase = .unresolved := by
  cases successor with
  | none => exact ⟨rfl, h⟩
  | some d => cases h

/-- While a Task goes on the source of each of its waits can be given up. -/
theorem source_ready (h : db.lanes.Waiting) (hactive : db.lanes.Active)
    (hwait : db.attempt_waits.get? wait_id = some wait) : SourceReady db wait := by
  obtain ⟨x, hx, hphase, hattempt, hassignment, hdispatch⟩ :=
    h.wait_source wait_id wait hactive (Table.view_eq_some.mpr ⟨wait, hwait, rfl⟩)
  obtain ⟨assignment_id, attempt_id, source_dispatch_id, source⟩ := wait
  cases source with
  | human_request id =>
    obtain ⟨request, hrow, rfl⟩ := Table.view_eq_some.mp hx
    obtain ⟨hnone, hopen⟩ := of_unresolved hphase
    have hstatus : request.status = .open := by
      cases hstatus : request.status <;> simp_all [HumanRequestStatus.is_terminal]
    refine .human_request rfl hrow ?_
    simp_all [HumanRequest.is_waited_by, HumanRequest.lane]
  | command_run id =>
    obtain ⟨run, hrow, rfl⟩ := Table.view_eq_some.mp hx
    obtain ⟨hnone, hlive⟩ := of_unresolved hphase
    refine .command_run hrow ?_ (by simpa using hlive) hnone
    simp_all [CommandRun.wait, CommandRun.lane]
  | delegation_wave id =>
    obtain ⟨wave, hrow, rfl⟩ := Table.view_eq_some.mp hx
    obtain ⟨hnone, hopen⟩ := of_unresolved hphase
    have hstatus : wave.status = .open := by
      cases hstatus : wave.status <;> simp_all [WaveStatus.phase]
    refine .delegation_wave rfl hrow ?_
    simp_all [DelegationWave.is_waited_by, DelegationWave.lane, DelegationWave.is_open]

/-- After its Dispatches are closed, a cancelled Task can settle all its waits. -/
theorem LanesHalted.to_settle {task : Task} (hinv : db.lanes.Invariant) (hactive : db.lanes.Active)
    (hhalted : LanesHalted { db with task := task } db')
    (controlled : task.status = .running ∨ task.status = .paused ∨ task.status = .cancelled) :
    ToSettle (read_current_attempt_waits db') db' := by
  have hready : ∀ w v, db'.attempt_waits.get? w = some v → WaitReady db' w v := by
    intro w v hv
    have hv' : db.attempt_waits.get? w = some v := by rwa [hhalted.frame] at hv
    have hlane : db.lanes.waits w = some v := Table.view_eq_some.mpr ⟨v, hv', rfl⟩
    obtain ⟨r, hr, hcurrent, hassignment⟩ := hinv.pointers.wait_row w v hlane
    obtain ⟨attempt, hattempt, rfl⟩ := Table.view_eq_some.mp hr
    obtain ⟨hrunning, -⟩ := hinv.pointers.wait_pointer _ _ w hr hcurrent
    have hidle : attempt.current_dispatch_id = none := by
      cases hd : attempt.current_dispatch_id with
      | none => rfl
      | some d => cases (hinv.pointers.dispatch_pointer _ _ d hr hd).2.2.1.symm.trans hcurrent
    obtain ⟨attempt', hattempt', hfrees⟩ := hhalted.attempts.forward hattempt
    refine ⟨hv, ⟨attempt', hattempt', Attempt.waits_on_iff.mpr ?_⟩, ?_⟩
    · obtain rfl | rfl := hfrees
      · exact ⟨hassignment.symm, hrunning, hidle, hcurrent⟩
      · exact ⟨hassignment.symm, hrunning, rfl, hcurrent⟩
    · rw [hhalted.frame]
      cases source_ready hinv.waiting hactive hv' with
      | human_request source row waited => exact .human_request source row waited
      | command_run row waited live unfollowed => exact .command_run row waited live unfollowed
      | delegation_wave source row waited => exact .delegation_wave source row waited
  refine ⟨fun row hrow => hready _ _ (Table.mem_select_iff.mp hrow).1, ?_, fun w v hv => ?_, ?_⟩
  · have hkeys := List.pairwise_map.mp (Table.select_keys_nodup db'.attempt_waits fun wait_id wait =>
      (db'.attempts.get? wait.attempt_id).any fun attempt => attempt.waits_on wait.assignment_id wait_id)
    refine hkeys.imp_of_mem fun {x y} hx hy hne => ⟨hne, fun hsource => hne ?_⟩
    have hrow := (Table.mem_select_iff.mp hx).1
    have hrow' := (Table.mem_select_iff.mp hy).1
    rw [hhalted.frame] at hrow hrow'
    exact hinv.waiting.wait_unique x.1 x.2 y.1 y.2 (Table.view_eq_some.mpr ⟨_, hrow, rfl⟩)
      (Table.view_eq_some.mpr ⟨_, hrow', rfl⟩) (congrArg WaitSource.source_id hsource)
  · obtain ⟨attempt, hattempt, hwaits⟩ := (hready w v hv).attempt_row
    exact Table.mem_select_iff.mpr ⟨hv, (Option.any_eq_true _ _).mpr ⟨attempt, hattempt, hwaits⟩⟩
  · rw [hhalted.frame]
    exact controlled

/-! # The operator's control -/

/-- The revisions that a control request names are those of the Task. -/
def ControlSnapshot.Names (snapshot : ControlSnapshot) (task : Task) : Prop :=
  task.current_team_revision_id = snapshot.expected_team_revision_id ∧
    task.control_revision = snapshot.expected_control_revision

theorem require_control_snapshot_ok {task : Task} {snapshot : ControlSnapshot} {allowed_statuses : List TaskStatus}
    (h : snapshot.Names task) (hstatus : task.status ∈ allowed_statuses) :
    require_control_snapshot task snapshot allowed_statuses = .ok () := by
  unfold require_control_snapshot
  rw [h.1, h.2, List.contains_iff_mem.mpr hstatus, beq_self_eq_true, beq_self_eq_true]
  rfl

/-- Whatever the Task row is replaced by, the Dispatches of the Task can be closed. -/
theorem close_replaced_task_ok (h : db.lanes.Pointers) (task : Task) (closed_reason : DispatchClosedReason)
    (reason_overrides : DispatchId → Option DispatchClosedReason) :
    ∃ db', close_current_task_dispatches { db with task := task } closed_reason reason_overrides = .ok db' := by
  obtain ⟨closed, hclosed⟩ := close_current_task_dispatches_ok h closed_reason reason_overrides
  rw [close_current_task_dispatches_task, hclosed]
  exact ⟨_, rfl⟩

theorem pause_task_ok {snapshot : ControlSnapshot} (h : db.lanes.Pointers) (hnames : snapshot.Names db.task)
    (running : db.task.status = .running) : ∃ db', pause_task db snapshot = .ok db' := by
  obtain ⟨db', hclosed⟩ := close_replaced_task_ok h (db.task.pause .paused_by_operator) .paused fun _ => none
  refine ⟨db', ?_⟩
  unfold pause_task
  rw [require_control_snapshot_ok hnames (by simp [running])]
  exact hclosed

theorem cancel_task_ok {snapshot : ControlSnapshot} (h : db.lanes.Invariant) (hnames : snapshot.Names db.task)
    (hactive : db.lanes.Active) (actor : CancellationActor) (cancelled_at : Instant) :
    ∃ db', cancel_task db snapshot actor cancelled_at = .ok db' := by
  obtain ⟨closed, hclosed⟩ := close_replaced_task_ok h.pointers db.task.cancel .cancelled fun _ => none
  obtain ⟨hhalted, -⟩ := close_current_task_dispatches_success (by simp) hclosed
  obtain ⟨unwaited, hfold, hsettled⟩ := foldlM_ok (P := ToSettle) (fun _ _ _ hstep => hstep.step)
    (hhalted.to_settle h hactive (.inr (.inr rfl)))
  have hwaits : cancel_attempt_waits closed actor cancelled_at = .ok unwaited := by
    unfold cancel_attempt_waits
    rw [hfold]
    refine bind_eq_ok_iff.mpr ⟨unwaited, rfl, bind_eq_ok_iff.mpr ⟨(), require_eq_ok_iff.mpr ?_, rfl⟩⟩
    rw [Bool.not_eq_true', Table.any_eq_false_iff]
    intro w v hv
    cases hsettled.all w v hv
  have hrequired : require_control_snapshot db.task snapshot [.running, .paused] = .ok () :=
    require_control_snapshot_ok hnames (by simpa [Lanes.Active] using hactive)
  refine ⟨cancel_pending_replan_transition (cancel_execution_rows unwaited), ?_⟩
  exact bind_eq_ok_iff.mpr ⟨(), hrequired, bind_eq_ok_iff.mpr ⟨closed, hclosed, bind_eq_ok_iff.mpr
    ⟨unwaited, hwaits, rfl⟩⟩⟩

theorem cancel_attempt_waits_dispatches (h : cancel_attempt_waits db actor cancelled_at = .ok db') :
    db'.dispatches = db.dispatches := by
  unfold cancel_attempt_waits at h
  obtain ⟨unwaited, hfold, h⟩ := bind_eq_ok_iff.mp h
  obtain ⟨_, -, h⟩ := bind_eq_ok_iff.mp h
  cases h
  refine foldlM_invariant (P := fun db db' : TaskDb => db'.dispatches = db.dispatches) (fun _ => rfl)
    (fun db middle next row hmiddle hnext => ?_) hfold
  obtain ⟨given, attempt, -, hgiven, -, -, -, -, rfl⟩ := cancel_attempt_wait_success hnext
  refine Eq.trans ?_ hmiddle
  cases hgiven <;> rfl

/-- A cancellation closes every live Dispatch as cancelled, and opens none. -/
theorem cancel_task_dispatches {snapshot : ControlSnapshot} (h : cancel_task db snapshot actor cancelled_at = .ok db') :
    Evolves (fun dispatch dispatch' => dispatch' = dispatch ∨ dispatch.is_live = true ∧
      dispatch' = dispatch.close .cancelled) db.dispatches db'.dispatches := by
  unfold cancel_task at h
  obtain ⟨_, -, h⟩ := bind_eq_ok_iff.mp h
  obtain ⟨closed, hclosed, h⟩ := bind_eq_ok_iff.mp h
  obtain ⟨unwaited, hunwaited, h⟩ := bind_eq_ok_iff.mp h
  cases h
  change Evolves _ _ unwaited.dispatches
  rw [cancel_attempt_waits_dispatches hunwaited]
  have hcloses := close_current_task_dispatches_closes hclosed
  exact hcloses

end OhMySubagents
