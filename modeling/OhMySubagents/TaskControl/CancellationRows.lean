import OhMySubagents.TaskControl.Cancellation

open Relational

namespace OhMySubagents

section

/-- An Attempt only loses its wait. -/
def Attempt.Unparks (attempt attempt' : Attempt) : Prop :=
  attempt' = attempt ∨ attempt.status = .running ∧ attempt' = { attempt with current_wait_id := none }

/-- A human request that nobody answered is cancelled. -/
def HumanRequest.GivesUp (request request' : HumanRequest) : Prop :=
  request' = request ∨ request.status = .open ∧ request.successor_dispatch_id = none ∧
    ∃ resolution, request' = request.resolve .cancelled resolution

/-- A command run that may still run is asked to stop. -/
def CommandRun.GivesUp (run run' : CommandRun) : Prop :=
  run' = run ∨ (run.state = .pending_start ∨ run.state = .running) ∧
    ∃ requested_at, run' = run.request_cancellation requested_at

/-- A Wave that opened no successor is cancelled. -/
def DelegationWave.GivesUp (wave wave' : DelegationWave) : Prop :=
  wave' = wave ∨ wave.is_cancellable = true ∧ wave' = wave.cancel

/-- A pending Wave member is cancelled. -/
def DelegationWaveMember.GivesUp (member member' : DelegationWaveMember) : Prop :=
  member' = member ∨ member' = member.cancel

theorem Attempt.Unparks.trans (r r' r'' : Attempt) (h : r.Unparks r') (h' : r'.Unparks r'') : r.Unparks r'' := by
  obtain rfl | ⟨hrunning, rfl⟩ := h
  · exact h'
  · obtain rfl | ⟨-, rfl⟩ := h' <;> exact .inr ⟨hrunning, rfl⟩

theorem HumanRequest.GivesUp.trans (r r' r'' : HumanRequest) (h : r.GivesUp r') (h' : r'.GivesUp r'') :
    r.GivesUp r'' := by
  obtain rfl | ⟨hopen, hnone, resolution, rfl⟩ := h
  · exact h'
  · obtain rfl | ⟨hopen', -⟩ := h'
    · exact .inr ⟨hopen, hnone, resolution, rfl⟩
    · cases hopen'

theorem CommandRun.GivesUp.trans (r r' r'' : CommandRun) (h : r.GivesUp r') (h' : r'.GivesUp r'') :
    r.GivesUp r'' := by
  obtain rfl | ⟨hstate, requested_at, rfl⟩ := h
  · exact h'
  · obtain rfl | ⟨hstate' | hstate', -⟩ := h'
    · exact .inr ⟨hstate, requested_at, rfl⟩
    · cases hstate'
    · cases hstate'

theorem DelegationWave.GivesUp.trans (w w' w'' : DelegationWave) (h : w.GivesUp w') (h' : w'.GivesUp w'') :
    w.GivesUp w'' := by
  obtain rfl | ⟨hopen, rfl⟩ := h
  · exact h'
  · obtain rfl | ⟨hopen', -⟩ := h'
    · exact .inr ⟨hopen, rfl⟩
    · simp [DelegationWave.is_cancellable, DelegationWave.cancel] at hopen'

@[simp] theorem DelegationWaveMember.cancel_cancel (member : DelegationWaveMember) :
    member.cancel.cancel = member.cancel := by
  unfold DelegationWaveMember.cancel
  split <;> simp_all

theorem DelegationWaveMember.GivesUp.trans (m m' m'' : DelegationWaveMember) (h : m.GivesUp m') (h' : m'.GivesUp m'') :
    m.GivesUp m'' := by
  obtain rfl | rfl := h
  · exact h'
  · obtain rfl | rfl := h'
    · exact .inr rfl
    · exact .inr (DelegationWaveMember.cancel_cancel m)

/-- The source that a wait names is given up, or it is a process that was asked to stop. -/
def SourceSettled (db : TaskDb) (wait : AttemptWait) : Prop :=
  (∀ request_id, wait.source = .human_request request_id →
    ∃ request, db.human_requests.get? request_id = some request ∧ request.status ≠ .open) ∧
  ∀ run_id, wait.source = .command_run run_id →
    ∃ run, db.command_runs.get? run_id = some run ∧
      (run.state.is_terminal = true ∨ run.state = .cancellation_requested)

/-- What dropping waits leaves behind. -/
structure WaitsDropped (db db' : TaskDb) : Prop where
  frame : db' = { db with
    attempts := db'.attempts
    attempt_waits := db'.attempt_waits
    delegation_waves := db'.delegation_waves
    delegation_wave_members := db'.delegation_wave_members
    human_requests := db'.human_requests
    command_runs := db'.command_runs }
  attempts : Evolves Attempt.Unparks db.attempts db'.attempts
  waits : ∀ w v, db'.attempt_waits.get? w = some v → db.attempt_waits.get? w = some v
  waves : Evolves DelegationWave.GivesUp db.delegation_waves db'.delegation_waves
  members : Evolves DelegationWaveMember.GivesUp db.delegation_wave_members db'.delegation_wave_members
  human_requests : Evolves HumanRequest.GivesUp db.human_requests db'.human_requests
  command_runs : Evolves CommandRun.GivesUp db.command_runs db'.command_runs
  gone : ∀ w v, db.attempt_waits.get? w = some v → db'.attempt_waits.get? w = none → SourceSettled db' v

variable {db db' db'' : TaskDb} {wait : AttemptWait} {wait_id : WaitId} {actor : CancellationActor}
  {cancelled_at : Instant}

theorem SourceSettled.later (h : SourceSettled db wait)
    (hhuman : Evolves HumanRequest.GivesUp db.human_requests db'.human_requests)
    (hcommands : Evolves CommandRun.GivesUp db.command_runs db'.command_runs) : SourceSettled db' wait := by
  refine ⟨fun request_id hsource => ?_, fun run_id hsource => ?_⟩
  · obtain ⟨request, hrow, hstatus⟩ := h.1 request_id hsource
    obtain ⟨request', hrow', rfl | ⟨-, -, resolution, rfl⟩⟩ := hhuman.forward hrow
    · exact ⟨request', hrow', hstatus⟩
    · exact ⟨_, hrow', by simp [HumanRequest.resolve]⟩
  · obtain ⟨run, hrow, hstate⟩ := h.2 run_id hsource
    obtain ⟨run', hrow', rfl | ⟨-, requested_at, rfl⟩⟩ := hcommands.forward hrow
    · exact ⟨run', hrow', hstate⟩
    · exact ⟨_, hrow', .inr rfl⟩

theorem WaitsDropped.refl (db : TaskDb) : WaitsDropped db db where
  frame := rfl
  attempts := .refl (fun _ => .inl rfl) _
  waits _ _ hv := hv
  waves := .refl (fun _ => .inl rfl) _
  members := .refl (fun _ => .inl rfl) _
  human_requests := .refl (fun _ => .inl rfl) _
  command_runs := .refl (fun _ => .inl rfl) _
  gone w v hv hnone := by
    rw [hv] at hnone
    cases hnone

theorem WaitsDropped.trans (h : WaitsDropped db db') (h' : WaitsDropped db' db'') : WaitsDropped db db'' where
  frame := by rw [h'.frame, h.frame]
  attempts := h.attempts.trans Attempt.Unparks.trans h'.attempts
  waits w v hv := h.waits w v (h'.waits w v hv)
  waves := h.waves.trans DelegationWave.GivesUp.trans h'.waves
  members := h.members.trans DelegationWaveMember.GivesUp.trans h'.members
  human_requests := h.human_requests.trans HumanRequest.GivesUp.trans h'.human_requests
  command_runs := h.command_runs.trans CommandRun.GivesUp.trans h'.command_runs
  gone w v hv hnone := by
    cases hmiddle : db'.attempt_waits.get? w with
    | none => exact (h.gone w v hv hmiddle).later h'.human_requests h'.command_runs
    | some v' =>
      obtain rfl : v = v' := Option.some.inj (hv.symm.trans (h.waits w v' hmiddle))
      exact h'.gone w v hmiddle hnone

/-- Cancelling the source of a wait changes that source only. -/
private theorem SourceGivenUp.evolves (h : SourceGivenUp db wait db') :
    db'.attempts = db.attempts ∧ db'.attempt_waits = db.attempt_waits ∧
      db' = { db with
        delegation_waves := db'.delegation_waves
        delegation_wave_members := db'.delegation_wave_members
        human_requests := db'.human_requests
        command_runs := db'.command_runs } ∧
      Evolves DelegationWave.GivesUp db.delegation_waves db'.delegation_waves ∧
      Evolves DelegationWaveMember.GivesUp db.delegation_wave_members db'.delegation_wave_members ∧
      Evolves HumanRequest.GivesUp db.human_requests db'.human_requests ∧
      Evolves CommandRun.GivesUp db.command_runs db'.command_runs ∧ SourceSettled db' wait := by
  have hwaves := Evolves.refl (R := DelegationWave.GivesUp) (fun _ => .inl rfl) db.delegation_waves
  have hmembers := Evolves.refl (R := DelegationWaveMember.GivesUp) (fun _ => .inl rfl) db.delegation_wave_members
  have hhuman := Evolves.refl (R := HumanRequest.GivesUp) (fun _ => .inl rfl) db.human_requests
  have hcommands := Evolves.refl (R := CommandRun.GivesUp) (fun _ => .inl rfl) db.command_runs
  cases h with
  | human_request source row is_open unfollowed =>
    refine ⟨rfl, rfl, rfl, hwaves, hmembers, .set (fun _ => .inl rfl) row (.inr ⟨is_open, unfollowed, _, rfl⟩),
      hcommands, fun request_id hsource => ?_, fun run_id hsource => ?_⟩
    · rw [source] at hsource
      cases hsource
      exact ⟨_, Table.get?_set_self .., by simp [HumanRequest.resolve]⟩
    · rw [source] at hsource
      cases hsource
  | command_run source row state =>
    refine ⟨rfl, rfl, rfl, hwaves, hmembers, hhuman, .set (fun _ => .inl rfl) row (.inr ⟨state, _, rfl⟩),
      fun request_id hsource => ?_, fun run_id hsource => ?_⟩
    · rw [source] at hsource
      cases hsource
    · rw [source] at hsource
      cases hsource
      exact ⟨_, Table.get?_set_self .., .inr rfl⟩
  | stopping_command_run source row state =>
    refine ⟨rfl, rfl, rfl, hwaves, hmembers, hhuman, hcommands, fun request_id hsource => ?_,
      fun run_id hsource => ?_⟩
    · rw [source] at hsource
      cases hsource
    · rw [source] at hsource
      cases hsource
      exact ⟨_, row, state⟩
  | @delegation_wave wave_id wave source row is_open unfollowed =>
    refine ⟨rfl, rfl, rfl, .set (fun _ => .inl rfl) row (.inr ⟨?_, rfl⟩), .mapRows fun key member => ?_, hhuman,
      hcommands, fun request_id hsource => ?_, fun run_id hsource => ?_⟩
    · simp [DelegationWave.is_cancellable, is_open, unfollowed]
    · split
      · exact .inr rfl
      · exact .inl rfl
    · rw [source] at hsource
      cases hsource
    · rw [source] at hsource
      cases hsource

/-- One cancelled wait: its row was there, its source was given up, and its Attempt was cleared. -/
theorem cancel_attempt_wait_success {row : WaitId × AttemptWait}
    (h : cancel_attempt_wait actor cancelled_at db row = .ok db') :
    ∃ middle attempt other, SourceGivenUp db row.2 middle ∧ db.attempts.get? row.2.attempt_id = some attempt ∧
      attempt.status = .running ∧ attempt.current_wait_id = some row.1 ∧ db.attempt_waits.get? row.1 = some other ∧
      db' = middle.clear_wait row.1 row.2.attempt_id attempt := by
  unfold cancel_attempt_wait at h
  rw [bind_eq_ok_iff] at h
  obtain ⟨middle, hsource, hclear⟩ := h
  have hgiven := cancel_attempt_wait_source_success hsource
  obtain ⟨attempt, other, hattempt, hrunning, hwait, hrow, rfl⟩ := clear_and_delete_attempt_wait_success hclear
  obtain ⟨hattempts, hwaits, -⟩ := hgiven.evolves
  rw [hattempts] at hattempt
  rw [hwaits] at hrow
  exact ⟨middle, attempt, other, hgiven, hattempt, hrunning, hwait, hrow, rfl⟩

theorem cancel_attempt_wait_dropped {row : WaitId × AttemptWait} (hrow : db.attempt_waits.get? row.1 = some row.2)
    (h : cancel_attempt_wait actor cancelled_at db row = .ok db') : WaitsDropped db db' := by
  obtain ⟨middle, attempt, -, hgiven, hattempt, hrunning, -, -, rfl⟩ := cancel_attempt_wait_success h
  obtain ⟨hattempts, hwaits, hframe, hwaves, hmembers, hhuman, hcommands, hsettled⟩ := hgiven.evolves
  refine ⟨?_, ?_, ?_, hwaves, hmembers, hhuman, hcommands, ?_⟩
  · rw [hframe]
    rfl
  · rw [TaskDb.clear_wait, hattempts]
    exact .set (fun _ => .inl rfl) hattempt (.inr ⟨hrunning, rfl⟩)
  · intro w v hv
    rw [TaskDb.clear_wait, hwaits, Table.get?_delete] at hv
    split at hv
    · cases hv
    · exact hv
  · intro w v hv hnone
    by_cases hw : w = row.1
    · subst hw
      obtain rfl : row.2 = v := Option.some.inj (hrow.symm.trans hv)
      exact hsettled
    · rw [TaskDb.clear_wait, hwaits, Table.get?_delete, if_neg hw, hv] at hnone
      cases hnone

end

@[simp] theorem LaneWaveMember.cancel_cancel (member : LaneWaveMember) : member.cancel.cancel = member.cancel := by
  unfold LaneWaveMember.cancel
  split <;> simp_all

theorem DelegationWaveMember.cancel_lane (member : DelegationWaveMember) : member.cancel.lane = member.lane.cancel := by
  unfold DelegationWaveMember.cancel LaneWaveMember.cancel DelegationWaveMember.lane
  split <;> simp_all

/-- The lanes of a cancelled Task whose waits are being dropped. The rows cancel the members of a Wave with
    its wait, the lanes only once all waits are gone. -/
structure DropsTo (lanes : Lanes) (db : TaskDb) : Prop where
  invariant : lanes.Invariant
  cancelled : lanes.status = .cancelled
  unresolved : ∀ w v, lanes.waits w = some v →
    ∃ x, lanes.sources v.source.source_id = some x ∧ x.phase = .unresolved
  same : db.lanes = { lanes with wave_members := db.lanes.wave_members }
  members : ∀ k, (db.lanes.wave_members k).map LaneWaveMember.cancel = (lanes.wave_members k).map LaneWaveMember.cancel

variable {target : Lanes} {db middle db' : TaskDb} {wait : AttemptWait} {wait_id : WaitId} {x : LaneSource}
  {actor : CancellationActor} {cancelled_at : Instant} {snapshot : ControlSnapshot}

/-- What giving up the source of a wait means for the lanes. -/
theorem SourceGivenUp.lanes_given_up (h : SourceGivenUp db wait middle)
    (row : db.lanes.sources wait.source.source_id = some x) (unresolved : x.phase = .unresolved) :
    ∃ phase, (phase = .cancelled ∨ phase = .unresolved ∨
        phase = .resolved ∧ ∃ request, wait.source = .human_request request) ∧
      middle.lanes = { db.lanes.putSource wait.source.source_id { x with phase := phase } with
        wave_members := middle.lanes.wave_members } ∧
      ∀ k, (middle.lanes.wave_members k).map LaneWaveMember.cancel =
        (db.lanes.wave_members k).map LaneWaveMember.cancel := by
  have hkeep : db.lanes = { db.lanes.putSource wait.source.source_id { x with phase := .unresolved } with
      wave_members := db.lanes.wave_members } := by
    apply Lanes.ext <;> first | rfl | skip
    simp only [Lanes.putSource_sources]
    rw [← unresolved]
    exact (Function.update_eq_self_iff.mpr row.symm).symm
  cases h with
  | @human_request request_id request resolution source hrow is_open unfollowed =>
    rw [source] at row ⊢
    obtain rfl : x = request.lane :=
      Option.some.inj (row.symm.trans (Table.view_eq_some.mpr ⟨request, hrow, rfl⟩))
    refine ⟨.resolved, .inr (.inr ⟨rfl, request_id, rfl⟩), ?_, fun _ => rfl⟩
    rw [lanes_human_request]
    simp [HumanRequest.lane, HumanRequest.resolve, SourcePhase.of, unfollowed, HumanRequestStatus.is_terminal,
      WaitSource.source_id, Lanes.putSource]
  | @command_run run_id run requested_at source hrow state =>
    refine ⟨.unresolved, .inr (.inl rfl), ?_, fun _ => rfl⟩
    rw [lanes_live_command_run hrow (CommandRun.request_cancellation_lane state requested_at)]
    exact hkeep
  | stopping_command_run source hrow state => exact ⟨.unresolved, .inr (.inl rfl), hkeep, fun _ => rfl⟩
  | @delegation_wave wave_id wave source hrow is_open unfollowed =>
    rw [source] at row ⊢
    obtain rfl : x = wave.lane := Option.some.inj (row.symm.trans (Table.view_eq_some.mpr ⟨wave, hrow, rfl⟩))
    refine ⟨.cancelled, .inl rfl, ?_, fun k => ?_⟩
    · apply Lanes.ext <;> first | rfl | skip
      funext s
      cases s <;> simp [TaskDb.source, Function.update_apply, WaitSource.source_id]
      simp [DelegationWave.lane, DelegationWave.cancel, SourcePhase.of, unfollowed, WaveStatus.phase]
    · simp only [TaskDb.lanes_wave_members, Table.view, Table.get?_mapRows, Option.map_map]
      congr 1
      funext member
      simp only [Function.comp_apply]
      split
      · rw [DelegationWaveMember.cancel_lane, LaneWaveMember.cancel_cancel]
      · rfl

theorem SourceGivenUp.attempt_waits (h : SourceGivenUp db wait middle) : middle.attempt_waits = db.attempt_waits := by
  cases h <;> rfl

/-- Cancelling one wait drops it in the lanes. -/
theorem DropsTo.step (h : DropsTo target db) {attempt : Attempt} (hgiven : SourceGivenUp db wait middle)
    (wait_row : db.attempt_waits.get? wait_id = some wait)
    (attempt_row : db.attempts.get? wait.attempt_id = some attempt)
    (waiting : attempt.current_wait_id = some wait_id) :
    ∃ target', Lanes.Step target target' ∧ DropsTo target' (middle.clear_wait wait_id wait.attempt_id attempt) := by
  have hwaits : db.lanes.waits = target.waits := by rw [h.same]
  have hattempts : db.lanes.attempts = target.attempts := by rw [h.same]
  have hsources : db.lanes.sources = target.sources := by rw [h.same]
  have hwait : target.waits wait_id = some wait := by
    rw [← hwaits]
    exact Table.view_eq_some.mpr ⟨wait, wait_row, rfl⟩
  have hattempt : target.attempts wait.attempt_id = some attempt.lane := by
    rw [← hattempts]
    exact Table.view_eq_some.mpr ⟨attempt, attempt_row, rfl⟩
  obtain ⟨x, hx, hphase⟩ := h.unresolved wait_id wait hwait
  obtain ⟨phase, hallowed, hmiddle, hmembers⟩ := hgiven.lanes_given_up (hsources ▸ hx) hphase
  have hstep := Lanes.Step.drop_wait h.cancelled hwait hattempt rfl waiting hx hphase hallowed
  refine ⟨_, hstep, h.invariant.step hstep, h.cancelled, ?_, ?_, ?_⟩
  · intro w v hv
    have hne : w ≠ wait_id := by
      rintro rfl
      simp at hv
    have hv' : target.waits w = some v := by simpa [Function.update_apply, hne] using hv
    obtain ⟨y, hy, hyphase⟩ := h.unresolved w v hv'
    have hsource : v.source.source_id ≠ wait.source.source_id := fun heq =>
      hne (h.invariant.waiting.wait_unique w v wait_id wait hv' hwait heq)
    exact ⟨y, by simpa [Function.update_apply, hsource] using hy, hyphase⟩
  · rw [TaskDb.clear_wait_lanes, hmiddle, h.same]
    rfl
  · intro k
    rw [TaskDb.clear_wait_lanes]
    exact (hmembers k).trans (h.members k)

/-- Cancelling waits one by one drops them all. -/
theorem DropsTo.steps {rows : List (WaitId × AttemptWait)} (h : DropsTo target db)
    (hrows : ∀ row ∈ rows, db.attempt_waits.get? row.1 = some row.2) (hnodup : (rows.map Prod.fst).Nodup)
    (hfold : rows.foldlM (cancel_attempt_wait actor cancelled_at) db = .ok db') :
    WaitsDropped db db' ∧ ∃ target', Lanes.Steps target target' ∧ DropsTo target' db' := by
  induction rows generalizing db target with
  | nil =>
    cases hfold
    exact ⟨.refl _, target, .refl, h⟩
  | cons row rows ih =>
    rw [List.foldlM_cons, bind_eq_ok_iff] at hfold
    obtain ⟨next, hnext, hrest⟩ := hfold
    rw [List.map_cons, List.nodup_cons] at hnodup
    have hrow := hrows row List.mem_cons_self
    have hdropped := cancel_attempt_wait_dropped hrow hnext
    obtain ⟨middle, attempt, -, hgiven, hattempt, -, hwaiting, -, rfl⟩ := cancel_attempt_wait_success hnext
    obtain ⟨target', hstep, hdrops⟩ := h.step hgiven hrow hattempt hwaiting
    have hothers : ∀ other ∈ rows,
        (middle.clear_wait row.1 row.2.attempt_id attempt).attempt_waits.get? other.1 = some other.2 := by
      intro other hother
      have hne : other.1 ≠ row.1 := fun heq => hnodup.1 (heq ▸ List.mem_map_of_mem hother)
      rw [TaskDb.clear_wait, hgiven.attempt_waits, Table.get?_delete, if_neg hne]
      exact hrows other (List.mem_cons_of_mem _ hother)
    obtain ⟨hdropped', last, hsteps, hlast⟩ := ih hdrops hothers hnodup.2 hrest
    exact ⟨hdropped.trans hdropped', last, .head hstep hsteps, hlast⟩

/-- Several sources are cancelled at once. -/
def Lanes.give_up (lanes : Lanes) (ids : List SourceId) : Lanes :=
  { lanes with sources := fun s =>
      (lanes.sources s).map fun x => if s ∈ ids then { x with phase := .cancelled } else x }

/-- A cancelled Task gives up any sources that no Dispatch followed. -/
theorem Lanes.give_up_steps {lanes : Lanes} {ids : List SourceId} (cancelled : lanes.status = .cancelled)
    (hnodup : ids.Nodup)
    (hids : ∀ s ∈ ids, ∃ x, lanes.sources s = some x ∧ (x.phase = .unresolved ∨ x.phase = .resolved)) :
    Lanes.Steps lanes (lanes.give_up ids) := by
  induction ids generalizing lanes with
  | nil => simpa [Lanes.give_up] using Relation.ReflTransGen.refl
  | cons s ids ih =>
    rw [List.nodup_cons] at hnodup
    obtain ⟨x, hx, hphase⟩ := hids s List.mem_cons_self
    have hstep : Lanes.Step lanes (lanes.putSource s { x with phase := .cancelled }) :=
      .drop_source cancelled hx (.inl ⟨rfl, hphase⟩)
    have hrest := @ih (lanes.putSource s { x with phase := .cancelled }) cancelled hnodup.2 fun s' hs' => by
      have hne : s' ≠ s := fun heq => hnodup.1 (heq ▸ hs')
      simpa [Function.update_apply, hne] using hids s' (List.mem_cons_of_mem _ hs')
    refine .head hstep ?_
    convert hrest using 1
    apply Lanes.ext <;> first | rfl | skip
    funext s'
    by_cases hs : s' = s
    · subst hs
      simp [Lanes.give_up, hnodup.1, hx]
    · simp [Lanes.give_up, hs, Function.update_apply]

end OhMySubagents
