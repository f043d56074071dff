import OhMySubagents.System.DispatchRows
import OhMySubagents.System.Reachable

open Relational

namespace OhMySubagents

/-- The attempt count of a Dispatch follows its generation: every recorded result counts one attempt, and
    every result but the acceptance begins the next generation. -/
structure DispatchTurn.Counted (dispatch : DispatchTurn) : Prop where
  starting : ∀ due_at kind, dispatch.status = .starting due_at kind →
    dispatch.provider_start_attempt_count = dispatch.provider_start_revision
  is_open : dispatch.status = .open →
    dispatch.provider_start_attempt_count = dispatch.provider_start_revision + 1
  closed : ∀ reason, dispatch.status = .closed reason →
    dispatch.provider_start_attempt_count = dispatch.provider_start_revision ∨
      dispatch.provider_start_attempt_count = dispatch.provider_start_revision + 1

/-- What provider starts can still do to a Dispatch. -/
structure DispatchTurn.LaterStart (dispatch dispatch' : DispatchTurn) : Prop where
  revision : dispatch.provider_start_revision ≤ dispatch'.provider_start_revision
  attempt_count : dispatch.provider_start_attempt_count ≤ dispatch'.provider_start_attempt_count
  is_open : dispatch.status = .open → (∀ due_at kind, dispatch'.status ≠ .starting due_at kind) ∧
    dispatch'.provider_start_revision = dispatch.provider_start_revision ∧
    dispatch'.provider_start_attempt_count = dispatch.provider_start_attempt_count ∧
    dispatch'.adapter_started_at = dispatch.adapter_started_at
  closed : ∀ reason, dispatch.status = .closed reason → dispatch' = dispatch

/-- What one transaction does to the start columns of a Dispatch: nothing, or it records the result of the
    generation that still starts, as an acceptance or as the next generation. -/
inductive DispatchTurn.StartRecorded (t : Transaction) (d : DispatchId) (dispatch dispatch' : DispatchTurn) : Prop
  | unrecorded (revision : dispatch'.provider_start_revision = dispatch.provider_start_revision)
      (attempt_count : dispatch'.provider_start_attempt_count = dispatch.provider_start_attempt_count)
      (not_opened : dispatch'.status = .open → dispatch.status = .open)
  | recorded {stale signal handling observed_at recorded_at}
      (signalled : t = .start_due_dispatch stale signal handling observed_at recorded_at) (hd : signal.dispatch_id = d)
      (due : dispatch.next_provider_start_at = some signal.due_at)
      (generation : dispatch.provider_start_revision = signal.provider_start_revision)
      (attempt_count : dispatch'.provider_start_attempt_count = dispatch.provider_start_attempt_count + 1)
      (result : dispatch'.status = .open ∧ dispatch'.provider_start_revision = dispatch.provider_start_revision ∨
        dispatch'.next_provider_start_at.isSome ∧
          dispatch'.provider_start_revision = dispatch.provider_start_revision + 1)

namespace DispatchTurn

variable {t : Transaction} {d : DispatchId} {dispatch dispatch' dispatch'' : DispatchTurn}

theorem LaterStart.refl (dispatch : DispatchTurn) : dispatch.LaterStart dispatch where
  revision := le_rfl
  attempt_count := le_rfl
  is_open hopen := ⟨fun due_at kind hstarting => (by rw [hopen] at hstarting; cases hstarting), rfl, rfl, rfl⟩
  closed _ _ := rfl

theorem LaterStart.trans (h : dispatch.LaterStart dispatch') (h' : dispatch'.LaterStart dispatch'') :
    dispatch.LaterStart dispatch'' where
  revision := le_trans h.revision h'.revision
  attempt_count := le_trans h.attempt_count h'.attempt_count
  is_open hopen := by
    obtain ⟨hstarted, hrevision, hcount, hat⟩ := h.is_open hopen
    cases hstatus : dispatch'.status with
    | starting due_at kind => exact absurd hstatus (hstarted due_at kind)
    | «open» =>
      obtain ⟨hstarted', hrevision', hcount', hat'⟩ := h'.is_open hstatus
      exact ⟨hstarted', hrevision'.trans hrevision, hcount'.trans hcount, hat'.trans hat⟩
    | closed reason =>
      rw [h'.closed reason hstatus]
      exact ⟨hstarted, hrevision, hcount, hat⟩
  closed reason hclosed := by
    have hsame := h.closed reason hclosed
    rw [h'.closed reason (hsame ▸ hclosed), hsame]

private theorem not_closed_of_live (live : dispatch.is_live = true) (reason : DispatchClosedReason) :
    dispatch.status ≠ .closed reason := by
  intro hclosed
  simp [is_live, hclosed] at live

theorem Moved.later_start (h : Moved t d dispatch dispatch') : dispatch.LaterStart dispatch' := by
  cases h with
  | same => exact .refl dispatch
  | refreshed _ _ live =>
    exact ⟨le_rfl, le_rfl, (LaterStart.refl dispatch).is_open,
      fun reason hclosed => absurd hclosed (not_closed_of_live live reason)⟩
  | accepted _ _ due =>
    obtain ⟨kind, hstatus⟩ := starting_of_next due
    exact ⟨le_rfl, Nat.le_succ _, fun hopen => (by rw [hstatus] at hopen; cases hopen),
      fun reason hclosed => (by rw [hstatus] at hclosed; cases hclosed)⟩
  | rotated _ _ due generation =>
    obtain ⟨kind, hstatus⟩ := starting_of_next due
    exact ⟨generation ▸ Nat.le_succ _, Nat.le_succ _, fun hopen => (by rw [hstatus] at hopen; cases hopen),
      fun reason hclosed => (by rw [hstatus] at hclosed; cases hclosed)⟩
  | closed live =>
    exact ⟨le_rfl, le_rfl, fun _ => ⟨fun _ _ hstarting => (by cases hstarting), rfl, rfl, rfl⟩,
      fun reason hclosed => absurd hclosed (not_closed_of_live live reason)⟩

theorem Moved.start_recorded (h : Moved t d dispatch dispatch') : StartRecorded t d dispatch dispatch' := by
  cases h with
  | same => exact .unrecorded rfl rfl id
  | refreshed => exact .unrecorded rfl rfl id
  | accepted signalled hd due generation => exact .recorded signalled hd due generation rfl (.inl ⟨rfl, rfl⟩)
  | rotated signalled hd due generation =>
    exact .recorded signalled hd due generation rfl (.inr ⟨rfl, congrArg (· + 1) generation.symm⟩)
  | closed => exact .unrecorded rfl rfl fun hopen => by cases hopen

theorem Moved.counted (h : Moved t d dispatch dispatch') (hcounted : dispatch.Counted) : dispatch'.Counted := by
  cases h with
  | same => exact hcounted
  | refreshed => exact ⟨hcounted.starting, hcounted.is_open, hcounted.closed⟩
  | accepted _ _ due =>
    obtain ⟨kind, hstatus⟩ := starting_of_next due
    refine ⟨fun _ _ hstarting => (by cases hstarting), fun _ => ?_, fun _ hclosed => (by cases hclosed)⟩
    exact congrArg (· + 1) (hcounted.starting _ kind hstatus)
  | rotated _ _ due generation =>
    obtain ⟨kind, hstatus⟩ := starting_of_next due
    refine ⟨fun _ _ _ => ?_, fun hopen => (by cases hopen), fun _ hclosed => (by cases hclosed)⟩
    exact congrArg (· + 1) ((hcounted.starting _ kind hstatus).trans generation)
  | closed live =>
    refine ⟨fun _ _ hstarting => (by cases hstarting), fun hopen => (by cases hopen), fun _ _ => ?_⟩
    cases hstatus : dispatch.status with
    | starting due_at kind => exact .inl (hcounted.starting due_at kind hstatus)
    | «open» => exact .inr (hcounted.is_open hstatus)
    | closed reason => exact absurd hstatus (not_closed_of_live live reason)

theorem build_starting_dispatch_model_counted (basis : StartingDispatchBasis) (prepared : PreparedDispatchRequest) :
    (build_starting_dispatch_model basis prepared).Counted :=
  ⟨fun _ _ _ => rfl, fun hopen => (by cases hopen), fun _ hclosed => (by cases hclosed)⟩

theorem Opened.counted {db : TaskDb} (h : Opened db t d dispatch) : dispatch.Counted := by
  cases h <;> exact build_starting_dispatch_model_counted ..

end DispatchTurn

variable {controller : Controller} {db db' : TaskDb}

theorem Controller.counted (h : controller.runtime.Reachable db) :
    ∀ d dispatch, db.dispatches.get? d = some dispatch → dispatch.Counted := by
  refine Controller.invariant (P := fun db => ∀ d dispatch, db.dispatches.get? d = some dispatch → dispatch.Counted) h
    (fun input drawn db hstart d dispatch hrow => ?_) fun t db db' _ hcommitted hcounted d dispatch hrow => ?_
  · obtain ⟨-, request, basis, -, -, -, hrows⟩ := start_task_rows hstart
    rw [hrows] at hrow
    simp only [Table.get?_set, Table.get?_empty, Option.ite_none_right_eq_some, Option.some.injEq] at hrow
    rw [← hrow.2]
    exact DispatchTurn.build_starting_dispatch_model_counted ..
  · rcases hcommitted.dispatches.backward hrow with ⟨-, hopened⟩ | ⟨before, hbefore, hmoved⟩
    · exact hopened.counted
    · exact hmoved.counted (hcounted d before hbefore)

theorem Controller.path_starts (h : controller.runtime.Path db db') {d : DispatchId} {dispatch : DispatchTurn}
    (hrow : db.dispatches.get? d = some dispatch) :
    ∃ dispatch', db'.dispatches.get? d = some dispatch' ∧ dispatch.LaterStart dispatch' := by
  refine Transactional.Path.rel (R := fun db db' => ∀ d dispatch, db.dispatches.get? d = some dispatch →
    ∃ dispatch', db'.dispatches.get? d = some dispatch' ∧ dispatch.LaterStart dispatch') h
    (fun _ _ dispatch hrow => ⟨dispatch, hrow, .refl dispatch⟩) (fun _ _ _ h h' d dispatch hrow => ?_)
    (fun db db' hstep d dispatch hrow => ?_) d dispatch hrow
  · obtain ⟨middle, hmiddle, hlater⟩ := h d dispatch hrow
    obtain ⟨last, hlast, hlater'⟩ := h' d middle hmiddle
    exact ⟨last, hlast, hlater.trans hlater'⟩
  · obtain ⟨-, t, hcommitted⟩ := committed hstep
    obtain ⟨dispatch', hrow', hmoved⟩ := hcommitted.dispatches.forward hrow
    exact ⟨dispatch', hrow', hmoved.later_start⟩

/-- The provider-start protocol of every Dispatch, from one reachable state on. -/
structure StartProtocol (controller : Controller) (db : TaskDb) : Prop where
  counted : ∀ d dispatch, db.dispatches.get? d = some dispatch → dispatch.Counted
  recorded : ∀ t db' d dispatch dispatch', t.commit controller db = some db' →
    db.dispatches.get? d = some dispatch → db'.dispatches.get? d = some dispatch' →
    dispatch.StartRecorded t d dispatch'
  /-- A result that commits anything is one of the generation that its Dispatch still starts. -/
  exact_generation : ∀ stale signal handling observed_at recorded_at db',
    (Transaction.start_due_dispatch stale signal handling observed_at recorded_at).commit controller db = some db' →
    ∃ dispatch, db.dispatches.get? signal.dispatch_id = some dispatch ∧
      dispatch.next_provider_start_at = some signal.due_at ∧
      dispatch.provider_start_revision = signal.provider_start_revision
  later : ∀ db' d dispatch, controller.runtime.Path db db' → db.dispatches.get? d = some dispatch →
    ∃ dispatch', db'.dispatches.get? d = some dispatch' ∧ dispatch.LaterStart dispatch'
  one_open : ∀ states, controller.runtime.Run states → ∀ s ∈ states, ∀ s' ∈ states, ∀ d q q',
    s.dispatches.get? d = some q → s'.dispatches.get? d = some q' → q.status = .open → q'.status = .open →
    q'.provider_start_revision = q.provider_start_revision

theorem start_due_dispatch_exact {stale : TaskDb} {signal : DispatchStartDue} {handling : ProviderStartHandling}
    {observed_at recorded_at : Instant}
    (h : start_due_dispatch controller.settings stale db signal handling observed_at recorded_at = some db') :
    ∃ dispatch, db.dispatches.get? signal.dispatch_id = some dispatch ∧
      dispatch.next_provider_start_at = some signal.due_at ∧
      dispatch.provider_start_revision = signal.provider_start_revision := by
  obtain ⟨-, candidate, hread, hrecorded⟩ := start_due_dispatch_success h
  obtain ⟨hdue, -⟩ := read_provider_start_candidate_success hread
  cases hrecorded with
  | accepted generation => exact ⟨_, generation.row, hdue ▸ generation.due, generation.revision⟩
  | rotated generation => exact ⟨_, generation.row, hdue ▸ generation.due, generation.revision⟩
  | paused paused => exact ⟨_, paused.generation.row, hdue ▸ paused.generation.due, paused.generation.revision⟩

/-- Provider starts go through one generation after the other, and only the newest one can still win: nothing
    that comes later opens the Dispatch again, and at most one generation is ever recorded as open. -/
theorem provider_start_generations (h : controller.runtime.Reachable db) : StartProtocol controller db where
  counted := Controller.counted h
  recorded t db' d dispatch dispatch' hcommit hrow hrow' :=
    ((commit_success (Controller.sound h) hcommit).dispatches.kept hrow hrow').start_recorded
  exact_generation _ _ _ _ _ _ := start_due_dispatch_exact
  later _ _ _ hpath hrow := Controller.path_starts hpath hrow
  one_open states hrun s hs s' hs' d q q' hq hq' hopen hopen' := by
    rcases hrun.linear hs hs' with hpath | hpath
    · obtain ⟨_, hlast, hlater⟩ := Controller.path_starts hpath hq
      obtain rfl := Option.some.inj (hq'.symm.trans hlast)
      exact (hlater.is_open hopen).2.1
    · obtain ⟨_, hlast, hlater⟩ := Controller.path_starts hpath hq'
      obtain rfl := Option.some.inj (hq.symm.trans hlast)
      exact (hlater.is_open hopen').2.1.symm

/-- The first start of the lead fails and its second one is accepted; of its two managers one starts at once and one
    fails once. -/
def starts_retried : List Move :=
  [.fail_start 1 0 0, .accept_start 1 1 1, .delegate_wave 1 wave_of_managers 2, .fail_start 2 0 0, .accept_start 3 0 0]

theorem replay_starts_retried : (replay_two_managers starts_retried).isSome = true := by decide +kernel

/-- One manager is open, the second generation of the other is due, and a late signal for its first one is turned
    down. -/
theorem provider_start_generations_starts_retried :
    ((replayed _ replay_starts_retried).dispatches.get? 1).any (fun dispatch =>
        dispatch.provider_start_revision == 1 && dispatch.provider_start_attempt_count == 2) ∧
      ((replayed _ replay_starts_retried).dispatches.get? 2).any (fun dispatch =>
        dispatch.provider_start_revision == 1 && dispatch.next_provider_start_at == some 1) ∧
      ((replayed _ replay_starts_retried).dispatches.get? 3).any (·.status == .open) ∧
      ((Move.accept_start 2 0 0).transaction (replayed _ replay_starts_retried)).commit plain_controller
        (replayed _ replay_starts_retried) = none ∧
      StartProtocol plain_controller (replayed _ replay_starts_retried) :=
  ⟨by decide +kernel, by decide +kernel, by decide +kernel, Option.isNone_iff_eq_none.mp (by decide +kernel),
    provider_start_generations (replayed_reachable _)⟩

/-- An acceptance counts its attempt without a new generation: the two numbers do not advance together. -/
theorem acceptance_keeps_generation : ¬ ∀ db db' t d q q', plain_controller.runtime.Reachable db →
    Transaction.commit plain_controller db t = some db' → db.dispatches.get? d = some q →
    db'.dispatches.get? d = some q' →
      q'.provider_start_attempt_count - q.provider_start_attempt_count =
        q'.provider_start_revision - q.provider_start_revision := by
  intro hclaim
  obtain ⟨db, hreachable, haccepts⟩ := reachable_of_replay []
    (P := fun db => (((Move.accept_start 1 0 0).transaction db).commit plain_controller db).any fun db' =>
      (db.dispatches.get? 1).any fun q => (db'.dispatches.get? 1).any fun q' =>
        q'.provider_start_attempt_count - q.provider_start_attempt_count !=
          q'.provider_start_revision - q.provider_start_revision) (by decide +kernel)
  simp only [Option.any_eq_true, bne_iff_ne] at haccepts
  obtain ⟨db', hcommit, q, hq, q', hq', hne⟩ := haccepts
  exact hne (hclaim db db' _ 1 q q' hreachable hcommit hq hq')

end OhMySubagents
