import OhMySubagents.System.DispatchRows
import OhMySubagents.System.Reachable

open Relational

namespace OhMySubagents

/-- The prompt that one handler of a source prepares before its transaction, if it prepares any. -/
def ordinary_prompt (stale : TaskDb) (read_source : OrdinarySourceReader) : Option OrdinaryDispatchSnapshot := do
  let basis ← (read_source stale).toOption.join
  (read_ordinary_dispatch_snapshot stale basis .running none).toOption.join

/-- The prompts that a resume prepares, one for every lane that it opens. -/
def paused_prompts (stale : TaskDb) (snapshot : ControlSnapshot) (drawn : DrawnContinuations) :
    Option (List OrdinaryDispatchSnapshot) := do
  let plan ← (read_paused_task_continuation_plan stale snapshot.expected_team_revision_id
    snapshot.expected_control_revision).toOption
  let prepared ← (prepare_paused_continuations stale plan drawn).toOption
  return prepared.map PreparedPausedContinuation.snapshot

/-- The prompt of a replacement, unless its Attempt has used its replacements up. -/
def watchdog_prompt (settings : RuntimeSettings) (stale : TaskDb) (signal : WatchdogDue) (observed_at : Instant) :
    Option OrdinaryDispatchSnapshot := do
  let snapshot ← read_watchdog_recovery_snapshot stale signal observed_at settings.watchdog_inactivity_timeout_seconds
  ensure (snapshot.watchdog_replacement_count < settings.watchdog_same_attempt_replacement_limit)
  return snapshot.dispatch

/-- The prompts that a transaction comes with, prepared before it began. -/
def Transaction.prompts (controller : Controller) : Transaction → List OrdinaryDispatchSnapshot
  | open_delegation_wave_successor stale wave_id (some _) =>
    (ordinary_prompt stale (read_delegation_wave_continuation_basis wave_id)).toList
  | open_human_request_successor stale request_id (some _) =>
    (ordinary_prompt stale (read_human_request_continuation_basis request_id)).toList
  | open_command_run_successor stale run_id (some _) =>
    (ordinary_prompt stale (read_command_run_continuation_basis run_id)).toList
  | open_replan_successor stale transition_id (some _) =>
    (ordinary_prompt stale (read_replan_continuation_basis transition_id)).toList
  | recover_stale_dispatch stale _ signal observed_at _ (.drawn _) =>
    (watchdog_prompt controller.settings stale signal observed_at).toList
  | continue_task _ stale snapshot _ drawn _ => (paused_prompts stale snapshot drawn).getD []
  | _ => []

/-- The Dispatch that a transaction opens with one prompt. -/
structure PromptOpened (db db' : TaskDb) (prompt : OrdinaryDispatchSnapshot) (d : DispatchId)
    (dispatch : DispatchTurn) :
    Prop where
  fresh : db.dispatches.get? d = none
  row : db'.dispatches.get? d = some dispatch
  revision : dispatch.team_revision_id = db.task.current_team_revision_id
  selection : dispatch.selection = prompt.selection
  assignment : dispatch.assignment_id = prompt.basis.assignment_id
  attempt : dispatch.attempt_id = prompt.basis.attempt_id
  predecessor : dispatch.predecessor_dispatch_id = some prompt.basis.source_dispatch_id

/-- A prompt was committed while everything that it was built from was still so. -/
def PromptCommitted (t : Transaction) (db db' : TaskDb) (prompt : OrdinaryDispatchSnapshot) : Prop :=
  (∃ stale ∈ t.reads, ∃ before now, PromptCurrent stale db prompt before now) ∧
    ∃ d dispatch, PromptOpened db db' prompt d dispatch

variable {controller : Controller} {stale db db' : TaskDb} {t : Transaction}

theorem prompt_opened {prompt : OrdinaryDispatchSnapshot} {prepared : PreparedDispatchRequest} {before now : Assignment}
    (hcurrent : PromptCurrent stale db prompt before now) (hfresh : db.dispatches.get? prepared.dispatch_id = none)
    (hrow : db'.dispatches.get? prepared.dispatch_id =
      some (build_starting_dispatch_model prompt.starting_basis prepared)) :
    ∃ d dispatch, PromptOpened db db' prompt d dispatch :=
  ⟨_, _, hfresh, hrow, hcurrent.prompt_team, rfl, rfl, rfl, rfl⟩

/-- An opening handler commits its prompt while it is current, or changes nothing. -/
theorem open_ordinary_successor_prompt {request : DrawnDispatchRequest} {read_source : OrdinarySourceReader}
    {claim_source : OrdinarySourceClaim} {record_failure : TaskDb → Result TaskDb} {outcome : OrdinaryOpeningOutcome}
    {prompt : OrdinaryDispatchSnapshot} (hread : stale ∈ t.reads)
    (hclaims : ∀ prepared claimed, claim_source db prompt prepared = some claimed →
      SourceClaimed db prompt prepared.dispatch_id claimed)
    (hprompt : prompt ∈ (ordinary_prompt stale read_source).toList)
    (h : open_ordinary_successor stale db (some request) read_source claim_source record_failure =
      .ok (outcome, db')) : db' = db ∨ PromptCommitted t db db' prompt := by
  unfold ordinary_prompt at hprompt
  simp only [Option.mem_toList, Option.bind_eq_bind, Option.bind_eq_some_iff, Option.join_eq_some_iff,
    toOption_eq_some_iff] at hprompt
  obtain ⟨basis, hbasis, hsnapshot⟩ := hprompt
  unfold open_ordinary_successor at h
  simp only [hbasis, hsnapshot, bind_eq_ok_iff] at h
  obtain ⟨committed, hcommit, h⟩ := h
  cases committed with
  | none =>
    cases h
    exact .inl rfl
  | some opened =>
    cases h
    obtain ⟨-, hstatus, before, read⟩ := read_ordinary_dispatch_snapshot_success hsnapshot
    obtain ⟨_, claimed, htask, hclaim, hstage⟩ := commit_ordinary_dispatch_if_current_success.mp hcommit
    obtain ⟨hrunning, hcontrol, -, ⟨source, now, attempt, hcontext⟩, rfl⟩ := claim_ordinary_task_eq_some.mp htask
    obtain ⟨attempt', hopened⟩ := (hclaims _ claimed hclaim).staged hstage
    have hcurrent := read.current hrunning hcontrol hcontext
    refine .inr ⟨⟨stale, hread, before, now, hcurrent⟩, prompt_opened hcurrent hopened.fresh ?_⟩
    rw [hopened.dispatches, Table.get?_set_self]

theorem recover_stale_dispatch_prompt {settings : RuntimeSettings} {reread : TaskDb} {signal : WatchdogDue}
    {observed_at committed_at : Instant} {request : DrawnDispatchRequest} {outcome : OrdinaryOpeningOutcome}
    {prompt : OrdinaryDispatchSnapshot} (hread : stale ∈ t.reads)
    (hprompt : prompt ∈ (watchdog_prompt settings stale signal observed_at).toList)
    (h : recover_stale_dispatch settings stale reread db signal observed_at committed_at (.drawn request) =
      .ok (outcome, db')) : db' = db ∨ PromptCommitted t db db' prompt := by
  unfold watchdog_prompt at hprompt
  simp only [Option.mem_toList, Option.bind_eq_bind, Option.bind_eq_some_iff, ensure_eq_some_iff, decide_eq_true_eq,
    Option.pure_def, Option.some.injEq] at hprompt
  obtain ⟨snapshot, hsnapshot, _, hlimit, rfl⟩ := hprompt
  unfold recover_stale_dispatch at h
  simp only [hsnapshot, reduceCtorEq, if_false, if_neg (not_le.mpr hlimit), bind_eq_ok_iff] at h
  obtain ⟨committed, hcommit, h⟩ := h
  cases committed with
  | none =>
    cases h
    exact .inl rfl
  | some replaced =>
    cases h
    obtain ⟨source, assignment, attempt, hreplaced⟩ := commit_watchdog_replacement_success hcommit
    obtain ⟨before, hcurrent⟩ := hreplaced.current hsnapshot
    refine .inr ⟨⟨stale, hread, before, assignment, hcurrent⟩, prompt_opened hcurrent hreplaced.fresh ?_⟩
    rw [hreplaced.result, Table.get?_set_self]

theorem TaskContinued.prompt {plan : PausedTaskContinuationPlan} {drawn : DrawnContinuations}
    {items : List PreparedPausedContinuation} {item : PreparedPausedContinuation} (hread : stale ∈ t.reads)
    (h : TaskContinued stale db plan drawn items db') (hitem : item ∈ items) :
    PromptCommitted t db db' item.snapshot := by
  obtain ⟨before, now, hcurrent⟩ := h.current_prompt hitem
  obtain ⟨hfresh, hrow⟩ := h.opened.item_row hitem
  exact ⟨⟨stale, hread, before, now, hcurrent⟩, prompt_opened hcurrent hfresh hrow⟩

theorem continue_task_prompts {checked : TaskDb} {snapshot : ControlSnapshot} {workspace_available : Bool}
    {drawn : DrawnContinuations} {drawn_root : Option DrawnDispatchRequest} {prompt : OrdinaryDispatchSnapshot}
    (hsound : Sound db) (hread : stale ∈ t.reads) (hprompt : prompt ∈ (paused_prompts stale snapshot drawn).getD [])
    (h : continue_task checked stale db snapshot workspace_available drawn drawn_root = .ok db') :
    PromptCommitted t db db' prompt := by
  unfold continue_task at h
  rw [bind_eq_ok_iff] at h
  obtain ⟨_, -, hcontinue⟩ := h
  obtain ⟨plan, items, hplan, hcontinued⟩ := continue_paused_task_success hsound.lanes hsound.started hcontinue
  have hprompts : paused_prompts stale snapshot drawn = some (items.map PreparedPausedContinuation.snapshot) := by
    simp [paused_prompts, hplan, hcontinued.prepared, Except.toOption]
  rw [hprompts] at hprompt
  obtain ⟨item, hitem, rfl⟩ := List.mem_map.mp hprompt
  exact hcontinued.prompt hread hitem

private theorem single_prompt {prompt : Option OrdinaryDispatchSnapshot}
    (h : ∀ p ∈ prompt.toList, db' = db ∨ PromptCommitted t db db' p) :
    db' = db ∨ ∀ p ∈ prompt.toList, PromptCommitted t db db' p := by
  cases prompt with
  | none => exact .inr fun p hp => nomatch hp
  | some prompt =>
    refine (h prompt List.mem_cons_self).imp_right fun hcommitted p hp => ?_
    obtain rfl := List.mem_singleton.mp hp
    exact hcommitted

/-- What comes with prompts commits them all while they are current, or changes nothing. -/
theorem prompts_committed (hsound : Sound db) (h : t.commit controller db = some db') :
    db' = db ∨ ∀ prompt ∈ t.prompts controller, PromptCommitted t db db' prompt := by
  cases t with
  | open_delegation_wave_successor stale wave_id drawn =>
    obtain ⟨outcome, h⟩ := toOption_snd_eq_some h
    cases drawn with
    | none => exact .inr fun prompt hprompt => nomatch hprompt
    | some request =>
      exact single_prompt fun prompt hprompt => open_ordinary_successor_prompt (List.mem_singleton_self stale)
        (fun _ _ => claim_delegation_wave_continuation_success) hprompt h
  | open_human_request_successor stale request_id drawn =>
    obtain ⟨outcome, h⟩ := toOption_snd_eq_some h
    cases drawn with
    | none => exact .inr fun prompt hprompt => nomatch hprompt
    | some request =>
      exact single_prompt fun prompt hprompt => open_ordinary_successor_prompt (List.mem_singleton_self stale)
        (fun _ _ => claim_human_request_continuation_success) hprompt h
  | open_command_run_successor stale run_id drawn =>
    obtain ⟨outcome, h⟩ := toOption_snd_eq_some h
    cases drawn with
    | none => exact .inr fun prompt hprompt => nomatch hprompt
    | some request =>
      exact single_prompt fun prompt hprompt => open_ordinary_successor_prompt (List.mem_singleton_self stale)
        (fun _ _ => claim_command_run_continuation_success) hprompt h
  | open_replan_successor stale transition_id drawn =>
    obtain ⟨outcome, h⟩ := toOption_snd_eq_some h
    cases drawn with
    | none => exact .inr fun prompt hprompt => nomatch hprompt
    | some request =>
      exact single_prompt fun prompt hprompt => open_ordinary_successor_prompt (List.mem_singleton_self stale)
        (fun _ _ => claim_replan_continuation_success) hprompt h
  | recover_stale_dispatch stale reread signal observed_at committed_at preparation =>
    obtain ⟨outcome, h⟩ := toOption_snd_eq_some h
    cases preparation with
    | rendering_failed => exact .inr fun prompt hprompt => nomatch hprompt
    | preparation_failed => exact .inr fun prompt hprompt => nomatch hprompt
    | drawn request =>
      exact single_prompt fun prompt hprompt =>
        recover_stale_dispatch_prompt (t := .recover_stale_dispatch stale reread signal observed_at committed_at
          (.drawn request)) List.mem_cons_self hprompt h
  | continue_task checked stale snapshot workspace_available drawn drawn_root =>
    have hread : stale ∈ (Transaction.continue_task checked stale snapshot workspace_available drawn
      drawn_root).reads :=
      List.mem_cons_of_mem _ List.mem_cons_self
    exact .inr fun prompt hprompt => continue_task_prompts hsound hread hprompt (toOption_eq_some_iff.mp h)
  | _ => exact .inr fun prompt hprompt => nomatch hprompt

/-- The openings that continue a lane. -/
def DispatchOpenedReason.is_continuation : DispatchOpenedReason → Bool
  | .root | .delegation | .semantic_retry => false
  | _ => true

theorem continuation_prompt (hsound : Sound db) (h : t.commit controller db = some db') {d : DispatchId}
    {dispatch : DispatchTurn} (hfresh : db.dispatches.get? d = none) (hrow : db'.dispatches.get? d = some dispatch)
    (hreason : dispatch.opened_reason.is_continuation = true) : ∃ stale ∈ t.reads, ∃ prompt before now,
      PromptCurrent stale db prompt before now ∧ PromptOpened db db' prompt d dispatch := by
  have hopened := (commit_success hsound h).dispatches.added hfresh hrow
  cases hopened with
  | child _ reason =>
    rw [build_starting_dispatch_model, reason] at hreason
    cases hreason
  | retry _ reason =>
    rw [build_starting_dispatch_model, reason] at hreason
    cases hreason
  | continuation _ read current =>
    exact ⟨_, read, _, _, _, current, hfresh, hrow, current.prompt_team, rfl, rfl, rfl, rfl⟩
  | replacement signalled _ current =>
    subst signalled
    exact ⟨_, List.mem_cons_self, _, _, _, current, hfresh, hrow, current.prompt_team, rfl, rfl, rfl, rfl⟩

/-- What a transaction does with the prompts that were prepared for it. -/
structure PromptsCurrent (controller : Controller) (t : Transaction) (db db' : TaskDb) : Prop where
  /-- Every Dispatch that continues a lane opened with a prompt of rows that are still the same. -/
  continuations : ∀ d dispatch, db.dispatches.get? d = none → db'.dispatches.get? d = some dispatch →
    dispatch.opened_reason.is_continuation = true → ∃ stale ∈ t.reads, ∃ prompt before now,
      PromptCurrent stale db prompt before now ∧ PromptOpened db db' prompt d dispatch
  /-- A prepared prompt is committed while it is current; otherwise no row changes, its source included. -/
  committed : db' = db ∨ ∀ prompt ∈ t.prompts controller, PromptCommitted t db db' prompt

/-- No stale prompt is ever committed, whatever happened since it was built. -/
theorem no_stale_prompt_committed (h : controller.runtime.Reachable db) (hcommit : t.commit controller db = some db') :
    PromptsCurrent controller t db db' where
  continuations _ _ := continuation_prompt (Controller.sound h) hcommit
  committed := prompts_committed (Controller.sound h) hcommit

/-- A Manager whose delegated Member is blocked, with its Wave settled. -/
def wave_settled : List Move :=
  [.accept_start 1 0 0, .delegate 1 2 2, .accept_start 2 0 0, .end_attempt 2 .blocked 1, .settle 2]

theorem no_stale_prompt_committed_wave_settled :
    ∃ db db', (Transaction.open_delegation_wave_successor db 2 (some ⟨3, 0⟩)).commit plain_controller db = some db' ∧
      (db'.dispatches.get? 3).isSome ∧
      PromptsCurrent plain_controller (.open_delegation_wave_successor db 2 (some ⟨3, 0⟩)) db db' := by
  obtain ⟨db, hreachable, hopens⟩ := reachable_of_replay wave_settled
    (P := fun db => ((Transaction.open_delegation_wave_successor db 2 (some ⟨3, 0⟩)).commit plain_controller db).any
      fun db' => (db'.dispatches.get? 3).isSome) (by decide +kernel)
  obtain ⟨db', hcommit, hopened⟩ := (Option.any_eq_true _ _).mp hopens
  exact ⟨db, db', hcommit, hopened, no_stale_prompt_committed hreachable hcommit⟩

end OhMySubagents
