import OhMySubagents.System.ProviderStarts

open Relational

namespace OhMySubagents

/-- What the transaction that closes a Dispatch can leave behind. -/
inductive CloseConsequence
  | boundary
  | source (s : SourceId)
  | replacement (dispatch_id : DispatchId)

/-- The close reason that a consequence belongs to. -/
def CloseConsequence.closed_reason : CloseConsequence → Option DispatchClosedReason
  | boundary => some .boundary
  | source s => s.closed_reason
  | replacement _ => some .watchdog_superseded

/-- The close reasons with a consequence. -/
def DispatchClosedReason.has_consequence : DispatchClosedReason → Bool
  | .paused | .cancelled | .control_failed | .task_terminal => false
  | _ => true

/-- The rows show a consequence of the end of a Dispatch. -/
def TaskDb.Left (db : TaskDb) (d : DispatchId) : CloseConsequence → Prop
  | .boundary => (db.accepted_boundaries.get? d).isSome
  | .source s => ∃ x, db.source s = some x ∧ x.source_dispatch_id = some d
  | .replacement d' => ∃ successor, db.dispatches.get? d' = some successor ∧
      successor.predecessor_dispatch_id = some d ∧ successor.opened_reason = .watchdog_recovery

/-- The Dispatch that a transaction acts for. -/
def Transaction.dispatch_id : Transaction → Option DispatchId
  | admit_node_operation scope _ _ _ | commit_node_operation scope _ _ => some scope.dispatch_id
  | start_due_dispatch _ signal _ _ _ => some signal.dispatch_id
  | recover_stale_dispatch _ _ signal _ _ _ => some signal.dispatch_id
  | _ => none

/-- One transaction wins the end of a Dispatch, and only its consequence is left. -/
structure OneWinner (controller : Controller) (db : TaskDb) : Prop where
  left_closed : ∀ d c, db.Left d c → ∃ dispatch reason, db.dispatches.get? d = some dispatch ∧
    dispatch.status = .closed reason ∧ c.closed_reason = some reason
  left_once : ∀ d c c', db.Left d c → db.Left d c' → c = c'
  left : ∀ d dispatch reason, db.dispatches.get? d = some dispatch → dispatch.status = .closed reason →
    reason.has_consequence = true → ∃ c, db.Left d c
  /-- A closed Dispatch stays exactly as it was closed. -/
  closed_for_good : ∀ db' d dispatch reason, controller.runtime.Path db db' → db.dispatches.get? d = some dispatch →
    dispatch.status = .closed reason → db'.dispatches.get? d = some dispatch
  /-- Whatever acts for a closed Dispatch changes no row. -/
  loses : ∀ (t : Transaction) d dispatch reason db', t.dispatch_id = some d → db.dispatches.get? d = some dispatch →
    dispatch.status = .closed reason → t.commit controller db = some db' → db' = db

variable {controller : Controller} {db db' : TaskDb} {t : Transaction}

theorem DispatchStatus.closed_reason_eq_some {status : DispatchStatus} {reason : DispatchClosedReason} :
    status.closed_reason = some reason ↔ status = .closed reason := by
  cases status <;> simp [closed_reason]

private theorem Sound.left_closed (h : Sound db) {d : DispatchId} {c : CloseConsequence} (hleft : db.Left d c) :
    ∃ dispatch reason, db.dispatches.get? d = some dispatch ∧ dispatch.status = .closed reason ∧
      c.closed_reason = some reason := by
  have hlineage := h.lanes.lineage
  have of_lane : ∀ {q : LaneDispatch} {reason}, db.lanes.dispatches d = some q → q.closed_reason = some reason →
      ∃ dispatch, db.dispatches.get? d = some dispatch ∧ dispatch.status = .closed reason := by
    intro q reason hq hreason
    obtain ⟨dispatch, hrow, rfl⟩ := Table.view_eq_some.mp hq
    exact ⟨dispatch, hrow, DispatchStatus.closed_reason_eq_some.mp hreason⟩
  cases c with
  | boundary =>
    obtain ⟨boundary, hboundary⟩ := Option.isSome_iff_exists.mp hleft
    obtain ⟨q, hq, hreason, -⟩ :=
      hlineage.boundary_row d boundary.lane (Table.view_eq_some.mpr ⟨boundary, hboundary, rfl⟩)
    obtain ⟨dispatch, hrow, hstatus⟩ := of_lane hq hreason
    exact ⟨dispatch, .boundary, hrow, hstatus, rfl⟩
  | source s =>
    obtain ⟨x, hx, hsource⟩ := hleft
    obtain ⟨q, hq, -, -, hreason, hclosed⟩ := hlineage.source_row s x d hx hsource
    obtain ⟨reason, hsome⟩ := Option.ne_none_iff_exists'.mp hclosed
    obtain ⟨dispatch, hrow, hstatus⟩ := of_lane hq hsome
    exact ⟨dispatch, reason, hrow, hstatus, hreason.symm.trans hsome⟩
  | replacement d' =>
    obtain ⟨successor, hsuccessor, hpredecessor, hopened⟩ := hleft
    obtain ⟨p, q, hp, hq, hreason⟩ :=
      hlineage.recovery d' successor.lane (Table.view_eq_some.mpr ⟨successor, hsuccessor, rfl⟩) hopened
    obtain rfl : d = p := Option.some.inj (hpredecessor.symm.trans hp)
    obtain ⟨dispatch, hrow, hstatus⟩ := of_lane hq hreason
    exact ⟨dispatch, .watchdog_superseded, hrow, hstatus, rfl⟩

private theorem Sound.left_once (h : Sound db) {d : DispatchId} {c c' : CloseConsequence} (hleft : db.Left d c)
    (hleft' : db.Left d c') : c = c' := by
  have hlineage := h.lanes.lineage
  obtain ⟨dispatch, reason, hrow, hstatus, hreason⟩ := h.left_closed hleft
  obtain ⟨dispatch', reason', hrow', hstatus', hreason'⟩ := h.left_closed hleft'
  obtain rfl : dispatch = dispatch' := Option.some.inj (hrow.symm.trans hrow')
  obtain rfl : reason = reason' := DispatchStatus.closed.inj (hstatus.symm.trans hstatus')
  cases c <;> cases c'
  case source.source s s' =>
    obtain ⟨x, hx, hsource⟩ := hleft
    obtain ⟨x', hx', hsource'⟩ := hleft'
    exact congrArg _ (hlineage.source_unique s x s' x' d hx hx' hsource hsource')
  case replacement.replacement d₁ d₂ =>
    obtain ⟨q₁, hq₁, hp₁, -⟩ := hleft
    obtain ⟨q₂, hq₂, hp₂, -⟩ := hleft'
    exact congrArg _ (hlineage.predecessor_unique d₁ q₁.lane d₂ q₂.lane d (Table.view_eq_some.mpr ⟨q₁, hq₁, rfl⟩)
      (Table.view_eq_some.mpr ⟨q₂, hq₂, rfl⟩) hp₁ hp₂)
  case boundary.boundary => rfl
  -- two kinds of consequence never belong to one close reason
  case source.boundary s | source.replacement s _ => cases s <;> cases hreason <;> cases hreason'
  case boundary.source s | replacement.source _ s => cases s <;> cases hreason' <;> cases hreason
  case boundary.replacement | replacement.boundary => cases hreason; cases hreason'

private theorem Sound.left (h : Sound db) {d : DispatchId} {dispatch : DispatchTurn} {reason : DispatchClosedReason}
    (hrow : db.dispatches.get? d = some dispatch) (hstatus : dispatch.status = .closed reason)
    (hconsequence : reason.has_consequence = true) : ∃ c, db.Left d c := by
  have hlane : db.lanes.dispatches d = some dispatch.lane := Table.view_eq_some.mpr ⟨dispatch, hrow, rfl⟩
  have hclosed : dispatch.lane.closed_reason = some reason := DispatchStatus.closed_reason_eq_some.mpr hstatus
  by_cases hleaves : reason.leaves_source = true
  · obtain ⟨s, x, hx, hsource⟩ := h.lanes.lineage.source_exists d _ reason hlane hclosed hleaves
    exact ⟨.source s, x, hx, hsource⟩
  · cases reason <;> cases hconsequence <;> simp only [DispatchClosedReason.leaves_source, not_true] at hleaves
    · obtain ⟨boundary, hboundary⟩ :=
        Option.isSome_iff_exists.mp (h.lanes.lineage.boundary_exists d _ hlane hclosed)
      obtain ⟨row, hrow', -⟩ := Table.view_eq_some.mp hboundary
      exact ⟨.boundary, Option.isSome_of_eq_some hrow'⟩
    · obtain ⟨d', q', hq', hpredecessor, hopened⟩ := h.lanes.lineage.superseded d _ hlane hclosed
      obtain ⟨successor, hsuccessor, rfl⟩ := Table.view_eq_some.mp hq'
      exact ⟨.replacement d', successor, hsuccessor, hpredecessor, hopened⟩

/-- A watchdog signal that changes any row finds its Dispatch open. -/
theorem recover_stale_dispatch_open {settings : RuntimeSettings} {stale reread : TaskDb} {signal : WatchdogDue}
    {observed_at committed_at : Instant} {preparation : WatchdogPreparation} {outcome : OrdinaryOpeningOutcome}
    (h : recover_stale_dispatch settings stale reread db signal observed_at committed_at preparation =
      .ok (outcome, db')) :
    db' = db ∨ ∃ dispatch, db.dispatches.get? signal.dispatch_id = some dispatch ∧ dispatch.status = .open := by
  obtain ⟨hsame, -⟩ | ⟨snapshot, hread, -, hpause, -⟩ | ⟨hpause, -⟩ | ⟨snapshot, request, hread, -, -, hcommit, -⟩ :=
    recover_stale_dispatch_cases h
  · exact .inl hsame
  · obtain ⟨source, assignment, attempt, started, -, -, -, rfl⟩ := read_watchdog_recovery_snapshot_success hread
    obtain ⟨-, hcurrent, -⟩ := commit_watchdog_pause_success hpause
    simp only [Bool.and_eq_true, watchdog_context_is_current, Option.any_eq_true, beq_iff_eq] at hcurrent
    obtain ⟨⟨-, dispatch, hrow, -, hopen⟩, -⟩ := hcurrent
    exact .inr ⟨dispatch, hrow, hopen⟩
  · unfold pause_failed_watchdog_signal at hpause
    simp only [Option.bind_eq_bind, Option.bind_eq_some_iff] at hpause
    obtain ⟨_, -, hpause⟩ := hpause
    obtain ⟨-, hcurrent, -⟩ := commit_watchdog_pause_success hpause
    simp only [failed_watchdog_candidate_is_current, Bool.and_eq_true, Option.any_eq_true, beq_iff_eq] at hcurrent
    obtain ⟨-, dispatch, hrow, ⟨⟨⟨-, hopen⟩, -⟩, -⟩, -⟩ := hcurrent
    exact .inr ⟨dispatch, hrow, hopen⟩
  · obtain ⟨source, assignment, attempt, started, -, -, -, rfl⟩ := read_watchdog_recovery_snapshot_success hread
    obtain ⟨dispatch, _, _, hreplaced⟩ := commit_watchdog_replacement_success hcommit
    exact .inr ⟨dispatch, hreplaced.lane.dispatch_row, hreplaced.is_open⟩

/-- A transaction that changes any row for a Dispatch finds it live. -/
theorem Transaction.commit_live {d : DispatchId} (hd : t.dispatch_id = some d)
    (h : t.commit controller db = some db') :
    db' = db ∨ ∃ dispatch, db.dispatches.get? d = some dispatch ∧ dispatch.is_live = true := by
  cases t with
  | admit_node_operation scope operation allowed occurred_at =>
    cases hd
    obtain ⟨authority, hid, hauth, -⟩ := admit_node_operation_success (toOption_eq_some_iff.mp h)
    exact .inr ⟨authority.dispatch, hid ▸ hauth.lane.dispatch_row, hauth.lane.live⟩
  | commit_node_operation scope operation allowed =>
    cases hd
    obtain ⟨authority, hid, hauth, -⟩ := commit_node_operation_success (toOption_eq_some_iff.mp h)
    exact .inr ⟨authority.dispatch, hid ▸ hauth.lane.dispatch_row, hauth.lane.live⟩
  | start_due_dispatch stale signal handling observed_at recorded_at =>
    cases hd
    obtain ⟨dispatch, hrow, hdue, -⟩ := start_due_dispatch_exact h
    obtain ⟨kind, hstatus⟩ := DispatchTurn.starting_of_next hdue
    exact .inr ⟨dispatch, hrow, by simp [DispatchTurn.is_live, hstatus]⟩
  | recover_stale_dispatch stale reread signal observed_at committed_at preparation =>
    cases hd
    obtain ⟨outcome, h⟩ := toOption_snd_eq_some h
    obtain hsame | ⟨dispatch, hrow, hopen⟩ := recover_stale_dispatch_open h
    · exact .inl hsame
    · exact .inr ⟨dispatch, hrow, by simp [DispatchTurn.is_live, hopen]⟩
  | _ => cases hd

/-- Every Dispatch ends once, with the one consequence of its close reason, and nothing that comes after its end
    for it leaves anything behind. -/
theorem one_winner (h : controller.runtime.Reachable db) : OneWinner controller db where
  left_closed _ _ := (Controller.sound h).left_closed
  left_once _ _ _ := (Controller.sound h).left_once
  left _ _ _ := (Controller.sound h).left
  closed_for_good db' d dispatch reason hpath hrow hstatus := by
    obtain ⟨dispatch', hrow', hlater⟩ := Controller.path_starts hpath hrow
    rw [hrow', hlater.closed reason hstatus]
  loses t d dispatch reason db' hd hrow hstatus hcommit := by
    obtain hsame | ⟨dispatch', hrow', hlive⟩ := Transaction.commit_live hd hcommit
    · exact hsame
    · obtain rfl : dispatch = dispatch' := Option.some.inj (hrow.symm.trans hrow')
      simp [DispatchTurn.is_live, hstatus] at hlive

/-- The first manager falls silent in its second Attempt, is replaced, and changes its branch. -/
def silent_manager_replaced : List Move :=
  lanes_at_work ++ [.watchdog_due 6 0 10 8, .accept_start 8 0 10,
    .replan 8 (.add_child (.mk ⟨9, 9, 9⟩ two_managers.plain [])) 2 1]

theorem replay_silent_manager_replaced : (replay_two_managers silent_manager_replaced).isSome = true := by
  decide +kernel

/-- Dispatches have ended for five reasons, and a second signal for the silent one loses. -/
theorem one_winner_silent_manager_replaced :
    ([(1, .delegation), (2, .boundary), (3, .human_request_wait), (6, .watchdog_superseded),
      (8, .structural_replan)].all
      fun ended : DispatchId × DispatchClosedReason =>
        ((replayed _ replay_silent_manager_replaced).dispatches.get? ended.1).any (·.status == .closed ended.2)) =
          true ∧
      (replayed _ replay_silent_manager_replaced).Left 6 (.replacement 8) ∧
      ((Move.watchdog_due 6 0 10 10).transaction (replayed _ replay_silent_manager_replaced)).commit plain_controller
        (replayed _ replay_silent_manager_replaced) = some (replayed _ replay_silent_manager_replaced) ∧
      OneWinner plain_controller (replayed _ replay_silent_manager_replaced) := by
  have hwinner := one_winner (replayed_reachable replay_silent_manager_replaced)
  have hclosed : ((replayed _ replay_silent_manager_replaced).dispatches.get? 6).any
      (·.status == .closed .watchdog_superseded) = true := by
    decide +kernel
  have hcommits : (((Move.watchdog_due 6 0 10 10).transaction (replayed _ replay_silent_manager_replaced)).commit
      plain_controller (replayed _ replay_silent_manager_replaced)).isSome = true := by
    decide +kernel
  have hsuccessor : ((replayed _ replay_silent_manager_replaced).dispatches.get? 8).any (fun dispatch =>
      dispatch.predecessor_dispatch_id == some 6 && dispatch.opened_reason == .watchdog_recovery) = true := by
    decide +kernel
  simp only [Option.any_eq_true, Bool.and_eq_true, beq_iff_eq] at hclosed hsuccessor
  obtain ⟨dispatch, hrow, hstatus⟩ := hclosed
  obtain ⟨db', hcommit⟩ := Option.isSome_iff_exists.mp hcommits
  have hlost := hwinner.loses _ 6 dispatch _ db' rfl hrow hstatus hcommit
  exact ⟨by decide +kernel, hsuccessor, hcommit.trans (congrArg some hlost), hwinner⟩

end OhMySubagents
