import OhMySubagents.Operator.Conversations

open Relational

namespace OhMySubagents

namespace Operator

variable {sha256 : List Char → String} {s s' : OperatorState} {db' : OperatorDb} {submission : Submission}
  {phase phase' : HandlerPhase} {event : HandlerEvent} {operator_event : OperatorEvent}
  {executions : List ProviderExecution} {number : Nat} {turn_id : TurnId} {conversation_id : ConversationId}
  {row : OperatorConversation}

/-- The turn of a claim is its conversation's active turn. -/
def OperatorDb.is_active (db : OperatorDb) (claim : OperatorTurnClaim) : Bool :=
  claim.turn_id.isSome &&
    (db.conversations.get? claim.conversation_id).any fun row => row.active_turn_id == claim.turn_id

/-- The handler has ended and its turn is still active. -/
def OperatorState.abandons (s : OperatorState) (number : Nat) : Bool :=
  match s.handlers.get? number with
  | some ⟨_, .ended (some claim)⟩ => s.db.is_active claim
  | _ => false

/-- The event cancels a request while it awaits an interruption directly, before that committed and while the turn is
    active. -/
def OperatorState.cuts (s : OperatorState) : OperatorEvent → Bool
  | .handle number .cancelled =>
    match s.handlers.get? number with
    | some ⟨_, .interrupting claim _ false⟩ => s.db.is_active claim
    | _ => false
  | _ => false

theorem is_active_iff {db : OperatorDb} {claim : OperatorTurnClaim} : db.is_active claim = true ↔
    ∃ turn_id row, claim.turn_id = some turn_id ∧ db.conversations.get? claim.conversation_id = some row ∧
      row.active_turn_id = some turn_id := by
  unfold OperatorDb.is_active
  cases claim.turn_id <;> cases db.conversations.get? claim.conversation_id <;> simp

/-- Handlers have turns of their own, and every active turn has a handler that is going to end it. -/
structure TurnsLive (s : OperatorState) : Prop where
  own : ∀ number handler claim number' handler' claim' turn_id, s.handlers.get? number = some handler →
    handler.phase.claim = some claim → claim.turn_id = some turn_id → s.handlers.get? number' = some handler' →
    handler'.phase.claim = some claim' → claim'.turn_id = some turn_id → number = number'
  live : ∀ conversation_id row turn_id, s.db.conversations.get? conversation_id = some row →
    row.active_turn_id = some turn_id → ∃ number handler claim, s.handlers.get? number = some handler ∧
      handler.phase.pending_claim = some claim ∧ claim.turn_id = some turn_id ∧ claim.conversation_id = conversation_id

theorem claim_of_pending {claim : OperatorTurnClaim} (h : phase.pending_claim = some claim) :
    phase.claim = some claim := by
  unfold HandlerPhase.pending_claim at h
  split at h <;> first | exact h | cases h

/-- A handler that has ended does not keep its turn active. -/
theorem TurnsLive.not_abandons (h : TurnsLive s) (number : Nat) : s.abandons number = false := by
  rw [Bool.eq_false_iff]
  intro habandons
  unfold OperatorState.abandons at habandons
  split at habandons
  · next submission claim hhandler =>
    obtain ⟨turn_id, row, hturn, hrow, hactive⟩ := is_active_iff.mp habandons
    obtain ⟨number', handler', claim', hhandler', hpending, hturn', -⟩ := h.live _ row turn_id hrow hactive
    obtain rfl := h.own number _ claim number' handler' claim' turn_id hhandler rfl hturn hhandler'
      (claim_of_pending hpending) hturn'
    obtain rfl := Option.some.inj (hhandler.symm.trans hhandler')
    cases hpending
  · cases habandons

/-- The handlers of the others stay what they are, and the one that moved has the turn it had, or one of its own. -/
theorem TurnsLive.own_set (h : TurnsLive s) {handler : Handler}
    (hhandler : s.handlers.get? number = some handler)
    (hclaim : ∀ claim turn_id, phase'.claim = some claim → claim.turn_id = some turn_id →
      handler.phase.claim = some claim ∨ ∀ number' handler' claim', s.handlers.get? number' = some handler' →
        handler'.phase.claim = some claim' → claim'.turn_id ≠ some turn_id) :
    ∀ first handler₁ claim₁ second handler₂ claim₂ turn_id,
      (s.handlers.set number { handler with phase := phase' }).get? first = some handler₁ →
      handler₁.phase.claim = some claim₁ → claim₁.turn_id = some turn_id →
      (s.handlers.set number { handler with phase := phase' }).get? second = some handler₂ →
      handler₂.phase.claim = some claim₂ → claim₂.turn_id = some turn_id → first = second := by
  intro first handler₁ claim₁ second handler₂ claim₂ turn_id hfirst hclaim₁ hturn₁ hsecond hclaim₂ hturn₂
  rw [Table.get?_set] at hfirst hsecond
  split at hfirst
  · next heq =>
    obtain rfl := Option.some.inj hfirst
    split at hsecond
    · next heq' => rw [heq, heq']
    · rcases hclaim claim₁ turn_id hclaim₁ hturn₁ with hold | hfresh
      · rw [heq]
        exact h.own number handler claim₁ second handler₂ claim₂ turn_id hhandler hold hturn₁ hsecond hclaim₂ hturn₂
      · exact absurd hturn₂ (hfresh second handler₂ claim₂ hsecond hclaim₂)
  · split at hsecond
    · next heq' =>
      obtain rfl := Option.some.inj hsecond
      rcases hclaim claim₂ turn_id hclaim₂ hturn₂ with hold | hfresh
      · rw [heq']
        exact h.own first handler₁ claim₁ number handler claim₂ turn_id hfirst hclaim₁ hturn₁ hhandler hold hturn₂
      · exact absurd hturn₁ (hfresh first handler₁ claim₁ hfirst hclaim₁)
    · exact h.own first handler₁ claim₁ second handler₂ claim₂ turn_id hfirst hclaim₁ hturn₁ hsecond hclaim₂ hturn₂

/-- The active turns that were there keep their handlers, unless the one that moved gave its turn up. -/
theorem TurnsLive.live_set (h : TurnsLive s) {handler : Handler} (hhandler : s.handlers.get? number = some handler)
    (hrow : s.db.conversations.get? conversation_id = some row) (hactive : row.active_turn_id = some turn_id)
    (hpending : ∀ claim, handler.phase.pending_claim = some claim → claim.turn_id = some turn_id →
      claim.conversation_id = conversation_id → phase'.pending_claim = some claim) :
    ∃ first handler' claim, (s.handlers.set number { handler with phase := phase' }).get? first = some handler' ∧
      handler'.phase.pending_claim = some claim ∧ claim.turn_id = some turn_id ∧
      claim.conversation_id = conversation_id := by
  obtain ⟨first, handler', claim, hfirst, hclaim, hturn, hconversation⟩ :=
    h.live conversation_id row turn_id hrow hactive
  by_cases heq : first = number
  · subst heq
    obtain rfl := Option.some.inj (hhandler.symm.trans hfirst)
    exact ⟨first, _, claim, Table.get?_set_self _ _ _, hpending claim hclaim hturn hconversation, hturn, hconversation⟩
  · exact ⟨first, handler', claim, by rwa [Table.get?_set_ne _ heq], hclaim, hturn, hconversation⟩

/-- A step of a handler that does not cut an interruption short keeps every active turn alive. -/
theorem TurnsLive.resume (hlive : TurnsLive s) (hsound : DbSound sha256 s.db) {handler : Handler}
    (hhandler : s.handlers.get? number = some handler) (hdraws : s.draws event = true)
    (huncut : s.cuts (.handle number event) = false)
    (h : Resumed sha256 s.db handler.submission event handler.phase phase' db' executions) :
    TurnsLive ⟨db', s.handlers.set number { handler with phase := phase' }, executions ++ s.executions⟩ := by
  cases h with
  | admitted turn_id entry_id claim body hevent was content claimed has pending _ =>
    subst hevent
    cases claimed with
    | duplicate existing found same turn unchanged =>
      subst unchanged
      refine ⟨hlive.own_set hhandler fun claim' turn_id hclaim' hturn' => ?_,
        fun conversation_id row turn_id hrow hactive =>
          hlive.live_set hhandler hrow hactive fun claim' hpending => ?_⟩
      · obtain rfl := Option.some.inj (has.symm.trans hclaim')
        rw [turn] at hturn'
        cases hturn'
      · rw [was.2] at hpending
        cases hpending
    | accepted row input state inactive unused claim_eq added =>
      have hturn : claim.turn_id = some turn_id := by rw [claim_eq]; rfl
      have hconversation : claim.conversation_id = handler.submission.conversation_id := by rw [claim_eq]; rfl
      refine ⟨hlive.own_set hhandler fun claim' turn_id' hclaim' hturn' => .inr ?_,
        fun conversation_id row' turn_id' hrow' hactive => ?_⟩
      · obtain rfl := Option.some.inj (has.symm.trans hclaim')
        obtain rfl := Option.some.inj (hturn.symm.trans hturn')
        rintro number' handler' claim' hhandler' hclaim' hsame
        rw [OperatorState.draws, Bool.not_eq_true', Table.any_eq_false_iff] at hdraws
        have hfree := hdraws number' handler' hhandler'
        rw [hclaim', Option.bind_some, hsame, beq_self_eq_true] at hfree
        cases hfree
      · rw [added.conversations, Table.get?_set] at hrow'
        split at hrow'
        · next heq =>
          obtain rfl := Option.some.inj hrow'
          refine ⟨number, _, claim, Table.get?_set_self _ _ _, pending (by simp [hturn]), hturn.trans hactive, ?_⟩
          rw [hconversation, heq]
        · refine hlive.live_set hhandler hrow' hactive fun claim' hpending => ?_
          rw [was.2] at hpending
          cases hpending
  | moved has pending unchanged _ =>
    subst unchanged
    refine ⟨hlive.own_set hhandler fun claim turn_id hclaim _ => .inl (has ▸ hclaim),
      fun conversation_id row turn_id hrow hactive =>
        hlive.live_set hhandler hrow hactive fun claim hpending _ _ => pending.trans hpending⟩
  | settled claim was has done _ =>
    refine ⟨hlive.own_set hhandler fun claim' turn_id hclaim' _ => .inl ?_,
      fun conversation_id row turn_id hrow hactive => ?_⟩
    · rw [← has.symm.trans hclaim']
      exact claim_of_pending was
    · rcases done with ⟨rfl, hinactive⟩ | ⟨ended, hended, row₁, row₂, entry_id, entry, hadded, -, -, hnone, -⟩
      · refine hlive.live_set hhandler hrow hactive fun claim' hpending hturn hconversation => ?_
        obtain rfl := Option.some.inj (was.symm.trans hpending)
        obtain ⟨n, hcoherent⟩ := hsound.coherent conversation_id row hrow
        exact absurd ⟨hcoherent.active.mpr (by simp [hactive]), hactive⟩
          (hinactive turn_id hturn row (hconversation ▸ hrow))
      · rw [hadded.conversations, Table.get?_set] at hrow
        split at hrow
        · obtain rfl := Option.some.inj hrow
          rw [hnone] at hactive
          cases hactive
        · next hne =>
          refine hlive.live_set hhandler hrow hactive fun claim' hpending _ hconversation => ?_
          obtain rfl := Option.some.inj (was.symm.trans hpending)
          exact absurd hconversation.symm hne
  | cut claim interruption hevent was is unchanged _ =>
    subst unchanged hevent is
    refine ⟨hlive.own_set hhandler fun claim' turn_id hclaim' _ => .inl ?_,
      fun conversation_id row turn_id hrow hactive =>
        hlive.live_set hhandler hrow hactive fun claim' hpending hturn hconversation => ?_⟩
    · rw [was]
      exact hclaim'
    · rw [was] at hpending
      obtain rfl := Option.some.inj hpending
      obtain ⟨handler_submission, handler_phase⟩ := handler
      obtain rfl : handler_phase = _ := was
      rw [OperatorState.cuts, hhandler] at huncut
      dsimp only at huncut
      rw [is_active_iff.mpr ⟨turn_id, row, hturn, by rw [hconversation, hrow], hactive⟩] at huncut
      cases huncut

theorem TurnsLive.step (hlive : TurnsLive s) (hsound : DbSound sha256 s.db) (huncut : s.cuts operator_event = false)
    (h : s.step sha256 operator_event = some s') : TurnsLive s' := by
  cases operator_event with
  | create conversation_id idempotency_key provider model effort =>
    rw [OperatorState.step] at h
    split at h
    · cases h
    · split at h
      · cases h
      · next hcreate =>
        cases h
        rcases create_operator_conversation_sound hsound hcreate with rfl | ⟨-, -, -, new, hnew, hrows⟩
        · exact hlive
        · refine ⟨hlive.own, fun found row turn_id hrow hactive => ?_⟩
          rw [hrows, Table.get?_set] at hrow
          split at hrow
          · obtain rfl := Option.some.inj hrow
            rw [hnew] at hactive
            cases hactive
          · exact hlive.live found row turn_id hrow hactive
  | submit number submission =>
    rw [OperatorState.step] at h
    split at h
    · cases h
    · split at h
      · cases h
      · next hfree =>
        cases h
        rw [Bool.not_eq_true, Option.isSome_eq_false_iff, Option.isNone_iff_eq_none] at hfree
        refine ⟨fun first handler₁ claim₁ second handler₂ claim₂ turn_id hfirst hclaim₁ hturn₁ hsecond hclaim₂ hturn₂ =>
          ?_, fun conversation_id row turn_id hrow hactive => ?_⟩
        · rw [Table.get?_set] at hfirst hsecond
          split at hfirst
          · obtain rfl := Option.some.inj hfirst
            cases hclaim₁
          · split at hsecond
            · obtain rfl := Option.some.inj hsecond
              cases hclaim₂
            · exact hlive.own _ _ _ _ _ _ _ hfirst hclaim₁ hturn₁ hsecond hclaim₂ hturn₂
        · obtain ⟨first, handler, claim, hfirst, hclaim⟩ := hlive.live conversation_id row turn_id hrow hactive
          refine ⟨first, handler, claim, ?_, hclaim⟩
          rw [Table.get?_set_ne _ fun heq => ?_]
          · exact hfirst
          · rw [heq, hfree] at hfirst
            cases hfirst
  | handle number event =>
    rw [OperatorState.step] at h
    split at h
    · cases h
    · next hhandler =>
      split at h
      · next hdraws =>
        split at h
        · cases h
        · next hresume =>
          cases h
          exact hlive.resume hsound hhandler hdraws huncut (resume_cases hresume)
      · cases h
  | repair entry_id =>
    rw [OperatorState.step] at h
    split at h
    · cases h
    · next hrepair =>
      cases h
      obtain ⟨hrows, -⟩ := repair_stranded_operator_turns_success hrepair
      refine ⟨hlive.own, fun conversation_id row' turn_id hrow' hactive => ?_⟩
      -- no turn is active after a repair
      rw [hrows] at hrow'
      obtain ⟨row, hrow, rfl⟩ := Option.map_eq_some_iff.mp hrow'
      obtain ⟨n, hcoherent⟩ := hsound.coherent conversation_id row hrow
      unfold OperatorConversation.repaired at hactive
      split at hactive
      · cases hactive
      · next hnot =>
        have hrunning := hcoherent.active.mpr (by simp [hactive])
        exact absurd (by simp [OperatorConversation.is_stranded, hrunning, hactive]) hnot

/-- The service in which no request is cancelled in a direct interruption of its active turn. -/
abbrev uncut_service (sha256 : List Char → String) : Transactional OperatorState OperatorEvent :=
  (service sha256).restrict fun event s => s.cuts event = false

theorem uncut_service_live (h : (uncut_service sha256).Reachable s) : ServiceSound sha256 s ∧ TurnsLive s := by
  refine h.invariant (P := fun s => ServiceSound sha256 s ∧ TurnsLive s) (fun s hstart => ?_)
    fun event s s' hs hcommit => ⟨hs.1.step hcommit.2, hs.2.step hs.1.db hcommit.1 hcommit.2⟩
  refine ⟨service_sound ⟨[], .start hstart⟩, ?_⟩
  obtain rfl : s = _ := hstart
  refine ⟨fun number handler claim _ _ _ _ hget => ?_, fun conversation_id row turn_id hget => ?_⟩
  all_goals cases hget

/-- A cut interruption leaves its turn active. -/
theorem abandons_of_cuts (hcuts : s.cuts operator_event = true) (h : s.step sha256 operator_event = some s') :
    ∃ number, s'.abandons number = true := by
  unfold OperatorState.cuts at hcuts
  split at hcuts
  · next number =>
    split at hcuts
    · next submission claim interruption hhandler =>
      rw [OperatorState.step, hhandler] at h
      simp only [OperatorState.draws, if_true, HandlerPhase.resume, Bool.false_eq_true, if_false] at h
      cases h
      refine ⟨number, ?_⟩
      simp only [OperatorState.abandons, Table.get?_set_self]
      exact hcuts
    · cases hcuts
  · cases hcuts

/-- **A turn is left behind exactly by a cut interruption.** As long as no request is cancelled while it awaits an
    interruption directly, before that committed, no handler ends with its turn active, and every running
    conversation has a handler that is going to end its turn. One such cancellation leaves the turn active. -/
theorem no_abandoned_turns (sha256 : List Char → String) :
    (∀ s, (uncut_service sha256).Reachable s → (∀ number, s.abandons number = false) ∧
      ∀ conversation_id row, s.db.conversations.get? conversation_id = some row → row.state = .running →
        ∃ number handler claim, s.handlers.get? number = some handler ∧ handler.phase.pending_claim = some claim ∧
          claim.turn_id = row.active_turn_id ∧ claim.conversation_id = conversation_id) ∧
    ∀ s event s', (service sha256).Reachable s → s.cuts event = true → s.step sha256 event = some s' →
      ∃ number, s'.abandons number = true := by
  refine ⟨fun s h => ?_, fun s event s' _ hcuts hstep => abandons_of_cuts hcuts hstep⟩
  obtain ⟨hsound, hlive⟩ := uncut_service_live h
  refine ⟨hlive.not_abandons, fun conversation_id row hrow hrunning => ?_⟩
  obtain ⟨n, hcoherent⟩ := hsound.db.coherent conversation_id row hrow
  obtain ⟨turn_id, hactive⟩ := Option.isSome_iff_exists.mp (hcoherent.active.mp hrunning)
  obtain ⟨number, handler, claim, hhandler, hpending, hturn, hconversation⟩ :=
    hlive.live conversation_id row turn_id hrow hactive
  exact ⟨number, handler, claim, hhandler, hpending, hturn.trans hactive.symm, hconversation⟩

/-- A message whose provider fails, and whose request is cancelled before the interruption committed. -/
def cut_interruption : List OperatorEvent :=
  [.create "c" "new" "codex" none none,
    .submit 0 (.message "c" ⟨"hello"⟩ "first"),
    .handle 0 (.admitted "turn-0" "entry-0"),
    .handle 0 (.executed .failed),
    .handle 0 .cancelled]

theorem cut_interruption_abandons :
    ¬ ∀ s, (service String.ofList).Reachable s → ∀ number, s.abandons number = false := by
  intro h
  have hrun : ((OperatorState.run String.ofList ⟨⟨∅, ∅⟩, ∅, []⟩ cut_interruption).map (·.abandons 0)) = some true := by
    decide +kernel
  obtain ⟨s, hs, habandons⟩ := Option.map_eq_some_iff.mp hrun
  have hstart : (service String.ofList).Reachable ⟨⟨∅, ∅⟩, ∅, []⟩ := ⟨[], .start rfl⟩
  rw [h s (reachable_run hstart hs) 0] at habandons
  cases habandons

end Operator

end OhMySubagents
