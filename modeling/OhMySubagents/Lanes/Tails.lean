import OhMySubagents.Lanes.Participation

open Relational

namespace OhMySubagents

namespace Lanes

/-- No Dispatch opened after this one. -/
def Unfollowed (lanes : Lanes) (d : DispatchId) : Prop :=
  ∀ d' q', lanes.dispatches d' = some q' → q'.predecessor_dispatch_id ≠ some d

/-- Once the Task has started, the Dispatches of every Attempt end in one tail. -/
structure Tails (lanes : Lanes) : Prop where
  started : ∀ x, lanes.sources .task_start = some x → ∃ d, x.phase = .consumed d
  unique : ∀ d q d' q', lanes.dispatches d = some q → lanes.dispatches d' = some q' →
    q.attempt_id = q'.attempt_id → lanes.Unfollowed d → lanes.Unfollowed d' → d = d'

namespace Tails

variable {lanes lanes' : Lanes} {d : DispatchId} {q : LaneDispatch}

/-- Only the Dispatches and the Task start matter. -/
theorem congr (h : lanes.Tails) (hdispatches : lanes'.dispatches = lanes.dispatches)
    (hstart : lanes'.sources .task_start = lanes.sources .task_start) : lanes'.Tails := by
  obtain ⟨h1, h2⟩ := h
  constructor
  · simpa only [hstart]
  · simpa only [Unfollowed, hdispatches] using h2

theorem row_of_close (dispatch : lanes.dispatches d = some q) {reason : DispatchClosedReason} {k : DispatchId}
    {q' : LaneDispatch} (row : (lanes.putDispatch d (q.close reason)).dispatches k = some q') :
    ∃ q₀, lanes.dispatches k = some q₀ ∧ q₀.attempt_id = q'.attempt_id ∧
      q₀.predecessor_dispatch_id = q'.predecessor_dispatch_id := by
  by_cases hk : k = d
  · subst hk
    obtain rfl : q.close reason = q' := by simpa using row
    exact ⟨q, dispatch, rfl, rfl⟩
  · exact ⟨q', by simpa [Function.update_apply, hk] using row, rfl, rfl⟩

private theorem unfollowed_of_close (dispatch : lanes.dispatches d = some q) {reason : DispatchClosedReason}
    {k : DispatchId} (h : (lanes.putDispatch d (q.close reason)).Unfollowed k) : lanes.Unfollowed k := by
  intro d' q' hq'
  by_cases hd : d' = d
  · subst hd
    obtain rfl := Option.some.inj (dispatch.symm.trans hq')
    exact h d' (q.close reason) (by simp)
  · exact h d' q' (by simpa [Function.update_apply, hd] using hq')

/-- A Dispatch closes. -/
theorem close (h : lanes.Tails) (dispatch : lanes.dispatches d = some q) (reason : DispatchClosedReason) :
    (lanes.putDispatch d (q.close reason)).Tails where
  started := h.started
  unique d₁ q₁ d₂ q₂ hd₁ hd₂ hsame hu₁ hu₂ := by
    obtain ⟨q₁', hd₁', ha₁, -⟩ := row_of_close dispatch hd₁
    obtain ⟨q₂', hd₂', ha₂, -⟩ := row_of_close dispatch hd₂
    exact h.unique d₁ q₁' d₂ q₂' hd₁' hd₂' (ha₁.trans (hsame.trans ha₂.symm)) (unfollowed_of_close dispatch hu₁)
      (unfollowed_of_close dispatch hu₂)

private theorem unfollowed_of_open (fresh : lanes.dispatches d = none) {k : DispatchId}
    (h : (lanes.putDispatch d q).Unfollowed k) : lanes.Unfollowed k := by
  intro d' q' hq'
  have hne : d' ≠ d := by
    rintro rfl
    rw [fresh] at hq'
    cases hq'
  exact h d' q' (by simpa [Function.update_apply, hne] using hq')

/-- The first Dispatch of an Attempt opens. -/
theorem open_first (h : lanes.Tails) (fresh : lanes.dispatches d = none)
    (fresh_attempt : ∀ d' q', lanes.dispatches d' = some q' → q'.attempt_id ≠ q.attempt_id) :
    (lanes.putDispatch d q).Tails where
  started := h.started
  unique d₁ q₁ d₂ q₂ hd₁ hd₂ hsame hu₁ hu₂ := by
    by_cases h₁ : d₁ = d <;> by_cases h₂ : d₂ = d
    · rw [h₁, h₂]
    · subst h₁
      obtain rfl : q = q₁ := by simpa using hd₁
      exact absurd hsame.symm (fresh_attempt d₂ q₂ (by simpa [Function.update_apply, h₂] using hd₂))
    · subst h₂
      obtain rfl : q = q₂ := by simpa using hd₂
      exact absurd hsame (fresh_attempt d₁ q₁ (by simpa [Function.update_apply, h₁] using hd₁))
    · exact h.unique d₁ q₁ d₂ q₂ (by simpa [Function.update_apply, h₁] using hd₁)
        (by simpa [Function.update_apply, h₂] using hd₂) hsame (unfollowed_of_open fresh hu₁)
        (unfollowed_of_open fresh hu₂)

/-- A Dispatch opens after the tail of its Attempt. -/
theorem open_after (h : lanes.Tails) {p : DispatchId} (qp : LaneDispatch) (fresh : lanes.dispatches d = none)
    (tail : lanes.dispatches p = some qp) (hattempt : q.attempt_id = qp.attempt_id)
    (hp : q.predecessor_dispatch_id = some p) (unfollowed : lanes.Unfollowed p) : (lanes.putDispatch d q).Tails where
  started := h.started
  unique d₁ q₁ d₂ q₂ hd₁ hd₂ hsame hu₁ hu₂ := by
    -- what was the tail before is followed now
    have hold : ∀ k qk, k ≠ d → (lanes.putDispatch d q).dispatches k = some qk → qk.attempt_id = q.attempt_id →
        ¬ (lanes.putDispatch d q).Unfollowed k := by
      intro k qk hk hrow hatt hfree
      have hkp : k = p := h.unique k qk p qp (by simpa [Function.update_apply, hk] using hrow) tail
        (hatt.trans hattempt) (unfollowed_of_open fresh hfree) unfollowed
      exact hfree d q (by simp) (hkp ▸ hp)
    by_cases h₁ : d₁ = d <;> by_cases h₂ : d₂ = d
    · rw [h₁, h₂]
    · subst h₁
      obtain rfl : q = q₁ := by simpa using hd₁
      exact absurd hu₂ (hold d₂ q₂ h₂ hd₂ hsame.symm)
    · subst h₂
      obtain rfl : q = q₂ := by simpa using hd₂
      exact absurd hu₁ (hold d₁ q₁ h₁ hd₁ hsame)
    · exact h.unique d₁ q₁ d₂ q₂ (by simpa [Function.update_apply, h₁] using hd₁)
        (by simpa [Function.update_apply, h₂] using hd₂) hsame (unfollowed_of_open fresh hu₁)
        (unfollowed_of_open fresh hu₂)

end Tails

/-- Nothing follows a live Dispatch. -/
theorem Lineage.unfollowed_of_live {lanes : Lanes} {d : DispatchId} {q : LaneDispatch} (h : lanes.Lineage)
    (dispatch : lanes.dispatches d = some q) (live : q.closed_reason = none) : lanes.Unfollowed d := by
  intro d' q' hq' hp
  obtain ⟨q₀, hq₀, -, -, hclosed⟩ := h.predecessor d' q' d hq' hp
  obtain rfl := Option.some.inj (dispatch.symm.trans hq₀)
  exact hclosed live

/-- A new Dispatch follows what nothing followed. -/
theorem Fits.unfollowed {lanes : Lanes} {d p : DispatchId} {q : LaneDispatch} {member : MemberId}
    (h : lanes.Fits d q member) (hp : q.predecessor_dispatch_id = some p) : lanes.Unfollowed p := by
  intro d' q' hq'
  rw [← hp]
  exact h.predecessor d' q' hq' (by simp [hp])

/-- An Attempt that does not exist yet has no Dispatch. -/
theorem Pointers.no_dispatch {lanes : Lanes} {a : AttemptId} (h : lanes.Pointers) (fresh : lanes.attempts a = none)
    (d : DispatchId) (q : LaneDispatch) (hq : lanes.dispatches d = some q) : q.attempt_id ≠ a := by
  rintro rfl
  obtain ⟨r, hr, -⟩ := h.dispatch_attempt d q hq
  rw [fresh] at hr
  cases hr

/-- Every step keeps the tails. -/
theorem Tails.step {lanes lanes' : Lanes} (h : lanes.Tails) (hl : lanes.Lineage) (hp : lanes.Pointers)
    (hstep : Step lanes lanes') : lanes'.Tails := by
  cases hstep with
  | @suspend d a q r w source reason holds =>
    exact (h.close holds.dispatch reason).congr (by simp) (by cases source <;> simp [WaitSource.source_id])
  | @add_child i p r w v wave x k c ca cd q member selected rev _ _ _ _ _ _ _ _ _ _ fresh_attempt fits hq =>
    refine (h.open_first (d := cd) (q := q) fits.fresh fun d' q' hq' => ?_).congr (by simp) (by simp)
    rw [hq.2.1]
    exact hp.no_dispatch fresh_attempt d' q' hq'
  | complete holds => exact (h.close holds.dispatch .boundary).congr (by simp) (by simp)
  | complete_root holds => exact (h.close holds.dispatch .boundary).congr (by simp) (by simp)
  | @retry d a q r c a' d' q' holds serves fresh fresh_attempt fits hq =>
    have hne := holds.ne_fresh_dispatch fits.fresh
    refine ((h.close holds.dispatch .boundary).open_first (d := d') (q := q')
      (by simpa [Function.update_apply, hne] using fits.fresh) fun k qk hqk => ?_).congr (by simp) (by simp)
    rw [hq.2.1]
    obtain ⟨q₀, hq₀, ha, -⟩ := Tails.row_of_close holds.dispatch hqk
    rw [← ha]
    exact hp.no_dispatch fresh_attempt k q₀ hq₀
  | replan holds => exact (h.close holds.dispatch .structural_replan).congr (by simp) (by simp)
  | @settle w v a r source x =>
    exact h.congr (by simp) (by cases source <;> simp [WaitSource.source_id])
  | @open_successor s x a r c d q running row resolved hattempt hassignment attempt idle serves fits hq =>
    have hs : s ≠ .task_start := by
      rintro rfl
      obtain ⟨d', hconsumed⟩ := h.started x row
      rw [resolved] at hconsumed
      cases hconsumed
    obtain ⟨reason, hreason⟩ : ∃ reason, s.closed_reason = some reason := by
      cases s <;> first | exact absurd rfl hs | exact ⟨_, rfl⟩
    obtain ⟨p, hsource⟩ := hl.source_dispatch s x reason row hreason
    obtain ⟨qp, hqp, ha, -⟩ := hl.source_row s x p row hsource
    refine (h.open_after (d := d) (q := q) _ fits.fresh hqp (hq.2.1.trans (hattempt.symm.trans ha.symm))
      (hq.2.2.trans hsource) (fits.unfollowed (hq.2.2.trans hsource))).congr (by simp) ?_
    simp [hs.symm]
  | @open_tail p qp reason a r c d q running tail closed hreason hattempt attempt idle serves fits hq =>
    exact (h.open_after (d := d) (q := q) _ fits.fresh tail (hq.2.1.trans hattempt.symm) hq.2.2
      (fits.unfollowed hq.2.2)).congr (by simp) (by simp)
  | @replace d a q r c d' q' holds serves fits hq =>
    have hne := holds.ne_fresh_dispatch fits.fresh
    have hclosed := h.close holds.dispatch .watchdog_superseded
    refine (hclosed.open_after (d := d') (q := q') (p := d) (q.close .watchdog_superseded)
      (by simpa [Function.update_apply, hne] using fits.fresh) (by simp)
      (hq.2.1.trans holds.dispatch_attempt.symm) hq.2.2 ?_).congr (by simp) (by simp)
    intro k qk hqk hk
    obtain ⟨q₀, hq₀, -, hp₀⟩ := Tails.row_of_close holds.dispatch hqk
    exact hl.unfollowed_of_live holds.dispatch holds.live k q₀ hq₀ (hp₀.trans hk)
  | @halt d a q r reason holds => exact (h.close holds.dispatch reason).congr (by simp) (by simp)
  | pause => exact h.congr rfl rfl
  | resume => exact h.congr rfl rfl
  | cancel => exact h.congr rfl rfl
  | @drop_wait w v => exact h.congr (by simp) (by cases v.source <;> simp [WaitSource.source_id])
  | drop_lanes => exact h.congr rfl rfl
  | @drop_source s x phase cancelled row hphase =>
    refine h.congr (by simp) ?_
    have hs : s ≠ .task_start := by
      rintro rfl
      obtain ⟨d', hconsumed⟩ := h.started x row
      rcases hphase with ⟨-, hx | hx⟩ | ⟨-, hx, -⟩ <;> rw [hx] at hconsumed <;> cases hconsumed
    simp [hs.symm]

theorem Tails.steps {lanes lanes' : Lanes} (h : lanes.Tails) (hinv : lanes.Invariant) (hsteps : Steps lanes lanes') :
    lanes'.Tails := by
  induction hsteps with
  | refl => exact h
  | tail hbefore hstep ih =>
    have hmiddle := hinv.steps hbefore
    exact ih.step hmiddle.lineage hmiddle.pointers hstep

end Lanes

end OhMySubagents
