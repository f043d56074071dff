import Mathlib.Logic.Relation

namespace Relational

universe u v

/-- A system whose transactions commit one at a time. A transaction may also use states that it read
    before, as long as some earlier transaction left them behind. -/
structure Transactional (σ : Type u) (τ : Type v) where
  start : σ → Prop
  reads : τ → List σ
  commit : τ → σ → σ → Prop

namespace Transactional

variable {σ : Type u} {τ : Type v}

/-- The states of one run, newest first. -/
inductive Run (system : Transactional σ τ) : List σ → Prop
  | start {s} (start : system.start s) : Run system [s]
  | step {s history t s'} (run : Run system (s :: history)) (reads : ∀ stale ∈ system.reads t, stale ∈ s :: history)
      (commit : system.commit t s s') : Run system (s' :: s :: history)

def Reachable (system : Transactional σ τ) (s : σ) : Prop := ∃ history, system.Run (s :: history)

/-- One transaction that commits in a reachable state. -/
def Step (system : Transactional σ τ) (s s' : σ) : Prop := system.Reachable s ∧ ∃ t, system.commit t s s'

/-- What happens between two states of one run. -/
abbrev Path (system : Transactional σ τ) : σ → σ → Prop := Relation.ReflTransGen system.Step

/-- The same system, in which a transaction only commits where a condition holds. -/
def restrict (system : Transactional σ τ) (condition : τ → σ → Prop) : Transactional σ τ :=
  { system with commit := fun t s s' => condition t s ∧ system.commit t s s' }

variable {system : Transactional σ τ} {s s' stale : σ} {history states : List σ}

theorem Run.of_restrict {condition : τ → σ → Prop} (h : (system.restrict condition).Run states) :
    system.Run states := by
  induction h with
  | start start => exact .start start
  | step _ reads commit ih => exact .step ih reads commit.2

/-- Whatever a run came through is a run. -/
theorem Run.of_suffix (h : system.Run states) {first : List σ} (hsuffix : first <:+ states) (hne : first ≠ []) :
    system.Run first := by
  induction h with
  | start start =>
    rcases List.suffix_cons_iff.mp hsuffix with rfl | hnil
    · exact .start start
    · exact absurd (List.suffix_nil.mp hnil) hne
  | step run reads commit ih =>
    rcases List.suffix_cons_iff.mp hsuffix with rfl | hold
    · exact run.step reads commit
    · exact ih hold

theorem Reachable.of_restrict {condition : τ → σ → Prop} (h : (system.restrict condition).Reachable s) :
    system.Reachable s := by
  obtain ⟨history, hrun⟩ := h
  exact ⟨history, hrun.of_restrict⟩

/-- Every state of a run is reachable, and the run leads from it to its newest state. -/
theorem Run.path (h : system.Run (s :: history)) (hstale : stale ∈ s :: history) :
    system.Reachable stale ∧ system.Path stale s := by
  generalize hstates : s :: history = states at h hstale
  induction h generalizing s history with
  | @start s₀ start =>
    cases hstates
    obtain rfl := List.mem_singleton.mp hstale
    exact ⟨⟨[], .start start⟩, .refl⟩
  | @step s₀ history₀ t s₁ run reads commit ih =>
    cases hstates
    rcases List.mem_cons.mp hstale with rfl | hstale
    · exact ⟨⟨_, .step run reads commit⟩, .refl⟩
    · obtain ⟨hreachable, hpath⟩ := ih rfl hstale
      exact ⟨hreachable, hpath.tail ⟨⟨history₀, run⟩, t, commit⟩⟩

/-- Of two states of one run, the one leads to the other. -/
theorem Run.linear (h : system.Run states) (hs : s ∈ states) (hs' : s' ∈ states) :
    system.Path s s' ∨ system.Path s' s := by
  induction h with
  | start =>
    obtain rfl := List.mem_singleton.mp hs
    obtain rfl := List.mem_singleton.mp hs'
    exact .inl .refl
  | step run reads commit ih =>
    have hrun := run.step reads commit
    rcases List.mem_cons.mp hs with rfl | hold
    · exact .inr (hrun.path hs').2
    · rcases List.mem_cons.mp hs' with rfl | hold'
      · exact .inl (hrun.path hs).2
      · exact ih hold hold'

/-- The newest transaction of a run. -/
theorem Run.newest (h : system.Run (s' :: s :: history)) : system.Step s s' := by
  cases h with
  | step run _ commit => exact ⟨⟨history, run⟩, _, commit⟩

/-- What held in one state of a run and holds no more in its newest one was lost in one of its steps. -/
theorem exists_crossing {P : σ → Prop} (hs : s ∈ s' :: history) (hP : P s) (hnot : ¬P s') :
    ∃ later after before earlier, s' :: history = later ++ after :: before :: earlier ∧ s ∈ before :: earlier ∧
      P before ∧ ¬P after := by
  induction history generalizing s' with
  | nil =>
    obtain rfl := List.mem_singleton.mp hs
    exact absurd hP hnot
  | cons middle history ih =>
    have hold : s ∈ middle :: history := (List.mem_cons.mp hs).resolve_left fun heq => hnot (heq ▸ hP)
    by_cases hmiddle : P middle
    · exact ⟨[], s', middle, history, rfl, hold, hmiddle, hnot⟩
    · obtain ⟨later, after, before, earlier, hsplit, hmem, hbefore, hafter⟩ := ih hold hmiddle
      exact ⟨s' :: later, after, before, earlier, congrArg (s' :: ·) hsplit, hmem, hbefore, hafter⟩

/-- What stays once it holds takes the place of what it excludes in at most one step of a run. -/
theorem Run.crossing_unique {P Q : σ → Prop} (h : system.Run states) (hapart : ∀ s, P s → ¬Q s)
    (hstays : ∀ s s', system.Path s s' → Q s → Q s') {before after before' after' : σ} {earlier earlier' : List σ}
    (hstep : after :: before :: earlier <:+ states) (hP : P before) (hQ : Q after)
    (hstep' : after' :: before' :: earlier' <:+ states) (hP' : P before') (hQ' : Q after') :
    after' :: before' :: earlier' = after :: before :: earlier := by
  have hlate : ∀ {before after before' after' : σ} {earlier earlier' : List σ}, after :: before :: earlier <:+ states →
      P before → Q after' → after' :: before' :: earlier' <:+ after :: before :: earlier →
      after' :: before' :: earlier' = after :: before :: earlier := by
    intro before after before' after' earlier earlier' hstep hP hQ' hsuffix
    rcases List.suffix_cons_iff.mp hsuffix with heq | hold
    · exact heq
    · have hrun : system.Run (before :: earlier) :=
        h.of_suffix ((List.suffix_cons _ _).trans hstep) (List.cons_ne_nil _ _)
      exact absurd (hstays _ _ (hrun.path (hold.subset List.mem_cons_self)).2 hQ') (hapart _ hP)
  rcases List.suffix_or_suffix_of_suffix hstep hstep' with hsuffix | hsuffix
  · exact (hlate hstep' hP' hQ hsuffix).symm
  · exact hlate hstep hP hQ' hsuffix

/-- What holds at the start and is kept by every transaction of a run holds in its newest state. -/
theorem Run.invariant {P : σ → Prop} (h : system.Run (s :: history)) (hstart : ∀ s, system.start s → P s)
    (hstep : ∀ t history s s', system.Run (s :: history) → (∀ read ∈ system.reads t, read ∈ s :: history) →
      system.commit t s s' → P s → P s') : P s := by
  generalize hstates : s :: history = states at h
  induction h generalizing s history with
  | start start =>
    cases hstates
    exact hstart _ start
  | step run reads commit ih =>
    cases hstates
    exact hstep _ _ _ _ run reads commit (ih rfl)

/-- What holds in one state of a run and is kept by every later transaction of it holds in its newest state. -/
theorem Run.since {P : σ → Prop} (h : system.Run (s :: history)) (hstale : stale ∈ s :: history) (hP : P stale)
    (hstep : ∀ t history s s', system.Run (s :: history) → stale ∈ s :: history →
      (∀ read ∈ system.reads t, read ∈ s :: history) → system.commit t s s' → P s → P s') : P s := by
  generalize hstates : s :: history = states at h hstale
  induction h generalizing s history with
  | start =>
    cases hstates
    obtain rfl := List.mem_singleton.mp hstale
    exact hP
  | step run reads commit ih =>
    cases hstates
    rcases List.mem_cons.mp hstale with rfl | hold
    · exact hP
    · exact hstep _ _ _ _ run hold reads commit (ih rfl hold)

/-- What holds at the start and is kept by every transaction holds in every reachable state. -/
theorem Reachable.invariant {P : σ → Prop} (h : system.Reachable s) (hstart : ∀ s, system.start s → P s)
    (hstep : ∀ t s s', P s → system.commit t s s' → P s') : P s := by
  obtain ⟨history, hrun⟩ := h
  exact hrun.invariant hstart fun t _ s s' _ _ hcommit hs => hstep t s s' hs hcommit

/-- What relates the two ends of every transaction relates the two ends of every path. -/
theorem Path.rel {R : σ → σ → Prop} (h : system.Path s s') (hrefl : ∀ s, R s s)
    (htrans : ∀ s s' s'', R s s' → R s' s'' → R s s'') (hstep : ∀ s s', system.Step s s' → R s s') : R s s' := by
  induction h with
  | refl => exact hrefl s
  | tail _ step ih => exact htrans _ _ _ ih (hstep _ _ step)

/-- What one transaction keeps, a path keeps. -/
theorem Path.keep {P : σ → Prop} (h : system.Path s s') (hs : P s)
    (hstep : ∀ s s', system.Step s s' → P s → P s') : P s' := by
  induction h with
  | refl => exact hs
  | tail _ step ih => exact hstep _ _ step ih

/-- What holds at the start of a path and not at its end ceases to hold in one step of it. -/
theorem Path.crossing {P : σ → Prop} (h : system.Path s s') (hs : P s) (hs' : ¬P s') : ∃ before after,
    system.Path s before ∧ P before ∧ system.Step before after ∧ ¬P after ∧ system.Path after s' := by
  induction h with
  | refl => exact absurd hs hs'
  | @tail middle last path step ih =>
    by_cases hmiddle : P middle
    · exact ⟨middle, last, path, hmiddle, step, hs', .refl⟩
    · obtain ⟨before, after, hbefore, hP, hstep, hnot, hafter⟩ := ih hmiddle
      exact ⟨before, after, hbefore, hP, hstep, hnot, hafter.tail step⟩

/-- A transaction that reads nothing old leads from one reachable state to another. -/
theorem Reachable.step {t : τ} (h : system.Reachable s) (hreads : system.reads t = [])
    (hcommit : system.commit t s s') :
    system.Reachable s' := by
  obtain ⟨history, hrun⟩ := h
  exact ⟨s :: history, hrun.step (by simp [hreads]) hcommit⟩

end Transactional

/-- Steps that keep an invariant and lower a well-founded measure come to an end. -/
theorem acc_of_measure {σ : Type u} {β : Type v} {lt : β → β → Prop} (hwf : WellFounded lt) (measure : σ → β)
    {P : σ → Prop} {step : σ → σ → Prop} (hkeep : ∀ s s', P s → step s s' → P s')
    (hlower : ∀ s s', P s → step s s' → lt (measure s') (measure s)) {s : σ} (h : P s) :
    Acc (fun s' s => step s s') s := by
  induction hm : measure s using hwf.induction generalizing s with
  | _ m ih =>
    subst hm
    exact ⟨s, fun s' hstep => ih _ (hlower s s' h hstep) (hkeep s s' h hstep) rfl⟩

end Relational
