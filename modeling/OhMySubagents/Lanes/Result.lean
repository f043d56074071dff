import OhMySubagents.Lanes.Participation

open Relational

namespace OhMySubagents

namespace Lanes

/-- What a Task that has ended leaves open: nothing. Only a completed Task has a result, and the result is a
    terminal boundary of the root. -/
structure Result (lanes : Lanes) : Prop where
  idle : ¬ lanes.Active → ∀ a r, lanes.attempts a = some r → r.status ≠ .running
  no_wait : ¬ lanes.Active → ∀ w, lanes.waits w = none
  no_wave : ¬ lanes.Active → ∀ wave x, lanes.sources (.delegation_wave wave) = some x →
    x.phase ≠ .unresolved ∧ x.phase ≠ .resolved
  completed : lanes.status = .completed ↔ lanes.result_boundary_id.isSome
  boundary : ∀ d, lanes.result_boundary_id = some d → ∃ b, lanes.boundaries d = some b ∧
    b.assignment_id = lanes.root_assignment_id ∧ b.outcome ≠ .retry

namespace Result

variable {lanes lanes' : Lanes}

theorem none_of_active (h : lanes.Result) (active : lanes.Active) : lanes.result_boundary_id = none := by
  cases hresult : lanes.result_boundary_id with
  | none => rfl
  | some d =>
    have hcompleted := h.completed.mpr (by simp [hresult])
    rcases active with hstatus | hstatus <;> simp [hstatus] at hcompleted

/-- A Task that goes on has no result, whatever else changes. -/
theorem keep (h : lanes.Result) (active : lanes.Active) (active' : lanes'.Active)
    (hresult : lanes'.result_boundary_id = lanes.result_boundary_id) : lanes'.Result := by
  have hnone := hresult.trans (h.none_of_active active)
  refine ⟨fun hended => absurd active' hended, fun hended => absurd active' hended, fun hended => absurd active' hended,
    ?_, fun d hd => ?_⟩
  · rcases active' with hstatus | hstatus <;> simp [hstatus, hnone]
  · rw [hnone] at hd
    cases hd

/-- A wait shows that the Task goes on. -/
theorem active_of_wait (h : lanes.Result) {w : WaitId} {v : AttemptWait} (wait : lanes.waits w = some v) :
    lanes.Active := by
  by_contra hended
  rw [h.no_wait hended w] at wait
  cases wait

private theorem terminal_boundary (outcome : TerminalOutcome) : outcome.boundary ≠ .retry := by
  cases outcome <;> simp [TerminalOutcome.boundary]

/-- Every step but the first of a cancellation keeps the result of the Task. -/
theorem step (h : lanes.Result) (hstep : Step lanes lanes')
    (hcancel : lanes'.status = .cancelled → lanes.status = .cancelled) : lanes'.Result := by
  cases hstep with
  | suspend holds => exact h.keep (.inl holds.running) (.inl (by simpa using holds.running)) (by simp)
  | add_child running => exact h.keep (.inl running) (.inl (by simpa using running)) (by simp)
  | complete holds => exact h.keep (.inl holds.running) (.inl (by simpa using holds.running)) (by simp)
  | @complete_root d a q r c outcome holds serves root fresh others _ no_wait no_wave =>
    refine ⟨fun _ a' r' hr' => ?_, fun _ w => no_wait w, fun _ wave x hx => no_wave wave x hx, by simp, ?_⟩
    · by_cases ha : a' = a
      · subst ha
        simp at hr'
        rw [← hr']
        simp
      · simp [ha] at hr'
        exact others a' r' hr' ha
    · intro d' hd'
      obtain rfl : d = d' := by simpa using hd'
      exact ⟨⟨r.assignment_id, a, outcome.boundary⟩, by simp, root, terminal_boundary outcome⟩
  | retry holds => exact h.keep (.inl holds.running) (.inl (by simpa using holds.running)) (by simp)
  | replan holds => exact h.keep (.inl holds.running) (.inl (by simpa using holds.running)) (by simp)
  | settle active => exact h.keep active active rfl
  | open_successor running => exact h.keep (.inl running) (.inl (by simpa using running)) (by simp)
  | open_tail running => exact h.keep (.inl running) (.inl (by simpa using running)) (by simp)
  | replace holds => exact h.keep (.inl holds.running) (.inl (by simpa using holds.running)) (by simp)
  | halt holds => exact h.keep (.inl holds.running) (.inl (by simpa using holds.running)) (by simp)
  | pause running => exact h.keep (.inl running) (.inr rfl) rfl
  | resume paused => exact h.keep (.inr paused) (.inl rfl) rfl
  | cancel active =>
    have hcancelled := hcancel rfl
    rcases active with hstatus | hstatus <;> simp [hstatus] at hcancelled
  | @drop_wait w v a r x phase cancelled wait =>
    rw [h.no_wait (by simp [Active, cancelled]) w] at wait
    cases wait
  | drop_lanes cancelled =>
    refine ⟨fun _ a r hr => ?_, h.no_wait, h.no_wave, h.completed, h.boundary⟩
    obtain ⟨r', hr', rfl⟩ := Option.map_eq_some_iff.mp hr
    unfold LaneAttempt.cancel
    split
    · simp
    · next hopen => exact fun hrunning => hopen (.inl hrunning)
  | @drop_source s x phase cancelled row hphase =>
    refine ⟨h.idle, h.no_wait, fun hended wave y hy => ?_, h.completed, h.boundary⟩
    by_cases hs : SourceId.delegation_wave wave = s
    · subst hs
      simp at hy
      subst hy
      obtain ⟨rfl, -⟩ | ⟨-, -, run, hrun⟩ := hphase
      · simp
      · cases hrun
    · exact h.no_wave hended wave y (by simpa [Function.update_apply, hs] using hy)

/-- So do all steps of a transaction that does not cancel the Task. -/
theorem steps (h : lanes.Result) (hinv : lanes.Invariant) (hsteps : Steps lanes lanes')
    (hcancel : lanes'.status = .cancelled → lanes.status = .cancelled) : lanes'.Result := by
  induction hsteps with
  | refl => exact h
  | @tail middle last hbefore hstep ih =>
    have hlater := hstep.later (hinv.steps hbefore).pointers
    have hmiddle : middle.status = .cancelled → last.status = .cancelled := fun hm =>
      (hlater.status (.inr hm)).trans hm
    exact (ih fun hm => hcancel (hmiddle hm)).step hstep fun hl => by
      have hstart := hcancel hl
      exact (Steps.later hinv hbefore).status (.inr hstart) |>.trans hstart

end Result

section

/-- What nothing can move in a Task that has ended. -/
structure Settled (lanes lanes' : Lanes) : Prop where
  status : lanes'.status = lanes.status
  result_boundary_id : lanes'.result_boundary_id = lanes.result_boundary_id
  team : lanes'.team = lanes.team
  current_team_revision_id : lanes'.current_team_revision_id = lanes.current_team_revision_id
  assignments : lanes'.assignments = lanes.assignments
  dispatches : lanes'.dispatches = lanes.dispatches
  boundaries : lanes'.boundaries = lanes.boundaries

namespace Settled

variable {lanes lanes' lanes'' : Lanes}

theorem refl (lanes : Lanes) : lanes.Settled lanes := ⟨rfl, rfl, rfl, rfl, rfl, rfl, rfl⟩

theorem trans (h : lanes.Settled lanes') (h' : lanes'.Settled lanes'') : lanes.Settled lanes'' :=
  ⟨h'.1.trans h.1, h'.2.trans h.2, h'.3.trans h.3, h'.4.trans h.4, h'.5.trans h.5, h'.6.trans h.6, h'.7.trans h.7⟩

theorem ended (h : lanes.Settled lanes') (hended : ¬ lanes.Active) : ¬ lanes'.Active := by
  unfold Active at hended ⊢
  rwa [h.status]

end Settled

variable {lanes lanes' : Lanes}

/-- Once a Task has ended, a step can only give up what is left. -/
theorem Step.settled (hended : ¬ lanes.Active) (hstep : Step lanes lanes') : lanes.Settled lanes' := by
  cases hstep with
  | suspend holds | complete holds | complete_root holds | retry holds | replan holds | replace holds | halt holds =>
    exact absurd (.inl holds.running) hended
  | add_child running | open_successor running | open_tail running | pause running => exact absurd (.inl running) hended
  | settle active | cancel active => exact absurd active hended
  | resume paused => exact absurd (.inr paused) hended
  | drop_wait => exact ⟨by simp, by simp, by simp, by simp, by simp, by simp, by simp⟩
  | drop_lanes => exact ⟨rfl, rfl, rfl, rfl, rfl, rfl, rfl⟩
  | drop_source => exact ⟨rfl, rfl, rfl, rfl, rfl, rfl, rfl⟩

theorem Steps.settled (hended : ¬ lanes.Active) (hsteps : Steps lanes lanes') : lanes.Settled lanes' := by
  induction hsteps with
  | refl => exact .refl lanes
  | tail _ hstep ih => exact ih.trans (hstep.settled (ih.ended hended))

end

/-- The lanes of a Task that was just admitted: one free lane for the root, which follows the Task start. -/
@[simps -fullyApplied] def initial (team : TeamTables) (id : RevisionId) (root : MemberId) (i : AssignmentId)
    (a : AttemptId) :
    Lanes where
  status := .running
  root_assignment_id := i
  current_team_revision_id := id
  result_boundary_id := none
  team := team
  assignments := Function.update (fun _ => none) i (some ⟨root, none, a, none⟩)
  attempts := Function.update (fun _ => none) a (some (LaneAttempt.start i))
  dispatches := fun _ => none
  waits := fun _ => none
  sources := Function.update (fun _ => none) .task_start (some ⟨i, a, none, .resolved⟩)
  wave_members := fun _ => none
  boundaries := fun _ => none

variable {team : TeamTables} {id : RevisionId} {rev : TeamRevision} {i : AssignmentId} {a : AttemptId}

/-- The first lane of a Task satisfies every invariant. -/
theorem initial_invariant (revisions : ∀ r, team.team_revisions.get? r = if r = id then some rev else none)
    (well_formed : rev.WellFormed) (recorded : rev.Recorded team) (first : rev.predecessor_team_revision_id = none) :
    (initial team id rev.root_member_id i a).Invariant where
  pointers := by
    constructor <;> simp [Function.update_apply, LaneAttempt.start]
    all_goals grind
  lineage := by
    constructor <;> simp [Function.update_apply]
    all_goals grind [SourceId.closed_reason]
  waiting := by
    constructor <;> simp [Function.update_apply]
  selection := by
    refine ⟨.initial revisions well_formed recorded first, ?_, ?_, ?_, ?_, ?_⟩
    · simp
    · simp
    · simp
    · refine ⟨⟨rev.root_member_id, none, a, none⟩, rev, by simp, ?_, rfl⟩
      simp [current_team, revisions]
    · simp [Function.update_apply]
  quiescence := by
    constructor <;> simp [Function.update_apply]
    all_goals grind
  participation := by
    constructor <;> simp

theorem initial_result : (initial team id rev.root_member_id i a).Result :=
  ⟨fun h => absurd (.inl rfl) h, fun h => absurd (.inl rfl) h, fun h => absurd (.inl rfl) h, by simp, by simp⟩

end Lanes

end OhMySubagents
