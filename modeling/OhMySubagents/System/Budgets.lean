import OhMySubagents.System.BudgetMoves
import OhMySubagents.System.Reachable

open Relational

namespace OhMySubagents

/-- What every Assignment has spent is what was created on its account. -/
structure Balanced (assignments : AssignmentId → Option AssignmentBudget)
    (attempts : AttemptId → Option AssignmentId) : Prop where
  parent_known : ∀ k child p, assignments k = some child → child.parent_assignment_id = some p →
    (assignments p).isSome
  owner_known : ∀ a i, attempts a = some i → (assignments i).isSome
  children : ∀ i budget, assignments i = some budget → ∃ n,
    Counts assignments (fun _ child => child.parent_assignment_id = some i) n ∧
      budget.child_assignments_remaining + n = budget.child_assignment_limit
  retries : ∀ i budget, assignments i = some budget → budget.retries_remaining ≤ budget.retry_limit ∧
    Counts attempts (fun _ owner => owner = i) (1 + (budget.retry_limit - budget.retries_remaining))

/-- The children of a Wave, in the order of its rows. -/
structure WaveAdmitted (db : TaskDb) (w : WaveId) (parent : RevisionId × MemberId) (children : List MemberId) :
    Prop where
  rows : ∀ order_index, db.delegation_wave_members.view DelegationWaveMember.child_member_id (w, order_index) =
    children[order_index]?
  nonempty : children ≠ []
  at_most : children.length ≤ min db.task.max_wave_members PUBLIC_MAX_WAVE_MEMBERS
  distinct : children.Nodup
  direct : ∃ rev, db.team_revisions.get? parent.1 = some rev ∧
    ∀ child ∈ children, child ∈ rev.children parent.2

/-- Every row of a Wave member belongs to a Wave, and every Wave was admitted. -/
structure WavesAdmitted (db : TaskDb) : Prop where
  member_wave : ∀ key child, db.delegation_wave_members.view DelegationWaveMember.child_member_id key = some child →
    (db.delegation_waves.view DelegationWave.parent key.1).isSome
  admitted : ∀ w parent, db.delegation_waves.view DelegationWave.parent w = some parent →
    ∃ children, WaveAdmitted db w parent children

variable {controller : Controller} {db db' : TaskDb} {t : Transaction}

namespace Balanced

variable {assignments assignments' : AssignmentId → Option AssignmentBudget}
  {attempts attempts' : AttemptId → Option AssignmentId}

/-- A Task starts with one Assignment, which has spent nothing, and its first Attempt. -/
theorem root {i : AssignmentId} {a : AttemptId} {budget : AssignmentBudget}
    (orphan : budget.parent_assignment_id = none)
    (full : budget.child_assignments_remaining = budget.child_assignment_limit)
    (full_retries : budget.retries_remaining = budget.retry_limit) :
    Balanced (Function.update (fun _ => none) i (some budget)) (Function.update (fun _ => none) a (some i)) := by
  have hrow : ∀ {k b}, Function.update (fun _ => none) i (some budget) k = some b → k = i ∧ b = budget := by
    intro k b hk
    rcases eq_or_ne k i with rfl | hne
    · simpa [eq_comm] using hk
    · simp [hne] at hk
  refine ⟨fun k child p hk hparent => ?_, fun a' j ha' => ?_, fun j b hj => ?_, fun j b hj => ?_⟩
  · obtain ⟨-, rfl⟩ := hrow hk
    rw [orphan] at hparent
    cases hparent
  · rcases eq_or_ne a' a with rfl | hne
    · simp only [Function.update_self, Option.some.injEq] at ha'
      simp [← ha']
    · simp [hne] at ha'
  · obtain ⟨rfl, rfl⟩ := hrow hj
    refine ⟨0, .zero fun k child hk hparent => ?_, full⟩
    obtain ⟨-, rfl⟩ := hrow hk
    rw [orphan] at hparent
    cases hparent
  · obtain ⟨rfl, rfl⟩ := hrow hj
    refine ⟨Nat.le_of_eq full_retries, ?_⟩
    rw [full_retries, Nat.sub_self]
    refine ⟨[a], List.nodup_singleton a, rfl, fun a' => ?_⟩
    rcases eq_or_ne a' a with rfl | hne
    · simp
    · simp [hne]

/-- A fan-out takes from its Assignment what it creates. -/
theorem delegated (h : Balanced assignments attempts) (new : List (AssignmentId × AttemptId))
    (initial : AssignmentBudget) {p : AssignmentId} {budget : AssignmentBudget} (row : assignments p = some budget)
    (affordable : new.length ≤ budget.child_assignments_remaining)
    (owner : initial.parent_assignment_id = some p)
    (full : initial.child_assignments_remaining = initial.child_assignment_limit)
    (full_retries : initial.retries_remaining = initial.retry_limit)
    (fresh : ∀ k ∈ new.map Prod.fst, assignments k = none) (nodup : (new.map Prod.fst).Nodup)
    (fresh_attempts : ∀ a ∈ new.map Prod.snd, attempts a = none)
    (hassignments : ∀ k b, assignments' k = some b ↔
      k = p ∧ b = { budget with child_assignments_remaining := budget.child_assignments_remaining - new.length } ∨
        k ≠ p ∧ (assignments k = some b ∨ k ∈ new.map Prod.fst ∧ b = initial))
    (hattempts : ∀ a i, attempts' a = some i ↔ attempts a = some i ∨ (i, a) ∈ new) :
    Balanced assignments' attempts' := by
  have hnew : ∀ k ∈ new.map Prod.fst, k ≠ p := by
    rintro k hk rfl
    rw [fresh k hk] at row
    cases row
  have hknown : ∀ k, (assignments k).isSome ∨ k ∈ new.map Prod.fst → (assignments' k).isSome := by
    intro k hk
    rcases eq_or_ne k p with rfl | hne
    · exact Option.isSome_of_eq_some ((hassignments k _).mpr (.inl ⟨rfl, rfl⟩))
    · rcases hk with hk | hk
      · obtain ⟨b, hb⟩ := Option.isSome_iff_exists.mp hk
        exact Option.isSome_of_eq_some ((hassignments k b).mpr (.inr ⟨hne, .inl hb⟩))
      · exact Option.isSome_of_eq_some ((hassignments k _).mpr (.inr ⟨hne, .inr ⟨hk, rfl⟩⟩))
  have hparents : ∀ i k, (∃ b, assignments' k = some b ∧ b.parent_assignment_id = some i) ↔
      (∃ b, assignments k = some b ∧ b.parent_assignment_id = some i) ∨ p = i ∧ k ∈ new.map Prod.fst := by
    intro i k
    simp only [hassignments]
    constructor
    · rintro ⟨b, ⟨rfl, rfl⟩ | ⟨-, hb | ⟨hk, rfl⟩⟩, hparent⟩
      · exact .inl ⟨budget, row, hparent⟩
      · exact .inl ⟨b, hb, hparent⟩
      · exact .inr ⟨Option.some.inj (owner.symm.trans hparent), hk⟩
    · rintro (⟨b, hb, hparent⟩ | ⟨rfl, hk⟩)
      · rcases eq_or_ne k p with rfl | hne
        · obtain rfl := Option.some.inj (row.symm.trans hb)
          exact ⟨_, .inl ⟨rfl, rfl⟩, hparent⟩
        · exact ⟨b, .inr ⟨hne, .inl hb⟩, hparent⟩
      · exact ⟨initial, .inr ⟨hnew k hk, .inr ⟨hk, rfl⟩⟩, owner⟩
  have hold : ∀ i n, p ≠ i → Counts assignments (fun _ child => child.parent_assignment_id = some i) n →
      Counts assignments' (fun _ child => child.parent_assignment_id = some i) n := fun i n hne hn =>
    hn.congr fun k => (hparents i k).trans (or_iff_left fun hk => hne hk.1)
  have howners : ∀ i a, (∃ o, attempts' a = some o ∧ o = i) ↔
      (∃ o, attempts a = some o ∧ o = i) ∨ (i, a) ∈ new := by
    intro i a
    simp only [exists_eq_right, hattempts]
  have hkept : ∀ i n, i ∉ new.map Prod.fst → Counts attempts (fun _ owner => owner = i) n →
      Counts attempts' (fun _ owner => owner = i) n := fun i n hne hn =>
    hn.congr fun a => (howners i a).trans (or_iff_left fun ha => hne (List.mem_map.mpr ⟨_, ha, rfl⟩))
  refine ⟨fun k child q hk hparent => ?_, fun a i ha => ?_, fun i b hb => ?_, fun i b hb => ?_⟩
  · rcases (hparents q k).mp ⟨child, hk, hparent⟩ with ⟨b, hb, hq⟩ | ⟨rfl, -⟩
    · exact hknown q (.inl (h.parent_known k b q hb hq))
    · exact hknown p (.inl (Option.isSome_of_eq_some row))
  · rcases (hattempts a i).mp ha with ha | ha
    · exact hknown i (.inl (h.owner_known a i ha))
    · exact hknown i (.inr (List.mem_map.mpr ⟨_, ha, rfl⟩))
  · rcases (hassignments i b).mp hb with ⟨rfl, rfl⟩ | ⟨hne, hb | ⟨hi, rfl⟩⟩
    · obtain ⟨n, hn, hbalance⟩ := h.children i budget row
      have hcount := hn.add nodup fresh fun k => (hparents i k).trans (or_congr_right (and_iff_right rfl))
      refine ⟨_, hcount, ?_⟩
      rw [List.length_map]
      dsimp only
      omega
    · obtain ⟨n, hn, hbalance⟩ := h.children i b hb
      exact ⟨n, hold i n hne.symm hn, hbalance⟩
    · refine ⟨0, hold i 0 hne.symm (.zero fun k child hk hparent => ?_), full⟩
      have hknown := h.parent_known k child i hk hparent
      rw [fresh i hi] at hknown
      cases hknown
  · rcases (hassignments i b).mp hb with ⟨rfl, rfl⟩ | ⟨hne, hb | ⟨hi, rfl⟩⟩
    · obtain ⟨hle, hn⟩ := h.retries i budget row
      exact ⟨hle, hkept i _ (fun hi => hnew i hi rfl) hn⟩
    · obtain ⟨hle, hn⟩ := h.retries i b hb
      refine ⟨hle, hkept i _ (fun hi => ?_) hn⟩
      rw [fresh i hi] at hb
      cases hb
    · refine ⟨Nat.le_of_eq full_retries, ?_⟩
      rw [full_retries, Nat.sub_self]
      obtain ⟨⟨i, a⟩, hpair, rfl⟩ := List.mem_map.mp hi
      have hnone : Counts attempts (fun _ owner => owner = i) 0 := .zero fun a' o ha' ho => by
        have hknown := h.owner_known a' o ha'
        rw [ho, fresh i hi] at hknown
        cases hknown
      have hone := hnone.add (List.nodup_singleton a)
        (fun a' ha' => (List.mem_singleton.mp ha') ▸ fresh_attempts a (List.mem_map.mpr ⟨_, hpair, rfl⟩))
        (g := attempts') fun a' => (howners i a').trans (or_congr_right ?_)
      · exact hone
      · rw [List.mem_singleton]
        refine ⟨fun ha' => ?_, fun heq => heq ▸ hpair⟩
        exact congrArg Prod.snd (List.inj_on_of_nodup_map nodup ha' hpair rfl)

/-- A retry takes one from its Assignment for the Attempt it creates. -/
theorem retried (h : Balanced assignments attempts) {i : AssignmentId} {budget : AssignmentBudget} {a : AttemptId}
    (row : assignments i = some budget) (affordable : 0 < budget.retries_remaining) (fresh : attempts a = none) :
    Balanced (Function.update assignments i (some { budget with retries_remaining := budget.retries_remaining - 1 }))
      (Function.update attempts a (some i)) := by
  have hparents : ∀ j k, (∃ b, Function.update assignments i
      (some { budget with retries_remaining := budget.retries_remaining - 1 }) k = some b ∧
        b.parent_assignment_id = some j) ↔ ∃ b, assignments k = some b ∧ b.parent_assignment_id = some j := by
    intro j k
    rcases eq_or_ne k i with rfl | hne
    · simp [row]
    · simp [hne]
  have hknown : ∀ k, (assignments k).isSome → (Function.update assignments i
      (some { budget with retries_remaining := budget.retries_remaining - 1 }) k).isSome := by
    intro k hk
    rcases eq_or_ne k i with rfl | hne
    · simp
    · simpa [hne] using hk
  refine ⟨fun k child q hk hparent => ?_, fun a' j ha' => ?_, fun j b hb => ?_, fun j b hb => ?_⟩
  · obtain ⟨b, hb, hq⟩ := (hparents q k).mp ⟨child, hk, hparent⟩
    exact hknown q (h.parent_known k b q hb hq)
  · rcases eq_or_ne a' a with rfl | hne
    · simp only [Function.update_self, Option.some.injEq] at ha'
      exact ha' ▸ hknown i (Option.isSome_of_eq_some row)
    · rw [Function.update_of_ne hne] at ha'
      exact hknown j (h.owner_known a' j ha')
  · rcases eq_or_ne j i with rfl | hne
    · obtain ⟨n, hn, hbalance⟩ := h.children j budget row
      simp only [Function.update_self, Option.some.injEq] at hb
      subst hb
      exact ⟨n, hn.congr (hparents j), hbalance⟩
    · rw [Function.update_of_ne hne] at hb
      obtain ⟨n, hn, hbalance⟩ := h.children j b hb
      exact ⟨n, hn.congr (hparents j), hbalance⟩
  · rcases eq_or_ne j i with rfl | hne
    · obtain ⟨hle, hn⟩ := h.retries j budget row
      simp only [Function.update_self, Option.some.injEq] at hb
      subst hb
      refine ⟨Nat.le_trans (Nat.sub_le _ _) hle, ?_⟩
      have hadd := hn.add (List.nodup_singleton a) (by simpa using fresh)
        (g := Function.update attempts a (some j)) fun a' => ?_
      · convert hadd using 1
        simp only [List.length_singleton]
        omega
      · rcases eq_or_ne a' a with rfl | hne
        · simp
        · simp [hne]
    · rw [Function.update_of_ne hne] at hb
      obtain ⟨hle, hn⟩ := h.retries j b hb
      refine ⟨hle, hn.congr fun a' => ?_⟩
      rcases eq_or_ne a' a with rfl | hne'
      · simp [fresh, hne.symm]
      · simp [hne']

end Balanced

namespace WavesAdmitted

theorem same (h : WavesAdmitted db)
    (waves : db'.delegation_waves.view DelegationWave.parent = db.delegation_waves.view DelegationWave.parent)
    (members : db'.delegation_wave_members.view DelegationWaveMember.child_member_id =
      db.delegation_wave_members.view DelegationWaveMember.child_member_id)
    (limit : db'.task.max_wave_members = db.task.max_wave_members) (later : db.lanes.Later db'.lanes) :
    WavesAdmitted db' := by
  refine ⟨fun key child hkey => ?_, fun w parent hw => ?_⟩
  · rw [members] at hkey
    rw [waves]
    exact h.member_wave key child hkey
  · rw [waves] at hw
    obtain ⟨children, hchildren⟩ := h.admitted w parent hw
    obtain ⟨rev, hrev, hdirect⟩ := hchildren.direct
    obtain ⟨rev', hrev', rfl⟩ := later.revisions _ rev hrev
    exact ⟨children, fun o => (congrFun members _).trans (hchildren.rows o), hchildren.nonempty,
      limit ▸ hchildren.at_most, hchildren.distinct, rev, hrev', hdirect⟩

end WavesAdmitted

section Delegation

variable {authority : NodeOperationAuthority} {request : DelegateRequest} {wave_id : WaveId} {wait_id : WaitId}
  {rev : TeamRevision} {members : List PreparedWaveMember} {rows consumed dispatched : TaskDb}

/-- What a committed fan-out leaves of the Wave rows. -/
theorem DelegationCommitted.wave_rows (hauth : AuthorityHolds db authority)
    (h : DelegationCommitted db authority request wave_id wait_id rev members rows consumed dispatched db')
    (w : WaveId) (order_index : Nat) (child : MemberId) :
    db'.delegation_wave_members.view DelegationWaveMember.child_member_id (w, order_index) = some child ↔
      db.delegation_wave_members.view DelegationWaveMember.child_member_id (w, order_index) = some child ∨
        w = wave_id ∧ request.child_ids[order_index]? = some child := by
  rw [Table.view_insertAll (h.tables hauth).wave_members, ← h.children]
  refine or_congr_right ⟨?_, ?_⟩
  · rintro ⟨row, hrow, hkey, rfl⟩
    obtain ⟨⟨member, order⟩, hmember, rfl⟩ := List.mem_map.mp hrow
    cases hkey
    exact ⟨rfl, by simp [List.mem_zipIdx_iff_getElem?.mp hmember, new_wave_member]⟩
  · rintro ⟨rfl, hchild⟩
    rw [List.getElem?_map, Option.map_eq_some_iff] at hchild
    obtain ⟨member, hmember, rfl⟩ := hchild
    exact ⟨_, List.mem_map.mpr ⟨(member, order_index), List.mem_zipIdx_iff_getElem?.mpr hmember, rfl⟩, rfl, rfl⟩

/-- A Wave delegates to direct children of its own Team revision. -/
theorem DelegationCommitted.own_children (hsound : Sound db) (hauth : AuthorityHolds db authority)
    (h : DelegationCommitted db authority request wave_id wait_id rev members rows consumed dispatched db') :
    ∃ own, db.team_revisions.get? authority.team_revision_id = some own ∧
      ∀ child ∈ request.child_ids, child ∈ own.children authority.member_id := by
  have hselection := hsound.lanes.selection
  obtain ⟨own, hown, howns⟩ := hselection.own_selected _ _ hauth.lanes_holds.dispatch
  obtain ⟨rev', hrev', hselects⟩ := hauth.selected
  obtain rfl : rev = rev' := Option.some.inj (h.team.symm.trans hrev')
  obtain ⟨s, hs, -, hbasis⟩ := TeamRevision.selects_iff.mp hselects
  obtain ⟨s₀, hs₀, -, hbasis₀⟩ := TeamRevision.selects_iff.mp howns
  have hagree := hselection.history.agree _ own _ rev hown hrev'
  obtain ⟨-, hchildren, -⟩ := hagree _ s₀ s hs₀ hs (hbasis₀.trans hbasis.symm)
  have hwf := hselection.history.well_formed _ rev hrev'
  refine ⟨own, hauth.team_revision ▸ hown, fun child hchild => ?_⟩
  rw [← h.children] at hchild
  obtain ⟨member, hmember, rfl⟩ := List.mem_map.mp hchild
  obtain ⟨hselected, hparent⟩ := h.direct member hmember
  have hmem : member.target.member_id ∈ rev.children authority.dispatch.member_id :=
    hwf.mem_children_iff.mpr (TeamRevision.parent_eq_some_iff.mpr ⟨_, hselected, hauth.member ▸ hparent⟩)
  rw [hauth.member]
  exact hchildren.symm ▸ hmem

/-- A new Wave is admitted, and the others stay as they were. -/
theorem WavesAdmitted.delegated (h : WavesAdmitted db) (hsound : Sound db) (hauth : AuthorityHolds db authority)
    (committed : DelegationCommitted db authority request wave_id wait_id rev members rows consumed dispatched db') :
    WavesAdmitted db' := by
  have htables := committed.tables hauth
  have hwaves : db'.delegation_waves.view DelegationWave.parent =
      Function.update (db.delegation_waves.view DelegationWave.parent) wave_id
        (some (authority.team_revision_id, authority.member_id)) := by
    rw [htables.frame, Table.view_set]
    rfl
  have hteams : db'.team_revisions = db.team_revisions := by rw [htables.frame]
  have hlimit : db'.task.max_wave_members = db.task.max_wave_members := by rw [htables.frame]
  have hfree : db.delegation_waves.view DelegationWave.parent wave_id = none := Table.view_eq_none.mpr htables.free_wave
  have hunused : ∀ order_index,
      db.delegation_wave_members.view DelegationWaveMember.child_member_id (wave_id, order_index) = none := by
    intro order_index
    by_contra hne
    obtain ⟨child, hchild⟩ := Option.ne_none_iff_exists'.mp hne
    have hsome := h.member_wave _ child hchild
    rw [hfree] at hsome
    cases hsome
  refine ⟨fun key child hkey => ?_, fun w parent hw => ?_⟩
  · rw [hwaves]
    rcases (committed.wave_rows hauth key.1 key.2 child).mp hkey with hkey | ⟨hwave, -⟩
    · have hknown := h.member_wave key child hkey
      rcases eq_or_ne key.1 wave_id with heq | hne
      · simp [heq]
      · simpa [hne] using hknown
    · simp [hwave]
  · rw [hwaves] at hw
    rcases eq_or_ne w wave_id with rfl | hne
    · rw [Function.update_self, Option.some.injEq] at hw
      subst hw
      refine ⟨request.child_ids, fun o => Option.ext fun child => ?_, request.nonempty, hlimit ▸ committed.at_most,
        request.unique, ?_⟩
      · rw [committed.wave_rows hauth, hunused]
        simp
      · rw [hteams]
        exact committed.own_children hsound hauth
    · rw [Function.update_of_ne hne] at hw
      obtain ⟨children, hchildren⟩ := h.admitted w parent hw
      refine ⟨children, fun o => Option.ext fun child => ?_, hchildren.nonempty, hlimit ▸ hchildren.at_most,
        hchildren.distinct, hteams ▸ hchildren.direct⟩
      rw [committed.wave_rows hauth, hchildren.rows]
      simp [hne]

/-- A committed fan-out takes from its Assignment what it creates. -/
theorem Balanced.delegation
    (h : Balanced (db.assignments.view Assignment.budget) (db.attempts.view Attempt.assignment_id))
    (hauth : AuthorityHolds db authority)
    (committed : DelegationCommitted db authority request wave_id wait_id rev members rows consumed dispatched db') :
    Balanced (db'.assignments.view Assignment.budget) (db'.attempts.view Attempt.assignment_id) := by
  have htables := committed.tables hauth
  obtain ⟨children, hinsert, haffordable, hassignments⟩ := htables.assignments
  obtain ⟨-, hfresh, hnodup⟩ := Table.insertAll_eq_some hinsert
  have hrow : db.assignments.view Assignment.budget authority.assignment_id = some authority.assignment.budget :=
    Table.view_eq_some.mpr ⟨_, hauth.assignment_row, rfl⟩
  refine h.delegated (members.map fun member => (member.assignment_id, member.attempt_id))
    { parent_assignment_id := some authority.assignment_id
      child_assignment_limit := db.task.assignment_budget.child_assignment_limit
      child_assignments_remaining := db.task.assignment_budget.child_assignments_remaining
      retry_limit := db.task.assignment_budget.retry_limit
      retries_remaining := db.task.assignment_budget.retries_remaining }
    hrow ?_ rfl rfl rfl ?_ ?_ ?_ (fun k b => ?_) (fun a i => ?_)
  · rw [List.length_map]
    exact haffordable
  · intro k hk
    simp only [List.map_map, List.mem_map, Function.comp_apply] at hk
    obtain ⟨member, hmember, rfl⟩ := hk
    exact Table.view_eq_none.mpr (hfresh _ (List.mem_map.mpr ⟨member, hmember, rfl⟩))
  · simpa [List.map_map, Function.comp_def] using hnodup
  · intro a ha
    simp only [List.map_map, List.mem_map, Function.comp_apply] at ha
    obtain ⟨member, hmember, rfl⟩ := ha
    exact Table.view_eq_none.mpr (htables.fresh_attempts member hmember)
  · rw [hassignments, Table.view_set]
    rcases eq_or_ne k authority.assignment_id with rfl | hne
    · rw [Function.update_self, Option.some.injEq, List.length_map]
      simp [Assignment.budget, eq_comm]
    · rw [Function.update_of_ne hne, Table.view_insertAll hinsert]
      simp only [List.mem_map, exists_exists_and_eq_and, List.map_map, Function.comp_apply, hne, false_and, false_or,
        ne_eq, not_false_eq_true, true_and]
      refine or_congr_right ⟨?_, ?_⟩
      · rintro ⟨member, hmember, hk, hb⟩
        exact ⟨⟨member, hmember, hk⟩, hb⟩
      · rintro ⟨⟨member, hmember, hk⟩, hb⟩
        exact ⟨member, hmember, hk, hb⟩
  · have hcaller : db.attempts.get? authority.attempt_id = some authority.attempt := hauth.lane.attempt_row
    have howner : authority.attempt.assignment_id = authority.assignment_id := hauth.attempt_assignment
    simp only [Table.view_eq_some, htables.attempts, List.mem_map, Prod.mk.injEq]
    constructor
    · rintro ⟨r, ⟨-, hr⟩ | ⟨rfl, rfl⟩ | ⟨member, hmember, rfl, rfl⟩, rfl⟩
      · exact .inl ⟨r, hr, rfl⟩
      · exact .inl ⟨_, hcaller, rfl⟩
      · exact .inr ⟨member, hmember, rfl, rfl⟩
    · rintro (⟨r, hr, rfl⟩ | ⟨member, hmember, rfl, rfl⟩)
      · rcases eq_or_ne a authority.attempt_id with rfl | hne
        · obtain rfl := Option.some.inj (hcaller.symm.trans hr)
          exact ⟨_, .inr (.inl ⟨rfl, rfl⟩), rfl⟩
        · exact ⟨r, .inl ⟨hne, hr⟩, rfl⟩
      · exact ⟨_, .inr (.inr ⟨member, hmember, rfl, rfl⟩), rfl⟩

end Delegation

/-- What has been spent in a state, and by whom. -/
structure BudgetsKept (db : TaskDb) : Prop where
  balanced : Balanced (db.assignments.view Assignment.budget) (db.attempts.view Attempt.assignment_id)
  waves : WavesAdmitted db

theorem BudgetsKept.start {input : RuntimeBootstrapInput} {drawn : Option DrawnDispatchRequest}
    (h : start_task input drawn = .ok db) : BudgetsKept db := by
  obtain ⟨-, request, basis, -, -, -, hdb⟩ := start_task_rows h
  have hassignments : db.assignments.view Assignment.budget =
      Function.update (fun _ => none) input.assignment_id (some (new_root_assignment input).budget) := by
    rw [hdb, new_task_db, Table.view_set, Table.view_empty]
  have hattempts : db.attempts.view Attempt.assignment_id =
      Function.update (fun _ => none) input.attempt_id (some input.assignment_id) := by
    rw [hdb, Table.view_set, Table.view_empty]
    rfl
  have hwaves : db.delegation_waves = ∅ := by rw [hdb, new_task_db]
  have hmembers : db.delegation_wave_members = ∅ := by rw [hdb, new_task_db]
  refine ⟨?_, fun key child hkey => ?_, fun w parent hw => ?_⟩
  · rw [hassignments, hattempts]
    exact .root rfl rfl rfl
  · rw [hmembers, Table.view_empty] at hkey
    cases hkey
  · rw [hwaves, Table.view_empty] at hw
    cases hw

theorem BudgetsKept.committed (h : BudgetsKept db) (hsound : Sound db) (hcommitted : Committed controller db t db') :
    BudgetsKept db' := by
  have hlater := (hcommitted.steps hsound).later hsound.lanes
  cases hcommitted.budgets with
  | same budgets =>
    exact ⟨budgets.assignments ▸ budgets.attempts ▸ h.balanced,
      h.waves.same budgets.waves budgets.members budgets.limit hlater⟩
  | delegated auth committed =>
    exact ⟨h.balanced.delegation auth committed, h.waves.delegated hsound auth committed⟩
  | @retried authority retry_attempt_id _ auth budget fresh attempts rest =>
    have hrow : db.assignments.view Assignment.budget authority.assignment_id = some authority.assignment.budget :=
      Table.view_eq_some.mpr ⟨_, auth.assignment_row, rfl⟩
    refine ⟨?_, h.waves.same rest.waves rest.members rest.limit hlater⟩
    have hretried := h.balanced.retried hrow budget (Table.view_eq_none.mpr fresh)
    have hassignments := rest.assignments
    rw [Table.view_set] at hassignments
    rw [hassignments, attempts, Table.view_set]
    exact hretried

theorem Controller.budgets_kept (h : controller.runtime.Reachable db) : BudgetsKept db :=
  Controller.invariant h (fun _ _ _ => BudgetsKept.start) fun _ _ _ hsound hcommitted hkept =>
    hkept.committed hsound hcommitted

/-- Every Assignment has spent exactly what was created on its account, and every Wave is one that it could afford. -/
structure BudgetsConserved (db : TaskDb) : Prop where
  children : ∀ i assignment, db.assignments.get? i = some assignment →
    assignment.child_assignments_remaining +
      (db.assignments.select fun _ child => child.parent_assignment_id == some i).length =
        assignment.child_assignment_limit
  retries : ∀ i assignment, db.assignments.get? i = some assignment →
    assignment.retries_remaining ≤ assignment.retry_limit ∧
      (db.attempts.select fun _ attempt => attempt.assignment_id == i).length =
        1 + (assignment.retry_limit - assignment.retries_remaining)
  waves : ∀ w wave, db.delegation_waves.get? w = some wave →
    ∃ children, WaveAdmitted db w (wave.team_revision_id, wave.parent_member_id) children

/-- What one transaction may do to the budgets. -/
structure BudgetStep (db db' : TaskDb) : Prop where
  limits : ∀ i assignment, db.assignments.get? i = some assignment → ∃ assignment',
    db'.assignments.get? i = some assignment' ∧
      assignment'.child_assignment_limit = assignment.child_assignment_limit ∧
      assignment'.retry_limit = assignment.retry_limit
  /-- Nobody to whom a new Wave delegates was at work. -/
  available : ∀ w order_index member, db.delegation_waves.get? w = none →
    db'.delegation_wave_members.get? (w, order_index) = some member →
    ∀ i assignment, db.assignments.get? i = some assignment → assignment.terminal_outcome = none →
      assignment.member_id ≠ member.child_member_id

theorem BudgetsKept.conserved (h : BudgetsKept db) : BudgetsConserved db := by
  refine ⟨fun i assignment hi => ?_, fun i assignment hi => ?_, fun w wave hw => ?_⟩
  · obtain ⟨n, hn, hbalance⟩ := h.balanced.children i _ (Table.view_eq_some.mpr ⟨_, hi, rfl⟩)
    have hlength := Table.select_length_eq
      (q := fun _ (child : AssignmentBudget) => child.parent_assignment_id == some i) (by simpa using hn)
    have hcount : (db.assignments.select fun _ child => child.parent_assignment_id == some i).length = n := hlength
    rw [hcount]
    exact hbalance
  · obtain ⟨hle, hn⟩ := h.balanced.retries i _ (Table.view_eq_some.mpr ⟨_, hi, rfl⟩)
    have hlength := Table.select_length_eq (q := fun _ owner => owner == i) (by simpa using hn)
    exact ⟨hle, hlength⟩
  · exact h.waves.admitted w _ (Table.view_eq_some.mpr ⟨wave, hw, rfl⟩)

theorem BudgetMoves.limits (h : BudgetMoves db db') {i : AssignmentId} {assignment : Assignment}
    (hi : db.assignments.get? i = some assignment) : ∃ assignment', db'.assignments.get? i = some assignment' ∧
      assignment'.child_assignment_limit = assignment.child_assignment_limit ∧
      assignment'.retry_limit = assignment.retry_limit := by
  cases h with
  | same budgets =>
    have hbudget := congrFun budgets.assignments i
    rw [Table.view, Table.view, hi, Option.map_some, Option.map_eq_some_iff] at hbudget
    obtain ⟨assignment', hi', hsame⟩ := hbudget
    exact ⟨assignment', hi', congrArg AssignmentBudget.child_assignment_limit hsame,
      congrArg AssignmentBudget.retry_limit hsame⟩
  | @delegated authority _ _ _ _ _ _ _ _ auth committed =>
    obtain ⟨children, hinsert, -, hassignments⟩ := (committed.tables auth).assignments
    rw [hassignments]
    rcases eq_or_ne i authority.assignment_id with rfl | hne
    · obtain rfl := Option.some.inj (auth.assignment_row.symm.trans hi)
      exact ⟨_, Table.get?_set_self .., rfl, rfl⟩
    · rw [Table.get?_set_ne _ hne]
      exact ⟨assignment, ((Table.insertAll_eq_some hinsert).1 i assignment).mpr (.inl hi), rfl, rfl⟩
  | @retried authority _ _ auth _ _ _ rest =>
    have hbudget := congrFun rest.assignments i
    rw [Table.view_set] at hbudget
    rcases eq_or_ne i authority.assignment_id with rfl | hne
    · obtain rfl := Option.some.inj (auth.assignment_row.symm.trans hi)
      rw [Function.update_self, Table.view_eq_some] at hbudget
      obtain ⟨assignment', hi', hsame⟩ := hbudget
      exact ⟨assignment', hi', congrArg AssignmentBudget.child_assignment_limit hsame,
        congrArg AssignmentBudget.retry_limit hsame⟩
    · rw [Function.update_of_ne hne, Table.view, Table.view, hi, Option.map_some, Option.map_eq_some_iff] at hbudget
      obtain ⟨assignment', hi', hsame⟩ := hbudget
      exact ⟨assignment', hi', congrArg AssignmentBudget.child_assignment_limit hsame,
        congrArg AssignmentBudget.retry_limit hsame⟩

/-- Only a fan-out writes new Wave rows, and it looks first whether the Members are free. -/
theorem BudgetsKept.available (h : BudgetsKept db) (hmoves : BudgetMoves db db') {w : WaveId} {order_index : Nat}
    {member : DelegationWaveMember} (hnew : db.delegation_waves.get? w = none)
    (hmember : db'.delegation_wave_members.get? (w, order_index) = some member) {i : AssignmentId}
    {assignment : Assignment} (hi : db.assignments.get? i = some assignment)
    (hopen : assignment.terminal_outcome = none) : assignment.member_id ≠ member.child_member_id := by
  have hview : db'.delegation_wave_members.view DelegationWaveMember.child_member_id (w, order_index) =
      some member.child_member_id := Table.view_eq_some.mpr ⟨member, hmember, rfl⟩
  have hunused : ∀ child,
      db.delegation_wave_members.view DelegationWaveMember.child_member_id (w, order_index) ≠ some child := by
    intro child hchild
    have hknown := h.waves.member_wave _ child hchild
    rw [Table.view_eq_none.mpr hnew] at hknown
    cases hknown
  cases hmoves with
  | same budgets => exact (hunused _ (budgets.members ▸ hview)).elim
  | retried _ _ _ _ rest => exact (hunused _ (rest.members ▸ hview)).elim
  | delegated auth committed =>
    obtain hold | ⟨rfl, hchild⟩ := (committed.wave_rows auth w order_index _).mp hview
    · exact (hunused _ hold).elim
    · rw [← committed.children, List.getElem?_map, Option.map_eq_some_iff] at hchild
      obtain ⟨prepared, hprepared, htarget⟩ := hchild
      rw [← htarget]
      exact committed.available prepared (List.mem_of_getElem? hprepared) i assignment hi hopen

/-- Budgets are conserved: what was spent was created, what failed spent nothing, and a Wave has as many distinct
    direct children as the Task allows, none of whom was at work when it was created. -/
theorem budgets_conserved (h : controller.runtime.Reachable db) :
    BudgetsConserved db ∧ ∀ (t : Transaction) db', t.commit controller db = some db' → BudgetStep db db' := by
  have hkept := Controller.budgets_kept h
  refine ⟨hkept.conserved, fun t db' hcommit => ?_⟩
  have hmoves := (commit_success (Controller.sound h) hcommit).budgets
  exact ⟨fun _ _ hi => hmoves.limits hi, fun _ _ _ hnew hmember _ _ hi hopen =>
    hkept.available hmoves hnew hmember hi hopen⟩

/-- A lead that delegates to one Manager, whose first Attempt asks for a retry. -/
def child_retried : List Move :=
  [.accept_start 1 0 0, .delegate 1 2 2, .accept_start 2 0 0,
    .retry 2 1 3]

theorem budgets_conserved_child_retried :
    BudgetsConserved (replayed child_retried (by decide +kernel)) ∧ ∀ (t : Transaction) db',
      t.commit plain_controller (replayed child_retried (by decide +kernel)) = some db' →
        BudgetStep (replayed child_retried (by decide +kernel)) db' :=
  budgets_conserved (replayed_reachable _)

end OhMySubagents
