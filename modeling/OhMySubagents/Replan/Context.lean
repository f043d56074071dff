import OhMySubagents.Replan.Planning.Branches
import OhMySubagents.TaskDb
import OhMySubagents.Team.Currentness

open Relational

namespace OhMySubagents

def planned_member (rev : TeamRevision) (selection : TeamRevisionMember)
    (configuration : MemberConfiguration) : PlannedMember where
  member_id := selection.member_id
  parent_member_id := selection.parent_member_id
  content := configuration.content
  configuration_id := selection.member_configuration_id
  branch_basis_id := selection.member_branch_basis_id
  source_configuration_id := some selection.member_configuration_id
  children := rev.children selection.member_id

/-- Selections joined with the configurations they name. -/
def joined_members (configurations : Table ConfigurationId MemberConfiguration) (rev : TeamRevision) :
    List PlannedMember :=
  rev.members.filterMap fun selection =>
    ((configurations.get? selection.member_configuration_id).filter fun configuration =>
      configuration.member_id == selection.member_id).map (planned_member rev selection)

/-- Read the complete Team of one revision as mutable entries. -/
def read_planned_members (configurations : Table ConfigurationId MemberConfiguration)
    (rev : TeamRevision) : Result PlannedMembers := do
  let rows := joined_members configurations rev
  let members : PlannedMembers := rows.foldl (fun members member => members.set member.member_id member) ∅
  require (rows.all fun member => member.parent_member_id.all fun parent => (members.get? parent).isSome)
    (conflict_error "current Team selection contains a missing parent")
  require (rows.length == rev.members.length && rows.length == members.entries.length)
    (conflict_error "current Team selection is incomplete")
  return members

/-- A filter that drops nothing keeps every element. -/
private theorem filterMap_complete {α β : Type} {f : α → Option β} {l : List α}
    (h : (l.filterMap f).length = l.length) : ∀ a ∈ l, (f a).isSome := by
  induction l with
  | nil => simp
  | cons a l ih =>
    have hle := List.length_filterMap_le f l
    rw [List.filterMap_cons] at h
    cases ha : f a with
    | none =>
      rw [ha] at h
      simp only [List.length_cons] at h
      omega
    | some b =>
      rw [ha] at h
      intro x hx
      rcases List.mem_cons.mp hx with rfl | hx
      · rw [ha]; rfl
      · exact ih (by simpa using h) x hx

private theorem get?_foldl_set (rows : List PlannedMember) (members : PlannedMembers)
    (hnodup : (rows.map PlannedMember.member_id).Nodup) (m : MemberId) (r : PlannedMember) :
    (rows.foldl (fun members member => members.set member.member_id member) members).get? m = some r ↔
      (r ∈ rows ∧ r.member_id = m) ∨
        (m ∉ rows.map PlannedMember.member_id ∧ members.get? m = some r) := by
  induction rows generalizing members with
  | nil => simp
  | cons row rows ih =>
    rw [List.map_cons, List.nodup_cons] at hnodup
    rw [List.foldl_cons, ih _ hnodup.2, Table.get?_set]
    by_cases hm : m = row.member_id
    · subst hm
      simp only [if_true, List.mem_cons, List.map_cons, true_or, not_true_eq_false, false_and, or_false,
        Option.some.injEq]
      constructor
      · rintro (⟨hr, hid⟩ | ⟨-, rfl⟩)
        · exact ⟨.inr hr, hid⟩
        · exact ⟨.inl rfl, rfl⟩
      · rintro ⟨rfl | hr, hid⟩
        · exact .inr ⟨hnodup.1, rfl⟩
        · exact .inl ⟨hr, hid⟩
    · simp only [List.mem_cons, List.map_cons, hm, false_or]
      constructor
      · rintro (⟨hr, hid⟩ | hrest)
        · exact .inl ⟨.inr hr, hid⟩
        · exact .inr hrest
      · rintro (⟨rfl | hr, hid⟩ | hrest)
        · exact absurd hid.symm hm
        · exact .inl ⟨hr, hid⟩
        · exact .inr hrest

/-- When no selection is dropped, the joined rows name the selected Members in order. -/
private theorem joined_members_ids {configurations : Table ConfigurationId MemberConfiguration} {rev : TeamRevision}
    (hcomplete : ∀ s ∈ rev.members, (((configurations.get? s.member_configuration_id).filter fun configuration =>
      configuration.member_id == s.member_id).map (planned_member rev s)).isSome) :
    (joined_members configurations rev).map PlannedMember.member_id =
      rev.members.map TeamRevisionMember.member_id := by
  have hrows : ∀ selections : List TeamRevisionMember,
      (∀ s ∈ selections, (((configurations.get? s.member_configuration_id).filter fun configuration =>
        configuration.member_id == s.member_id).map (planned_member rev s)).isSome) →
      (selections.filterMap fun s => ((configurations.get? s.member_configuration_id).filter fun configuration =>
        configuration.member_id == s.member_id).map (planned_member rev s)).map PlannedMember.member_id =
      selections.map TeamRevisionMember.member_id := by
    intro selections hsome
    induction selections with
    | nil => rfl
    | cons s selections ih =>
      obtain ⟨r, hr⟩ := Option.isSome_iff_exists.mp (hsome s List.mem_cons_self)
      rw [List.filterMap_cons, hr, List.map_cons, List.map_cons, ih fun a ha => hsome a (List.mem_cons_of_mem _ ha)]
      obtain ⟨c, -, rfl⟩ := Option.map_eq_some_iff.mp hr
      rfl
  exact hrows rev.members hcomplete

/-- A revision that was read has a configuration of the Member itself behind each selection. -/
theorem read_planned_members_configured {configurations : Table ConfigurationId MemberConfiguration}
    {rev : TeamRevision} {members : PlannedMembers} (h : read_planned_members configurations rev = .ok members)
    {m : MemberId} {s : TeamRevisionMember} (hs : rev.select m = some s) :
    ∃ c, configurations.get? s.member_configuration_id = some c ∧ c.member_id = m := by
  unfold read_planned_members at h
  simp only [bind_eq_ok_iff, require_eq_ok_iff, Bool.and_eq_true, beq_iff_eq] at h
  obtain ⟨_, -, _, ⟨hlength, -⟩, -⟩ := h
  obtain ⟨r, hr⟩ := Option.isSome_iff_exists.mp (filterMap_complete hlength s (TeamRevision.mem_of_select hs))
  obtain ⟨c, hc, -⟩ := Option.map_eq_some_iff.mp hr
  rw [Option.filter_eq_some_iff, beq_iff_eq] at hc
  exact ⟨c, hc.1, hc.2.trans (TeamRevision.select_member_id hs)⟩

/-- A well-formed revision whose configurations are there is read. -/
theorem read_planned_members_ok {configurations : Table ConfigurationId MemberConfiguration} {rev : TeamRevision}
    (hrev : rev.WellFormed) (hrows : ∀ m s, rev.select m = some s →
      ∃ c, configurations.get? s.member_configuration_id = some c ∧ c.member_id = m) :
    ∃ members, read_planned_members configurations rev = .ok members := by
  have hids := @joined_members_ids configurations rev fun s hs => by
    obtain ⟨c, hc, hid⟩ := hrows _ s (TeamRevision.select_of_mem hrev.nodup hs)
    simp [hc, hid]
  have hnodup : ((joined_members configurations rev).map PlannedMember.member_id).Nodup := by
    rw [hids]
    exact hrev.nodup
  have hget := get?_foldl_set (joined_members configurations rev) ∅ hnodup
  generalize hmembers : ((joined_members configurations rev).foldl
    (fun members member => members.set member.member_id member) (∅ : PlannedMembers)) = members at hget
  simp only [Table.get?_empty, reduceCtorEq, and_false, or_false] at hget
  have hkeys : ∀ m, m ∈ members.keys ↔ m ∈ rev.members.map TeamRevisionMember.member_id := by
    intro m
    rw [← hids, ← AList.mem_keys, ← AList.lookup_isSome, Option.isSome_iff_exists, List.mem_map]
    exact exists_congr (hget m)
  have hlength : members.keys.length = rev.members.length := by
    have hperm := (List.perm_ext_iff_of_nodup (AList.keys_nodup members) hrev.nodup).mpr hkeys
    rw [hperm.length_eq, List.length_map]
  have hentries : members.keys.length = members.entries.length := by
    simp [AList.keys, List.keys]
  have hcount : (joined_members configurations rev).length = rev.members.length := by
    have hlength := congrArg List.length hids
    rwa [List.length_map, List.length_map] at hlength
  refine ⟨members, ?_⟩
  unfold read_planned_members
  simp only [hmembers]
  refine bind_eq_ok_iff.mpr ⟨(), require_eq_ok_iff.mpr ?_, bind_eq_ok_iff.mpr ⟨(), require_eq_ok_iff.mpr ?_, rfl⟩⟩
  · rw [List.all_eq_true]
    intro r hr
    rw [Option.all_eq_true]
    intro p hp
    -- the row is a selection's, whose parent is selected
    obtain ⟨s, hs, hjoin⟩ := List.mem_filterMap.mp hr
    obtain ⟨c, -, rfl⟩ := Option.map_eq_some_iff.mp hjoin
    have hparent : rev.parent s.member_id = some p := by
      rw [TeamRevision.parent, TeamRevision.select_of_mem hrev.nodup hs]
      exact hp
    obtain ⟨sp, hsp⟩ := Option.isSome_iff_exists.mp (hrev.closed _ p hparent)
    rw [Table.get?, AList.lookup_isSome, AList.mem_keys, hkeys, ← TeamRevision.select_member_id hsp]
    exact List.mem_map_of_mem (TeamRevision.mem_of_select hsp)
  · rw [Bool.and_eq_true, beq_iff_eq, beq_iff_eq]
    exact ⟨hcount, by rw [hcount, ← hlength, hentries]⟩

/-- The loaded entries are exactly the selections of the revision with their configurations. -/
theorem read_planned_members_get? {configurations : Table ConfigurationId MemberConfiguration}
    {rev : TeamRevision} {members : PlannedMembers} (hrev : rev.WellFormed)
    (h : read_planned_members configurations rev = .ok members) (m : MemberId) (r : PlannedMember) :
    members.get? m = some r ↔ ∃ s c, rev.select m = some s ∧
      configurations.get? s.member_configuration_id = some c ∧ r = planned_member rev s c := by
  unfold read_planned_members at h
  rw [bind_eq_ok_iff] at h
  obtain ⟨_, -, h⟩ := h
  rw [bind_eq_ok_iff] at h
  obtain ⟨_, hlength, h⟩ := h
  rw [require_eq_ok_iff, Bool.and_eq_true, beq_iff_eq, beq_iff_eq] at hlength
  cases h
  have hcomplete := filterMap_complete hlength.1
  have hjoin : ∀ r, r ∈ joined_members configurations rev ↔ ∃ s ∈ rev.members, ∃ c,
      configurations.get? s.member_configuration_id = some c ∧ c.member_id = s.member_id ∧
        r = planned_member rev s c := by
    intro r
    unfold joined_members
    rw [List.mem_filterMap]
    constructor
    · rintro ⟨s, hs, hr⟩
      rw [Option.map_eq_some_iff] at hr
      obtain ⟨c, hc, rfl⟩ := hr
      rw [Option.filter_eq_some_iff] at hc
      exact ⟨s, hs, c, hc.1, by simpa using hc.2, rfl⟩
    · rintro ⟨s, hs, c, hc, hid, rfl⟩
      exact ⟨s, hs, by simp [hc, hid]⟩
  have hids := joined_members_ids hcomplete
  rw [get?_foldl_set _ _ (by rw [hids]; exact hrev.nodup)]
  simp only [Table.get?_empty, reduceCtorEq, and_false, or_false]
  rw [hjoin]
  constructor
  · rintro ⟨⟨s, hs, c, hc, -, rfl⟩, rfl⟩
    exact ⟨s, c, TeamRevision.select_of_mem hrev.nodup hs, hc, rfl⟩
  · rintro ⟨s, c, hs, hc, rfl⟩
    have hmem := TeamRevision.mem_of_select hs
    refine ⟨⟨s, hmem, c, hc, ?_, rfl⟩, TeamRevision.select_member_id hs⟩
    have hsome := hcomplete s hmem
    rw [Option.isSome_map, Option.isSome_iff_exists] at hsome
    obtain ⟨c', hc'⟩ := hsome
    rw [Option.filter_eq_some_iff, hc] at hc'
    obtain ⟨hcc, hid⟩ := hc'
    cases hcc
    simpa using hid

end OhMySubagents
