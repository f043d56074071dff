import OhMySubagents.Replan.Planning.Requests
import OhMySubagents.Replan.Successor
import OhMySubagents.Replan.Persistence

open Relational

namespace OhMySubagents

theorem CompleteTree.clone_members {loaded : PlannedMembers} {root : MemberId} (h : CompleteTree loaded root) :
    CompleteTree (clone_members loaded) root :=
  h.congr (fun m => by rw [get?_clone_members, Option.isSome_map]) (parent_clone_members loaded)
    (children_clone_members loaded)

/-- What an accepted replan did to the loaded Team, Member by Member, and what it reports. -/
structure ReplanOutcome (loaded : PlannedMembers) (root caller : MemberId) (request : ReplanRequest)
    (mutation : ReplanMutation) : Prop where
  same_root : mutation.root_member_id = root
  valid : ValidTeam mutation.members root
  retained : ∀ m r0 r, loaded.get? m = some r0 → mutation.members.get? m = some r →
    r.is_new = false ∧ r.parent_member_id = r0.parent_member_id ∧
      r.content = patched_content (request.fields_for m) r0.content ∧
      (r.content = r0.content → r.configuration_id = r0.configuration_id) ∧
      ∃ new, r.children = (r0.children.filter fun c => (mutation.members.get? c).isSome) ++ new ∧
        ∀ c ∈ new, c ∈ mutation.created_ids
  named : ∀ m, request.fields_for m ≠ none → Forest.Below loaded.parent m caller
  placed : ∀ m ∈ mutation.created_ids, Forest.Below mutation.members.parent m caller
  created : ∀ m, m ∈ mutation.created_ids ↔ loaded.get? m = none ∧ (mutation.members.get? m).isSome
  updated : ∀ m, m ∈ mutation.updated_ids ↔
    ∃ r0 r, loaded.get? m = some r0 ∧ mutation.members.get? m = some r ∧ r.content ≠ r0.content
  removed : ∀ m, m ∈ mutation.removed_ids ↔ (loaded.get? m).isSome ∧ mutation.members.get? m = none
  created_nodup : mutation.created_ids.Nodup
  updated_nodup : mutation.updated_ids.Nodup
  removed_nodup : mutation.removed_ids.Nodup

/-- A path that climbs from a retained Member through the loaded Team still leads upwards. -/
theorem belowOrEq_successor {loaded members : PlannedMembers} {root caller : MemberId} {draws : RefreshDraws}
    (hclosed : ParentClosed loaded) (hspec : Replanned loaded root caller draws members) {s m : MemberId}
    {rs : PlannedMember} (hs : members.get? s = some rs) (hold : rs.is_new = false)
    (hpath : Forest.BelowOrEq loaded.parent s m) : Forest.BelowOrEq members.parent s m := by
  induction hpath using Relation.ReflTransGen.head_induction_on generalizing rs with
  | refl => exact .refl
  | head hstep hrest ih =>
    rename_i a b
    obtain ⟨r0, hr0, hret⟩ := hspec.retained a rs hs hold
    obtain ⟨r0', hr0', hparent⟩ := PlannedMembers.parent_eq_some_iff.mp hstep
    obtain rfl := Option.some.inj (hr0.symm.trans hr0')
    have hlink : members.parent a = some b :=
      PlannedMembers.parent_eq_some_iff.mpr ⟨rs, hs, hret.parent.trans hparent⟩
    obtain ⟨rb, hrb⟩ := Option.isSome_iff_exists.mp (hspec.tree.closed a b hlink)
    refine .head hlink (ih hrb ?_)
    by_contra hnew
    obtain ⟨hnone, -⟩ := hspec.fresh b rb hrb (by simpa using hnew)
    have hsome := hclosed a b hstep
    rw [hnone] at hsome
    cases hsome

/-- A new Member stands below the caller: climbing from it, the first retained Member is in the caller's branch. -/
private theorem new_below {loaded members : PlannedMembers} {root caller : MemberId} {draws : RefreshDraws}
    (hclosed : ParentClosed loaded) (hspec : Replanned loaded root caller draws members)
    (hgrown : ∀ m r, members.get? m = some r → r.is_new = true → ∃ p, r.parent_member_id = some p ∧
      ∀ rp, members.get? p = some rp → rp.is_new = false → Forest.BelowOrEq loaded.parent p caller)
    {m : MemberId} {r : PlannedMember} (hr : members.get? m = some r) (hnew : r.is_new = true) :
    Forest.Below members.parent m caller := by
  have hpath := hspec.tree.rooted (show (members.get? m).isSome by simp [hr])
  induction hpath using Relation.ReflTransGen.head_induction_on generalizing r with
  | refl =>
    obtain ⟨r', hr', hroot⟩ := hspec.tree.root_parent
    obtain rfl := Option.some.inj (hr.symm.trans hr')
    obtain ⟨-, -, -, -, hparent⟩ := hspec.fresh _ r hr hnew
    exact absurd hroot hparent
  | head hstep _ ih =>
    obtain ⟨r', hr', hlink⟩ := PlannedMembers.parent_eq_some_iff.mp hstep
    obtain rfl := Option.some.inj (hr.symm.trans hr')
    obtain ⟨p, hp, hplaced⟩ := hgrown _ r hr hnew
    obtain rfl := Option.some.inj (hlink.symm.trans hp)
    obtain ⟨rp, hrp⟩ := Option.isSome_iff_exists.mp (hspec.tree.closed _ _ hstep)
    cases hpnew : rp.is_new with
    | true => exact .head hstep (ih hrp hpnew)
    | false => exact .head' hstep (belowOrEq_successor hclosed hspec hrp hpnew (hplaced rp hrp hpnew))

/-- Specification of an accepted replan on a valid Team. -/
theorem build_replan_mutation_outcome {loaded : PlannedMembers} {root caller : MemberId} {request : ReplanRequest}
    {draws : RefreshDraws} {mutation : ReplanMutation} (htree : CompleteTree loaded root) (hvalid : request.Valid)
    (h : build_replan_mutation loaded root caller request draws = .ok mutation) :
    ReplanOutcome loaded root caller request mutation := by
  obtain ⟨hroot, hspec⟩ := build_replan_mutation_spec htree.closed htree.links h
  unfold build_replan_mutation at h
  simp only [bind_eq_ok_iff] at h
  obtain ⟨descendants, hdesc, ⟨state, removed, affected⟩, hrequest, refreshed, hrefresh, _, hcheck, h⟩ := h
  cases h
  have hbase := loadedTeam_clone_members htree.closed htree.links
  have hcand := apply_replan_request_candidate hbase hdesc hrequest
  have heffect := apply_replan_request_effect hbase htree.clone_members hvalid hdesc hrequest
  obtain ⟨changed, -, rfl⟩ := refresh_branch_bases_spec hrefresh
  have hget : ∀ m r, Table.get? (state.members.mapRows (refresh_member draws changed)) m = some r ↔
      ∃ r1, state.members.get? m = some r1 ∧ refresh_member draws changed m r1 = r := by
    intro m r
    rw [Table.get?_mapRows, Option.map_eq_some_iff]
  have hnone : ∀ m, Table.get? (state.members.mapRows (refresh_member draws changed)) m = none ↔
      state.members.get? m = none := by
    intro m
    rw [Table.get?_mapRows, Option.map_eq_none_iff]
  have hloaded : ∀ m, (clone_members loaded).get? m = none ↔ loaded.get? m = none := by
    intro m
    rw [get?_clone_members, Option.map_eq_none_iff]
  have hremoved : ∀ m, m ∈ removed ↔ (loaded.get? m).isSome ∧ state.members.get? m = none := by
    intro m
    constructor
    · intro hm
      obtain ⟨hsome, hgone⟩ := heffect.dropped m hm
      rw [get?_clone_members, Option.isSome_map] at hsome
      exact ⟨hsome, hgone⟩
    · rintro ⟨hsome, hgone⟩
      obtain ⟨r0, hr0⟩ := Option.isSome_iff_exists.mp hsome
      by_contra hkept
      obtain ⟨r, hr, -⟩ := heffect.retained m _ (by rw [get?_clone_members, hr0, Option.map_some]) hkept
      rw [hgone] at hr
      cases hr
  have hcreated : ∀ m, m ∈ state.created ↔ loaded.get? m = none ∧ (state.members.get? m).isSome := by
    intro m
    constructor
    · intro hm
      obtain ⟨hfree, r, hr, -⟩ := heffect.created m hm
      exact ⟨(hloaded m).mp hfree, by simp [hr]⟩
    · rintro ⟨hfree, hsome⟩
      obtain ⟨r, hr⟩ := Option.isSome_iff_exists.mp hsome
      exact heffect.origin m r hr ((hloaded m).mpr hfree)
  -- one retained Member: the entry that the request left, seen through the refresh
  have hentry : ∀ m r0 r1, loaded.get? m = some r0 → state.members.get? m = some r1 →
      r1.is_new = false ∧ r1.content = patched_content (request.fields_for m) r0.content ∧
      r1.has_configuration_change = (r1.content != r0.content) ∧
      ∃ new, r1.children = (r0.children.filter fun c => decide (c ∉ removed)) ++ new ∧
        ∀ c ∈ new, c ∈ state.created := by
    intro m r0 r1 hr0 hr1
    have hkept : m ∉ removed := fun hm => by
      rw [(heffect.dropped m hm).2] at hr1
      cases hr1
    obtain ⟨r, hr, hrest⟩ := heffect.retained m _ (by rw [get?_clone_members, hr0, Option.map_some]) hkept
    obtain rfl := Option.some.inj (hr1.symm.trans hr)
    exact hrest
  refine
    { same_root := rfl
      valid := validate_complete_tree_valid hcheck
      retained := fun m r0 r hr0 hr => ?_
      named := fun m hm => parent_clone_members loaded ▸ heffect.named m hm
      placed := fun m hm => ?_
      created := fun m => by rw [hcreated, Table.get?_mapRows, Option.isSome_map]
      updated := fun m => ?_
      removed := fun m => by rw [hnone, hremoved]
      created_nodup := heffect.created_nodup
      updated_nodup := heffect.updated_nodup
      removed_nodup := heffect.removed_nodup }
  · obtain ⟨r1, hr1, rfl⟩ := (hget m r).mp hr
    obtain ⟨hold, hcontent, hflag, new, hchildren, hnew⟩ := hentry m r0 r1 hr0 hr1
    obtain ⟨r0', hr0', hret⟩ := hspec.retained m _ hr hold
    obtain rfl := Option.some.inj (hr0.symm.trans hr0')
    refine ⟨hold, hret.parent, hcontent, fun hsame => ?_, new, hchildren.trans ?_, hnew⟩
    · have hunchanged : r1.has_configuration_change = false := by
        rw [hflag, bne_eq_false_iff_eq]
        exact hsame
      have hid := hret.configuration
      rw [show (refresh_member draws changed m r1).has_configuration_change = false from hunchanged] at hid
      simpa using hid
    · congr 1
      refine List.filter_congr fun c hc => ?_
      have hlink := htree.links m c (PlannedMembers.mem_children_iff.mpr ⟨r0, hr0, hc⟩)
      obtain ⟨rc, hrc, -⟩ := PlannedMembers.parent_eq_some_iff.mp hlink
      rw [Table.get?_mapRows, Option.isSome_map, Bool.eq_iff_iff, decide_eq_true_eq, hremoved]
      simp [hrc, Option.isSome_iff_ne_none]
  · obtain ⟨-, r, hr, hnew⟩ := heffect.created m hm
    refine new_below htree.closed hspec (fun x rx hx hxnew => ?_) ((hget m _).mpr ⟨r, hr, rfl⟩) hnew
    obtain ⟨r1, hr1, rfl⟩ := (hget x rx).mp hx
    obtain ⟨-, -, p, hp, hwhy⟩ := hcand.fresh x r1 hr1 hxnew
    refine ⟨p, hp, fun rp hrp hold => ?_⟩
    obtain ⟨rp1, hrp1, rfl⟩ := (hget p rp).mp hrp
    rcases hwhy with ⟨q, rp', hrp', hpnew, -⟩ | hseed
    · obtain rfl := Option.some.inj (hrp1.symm.trans hrp')
      rw [show rp1.is_new = false from hold] at hpnew
      cases hpnew
    · rw [← parent_clone_members]
      exact (hcand.seeds p hseed rp1 hrp1 hold).1
  · rw [heffect.updated]
    constructor
    · rintro ⟨r1, hr1, hold, hchanged⟩
      obtain ⟨r0, hr0, -⟩ := hcand.retained m r1 hr1 hold
      rw [get?_clone_members, Option.map_eq_some_iff] at hr0
      obtain ⟨l, hl, -⟩ := hr0
      obtain ⟨-, -, hflag, -⟩ := hentry m l r1 hl hr1
      rw [hflag, bne_iff_ne] at hchanged
      exact ⟨l, _, hl, (hget m _).mpr ⟨r1, hr1, rfl⟩, hchanged⟩
    · rintro ⟨r0, r, hr0, hr, hne⟩
      obtain ⟨r1, hr1, rfl⟩ := (hget m r).mp hr
      obtain ⟨hold, -, hflag, -⟩ := hentry m r0 r1 hr0 hr1
      refine ⟨r1, hr1, hold, ?_⟩
      rw [hflag, bne_iff_ne]
      exact hne

/-- The entry that the next replan loads for a planned Member: unmarked, with its own configuration as the source. -/
def PlannedMember.reloaded (member : PlannedMember) : PlannedMember :=
  { member with
    source_configuration_id := some member.configuration_id
    has_configuration_change := false
    has_branch_change := false
    is_new := false }

/-- A table of entries that are the planned ones, as the next replan loads them. -/
def Reloads (members members' : PlannedMembers) : Prop :=
  ∀ m, members'.get? m = (members.get? m).map PlannedMember.reloaded

theorem Reloads.validTeam {members members' : PlannedMembers} {root : MemberId} (h : Reloads members members')
    (hvalid : ValidTeam members root) : ValidTeam members' root := by
  refine hvalid.congr (fun m => by rw [h m, Option.isSome_map]) ?_ ?_
  · funext m
    rw [PlannedMembers.parent, PlannedMembers.parent, h m]
    cases members.get? m <;> rfl
  · funext m
    rw [PlannedMembers.children, PlannedMembers.children, h m]
    cases members.get? m <;> rfl

section RoundTrip

variable {db : TaskDb} {rev : TeamRevision} {loaded : PlannedMembers} {root caller : MemberId}
  {request : ReplanRequest} {draws : RefreshDraws} {mutation : ReplanMutation}

/-- Entries of a replan stand under their own Member ids. -/
theorem planned_keyed (hrev : rev.WellFormed)
    (hread : read_planned_members db.member_configurations rev = .ok loaded)
    (hspec : Replanned loaded root caller draws mutation.members) :
    ∀ m r, mutation.members.get? m = some r → r.member_id = m := by
  intro m r hr
  cases hnew : r.is_new with
  | true => exact (hspec.fresh m r hr hnew).2.1
  | false =>
    obtain ⟨r0, hr0, hret⟩ := hspec.retained m r hr hnew
    obtain ⟨s, c, hs, -, rfl⟩ := (read_planned_members_get? hrev hread m r0).mp hr0
    exact hret.member_id.trans (TeamRevision.select_member_id hs)

/-- The selection rows of a staged successor, read back, are exactly the planned tree. -/
theorem successor_reads_back (source_id : RevisionId) {staged : TaskDb} (hrev : rev.WellFormed)
    (hread : read_planned_members db.member_configurations rev = .ok loaded) (htree : CompleteTree loaded root)
    (hbuild : build_replan_mutation loaded root caller request draws = .ok mutation) {heads : TaskDb}
    (hheads : heads.member_configurations = db.member_configurations)
    (hstaged : stage_member_history heads (successor_preorder mutation) = .ok staged)
    {configurations : Table ConfigurationId MemberConfiguration}
    (hkept : ∀ c r, staged.member_configurations.get? c = some r → configurations.get? c = some r) :
    ∃ reloaded, read_planned_members configurations (successor_revision source_id rev mutation) = .ok reloaded ∧
      Reloads mutation.members reloaded := by
  obtain ⟨hroot, hspec⟩ := build_replan_mutation_spec htree.closed htree.links hbuild
  have hplanned : CompleteTree mutation.members mutation.root_member_id := hroot ▸ hspec.tree
  have hkeyed := planned_keyed hrev hread hspec
  have hwf := successor_wellFormed source_id rev hplanned hkeyed
  obtain ⟨-, hselect⟩ := successor_select source_id rev hplanned hkeyed
  have hhistory := stage_member_history_staged hstaged
  -- every selected configuration is stored with the planned content
  have hstored : ∀ m r, mutation.members.get? m = some r →
      ∃ c, configurations.get? r.configuration_id = some c ∧ c.member_id = m ∧ c.content = r.content := by
    intro m r hr
    cases hchange : r.has_configuration_change with
    | true =>
      have hordered : r ∈ successor_preorder mutation :=
        List.mem_filterMap.mpr ⟨m, (hplanned.mem_iff m).mpr (by rw [hr]; rfl), hr⟩
      exact ⟨_, hkept _ _ (stage_member_history_configuration hstaged hordered hchange), hkeyed m r hr, rfl⟩
    | false =>
      cases hnew : r.is_new with
      | true =>
        have hfresh := (hspec.fresh m r hr hnew).2.2.1
        rw [hchange] at hfresh
        cases hfresh
      | false =>
        obtain ⟨r0, hr0, hret⟩ := hspec.retained m r hr hnew
        obtain ⟨s, c, hs, hc, rfl⟩ := (read_planned_members_get? hrev hread m r0).mp hr0
        obtain ⟨c', hc', hid⟩ := read_planned_members_configured hread hs
        obtain rfl := Option.some.inj (hc.symm.trans hc')
        have hsame := hret.configuration
        rw [hchange] at hsame
        have hsame : r.configuration_id = s.member_configuration_id := by simpa [planned_member] using hsame
        refine ⟨c, ?_, hid, (hret.content hchange).symm⟩
        rw [hsame]
        exact hkept _ _ (hhistory.configurations_kept _ _ (by rw [hheads]; exact hc))
  have hselected : ∀ m s, (successor_revision source_id rev mutation).select m = some s →
      ∃ r, mutation.members.get? m = some r ∧ planned_selection r = s := by
    intro m s hs
    rw [hselect, Option.map_eq_some_iff] at hs
    exact hs
  obtain ⟨reloaded, hreload⟩ := @read_planned_members_ok configurations _ hwf fun m s hs => by
    obtain ⟨r, hr, rfl⟩ := hselected m s hs
    obtain ⟨c, hc, hid, -⟩ := hstored m r hr
    exact ⟨c, hc, hid⟩
  refine ⟨reloaded, hreload, fun m => Option.ext fun r => ?_⟩
  have hget := read_planned_members_get? hwf hreload m r
  rw [hget, Option.map_eq_some_iff]
  have hentry : ∀ p c, mutation.members.get? m = some p → configurations.get? p.configuration_id = some c →
      planned_member (successor_revision source_id rev mutation) (planned_selection p) c = p.reloaded := by
    intro p c hp hc
    obtain ⟨c', hc', -, hcontent⟩ := hstored m p hp
    obtain rfl := Option.some.inj (hc.symm.trans hc')
    have hchildren := successor_children source_id rev hplanned hkeyed m
    rw [PlannedMembers.children, hp, Option.elim_some] at hchildren
    simp only [planned_member, planned_selection, hkeyed m p hp, hcontent, hchildren, PlannedMember.reloaded]
  constructor
  · rintro ⟨s, c, hs, hc, rfl⟩
    obtain ⟨p, hp, rfl⟩ := hselected m s hs
    exact ⟨p, hp, (hentry p c hp hc).symm⟩
  · rintro ⟨p, hp, rfl⟩
    obtain ⟨c, hc, -, -⟩ := hstored m p hp
    exact ⟨planned_selection p, c, by rw [hselect, hp, Option.map_some], hc, (hentry p c hp hc).symm⟩

end RoundTrip

end OhMySubagents
