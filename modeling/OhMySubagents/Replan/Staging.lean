import OhMySubagents.Replan.Planning
import OhMySubagents.TaskDb

open Relational

namespace OhMySubagents

/-- The basis that the successor Team selects for one Member. -/
def selected_basis (ordered : List PlannedMember) (m : MemberId) : Option BranchBasisId :=
  (ordered.find? fun member => member.member_id == m).map PlannedMember.branch_basis_id

/-- Add a row when a condition holds. -/
def insert_when {κ α : Type} [DecidableEq κ] (condition : Bool) (t : Table κ α) (k : κ) (r : α) :
    Result (Table κ α) :=
  if condition then require_some (t.insertNew k r) integrity_error else .ok t

/-- The history rows of one Member: its identity when new, its configuration when changed, and its
    branch basis when its branch changed. -/
def stage_member (ordered : List PlannedMember) (db : TaskDb) (member : PlannedMember) : Result TaskDb := do
  let members ← insert_when member.is_new db.members member.member_id ()
  let configurations ← insert_when member.has_configuration_change db.member_configurations
    member.configuration_id
    { member_id := member.member_id
      predecessor_member_configuration_id := member.source_configuration_id
      content := member.content }
  let bases ← insert_when member.has_branch_change db.member_branch_bases member.branch_basis_id
    { member_id := member.member_id
      member_configuration_id := member.configuration_id
      parent_member_id := member.parent_member_id
      parent_member_branch_basis_id := member.parent_member_id.bind (selected_basis ordered) }
  return { db with
    members := members
    member_configurations := configurations
    member_branch_bases := bases }

def stage_member_history (db : TaskDb) (ordered : List PlannedMember) : Result TaskDb :=
  ordered.foldlM (stage_member ordered) db

/-- The selection row of one Member of the successor Team. -/
def planned_selection (member : PlannedMember) : TeamRevisionMember where
  member_id := member.member_id
  parent_member_id := member.parent_member_id
  member_configuration_id := member.configuration_id
  member_branch_basis_id := member.branch_basis_id

/-- The immutable successor of a Team revision. -/
def successor_revision (source_id : RevisionId) (source : TeamRevision) (mutation : ReplanMutation) :
    TeamRevision where
  revision_no := source.revision_no + 1
  predecessor_team_revision_id := some source_id
  root_member_id := mutation.root_member_id
  members := (successor_preorder mutation).map planned_selection

/-- Stage one complete immutable successor Team. -/
def stage_replan_successor_rows (db : TaskDb) (source_id : RevisionId) (source : TeamRevision)
    (mutation : ReplanMutation) (successor_team_id : RevisionId) : Result TaskDb := do
  let db ← stage_member_history db (successor_preorder mutation)
  let revisions ← require_some
    (db.team_revisions.insertNew successor_team_id (successor_revision source_id source mutation))
    integrity_error
  return { db with team_revisions := revisions }

/-- What staging the history of some Members leaves behind. -/
structure HistoryStaged (db db' : TaskDb) (ordered : List PlannedMember) : Prop where
  frame : db' = { db with
    members := db'.members
    member_configurations := db'.member_configurations
    member_branch_bases := db'.member_branch_bases }
  members_kept : ∀ m u, db.members.get? m = some u → db'.members.get? m = some u
  configurations_kept : ∀ c r, db.member_configurations.get? c = some r →
    db'.member_configurations.get? c = some r
  bases_kept : ∀ b r, db.member_branch_bases.get? b = some r → db'.member_branch_bases.get? b = some r
  new_member : ∀ r ∈ ordered, r.is_new = true →
    db.members.get? r.member_id = none ∧ (db'.members.get? r.member_id).isSome
  new_configuration : ∀ r ∈ ordered, r.has_configuration_change = true →
    db.member_configurations.get? r.configuration_id = none ∧
      ∃ c, db'.member_configurations.get? r.configuration_id = some c ∧ c.member_id = r.member_id
  new_basis : ∀ r ∈ ordered, r.has_branch_change = true →
    db.member_branch_bases.get? r.branch_basis_id = none ∧
      (db'.member_branch_bases.get? r.branch_basis_id).isSome

/-- A conditional insert either leaves a table alone or adds one fresh row. -/
private theorem insert_when_success {κ α : Type} [DecidableEq κ] {t t' : Table κ α} {k : κ} {r : α}
    {condition : Bool} (h : insert_when condition t k r = .ok t') :
    (∀ k' r', t.get? k' = some r' → t'.get? k' = some r') ∧
      (condition = true → t.get? k = none ∧ t'.get? k = some r) := by
  unfold insert_when at h
  split at h
  · next hcond =>
    rw [require_some_eq_ok_iff, Table.insertNew_eq_some] at h
    obtain ⟨hfree, rfl⟩ := h
    refine ⟨?_, fun _ => ⟨hfree, Table.get?_set_self t k r⟩⟩
    intro k' r' hr'
    rw [Table.get?_set_ne]
    · exact hr'
    · rintro rfl
      rw [hfree] at hr'
      cases hr'
  · next hcond =>
    cases h
    exact ⟨fun _ _ hr' => hr', fun hcond' => absurd hcond' hcond⟩

private theorem stage_member_staged {ordered : List PlannedMember} {db db' : TaskDb}
    {member : PlannedMember} (h : stage_member ordered db member = .ok db') :
    HistoryStaged db db' [member] := by
  unfold stage_member at h
  rw [bind_eq_ok_iff] at h
  obtain ⟨members, hmembers, h⟩ := h
  rw [bind_eq_ok_iff] at h
  obtain ⟨configurations, hconfigurations, h⟩ := h
  rw [bind_eq_ok_iff] at h
  obtain ⟨bases, hbases, h⟩ := h
  cases h
  obtain ⟨hmkept, hmnew⟩ := insert_when_success hmembers
  obtain ⟨hckept, hcnew⟩ := insert_when_success hconfigurations
  obtain ⟨hbkept, hbnew⟩ := insert_when_success hbases
  refine ⟨rfl, hmkept, hckept, hbkept, ?_, ?_, ?_⟩
  · intro r hr hnew
    rw [List.mem_singleton] at hr
    subst hr
    obtain ⟨hfree, hget⟩ := hmnew hnew
    exact ⟨hfree, by rw [hget]; rfl⟩
  · intro r hr hchange
    rw [List.mem_singleton] at hr
    subst hr
    obtain ⟨hfree, hget⟩ := hcnew hchange
    exact ⟨hfree, _, hget, rfl⟩
  · intro r hr hchange
    rw [List.mem_singleton] at hr
    subst hr
    obtain ⟨hfree, hget⟩ := hbnew hchange
    exact ⟨hfree, by rw [hget]; rfl⟩

/-- A key that is free after rows were only added was free before. -/
private theorem free_before {κ α : Type} [DecidableEq κ] {t t' : Table κ α} {k : κ}
    (hkept : ∀ k r, t.get? k = some r → t'.get? k = some r) (hfree : t'.get? k = none) :
    t.get? k = none := by
  cases hk : t.get? k with
  | none => rfl
  | some r =>
    rw [hkept k r hk] at hfree
    cases hfree

private theorem isSome_after {κ α : Type} [DecidableEq κ] {t t' : Table κ α} {k : κ}
    (hkept : ∀ k r, t.get? k = some r → t'.get? k = some r) (hsome : (t.get? k).isSome) :
    (t'.get? k).isSome := by
  obtain ⟨r, hr⟩ := Option.isSome_iff_exists.mp hsome
  rw [hkept k r hr]
  rfl

private theorem HistoryStaged.append {db db' db'' : TaskDb} {member : PlannedMember}
    {rest : List PlannedMember} (h : HistoryStaged db db' [member]) (h' : HistoryStaged db' db'' rest) :
    HistoryStaged db db'' (member :: rest) where
  frame := by
    rw [h'.frame, h.frame]
  members_kept := fun m u hm => h'.members_kept m u (h.members_kept m u hm)
  configurations_kept := fun c r hc => h'.configurations_kept c r (h.configurations_kept c r hc)
  bases_kept := fun b r hb => h'.bases_kept b r (h.bases_kept b r hb)
  new_member := by
    intro r hr hnew
    rcases List.mem_cons.mp hr with rfl | hr
    · obtain ⟨hfree, hsome⟩ := h.new_member r List.mem_cons_self hnew
      exact ⟨hfree, isSome_after h'.members_kept hsome⟩
    · obtain ⟨hfree, hsome⟩ := h'.new_member r hr hnew
      exact ⟨free_before h.members_kept hfree, hsome⟩
  new_configuration := by
    intro r hr hchange
    rcases List.mem_cons.mp hr with rfl | hr
    · obtain ⟨hfree, c, hc, hid⟩ := h.new_configuration r List.mem_cons_self hchange
      exact ⟨hfree, c, h'.configurations_kept _ c hc, hid⟩
    · obtain ⟨hfree, hsome⟩ := h'.new_configuration r hr hchange
      exact ⟨free_before h.configurations_kept hfree, hsome⟩
  new_basis := by
    intro r hr hchange
    rcases List.mem_cons.mp hr with rfl | hr
    · obtain ⟨hfree, hsome⟩ := h.new_basis r List.mem_cons_self hchange
      exact ⟨hfree, isSome_after h'.bases_kept hsome⟩
    · obtain ⟨hfree, hsome⟩ := h'.new_basis r hr hchange
      exact ⟨free_before h.bases_kept hfree, hsome⟩

private theorem foldlM_stage_member_staged (ordered rest : List PlannedMember) {db db' : TaskDb}
    (h : rest.foldlM (stage_member ordered) db = .ok db') : HistoryStaged db db' rest := by
  induction rest generalizing db with
  | nil =>
    rw [List.foldlM_nil] at h
    cases h
    exact ⟨rfl, fun _ _ h => h, fun _ _ h => h, fun _ _ h => h, by simp, by simp, by simp⟩
  | cons member rest ih =>
    rw [List.foldlM_cons, bind_eq_ok_iff] at h
    obtain ⟨middle, hmember, h⟩ := h
    exact (stage_member_staged hmember).append (ih h)

theorem stage_member_history_staged {db db' : TaskDb} {ordered : List PlannedMember}
    (h : stage_member_history db ordered = .ok db') : HistoryStaged db db' ordered :=
  foldlM_stage_member_staged ordered ordered h

/-- A configuration that is staged carries the planned content. -/
theorem stage_member_history_configuration {db db' : TaskDb} {ordered : List PlannedMember}
    (h : stage_member_history db ordered = .ok db') {member : PlannedMember} (hmember : member ∈ ordered)
    (hchange : member.has_configuration_change = true) :
    db'.member_configurations.get? member.configuration_id = some
      { member_id := member.member_id
        predecessor_member_configuration_id := member.source_configuration_id
        content := member.content } := by
  obtain ⟨before, after, hsplit⟩ := List.append_of_mem hmember
  rw [stage_member_history, hsplit, List.foldlM_append, bind_eq_ok_iff] at h
  obtain ⟨middle, -, h⟩ := h
  rw [List.foldlM_cons, bind_eq_ok_iff] at h
  obtain ⟨written, hwrite, h⟩ := h
  have hrest := foldlM_stage_member_staged _ _ h
  refine hrest.configurations_kept _ _ ?_
  unfold stage_member at hwrite
  simp only [bind_eq_ok_iff] at hwrite
  obtain ⟨members, -, configurations, hconfigurations, bases, -, hwrite⟩ := hwrite
  cases hwrite
  exact ((insert_when_success hconfigurations).2 hchange).2

/-- A staged successor adds history rows and one revision, and touches nothing else. -/
theorem stage_replan_successor_rows_success {db db' : TaskDb} {source_id successor_team_id : RevisionId}
    {source : TeamRevision} {mutation : ReplanMutation}
    (h : stage_replan_successor_rows db source_id source mutation successor_team_id = .ok db') :
    ∃ staged, HistoryStaged db staged (successor_preorder mutation) ∧
      db.team_revisions.get? successor_team_id = none ∧
      db' = { staged with
        team_revisions := db.team_revisions.set successor_team_id
          (successor_revision source_id source mutation) } := by
  unfold stage_replan_successor_rows at h
  rw [bind_eq_ok_iff] at h
  obtain ⟨staged, hstaged, h⟩ := h
  rw [bind_eq_ok_iff] at h
  obtain ⟨revisions, hrevisions, h⟩ := h
  rw [require_some_eq_ok_iff, Table.insertNew_eq_some] at hrevisions
  obtain ⟨hfree, rfl⟩ := hrevisions
  cases h
  have hhistory := stage_member_history_staged hstaged
  have hsame : staged.team_revisions = db.team_revisions := by rw [hhistory.frame]
  rw [hsame] at hfree
  exact ⟨staged, hhistory, hfree, by rw [hsame]⟩

end OhMySubagents
