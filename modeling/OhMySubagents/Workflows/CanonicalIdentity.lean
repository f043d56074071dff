import OhMySubagents.Workflows.Removal

open JsonData

namespace OhMySubagents.Workflows

open OhMySubagents.Workflows.NormalizedMember

section AcceptedDumps

variable {workflow : NormalizedWorkflow}

theorem normalize_members_keys (members : List (String × JsonData)) :
    (normalize_members members).map Prod.fst = members.map Prod.fst := by
  induction members with
  | nil => rfl
  | cons member members ih => rw [normalize_members, List.map_cons, List.map_cons, ih]

private theorem normalized_payload_keys :
    ∀ member ∈ _normalize_workflow_mapping workflow.payload,
      member.1 = "lead" ∨ member.1 ∈ NormalizedWorkflow.members.keys := by
  intro member hmember
  obtain ⟨kept, hkept, rfl⟩ := List.mem_map.mp hmember
  have hkey : kept.1 ∈ workflow.payload.map Prod.fst := by
    rw [← normalize_members_keys]
    exact List.mem_map_of_mem (mem_omit_blank_optional hkept)
  obtain ⟨written, hwritten, hsame⟩ := List.mem_map.mp hkey
  have hname : (if kept.1 = "lead" then (kept.1, _normalize_member_mapping kept.2) else kept).1 = written.1 := by
    split <;> exact hsame.symm
  rw [hname]
  rcases List.mem_append.mp hwritten with hown | hlead
  · exact .inr (NormalizedWorkflow.members.encode_keys _ written hown)
  · rw [List.mem_singleton.mp hlead]
    exact .inl rfl

private theorem normalized_payload_decode : NormalizedWorkflow.members.decode
    (fun key => (_normalize_workflow_mapping workflow.payload).lookup key) =
      some ((), workflow.id, NonblankText.normalized workflow.description, normalized_prose workflow.note) := by
  obtain ⟨hid, hdescription, hnote, -⟩ := @lookup_payload_with_lead workflow workflow.lead.dump
  have hkind : workflow.payload.lookup "kind" = some (.string "workflow") := by
    rw [NormalizedWorkflow.payload, NormalizedWorkflow.payload_eq]
    rfl
  have hlookup := @lookup_normalize_workflow_mapping workflow.payload
  refine Fields.decode_and.mpr ⟨?_, Fields.decode_and.mpr ⟨?_, Fields.decode_and.mpr ⟨?_, ?_⟩⟩⟩
  · rw [Fields.decode_required, hlookup, if_neg (by decide), if_neg (by decide), hkind]
    decide +kernel
  · rw [Fields.decode_required, hlookup, if_neg (by decide), if_neg (by decide), hid, Option.map_some,
      normalize_identifier]
    exact Contracts.Identifier.codec.decode_encode workflow.id
  · rw [Fields.decode_required, hlookup, if_neg (by decide), if_neg (by decide), hdescription]
    exact (NonblankText.codec 1024).decode_encode (NonblankText.normalized workflow.description)
  · have hprose : (_normalize_workflow_mapping workflow.payload).lookup "note" =
        (normalized_prose workflow.note).map fun text => .string text.val := by
      have hread := @as_normalized_prose "title" _ (by decide) workflow.note
      rw [as_normalized, if_pos (by decide)] at hread
      have hsame : (workflow.note.map Subtype.val).map JsonData.string =
        workflow.note.map fun text => .string text.val :=
        Option.map_map ..
      rw [hlookup, if_neg (by decide), if_pos rfl, NormalizedWorkflow.payload, hnote, hsame]
      exact hread
    refine (Fields.optional "note" (BoundedText.codec 8192) _).decode_encode _ _ fun key hkey => ?_
    obtain rfl := List.mem_singleton.mp hkey
    rw [hprose]
    cases normalized_prose workflow.note <;> rfl

/-- Validation takes the normalized dump of a Workflow for its normal form. -/
theorem model_validate_normalized_dump (workflow : NormalizedWorkflow) :
    NormalizedWorkflow.model_validate (.object (_normalize_workflow_mapping workflow.payload)) =
      some workflow.normalized := by
  obtain ⟨-, -, -, hlead⟩ := @lookup_payload_with_lead workflow workflow.lead.dump
  have hread : (_normalize_workflow_mapping workflow.payload).lookup "lead" =
      some (_normalize_member_mapping (_normalize_value workflow.lead.dump)) := by
    rw [lookup_normalize_workflow_mapping, if_pos rfl, NormalizedWorkflow.payload, hlead]
    rfl
  have hvalidated : ((_normalize_workflow_mapping workflow.payload).lookup "lead").bind model_validate =
      some workflow.normalized.lead := by
    rw [hread, Option.bind_some, model_validate_eq_read, read_normalized_member, reads_as_normalized.read_dump]
    rfl
  exact Option.bind_eq_some_iff.mpr ⟨(), if_pos normalized_payload_keys, Option.bind_eq_some_iff.mpr ⟨_,
    normalized_payload_decode, Option.bind_eq_some_iff.mpr ⟨_, hvalidated, dif_pos workflow.normalized.child_limit⟩⟩⟩

private theorem retired_sources :
    (∀ (member : NormalizedMember) path, ∀ issue ∈ _collect_retired_provider_issues path member,
        issue.source = "provider.retired") ∧
      ∀ children path index, ∀ issue ∈ collect_children_issues path index children,
        issue.source = "provider.retired" := by
  have hown : ∀ path fields, ∀ issue ∈ retired_provider_issue path fields, issue.source = "provider.retired" := by
    intro path fields issue hissue
    unfold retired_provider_issue at hissue
    split at hissue
    · rw [List.mem_singleton.mp hissue]
    · cases hissue
  refine forest_induction ?_ ?_ ?_ ?_
  · intro fields path
    rw [_collect_retired_provider_issues]
    exact hown path fields
  · intro fields children ih path
    rw [_collect_retired_provider_issues, List.forall_mem_append]
    exact ⟨hown path fields, ih path 0⟩
  · intro path index
    rw [collect_children_issues]
    exact List.forall_mem_nil _
  · intro child children hchild hchildren path index
    rw [collect_children_issues, List.forall_mem_append]
    exact ⟨hchild _, hchildren path (index + 1)⟩

theorem normalized_is_active : IsActive workflow.normalized ↔ IsActive workflow := by
  have hlead : workflow.normalized.lead = workflow.lead.map_fields MemberFields.normalized := rfl
  rw [IsActive, hlead, all_fields_map_fields, List.forall_mem_map]
  exact forall₂_congr fun fields _ => by rw [is_retired, reads_as_normalized.is_retired]; rfl

/-- An edited dump is accepted in normal form, or as it is when a Member selects the retired provider. -/
theorem normalize_edited_dump (hshape : _validate_json_shape workflow.dump = .ok ())
    (hrules : SemanticRules workflow.normalized) :
    (IsActive workflow → _normalize_edited_workflow workflow.dump = .ok workflow.normalized) ∧
      (¬IsActive workflow → _normalize_edited_workflow workflow.dump = .ok workflow) := by
  constructor
  · intro hactive
    have haccepted : normalize_workflow_object workflow.dump = .ok workflow.normalized :=
      normalize_workflow_object_eq_ok.mpr
        ⟨hshape, model_validate_normalized_dump workflow, hrules, normalized_is_active.mpr hactive⟩
    rw [_normalize_edited_workflow, haccepted]
  · intro hretired
    have hissues : retired_provider_issues workflow.normalized ≠ [] := fun hnone =>
      hretired (normalized_is_active.mp (retired_provider_issues_eq_nil.mp hnone))
    have hrefused : normalize_workflow_object workflow.dump = .error ⟨retired_provider_issues workflow.normalized⟩ := by
      have hrequired : require_active_providers workflow.normalized =
          .error ⟨retired_provider_issues workflow.normalized⟩ := by
        rw [require_active_providers, if_neg (by rw [List.isEmpty_iff]; exact hissues)]
      have hvalidated := model_validate_normalized_dump workflow
      have hdump : workflow.dump = .object workflow.payload := rfl
      unfold normalize_workflow_object
      rw [hshape, hdump]
      dsimp only [bind, Except.bind]
      rw [hvalidated]
      dsimp only
      rw [validate_workflow_semantics_eq_ok.mpr hrules, hrequired]
    have hsources : ((retired_provider_issues workflow.normalized).isEmpty ||
        (retired_provider_issues workflow.normalized).any fun issue => issue.source ≠ "provider.retired") = false := by
      rw [Bool.or_eq_false_iff]
      refine ⟨List.isEmpty_eq_false_iff.mpr hissues, ?_⟩
      rw [List.any_eq_false]
      intro issue hissue
      rw [retired_sources.1 _ _ issue hissue]
      decide
    rw [_normalize_edited_workflow, hrefused]
    dsimp only
    rw [hsources, workflow.model_validate_dump]
    rfl

end AcceptedDumps

section Trees

/-- A tree of Members, in which there is only one way to be a leaf. -/
inductive MemberTree
  | node (fields : MemberFields) (children : List MemberTree)

mutual

/-- The tree that a Member denotes. -/
def NormalizedMember.tree : NormalizedMember → MemberTree
  | mk fields none => .node fields []
  | mk fields (some children) => .node fields (trees children)

def NormalizedMember.trees : List NormalizedMember → List MemberTree
  | [] => []
  | child :: children => child.tree :: trees children

end

mutual

/-- For every leaf of a tree, in their order, whether it is written with an empty list of children. -/
def NormalizedMember.leaf_writings : NormalizedMember → List Bool
  | mk _ none => [false]
  | mk _ (some []) => [true]
  | mk _ (some (child :: children)) => child.leaf_writings ++ leaf_writings_of children

def NormalizedMember.leaf_writings_of : List NormalizedMember → List Bool
  | [] => []
  | child :: children => child.leaf_writings ++ leaf_writings_of children

end

private theorem tree_inj_all :
    (∀ (member member' : NormalizedMember) rest rest', member.tree = member'.tree →
        member.leaf_writings ++ rest = member'.leaf_writings ++ rest' → member = member' ∧ rest = rest') ∧
      ∀ children children' rest rest', trees children = trees children' →
        leaf_writings_of children ++ rest = leaf_writings_of children' ++ rest' →
          children = children' ∧ rest = rest' := by
  refine forest_induction ?_ ?_ ?_ ?_
  · intro fields member' rest rest' htree hleaves
    match member' with
    | mk fields' none =>
      rw [tree, tree, MemberTree.node.injEq] at htree
      rw [htree.1]
      exact ⟨rfl, List.tail_eq_of_cons_eq hleaves⟩
    | mk fields' (some []) => cases List.head_eq_of_cons_eq hleaves
    | mk fields' (some (child :: children)) =>
      rw [tree, tree, trees, MemberTree.node.injEq] at htree
      cases htree.2
  · intro fields children ih member' rest rest' htree hleaves
    match children, member' with
    | [], mk fields' none => cases List.head_eq_of_cons_eq hleaves
    | [], mk fields' (some []) =>
      rw [tree, tree, MemberTree.node.injEq] at htree
      rw [htree.1]
      exact ⟨rfl, List.tail_eq_of_cons_eq hleaves⟩
    | [], mk fields' (some (child' :: children')) =>
      rw [tree, tree, MemberTree.node.injEq, trees, trees] at htree
      cases htree.2
    | child :: children, mk fields' none =>
      rw [tree, tree, MemberTree.node.injEq, trees] at htree
      cases htree.2
    | child :: children, mk fields' (some []) =>
      rw [tree, tree, MemberTree.node.injEq, trees, trees] at htree
      cases htree.2
    | child :: children, mk fields' (some (child' :: children')) =>
      rw [tree, tree, MemberTree.node.injEq] at htree
      rw [leaf_writings, leaf_writings] at hleaves
      obtain ⟨hsame, hrest⟩ := ih (child' :: children') rest rest' htree.2 hleaves
      rw [htree.1, hsame]
      exact ⟨rfl, hrest⟩
  · intro children' rest rest' htree hleaves
    match children' with
    | [] => exact ⟨rfl, hleaves⟩
    | child' :: children' =>
      rw [trees, trees] at htree
      cases htree
  · intro child children hchild hchildren children' rest rest' htree hleaves
    match children' with
    | [] =>
      rw [trees, trees] at htree
      cases htree
    | child' :: children' =>
      rw [trees, trees, List.cons.injEq] at htree
      rw [leaf_writings_of, leaf_writings_of, List.append_assoc, List.append_assoc] at hleaves
      obtain ⟨rfl, hbehind⟩ := hchild _ _ _ htree.1 hleaves
      obtain ⟨rfl, hrest⟩ := hchildren _ _ _ htree.2 hbehind
      exact ⟨rfl, hrest⟩

/-- A Member is its tree and the way in which its leaves are written. -/
theorem tree_inj {member member' : NormalizedMember} (htree : member.tree = member'.tree)
    (hleaves : member.leaf_writings = member'.leaf_writings) : member = member' :=
  (tree_inj_all.1 member member' [] [] htree (by rw [hleaves])).1

/-- Two Workflows that say the same of themselves and have the same tree of Members. -/
structure SameWorkflow (workflow workflow' : NormalizedWorkflow) : Prop where
  id : workflow.id = workflow'.id
  description : workflow.description = workflow'.description
  note : workflow.note = workflow'.note
  lead : workflow.lead.tree = workflow'.lead.tree

theorem NormalizedWorkflow.ext_lead {workflow workflow' : NormalizedWorkflow} (hid : workflow.id = workflow'.id)
    (hdescription : workflow.description = workflow'.description) (hnote : workflow.note = workflow'.note)
    (hlead : workflow.lead = workflow'.lead) : workflow = workflow' := by
  obtain ⟨id, description, note, lead, child_limit⟩ := workflow
  obtain ⟨id', description', note', lead', child_limit'⟩ := workflow'
  obtain rfl : id = id' := hid
  obtain rfl : description = description' := hdescription
  obtain rfl : note = note' := hnote
  obtain rfl : lead = lead' := hlead
  rfl

theorem canonical_workflow_text_eq_iff {workflow workflow' : NormalizedWorkflow}
    (h : SameWorkflow workflow workflow') : canonical_workflow_text workflow = canonical_workflow_text workflow' ↔
      workflow.lead.leaf_writings = workflow'.lead.leaf_writings := by
  constructor
  · exact fun htext => congrArg (fun workflow => workflow.lead.leaf_writings) (canonical_workflow_text_injective htext)
  · intro hleaves
    rw [NormalizedWorkflow.ext_lead h.id h.description h.note (tree_inj h.lead hleaves)]

end Trees

section Removed

variable {σ : Type} {allocate_id : σ → String × σ} {drawn next : σ} {workflow edited : NormalizedWorkflow}
  {parent_member_id : Contracts.Identifier} {member : NewMember} {reader : WorkflowReader}

theorem with_children_map_fields (f : MemberFields → MemberFields) (member : NormalizedMember)
    (added : List NormalizedMember) :
    (member.with_children added).map_fields f = (member.map_fields f).with_children (map_fields_all f added) := by
  have happend : ∀ children, map_fields_all f (children ++ added) = map_fields_all f children ++
    map_fields_all f added := by
    intro children
    induction children with
    | nil => rfl
    | cons child children ih => rw [List.cons_append, map_fields_all, map_fields_all, ih, List.cons_append]
  obtain ⟨fields, _ | children⟩ := member
  · rfl
  · exact congrArg (fun below => mk (f fields) (some below)) (happend children)

theorem all_fields_with_children (member : NormalizedMember) :
    (member.with_children []).all_fields = member.all_fields := by
  rw [with_children, List.append_nil, all_fields_eq, all_fields_eq member]
  rfl

theorem fields_mem_all_fields (member : NormalizedMember) : member.fields ∈ member.all_fields := by
  rw [all_fields_eq]
  exact List.mem_cons_self

/-- The tree that is left when a Member is added and removed again: its parent has its children as a list. -/
def opened (parent_member_id : Contracts.Identifier) (found lead : NormalizedMember) : NormalizedMember :=
  replace_member parent_member_id.val (found.with_children []) lead

theorem opened_all_fields {found lead : NormalizedMember} (h : find_member parent_member_id.val lead = some found) :
    (opened parent_member_id found lead).all_fields = lead.all_fields := by
  obtain ⟨before, after, hall, -, hreplaced⟩ := replace_member_all_fields h
  rw [opened, hreplaced, all_fields_with_children, hall]

theorem opened_eq_self_iff {found lead : NormalizedMember} (h : find_member parent_member_id.val lead = some found) :
    opened parent_member_id found lead = lead ↔ found.children.isSome := by
  constructor
  · intro hsame
    have hid : found.fields.id.val = parent_member_id.val := find_member_id h
    have hfound := @find_replaced _ lead found (found.with_children []) hid h
    rw [← opened, hsame, h] at hfound
    rw [Option.some.inj hfound]
    rfl
  · intro hchildren
    have hsame : found.with_children [] = found := by
      match found with
      | mk fields (some children) => exact congrArg (fun below => mk fields (some below)) (List.append_nil children)
      | mk fields none => cases hchildren
    rw [opened, hsame, replace_found h]

/-- New Members have the identifiers that were drawn for them, in the order in which they were drawn. -/
theorem read_new_ids {look : Look} {new : NormalizedMember}
    (hread : ∀ {drawn fields}, ReadsNew look drawn fields → fields.id.val = drawn.1)
    (h : read_member look (_new_member_payload allocate_id drawn member).1 = some new) :
    new.all_fields.map (·.id.val) = (drawn_members allocate_id drawn member).map Prod.fst := by
  have hreads := read_new_member h
  generalize drawn_members allocate_id drawn member = drawns, new.all_fields = read at hreads ⊢
  induction hreads with
  | nil => rfl
  | cons hfirst _ ih => rw [List.map_cons, List.map_cons, hread hfirst, ih]

/-- An addition keeps all identifiers and adds those that were drawn. -/
theorem EditedLead.added_ids {lead lead' : NormalizedMember}
    (hread : ∀ {drawn fields}, ReadsNew reader.look drawn fields → fields.id.val = drawn.1)
    (h : EditedLead allocate_id drawn reader lead lead' (.add_member parent_member_id member)) :
    (lead'.all_fields.map (·.id.val)).Perm
      (lead.all_fields.map (·.id.val) ++ (drawn_members allocate_id drawn member).map Prod.fst) := by
  obtain ⟨new, before, after, hnew, hall, hedited⟩ := EditedLead.add_fields h
  have hsame : ∀ all : List MemberFields, (all.map reader.fields).map (·.id.val) = all.map (·.id.val) := by
    intro all
    rw [List.map_map]
    exact List.map_congr_left fun fields _ => congrArg Subtype.val (reader.reads.id fields)
  rw [hedited, hall, List.map_append, List.map_append, List.map_append, hsame, hsame, read_new_ids hread hnew,
    List.append_assoc]
  exact List.Perm.append_left _ List.perm_append_comm

theorem ids_nodup_iff {lead : NormalizedMember} : lead.ids.Nodup ↔ (lead.all_fields.map (·.id.val)).Nodup := by
  have hvals : lead.all_fields.map (·.id.val) = lead.ids.map Subtype.val := (List.map_map ..).symm
  rw [hvals, List.nodup_map_iff Subtype.val_injective]

/-- The tree that an added Member is removed from again. -/
private theorem removed_lead {lead lead' : NormalizedMember}
    (hread : ∀ {drawn fields}, ReadsNew reader.look drawn fields → fields.id.val = drawn.1)
    (h : EditedLead allocate_id drawn reader lead lead' (.add_member parent_member_id member))
    (hids : lead'.ids.Nodup) :
    ∃ found id, find_member parent_member_id.val lead = some found ∧ id.val = (allocate_id drawn).1 ∧
      id ≠ lead'.fields.id ∧
      remove_member id.val lead' = some ((opened parent_member_id found lead).map_fields reader.fields) := by
  obtain ⟨new', before, after, hnew', hall, hedited⟩ := EditedLead.add_fields h
  obtain ⟨found, new, hfind, hnew, hlead⟩ := h
  obtain rfl := Option.some.inj (hnew'.symm.trans hnew)
  have hdrawn : new'.fields.id.val = (allocate_id drawn).1 := by
    have hreads := read_new_member hnew
    rw [all_fields_eq] at hreads
    cases hdrawns : drawn_members allocate_id drawn member with
    | nil =>
      rw [hdrawns] at hreads
      cases hreads
    | cons first rest =>
      rw [hdrawns] at hreads
      rw [hread (List.forall₂_cons.mp hreads).1]
      cases member with
      | mk fields children =>
        cases children <;> (rw [drawn_members] at hdrawns; rw [← (List.cons.inj hdrawns).1])
  have hfind' : find_member parent_member_id.val (lead.map_fields reader.fields) =
      some (found.map_fields reader.fields) := by
    rw [(find_member_map_fields reader.reads.id).1, hfind, Option.map_some]
  have hparent : mk (reader.fields found.fields)
      (some (map_fields_all reader.fields (found.children.getD []) ++ [new'])) =
        (found.map_fields reader.fields).with_children [new'] := by
    obtain ⟨fields, _ | children⟩ := found <;> rfl
  rw [hparent] at hlead
  -- the identifiers of the edited tree are distinct, so that no other Member has that of the new one
  have hfresh : ∀ fields ∈ (lead.map_fields reader.fields).all_fields, fields.id.val ≠ new'.fields.id.val := by
    rw [NormalizedMember.ids, hedited, List.map_append, List.map_append, List.nodup_append'] at hids
    obtain ⟨-, hrest, hdisjoint⟩ := hids
    rw [List.nodup_append'] at hrest
    have hid : new'.fields.id ∈ new'.all_fields.map (·.id) := List.mem_map_of_mem (fields_mem_all_fields new')
    rw [all_fields_map_fields, hall, List.map_append, List.forall_mem_append]
    constructor
    · intro fields hmem heq
      exact hdisjoint (List.mem_map_of_mem hmem) (List.mem_append_left _ (Subtype.ext heq ▸ hid))
    · intro fields hmem heq
      exact hrest.2.2 (Subtype.ext heq ▸ hid) (List.mem_map_of_mem hmem)
  refine ⟨found, new'.fields.id, hfind, hdrawn, fun heq => ?_, ?_⟩
  · have hsame : ((found.map_fields reader.fields).with_children [new']).fields.id =
        (found.map_fields reader.fields).fields.id := rfl
    refine hfresh _ (fields_mem_all_fields _) ?_
    rw [heq, hlead, replace_member_id hsame hfind']
  · rw [hlead, remove_added hfind' hfresh, opened, replace_member_map_fields reader.reads.id, with_children_map_fields]
    rfl

/-- A removal breaks no rule. -/
theorem SemanticRules.of_removal {workflow' : NormalizedWorkflow} {member_id : String} (h : SemanticRules workflow)
    (hremove : remove_member member_id workflow.lead = some workflow'.lead) : SemanticRules workflow' := by
  obtain ⟨before, gone, after, hall, hrest, -⟩ := remove_member_all_fields hremove
  obtain ⟨hcount, hdepth, hids, hkinds⟩ := h
  have hsublist : workflow'.lead.all_fields.Sublist workflow.lead.all_fields := by
    rw [hrest, hall]
    exact (List.Sublist.refl before).append (List.sublist_append_right _ _)
  refine ⟨hsublist.length_le.trans hcount, (remove_member_bounds hremove).1.trans hdepth, ?_, fun fields hmem =>
    hkinds fields (hsublist.subset hmem)⟩
  exact hids.sublist (hsublist.map _)

/-- A Workflow with another tree of Members. -/
def NormalizedWorkflow.with_lead (workflow : NormalizedWorkflow) (lead : NormalizedMember)
    (child_limit : lead.within_child_limit = true) : NormalizedWorkflow :=
  { workflow with lead, child_limit }

/-- The removal of a Member below the lead is accepted when what it leaves keeps the rules. -/
theorem removal_accepted {member_id : Contracts.Identifier} {rest : NormalizedMember}
    (hremove : remove_member member_id.val edited.lead = some rest) (hne : member_id ≠ edited.lead.fields.id)
    (hxml : edited.HasXmlTexts) (hrules : ∀ left : NormalizedWorkflow, left.lead = rest.normalized →
      SemanticRules left) :
    ∃ left : NormalizedWorkflow, left.id = edited.id ∧ left.description = edited.description ∧ left.note = edited.note ∧
      left.lead = rest ∧
      (IsActive left → edit_normalized_workflow allocate_id next edited (.remove_member member_id) =
        .ok (left.normalized, next)) ∧
      (¬IsActive left → edit_normalized_workflow allocate_id next edited (.remove_member member_id) =
        .ok (left, next)) := by
  have hlimit := (remove_member_bounds hremove).2 edited.child_limit
  obtain ⟨before, gone, after, hall, hrest, -⟩ := remove_member_all_fields hremove
  let left := edited.with_lead rest hlimit
  have hleft : SemanticRules left.normalized := hrules _ rfl
  have hlead : left.normalized.lead = rest.map_fields MemberFields.normalized := rfl
  have hshape : _validate_json_shape left.dump = .ok () := by
    refine validate_dump_shape ?_ ?_ ⟨hxml.description, hxml.note, fun fields hmem => hxml.members fields ?_⟩
    · have hcount := hleft.member_count
      rwa [hlead, all_fields_map_fields, List.length_map] at hcount
    · have hdepth := hleft.member_depth
      rwa [hlead, member_depth_map_fields] at hdepth
    · change fields ∈ rest.all_fields at hmem
      rw [hrest] at hmem
      rw [hall]
      rcases List.mem_append.mp hmem with hmem | hmem
      · exact List.mem_append_left _ hmem
      · exact List.mem_append_right _ (List.mem_append_right _ hmem)
  have hpayload : edited_payload allocate_id next edited (.remove_member member_id) = some (left.payload, next) := by
    rw [edited_payload, if_neg hne, remove_member_dump, hremove]
    rfl
  obtain ⟨hactive, hretired⟩ := normalize_edited_dump hshape hleft
  exact ⟨left, rfl, rfl, rfl, rfl, fun h => edit_normalized_workflow_eq_ok.mpr ⟨_, hpayload, hactive h⟩,
    fun h => edit_normalized_workflow_eq_ok.mpr ⟨_, hpayload, hretired h⟩⟩

end Removed

section AddThenRemove

variable {σ : Type} {allocate_id : σ → String × σ} {drawn next : σ} {workflow edited : NormalizedWorkflow}
  {parent_member_id : Contracts.Identifier} {member : NewMember}

/-- Whether a Member of a Workflow has a list of children, be it empty. -/
def HasChildList (workflow : NormalizedWorkflow) (member_id : Contracts.Identifier) : Prop :=
  ∃ found, find_member member_id.val workflow.lead = some found ∧ found.children.isSome

theorem NormalizedWorkflow.normalized_eq_self_iff : workflow.normalized = workflow ↔ workflow.InNormalForm := by
  constructor
  · intro h
    refine ⟨?_, ?_, ?_⟩
    · have hdescription : NonblankText.normalized workflow.description = workflow.description :=
        congrArg NormalizedWorkflow.description h
      exact normalize_text_eq_self_iff.mp (congrArg Subtype.val hdescription)
    · exact normalized_prose_eq_self_iff.mp (congrArg NormalizedWorkflow.note h)
    · intro fields hmem
      have hlead : workflow.lead.map_fields MemberFields.normalized = workflow.lead :=
        congrArg NormalizedWorkflow.lead h
      exact MemberFields.normalized_eq_self_iff.mp (map_fields_eq_self_iff.mp hlead fields hmem)
  · intro h
    refine NormalizedWorkflow.ext_lead rfl (Subtype.ext (normalize_text_eq_self_iff.mpr h.description))
      (normalized_prose_eq_self_iff.mpr h.note) ?_
    exact map_fields_eq_self_iff.mpr fun fields hmem => MemberFields.normalized_eq_self_iff.mpr (h.members fields hmem)

private theorem plain_prose_normal {text : Option String} (h : PlainProse text) :
    WorkflowReader.as_normalized.prose text = text := by
  cases text with
  | none => rfl
  | some s =>
    obtain ⟨hlines, hblank⟩ := h s rfl
    rw [WorkflowReader.as_normalized_prose, Option.map_some, normalize_text_eq_self_iff.mpr hlines,
      Option.filter_some_pos (by simp [hblank])]

/-- A Member that was added can be removed again. What is left is the Workflow it was added to exactly when its parent
    had a list of children and text normalization did not change the rest. -/
theorem add_then_remove
    (h : edit_normalized_workflow allocate_id drawn workflow (.add_member parent_member_id member) = .ok
      (edited, next)) :
    ∃ member_id back, member_id.val = (allocate_id drawn).1 ∧
      edit_normalized_workflow allocate_id next edited (.remove_member member_id) = .ok (back, next) ∧
      (back = workflow ↔ HasChildList workflow parent_member_id ∧ (NormalForm workflow ∨ ¬IsActive workflow)) := by
  obtain ⟨payload, validated, -, hshape, hsemantics, hvalidated, hread, hresult⟩ := accepted_edit h
  have hnormal : ∀ {drawn fields}, ReadsNew WorkflowReader.as_normalized.look drawn fields → fields.id.val = drawn.1 :=
    ReadsNew.id_normalized
  obtain ⟨found, member_id, hfind, hdrawn, hne, hremove⟩ := removed_lead hnormal hread.lead hsemantics.member_ids
  have hactive_iff : IsActive validated ↔ IsActive workflow := edited_active_iff hread hsemantics.member_ids
  have hrules : ∀ left : NormalizedWorkflow, left.lead = (opened parent_member_id found workflow.lead).normalized →
      SemanticRules left := fun left hlead => hsemantics.of_removal (hremove.trans (congrArg some hlead.symm))
  have hopened : (opened parent_member_id found workflow.lead = workflow.lead) ↔
      HasChildList workflow parent_member_id := by
    rw [opened_eq_self_iff hfind]
    constructor
    · exact fun hchildren => ⟨found, hfind, hchildren⟩
    · rintro ⟨found', hfind', hchildren⟩
      rwa [Option.some.inj (hfind.symm.trans hfind')]
  obtain ⟨-, -, htexts⟩ := validate_json_shape_eq_ok.mp hshape
  rw [has_xml_texts] at htexts
  have hleft_active : ∀ {left : NormalizedWorkflow} {f : MemberFields → MemberFields},
      left.lead = (opened parent_member_id found workflow.lead).map_fields f →
      (∀ fields, is_retired (f fields) = is_retired fields) → (IsActive left ↔ IsActive workflow) := by
    intro left f hlead hf
    rw [IsActive, hlead, all_fields_map_fields, opened_all_fields hfind, List.forall_mem_map, IsActive]
    exact forall₂_congr fun fields _ => by rw [hf]
  rcases hresult with ⟨hactive, rfl⟩ | ⟨hretired, hwritten, hreads⟩
  · have hnormal := in_normal_form_of_validated hshape hvalidated
    have hplain : ∀ fields ∈ ((opened parent_member_id found workflow.lead).map_fields
      MemberFields.normalized).all_fields, fields.InNormalForm := by
      obtain ⟨before, gone, after, hall, hrest, -⟩ := remove_member_all_fields hremove
      intro fields hmem
      refine hnormal.members fields ?_
      change fields ∈ ((opened parent_member_id found workflow.lead).map_fields
        WorkflowReader.as_normalized.fields).all_fields at hmem
      rw [hrest] at hmem
      rw [hall]
      rcases List.mem_append.mp hmem with hmem | hmem
      · exact List.mem_append_left _ hmem
      · exact List.mem_append_right _ (List.mem_append_right _ hmem)
    have hidem : ((opened parent_member_id found workflow.lead).map_fields MemberFields.normalized).normalized =
        (opened parent_member_id found workflow.lead).normalized :=
      map_fields_eq_self_iff.mpr fun fields hmem => MemberFields.normalized_eq_self_iff.mpr (hplain fields hmem)
    obtain ⟨left, hid, hdescription, hnote, hlead, haccepted, -⟩ :=
      @removal_accepted _ allocate_id next _ _ _ hremove hne (xml_of_normalized htexts hvalidated)
        fun left hlead => hrules left (hlead.trans hidem)
    have hleft : left.InNormalForm := by
      refine ⟨by rw [hdescription]; exact hnormal.description, by rw [hnote]; exact hnormal.note, ?_⟩
      rw [hlead]
      exact hplain
    refine ⟨member_id, left.normalized, hdrawn, haccepted ?_, ?_⟩
    · rw [hleft_active hlead reads_as_normalized.is_retired]
      exact hactive_iff.mp hactive
    rw [NormalizedWorkflow.normalized_eq_self_iff.mpr hleft, or_iff_left (not_not_intro (hactive_iff.mp hactive)),
      normal_form_iff, ← hopened]
    constructor
    · rintro rfl
      refine ⟨?_, hleft⟩
      have hself : (opened parent_member_id found left.lead).map_fields MemberFields.normalized =
          opened parent_member_id found left.lead := by
        refine map_fields_eq_self_iff.mpr fun fields hmem => MemberFields.normalized_eq_self_iff.mpr ?_
        rw [opened_all_fields hfind] at hmem
        exact hleft.members fields hmem
      exact (hlead.trans hself).symm
    · rintro ⟨hopen, hworkflow⟩
      refine NormalizedWorkflow.ext_lead (hid.trans hread.id) ?_ ?_ ?_
      · rw [hdescription]
        have htext : normalize_text workflow.description.val = edited.description.val :=
          Option.some.inj hread.description
        exact Subtype.ext (htext.symm.trans (normalize_text_eq_self_iff.mpr hworkflow.description))
      · rw [hnote]
        refine Option.map_injective Subtype.val_injective (hread.note.trans ?_)
        exact plain_prose_normal hworkflow.note
      · rw [hlead, hopen]
        exact map_fields_eq_self_iff.mpr fun fields hmem =>
          MemberFields.normalized_eq_self_iff.mpr (hworkflow.members fields hmem)
  · have hwrite : ∀ {drawn fields}, ReadsNew WorkflowReader.as_written.look drawn fields → fields.id.val = drawn.1 :=
      ReadsNew.id_written
    have hids : edited.lead.ids.Nodup := by
      rw [ids_nodup_iff, (EditedLead.added_ids hwrite hreads.lead).nodup_iff,
        ← (EditedLead.added_ids hnormal hread.lead).nodup_iff, ← ids_nodup_iff]
      exact hsemantics.member_ids
    obtain ⟨found', member_id', hfind', hdrawn', hne', hremove'⟩ := removed_lead hwrite hreads.lead hids
    obtain rfl := Option.some.inj (hfind.symm.trans hfind')
    have hwritten_fields : (opened parent_member_id found workflow.lead).map_fields WorkflowReader.as_written.fields =
        opened parent_member_id found workflow.lead := map_fields_id _
    rw [hwritten_fields] at hremove'
    obtain ⟨left, hid, hdescription, hnote, hlead, -, haccepted⟩ :=
      @removal_accepted _ allocate_id next _ _ _ hremove' hne' (xml_of_written htexts hwritten) hrules
    refine ⟨member_id', left, hdrawn', haccepted ?_, ?_⟩
    · rw [hleft_active (hlead.trans (map_fields_id _).symm) fun _ => rfl, ← hactive_iff]
      exact hretired
    rw [or_iff_right_of_imp fun _ => mt hactive_iff.mpr hretired, and_iff_left (mt hactive_iff.mpr hretired),
      ← hopened, ← hlead]
    refine ⟨congrArg NormalizedWorkflow.lead, NormalizedWorkflow.ext_lead (hid.trans hreads.id) ?_ ?_⟩
    · rw [hdescription]
      exact Subtype.ext (Option.some.inj hreads.description).symm
    · rw [hnote]
      exact Option.map_injective Subtype.val_injective hreads.note

/-- Exactly the Workflows whose leaves are written the same have the same text, and exactly an addition below a Member
    with a list of children leaves no trace when it is removed again. -/
theorem canonical_workflow_identity (sha256 : String → BitVec 256) (workflow workflow' : NormalizedWorkflow) :
    (SameWorkflow workflow workflow' → (canonical_workflow_text workflow = canonical_workflow_text workflow' ↔
        workflow.lead.leaf_writings = workflow'.lead.leaf_writings)) ∧
      (¬SameWorkflow workflow workflow' → canonical_workflow_text workflow ≠ canonical_workflow_text workflow') ∧
      (canonical_workflow_text workflow = canonical_workflow_text workflow' →
        canonical_workflow_hash sha256 workflow = canonical_workflow_hash sha256 workflow') ∧
      ∀ {σ : Type} {allocate_id : σ → String × σ} {drawn next : σ} {edited : NormalizedWorkflow}
        {parent_member_id : Contracts.Identifier} {member : NewMember},
        edit_normalized_workflow allocate_id drawn workflow (.add_member parent_member_id member) = .ok (edited, next) →
          ∃ member_id back, member_id.val = (allocate_id drawn).1 ∧
            edit_normalized_workflow allocate_id next edited (.remove_member member_id) = .ok (back, next) ∧
            (canonical_workflow_text back = canonical_workflow_text workflow ↔
              HasChildList workflow parent_member_id ∧ (NormalForm workflow ∨ ¬IsActive workflow)) ∧
            (HasChildList workflow parent_member_id ∧ (NormalForm workflow ∨ ¬IsActive workflow) →
              canonical_workflow_hash sha256 back = canonical_workflow_hash sha256 workflow) := by
  refine ⟨canonical_workflow_text_eq_iff, fun hne htext => hne ?_, fun htext => ?_, fun h => ?_⟩
  · rw [canonical_workflow_text_injective htext]
    exact ⟨rfl, rfl, rfl, rfl⟩
  · rw [canonical_workflow_hash, htext, canonical_workflow_hash]
  · obtain ⟨member_id, back, hdrawn, hremoved, hback⟩ := add_then_remove h
    refine ⟨member_id, back, hdrawn, hremoved, Iff.trans ⟨canonical_workflow_text_injective, fun h => by rw [h]⟩ hback,
      fun hcondition => ?_⟩
    rw [hback.mpr hcondition]

/-- A Workflow of one Member, with or without an empty list of children. -/
def leaf_workflow (listed : Bool) : NormalizedWorkflow where
  id := ⟨"team", team_identifier⟩
  description := ⟨"Does the work.", work_description⟩
  note := none
  lead := .mk {
    id := ⟨"member-1", first_member_identifier⟩, title := none, description := none, instruction := none,
      provider := none
    capabilities := none } (if listed then some [] else none)
  child_limit := by cases listed <;> rfl

private theorem leaf_workflow_addition (listed : Bool) : ∃ edited next,
    edit_normalized_workflow allocate_member_id 2 (leaf_workflow listed)
      (.add_member ⟨"member-1", first_member_identifier⟩ (.mk {} none)) = .ok (edited, next) := by
  have hrun : (edit_normalized_workflow allocate_member_id 2 (leaf_workflow listed)
      (.add_member ⟨"member-1", first_member_identifier⟩ (.mk {} none))).isOk = true := by
    cases listed <;> decide +kernel
  cases hedit : edit_normalized_workflow allocate_member_id 2 (leaf_workflow listed)
      (.add_member ⟨"member-1", first_member_identifier⟩ (.mk {} none)) with
  | ok result => exact ⟨result.1, result.2, rfl⟩
  | error error =>
    rw [hedit] at hrun
    cases hrun

private theorem leaf_workflow_normal (listed : Bool) : NormalForm (leaf_workflow listed) := by
  refine normal_form_iff.mpr ⟨by cases listed <;> decide +kernel, nofun, ?_⟩
  intro fields hfields
  have hall : (leaf_workflow listed).lead.all_fields = [(leaf_workflow listed).lead.fields] := by cases listed <;> rfl
  rw [hall, List.mem_singleton] at hfields
  rw [hfields]
  have hprovider : (leaf_workflow listed).lead.fields.provider = none := by cases listed <;> rfl
  refine ⟨by cases listed <;> exact nofun, by cases listed <;> exact nofun, by cases listed <;> exact nofun, ?_⟩
  intro selection hselection
  rw [hprovider] at hselection
  cases hselection

theorem canonical_workflow_identity_leaf : ∃ edited back next, ∃ member_id : Contracts.Identifier,
    edit_normalized_workflow allocate_member_id 2 (leaf_workflow true)
      (.add_member ⟨"member-1", first_member_identifier⟩ (.mk {} none)) = .ok (edited, next) ∧
    edit_normalized_workflow allocate_member_id next edited (.remove_member member_id) = .ok (back, next) ∧
    canonical_workflow_text back = canonical_workflow_text (leaf_workflow true) := by
  obtain ⟨edited, next, hedited⟩ := leaf_workflow_addition true
  obtain ⟨-, -, -, hremoval⟩ := canonical_workflow_identity (fun _ => 0) (leaf_workflow true) (leaf_workflow false)
  obtain ⟨member_id, back, -, hremoved, hback, -⟩ := hremoval hedited
  exact ⟨edited, back, next, member_id, hedited, hremoved,
    hback.mpr ⟨⟨(leaf_workflow true).lead, rfl, rfl⟩, .inl (leaf_workflow_normal true)⟩⟩

/-- A leaf without a list of children is told from one with an empty list, which is what a removal leaves. -/
theorem leaf_writings_told_apart :
    (¬∀ workflow workflow' : NormalizedWorkflow, SameWorkflow workflow workflow' →
        canonical_workflow_text workflow = canonical_workflow_text workflow') ∧
      ¬∀ (workflow edited back : NormalizedWorkflow) (drawn next : Nat)
        (parent_member_id member_id : Contracts.Identifier)
        (member : NewMember),
        edit_normalized_workflow allocate_member_id drawn workflow (.add_member parent_member_id member) =
            .ok (edited, next) → member_id.val = (allocate_member_id drawn).1 →
          edit_normalized_workflow allocate_member_id next edited (.remove_member member_id) = .ok (back, next) →
            canonical_workflow_text back = canonical_workflow_text workflow := by
  constructor
  · intro h
    have hsame : SameWorkflow (leaf_workflow false) (leaf_workflow true) := ⟨rfl, rfl, rfl, rfl⟩
    have hleaves := (canonical_workflow_text_eq_iff hsame).mp (h _ _ hsame)
    exact absurd hleaves (by decide)
  · intro h
    obtain ⟨edited, next, hedited⟩ := leaf_workflow_addition false
    obtain ⟨member_id, back, hdrawn, hremoved, hback⟩ := add_then_remove hedited
    have hsame := canonical_workflow_text_injective (h _ _ _ _ _ _ _ _ hedited hdrawn hremoved)
    obtain ⟨⟨found, hfound, hchildren⟩, -⟩ := hback.mp hsame
    obtain rfl := Option.some.inj hfound
    cases hchildren

end AddThenRemove

end OhMySubagents.Workflows
