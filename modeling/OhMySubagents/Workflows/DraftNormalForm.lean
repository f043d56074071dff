import OhMySubagents.Workflows.AcceptedEdits

open JsonData

namespace OhMySubagents.Workflows

open OhMySubagents.Workflows.NormalizedMember

section Texts

variable {n : Nat}

/-- Prose in normal form: its lines end with a line feed alone, and it is not blank. -/
def PlainProse (text : Option String) : Prop := ∀ s ∈ text, '\r' ∉ s.toList ∧ is_blank_text s = false

/-- The model of a provider selection has no line endings to normalize. -/
def PlainModel (provider : Option StoredProviderSelection) : Prop :=
  ∀ selection ∈ provider, ∀ model ∈ selection.model, '\r' ∉ model.val.toList

theorem normalized_prose_eq_self_iff {text : Option (BoundedText n)} :
    normalized_prose text = text ↔ PlainProse (text.map Subtype.val) := by
  unfold normalized_prose PlainProse
  cases text with
  | none => simp
  | some text =>
    rw [Option.map_some, Option.map_some, Option.filter_some]
    change (if (!is_blank_text (normalize_text text.val)) = true then some text.normalized else none) = some text ↔ _
    have hval : text.normalized = text ↔ normalize_text text.val = text.val := Subtype.ext_iff
    constructor
    · intro h s hs
      obtain rfl := Option.some.inj hs
      split at h
      · next hkept =>
        have hsame := hval.mp (Option.some.inj h)
        rw [hsame] at hkept
        exact ⟨normalize_text_eq_self_iff.mp hsame, by simpa using hkept⟩
      · cases h
    · intro h
      obtain ⟨hlines, hblank⟩ := h text.val rfl
      have hsame := normalize_text_eq_self_iff.mpr hlines
      rw [hsame, hblank, hval.mpr hsame]
      rfl

theorem plain_prose_filter (text : Option String) :
    PlainProse ((text.map normalize_text).filter fun text => !is_blank_text text) := by
  intro s hs
  cases text with
  | none => cases hs
  | some text =>
    rw [Option.map_some, Option.filter_some] at hs
    split at hs
    · next hkept =>
      obtain rfl := Option.some.inj hs
      exact ⟨normalize_text_eq_self_iff.mp (normalize_text_idem _), by simpa using hkept⟩
    · cases hs

theorem selection_normalized_eq_self_iff {provider : Option StoredProviderSelection} :
    provider.map StoredProviderSelection.normalized = provider ↔ PlainModel provider := by
  unfold PlainModel
  cases provider with
  | none => simp
  | some selection =>
    rw [Option.map_some, Option.some.injEq]
    have hmodel : selection.normalized = selection ↔ selection.model.map NonblankText.normalized = selection.model :=
      ⟨fun h => congrArg StoredProviderSelection.model h, fun h => by
        obtain ⟨kind, model, effort, sandbox, mode, supported⟩ := selection
        exact StoredProviderSelection.mk.injEq .. ▸ ⟨rfl, h, rfl, rfl, rfl⟩⟩
    rw [hmodel]
    simp only [Option.mem_def, Option.some.injEq, forall_eq']
    cases selection.model with
    | none => simp
    | some model =>
      have hval : NonblankText.normalized model = model ↔ normalize_text model.val = model.val := Subtype.ext_iff
      simp only [Option.map_some, Option.some.injEq, forall_eq', hval, normalize_text_eq_self_iff]

end Texts

/-- What a Member says of itself is in normal form. -/
structure MemberFields.InNormalForm (fields : MemberFields) : Prop where
  title : PlainProse (fields.title.map Subtype.val)
  description : PlainProse (fields.description.map Subtype.val)
  instruction : PlainProse (fields.instruction.map Subtype.val)
  model : PlainModel fields.provider

theorem MemberFields.normalized_eq_self_iff {fields : MemberFields} :
    fields.normalized = fields ↔ fields.InNormalForm := by
  obtain ⟨id, title, description, instruction, provider, capabilities⟩ := fields
  rw [MemberFields.normalized, MemberFields.mk.injEq]
  constructor
  · rintro ⟨-, htitle, hdescription, hinstruction, hprovider, -⟩
    exact ⟨normalized_prose_eq_self_iff.mp htitle, normalized_prose_eq_self_iff.mp hdescription,
      normalized_prose_eq_self_iff.mp hinstruction, selection_normalized_eq_self_iff.mp hprovider⟩
  · rintro ⟨htitle, hdescription, hinstruction, hmodel⟩
    exact ⟨rfl, normalized_prose_eq_self_iff.mpr htitle, normalized_prose_eq_self_iff.mpr hdescription,
      normalized_prose_eq_self_iff.mpr hinstruction, selection_normalized_eq_self_iff.mpr hmodel, rfl⟩

/-- Every text of a Workflow is in normal form. -/
structure NormalizedWorkflow.InNormalForm (workflow : NormalizedWorkflow) : Prop where
  description : '\r' ∉ workflow.description.val.toList
  note : PlainProse (workflow.note.map Subtype.val)
  members : ∀ fields ∈ workflow.lead.all_fields, fields.InNormalForm

section ReadTexts

variable {lookup : String → Option JsonData} {key : String}

/-- Prose that was put at a key is what is read there. -/
theorem prose_field_val {text : Option (BoundedText 16384)} {written : Option String}
    (h : (prose_field key).decode lookup = some text) (hlookup : lookup key = written.map .string) :
    text.map Subtype.val = written := by
  rcases optional_text_decode.mp h with ⟨hnone, hvalue⟩ | ⟨s, hsome, hvalue⟩
  · rw [hnone]
    cases written with
    | none => rfl
    | some written => rcases hvalue with hvalue | hvalue <;> rw [hvalue] at hlookup <;> cases hlookup
  · rw [hsome]
    cases written with
    | none =>
      rw [hvalue] at hlookup
      cases hlookup
    | some written =>
      rw [hvalue] at hlookup
      exact congrArg some (JsonData.string.inj (Option.some.inj hlookup))

private theorem plain_prose_of_filter {value : Option JsonData} {text : String}
    (h : (value.map _normalize_value).filter (fun value => !is_blank value) = some (.string text)) :
    PlainProse (some text) := by
  obtain ⟨hmem, hkept⟩ := Option.filter_eq_some_iff.mp h
  clear h
  obtain ⟨data, rfl, hdata⟩ := Option.map_eq_some_iff.mp hmem
  match data with
  | .string written =>
    intro s hs
    obtain rfl := Option.some.inj hs
    rw [is_blank_string] at hkept
    rw [← JsonData.string.inj hdata] at hkept ⊢
    exact ⟨normalize_text_eq_self_iff.mp (normalize_text_idem _), by simpa using hkept⟩
  | .null | .bool _ | .int _ | .array _ | .object _ => cases hdata

/-- Prose that is read after normalization is in normal form. -/
theorem plain_prose_field {text : Option (BoundedText 16384)} {value : Option JsonData}
    (hkey : key ∈ _OPTIONAL_MEMBER_PROSE) (h : (prose_field key).decode lookup = some text)
    (hlookup : lookup key = as_normalized key value) : PlainProse (text.map Subtype.val) := by
  rw [as_normalized, if_pos hkey] at hlookup
  rcases optional_text_decode.mp h with ⟨rfl, -⟩ | ⟨s, rfl, hvalue⟩
  · rintro s ⟨⟩
  · rw [hvalue] at hlookup
    exact plain_prose_of_filter hlookup.symm

theorem plain_model_field {provider : Option StoredProviderSelection} {value : Option JsonData}
    (h : (Fields.settable "provider" StoredProviderSelection.codec).decode lookup = some provider)
    (hlookup : lookup "provider" = value.map _normalize_value) : PlainModel provider := by
  intro selection hselection model hmodel
  rcases settable_decode_eq_some h with ⟨hnone, -⟩ | ⟨read, data, hsome, hdata, hdecode⟩
  · rw [hnone] at hselection
    cases hselection
  · obtain rfl := Option.some.inj (hselection.symm.trans hsome)
    rw [hdata] at hlookup
    obtain ⟨written, rfl, hwritten⟩ := Option.map_eq_some_iff.mp hlookup.symm
    obtain ⟨members, rfl, hmembers⟩ := selection_decode_eq_some hdecode
    match written with
    | .object own =>
      obtain rfl := JsonData.object.inj hwritten
      rcases settable_decode_eq_some hmembers with ⟨hnone, -⟩ | ⟨read, data, hsome, hdata, hdecode⟩
      · rw [hnone] at hmodel
        cases hmodel
      · obtain rfl := Option.some.inj (hmodel.symm.trans hsome)
        rw [lookup_normalize_members] at hdata
        obtain ⟨text, -, htext⟩ := Option.map_eq_some_iff.mp hdata
        rw [string_check_decode.mp hdecode] at htext
        match text with
        | .string text =>
          rw [← JsonData.string.inj htext]
          exact normalize_text_eq_self_iff.mp (normalize_text_idem text)
        | .null | .bool _ | .int _ | .array _ | .object _ => cases htext
    | .null | .bool _ | .int _ | .array _ | .string _ => cases hwritten

/-- A Member that is read after normalization is in normal form. -/
theorem in_normal_form_of_normalized {lookup : String → Option JsonData} {fields : MemberFields}
    (h : MemberFields.members.decode (fun key => as_normalized key (lookup key)) = some fields) :
    fields.InNormalForm := by
  obtain ⟨-, htitle, hdescription, hinstruction, hprovider, -⟩ := members_decode_eq_some h
  have hvalue : as_normalized "provider" (lookup "provider") = (lookup "provider").map _normalize_value :=
    if_neg (by decide)
  exact ⟨plain_prose_field (by decide) htitle rfl, plain_prose_field (by decide) hdescription rfl,
    plain_prose_field (by decide) hinstruction rfl, plain_model_field hprovider hvalue⟩

private theorem read_all {look : Look} {p : MemberFields → Prop}
    (h : ∀ members fields, members_have_xml_texts members = true → read_fields look members = some fields → p fields) :
    (∀ payload, has_xml_texts payload = true →
        (∀ member, read_member look payload = some member → ∀ fields ∈ member.all_fields, p fields) ∧
          ∀ children, read_children look payload = some children → ∀ fields ∈ all_fields_of children, p fields) ∧
      (∀ items, items_have_xml_texts items = true → ∀ members, read_members look items = some members →
        ∀ fields ∈ all_fields_of members, p fields) ∧
      ∀ own, members_have_xml_texts own = true → ∀ children, read_children_field look own = some children →
        ∀ fields ∈ all_fields_of (children.getD []), p fields := by
  refine data_induction ?_ ?_ ?_ ?_ ?_ ?_ ?_ ?_ ?_ ?_
  · exact fun _ => ⟨nofun, nofun⟩
  · exact fun _ _ => ⟨nofun, nofun⟩
  · exact fun _ _ => ⟨nofun, nofun⟩
  · exact fun _ _ => ⟨nofun, nofun⟩
  · exact fun items ih htexts => ⟨nofun, fun children hread => ih htexts children hread⟩
  · intro own ih htexts
    refine ⟨fun member hread => ?_, nofun⟩
    rw [read_member] at hread
    obtain ⟨fields, hfields, hread⟩ := Option.bind_eq_some_iff.mp hread
    obtain ⟨children, hchildren, rfl⟩ := Option.map_eq_some_iff.mp hread
    rw [all_fields_eq, List.forall_mem_cons]
    exact ⟨h own fields htexts hfields, ih htexts children hchildren⟩
  · intro _ members hread
    rw [read_members] at hread
    obtain rfl := Option.some.inj hread
    rw [all_fields_of]
    exact List.forall_mem_nil _
  · intro item items hitem hitems htexts members hread
    rw [items_have_xml_texts, Bool.and_eq_true] at htexts
    rw [read_members] at hread
    obtain ⟨first, hfirst, hread⟩ := Option.bind_eq_some_iff.mp hread
    obtain ⟨rest, hrest, rfl⟩ := Option.map_eq_some_iff.mp hread
    rw [all_fields_of, List.forall_mem_append]
    exact ⟨(hitem htexts.1).1 first hfirst, hitems htexts.2 rest hrest⟩
  · intro _ children hread
    rw [read_children_field] at hread
    obtain rfl := Option.some.inj hread
    rw [Option.getD_none, all_fields_of]
    exact List.forall_mem_nil _
  · intro key value members hvalue hmembers htexts children hread
    rw [members_have_xml_texts, Bool.and_eq_true, Bool.and_eq_true] at htexts
    rw [read_children_field] at hread
    split at hread
    · obtain ⟨read, hbelow, rfl⟩ := Option.map_eq_some_iff.mp hread
      exact (hvalue htexts.1.2).2 read hbelow
    · exact hmembers htexts.2 children hread

/-- What every mapping of a payload is read as, every Member of the tree is. -/
theorem read_member_all {look : Look} {p : MemberFields → Prop}
    (h : ∀ members fields, members_have_xml_texts members = true → read_fields look members = some fields → p fields)
    {payload : JsonData} {member : NormalizedMember} (htexts : has_xml_texts payload = true)
    (hread : read_member look payload = some member) : ∀ fields ∈ member.all_fields, p fields :=
  ((read_all h).1 payload htexts).1 member hread

end ReadTexts

section Operations

/-- What a new Member says of itself is in normal form. -/
structure NewMemberFields.InNormalForm (fields : NewMemberFields) : Prop where
  title : PlainProse fields.title
  description : PlainProse fields.description
  instruction : PlainProse fields.instruction
  model : PlainModel (fields.provider.map Subtype.val)

mutual

/-- What every Member of an authored tree says of itself. -/
def NewMember.all_fields : NewMember → List NewMemberFields
  | .mk fields none => [fields]
  | .mk fields (some children) => fields :: new_fields_of children

def new_fields_of : List NewMember → List NewMemberFields
  | [] => []
  | child :: children => child.all_fields ++ new_fields_of children

end

structure MemberPatch.InNormalForm (patch : MemberPatch) : Prop where
  title : ∀ text ∈ patch.title, PlainProse text
  description : ∀ text ∈ patch.description, PlainProse text
  instruction : ∀ text ∈ patch.instruction, PlainProse text
  model : ∀ provider ∈ patch.provider, PlainModel (provider.map Subtype.val)

structure WorkflowPatch.InNormalForm (patch : WorkflowPatch) : Prop where
  description : ∀ text ∈ patch.description, ∀ s ∈ text, '\r' ∉ s.toList
  note : ∀ text ∈ patch.note, PlainProse text

/-- The texts that an edit brings are in normal form. -/
def DraftOperation.InNormalForm : DraftOperation → Prop
  | .update_workflow patch => patch.InNormalForm
  | .add_member _ member => ∀ fields ∈ member.all_fields, fields.InNormalForm
  | .update_member _ patch => patch.InNormalForm
  | .remove_member _ => True

/-- An edit leaves no Member that selects the retired provider. -/
def LeavesActive (workflow : NormalizedWorkflow) : DraftOperation → Prop
  | .update_workflow _ | .add_member _ _ => IsActive workflow
  | .update_member member_id patch =>
    ∀ fields ∈ workflow.lead.all_fields, is_retired fields = true → fields.id = member_id ∧ patch.provider.isSome
  | .remove_member member_id =>
    ∀ rest, remove_member member_id.val workflow.lead = some rest → ∀ fields ∈ rest.all_fields,
      is_retired fields = false

variable {σ : Type} {allocate_id : σ → String × σ}

private theorem drawn_fields :
    (∀ member (drawn : σ), (drawn_members allocate_id drawn member).map Prod.snd = member.all_fields) ∧
      ∀ children (drawn : σ), (drawn_children allocate_id drawn children).map Prod.snd = new_fields_of children := by
  refine NewMember.forest_induction (fun fields drawn => ?_) (fun fields children ih drawn => ?_) (fun drawn => ?_)
    fun child children hchild hchildren drawn => ?_
  · rw [drawn_members, NewMember.all_fields, List.map_singleton]
  · rw [drawn_members, NewMember.all_fields, List.map_cons, ih]
  · rw [drawn_children, new_fields_of, List.map_nil]
  · rw [drawn_children, new_fields_of, List.map_append, hchild, hchildren]

theorem settable_decode_encode {α : Type} {key : String} {c : Codec α} {value : Option α}
    {lookup : String → Option JsonData} (h : lookup key = value.map c.encode) :
    (Fields.settable key c).decode lookup = some value := by
  change (lookup key).elim (some none) (fun v => (c.decode v).map some) = some value
  rw [h]
  cases value with
  | none => rfl
  | some value =>
    rw [Option.map_some, Option.elim_some, c.decode_encode]
    rfl

private theorem reads_new_in_normal_form {drawn : String × NewMemberFields} {fields : MemberFields}
    (h : ReadsNew as_written drawn fields) : fields.InNormalForm ↔ drawn.2.InNormalForm := by
  obtain ⟨-, htitle, hdescription, hinstruction, hprovider, -⟩ := members_decode_eq_some h
  have htitle := prose_field_val htitle lookup_new_member_mapping
  have hdescription := prose_field_val hdescription lookup_new_member_mapping
  have hinstruction := prose_field_val hinstruction lookup_new_member_mapping
  have hwritten : (new_member_mapping drawn).lookup "provider" =
      (drawn.2.provider.map Subtype.val).map StoredProviderSelection.codec.encode := by
    rw [lookup_new_member_mapping, Option.map_map]
    rfl
  have hsame := Option.some.inj (hprovider.symm.trans (settable_decode_encode hwritten))
  constructor
  · rintro ⟨h1, h2, h3, h4⟩
    rw [htitle] at h1
    rw [hdescription] at h2
    rw [hinstruction] at h3
    rw [hsame] at h4
    exact ⟨h1, h2, h3, h4⟩
  · rintro ⟨h1, h2, h3, h4⟩
    exact ⟨by rwa [htitle], by rwa [hdescription], by rwa [hinstruction], by rwa [hsame]⟩

private theorem read_new_in_normal_form {member : NewMember} {drawn : σ} {new : NormalizedMember}
    (h : read_member as_written (_new_member_payload allocate_id drawn member).1 = some new) :
    (∀ fields ∈ new.all_fields, fields.InNormalForm) ↔ ∀ fields ∈ member.all_fields, fields.InNormalForm := by
  rw [← drawn_fields.1 member drawn, List.forall_mem_map]
  have hread := read_new_member h
  generalize drawn_members allocate_id drawn member = drawns, new.all_fields = read at hread ⊢
  induction hread with
  | nil => exact ⟨fun _ => List.forall_mem_nil _, fun _ => List.forall_mem_nil _⟩
  | cons hfirst _ ih =>
    rw [List.forall_mem_cons, List.forall_mem_cons]
    exact and_congr (reads_new_in_normal_form hfirst) ih

private theorem read_new_active {reader : WorkflowReader} {member : NewMember} {drawn : σ} {new : NormalizedMember}
    (h : read_member reader.look (_new_member_payload allocate_id drawn member).1 = some new) :
    ∀ fields ∈ new.all_fields, is_retired fields = false := by
  have hread := read_new_member h
  generalize drawn_members allocate_id drawn member = drawns, new.all_fields = read at hread ⊢
  induction hread with
  | nil => exact List.forall_mem_nil _
  | cons hfirst _ ih => exact List.forall_mem_cons.mpr ⟨hfirst.is_retired reader.reads, ih⟩

section Patched

variable {patch : MemberPatch} {found new : MemberFields}

private theorem elim_map_string {set : Option (Option String)} {text : Option String} :
    (set.elim (text.map JsonData.string) fun set => set.map .string) = (set.elim text fun set => set).map .string := by
  cases set <;> rfl

private theorem plain_elim {set : Option (Option String)} {text : Option String} (h : PlainProse text) :
    PlainProse (set.elim text fun set => set) ↔ ∀ text ∈ set, PlainProse text := by
  cases set with
  | none => exact ⟨fun _ => nofun, fun _ => h⟩
  | some set => simp

private theorem patched_provider : patched patch.dump "provider"
    ((MemberFields.members.encode found).lookup "provider") =
    (patch.provider.elim found.provider fun set => set.map Subtype.val).map StoredProviderSelection.codec.encode := by
  rw [MemberPatch.patched_dump, lookup_members_encode]
  cases hset : patch.provider with
  | none => rfl
  | some set =>
    change set.map ProviderSelection.codec.encode = (set.map Subtype.val).map StoredProviderSelection.codec.encode
    rw [Option.map_map]
    rfl

/-- A patched Member is in normal form when the patch is. -/
private theorem patched_in_normal_form (hfound : found.InNormalForm)
    (h : MemberFields.members.decode (fun key => as_written key
      (patched patch.dump key ((MemberFields.members.encode found).lookup key))) = some new) :
    new.InNormalForm ↔ patch.InNormalForm := by
  obtain ⟨-, htitle, hdescription, hinstruction, hprovider, -⟩ := members_decode_eq_some h
  have hprose : ∀ {key : String} {set : Option (Option String)} {text new_text : Option (BoundedText 16384)},
      PlainProse (text.map Subtype.val) →
      patched patch.dump key ((MemberFields.members.encode found).lookup key) =
        (set.elim ((text.map Subtype.val).map .string) fun set => set.map .string) →
      (prose_field key).decode (fun key => as_written key
        (patched patch.dump key ((MemberFields.members.encode found).lookup key))) = some new_text →
      (PlainProse (new_text.map Subtype.val) ↔ ∀ text ∈ set, PlainProse text) := by
    intro key set text new_text hplain hlookup hread
    rw [prose_field_val hread (hlookup.trans elim_map_string), plain_elim hplain]
  have h1 := hprose hfound.title (by
    rw [MemberPatch.patched_dump, lookup_members_encode, Option.map_map]
    rfl) htitle
  have h2 := hprose hfound.description (by
    rw [MemberPatch.patched_dump, lookup_members_encode, Option.map_map]
    rfl) hdescription
  have h3 := hprose hfound.instruction (by
    rw [MemberPatch.patched_dump, lookup_members_encode, Option.map_map]
    rfl) hinstruction
  have hsame := Option.some.inj (hprovider.symm.trans (settable_decode_encode patched_provider))
  have h4 : PlainModel new.provider ↔ ∀ provider ∈ patch.provider, PlainModel (provider.map Subtype.val) := by
    rw [hsame]
    cases patch.provider with
    | none =>
      exact ⟨fun _ provider hprovider => absurd hprovider (Option.not_mem_none _), fun _ => hfound.model⟩
    | some set => simp
  exact ⟨fun ⟨t1, t2, t3, t4⟩ => ⟨h1.mp t1, h2.mp t2, h3.mp t3, h4.mp t4⟩,
    fun ⟨t1, t2, t3, t4⟩ => ⟨h1.mpr t1, h2.mpr t2, h3.mpr t3, h4.mpr t4⟩⟩

/-- A patched Member selects the retired provider when it did and the patch says nothing of it. -/
private theorem patched_is_retired {reader : WorkflowReader}
    (h : MemberFields.members.decode (fun key => reader.look key
      (patched patch.dump key ((MemberFields.members.encode found).lookup key))) = some new) :
    is_retired new = true ↔ is_retired found = true ∧ patch.provider = none := by
  obtain ⟨-, -, -, -, hprovider, -⟩ := members_decode_eq_some h
  have hkind := reader.reads.is_retired_decode (patch.provider.elim found.provider fun set => set.map Subtype.val)
    found.id (by rw [patched_provider]) hprovider
  change new.provider.any _ = true ↔ found.provider.any _ = true ∧ _
  rw [hkind]
  cases patch.provider with
  | none => simp
  | some set =>
    cases set with
    | none => simp
    | some selection => simp [selection.property]

end Patched

variable {workflow edited : NormalizedWorkflow} {operation : DraftOperation} {drawn next : σ}

private theorem active_map {reader : WorkflowReader} {all : List MemberFields} :
    (∀ fields ∈ all.map reader.fields, is_retired fields = false) ↔ ∀ fields ∈ all, is_retired fields = false := by
  rw [List.forall_mem_map]
  exact forall₂_congr fun fields _ => by rw [is_retired, reader.reads.is_retired]; rfl

private theorem updated_active {reader : WorkflowReader} {member_id : Contracts.Identifier} {patch : MemberPatch}
    (h : Edited allocate_id drawn reader workflow (.update_member member_id patch) edited)
    (hids : edited.lead.ids.Nodup) : IsActive edited ↔
      ∀ fields ∈ workflow.lead.all_fields, is_retired fields = true → fields.id = member_id ∧
        patch.provider.isSome := by
  obtain ⟨found, new, before, after, hall, hid, hbefore, hfields, hedited⟩ := EditedLead.update_fields h.lead
  have hkept : patched patch.dump "id" ((MemberFields.members.encode found).lookup "id") =
    some (.string found.id.val) := by
    rw [MemberPatch.patched_dump, lookup_members_encode]
    rfl
  have hnew : new.id = found.id :=
    reader.reads.id_decode found.id (congrArg (reader.look "id") hkept) (members_decode_eq_some hfields).1
  -- no other Member has the identifier of the updated one
  have hafter : ∀ fields ∈ after, fields.id ≠ member_id := by
    rw [NormalizedMember.ids, hedited, List.map_append, List.map_cons, List.nodup_append'] at hids
    intro fields hmem heq
    refine (List.nodup_cons.mp hids.2.1).1 ?_
    rw [hnew, hid, ← heq, ← reader.reads.id fields]
    exact List.mem_map_of_mem (List.mem_map_of_mem hmem)
  have hother : ∀ {all : List MemberFields}, (∀ fields ∈ all, fields.id ≠ member_id) →
      ((∀ fields ∈ all, is_retired fields = false) ↔
        ∀ fields ∈ all, is_retired fields = true → fields.id = member_id ∧ patch.provider.isSome) := by
    intro all hne
    refine forall₂_congr fun fields hmem => ?_
    cases is_retired fields with
    | false => simp
    | true => simp [hne fields hmem]
  have hpatched : is_retired new = false ↔ (is_retired found = true → found.id = member_id ∧
    patch.provider.isSome) := by
    have hretired := patched_is_retired hfields
    cases hnew_retired : is_retired new with
    | false =>
      rw [hnew_retired] at hretired
      simp only [true_iff]
      intro hfound
      refine ⟨hid, Option.isSome_iff_ne_none.mpr fun hnone => ?_⟩
      exact Bool.false_ne_true (hretired.mpr ⟨hfound, hnone⟩)
    | true =>
      obtain ⟨hfound, hnone⟩ := hretired.mp hnew_retired
      simp [hfound, hnone]
  rw [IsActive, hedited, hall, List.forall_mem_append, List.forall_mem_cons, List.forall_mem_append,
    List.forall_mem_cons, active_map, active_map, hother hbefore, hother hafter, hpatched]

/-- Whether an edited Workflow selects the retired provider can be told from the edit. -/
theorem edited_active_iff {reader : WorkflowReader}
    (h : Edited allocate_id drawn reader workflow operation edited) (hids : edited.lead.ids.Nodup) :
    IsActive edited ↔ LeavesActive workflow operation := by
  cases operation with
  | update_workflow patch =>
    have hlead : edited.lead = workflow.lead.map_fields reader.fields := h.lead
    rw [IsActive, hlead, all_fields_map_fields, active_map]
    exact Iff.rfl
  | add_member parent_member_id member =>
    obtain ⟨new, before, after, hnew, hall, hedited⟩ := EditedLead.add_fields h.lead
    rw [IsActive, hedited, List.forall_mem_append, List.forall_mem_append, active_map, active_map,
      LeavesActive, IsActive, hall, List.forall_mem_append]
    exact ⟨fun h => ⟨h.1, h.2.2⟩, fun h => ⟨h.1, read_new_active hnew, h.2⟩⟩
  | update_member member_id patch => exact updated_active h hids
  | remove_member member_id =>
    obtain ⟨rest, hrest, hlead⟩ := h.lead
    rw [IsActive, hlead, all_fields_map_fields, active_map, LeavesActive]
    constructor
    · intro hactive rest' hrest'
      rwa [Option.some.inj (hrest'.symm.trans hrest)]
    · exact fun hactive => hactive rest hrest

theorem xml_texts_of_lookup {payload : List (String × JsonData)} {key : String} {value : JsonData}
    (h : members_have_xml_texts payload = true) (hlookup : payload.lookup key = some value) :
    has_xml_texts value = true := by
  induction payload with
  | nil => cases hlookup
  | cons member payload ih =>
    obtain ⟨name, child⟩ := member
    rw [members_have_xml_texts, Bool.and_eq_true, Bool.and_eq_true] at h
    rw [lookup_cons] at hlookup
    split at hlookup
    · obtain rfl := Option.some.inj hlookup
      exact h.1.2
    · exact ih h.2 hlookup

private theorem plain_note {text : Option (BoundedText 8192)} {value : Option JsonData}
    (h : (text = none ∧ ((value.map _normalize_value).filter (fun value => !is_blank value) = none ∨
        (value.map _normalize_value).filter (fun value => !is_blank value) = some .null)) ∨
      ∃ s, text = some s ∧ (value.map _normalize_value).filter (fun value => !is_blank value) = some (.string s.val)) :
    PlainProse (text.map Subtype.val) := by
  rcases h with ⟨rfl, -⟩ | ⟨s, rfl, hlookup⟩
  · exact nofun
  · exact plain_prose_of_filter hlookup

/-- A Workflow that an edit leaves as it is written is in normal form when the texts of the edit are. -/
private theorem written_in_normal_form_iff (hworkflow : workflow.InNormalForm)
    (h : Edited allocate_id drawn .as_written workflow operation edited) :
    edited.InNormalForm ↔ operation.InNormalForm := by
  have hdescription : edited_description workflow operation = some edited.description.val := by
    have hread := h.description
    rwa [show WorkflowReader.as_written.text = id from rfl, Option.map_id_fun, id] at hread
  have hnote : edited.note.map Subtype.val = edited_note workflow operation := h.note
  have hsame : ∀ all : List MemberFields, all.map WorkflowReader.as_written.fields = all := List.map_id
  have hmembers : edited.InNormalForm ↔ '\r' ∉ edited.description.val.toList ∧
      PlainProse (edited.note.map Subtype.val) ∧ ∀ fields ∈ edited.lead.all_fields, fields.InNormalForm :=
    ⟨fun h => ⟨h.description, h.note, h.members⟩, fun h => ⟨h.1, h.2.1, h.2.2⟩⟩
  rw [hmembers, hnote]
  -- only an update of the Workflow changes its own texts
  have hown : edited_description workflow operation = some workflow.description.val →
      edited_note workflow operation = workflow.note.map Subtype.val →
      ('\r' ∉ edited.description.val.toList ∧ PlainProse (edited_note workflow operation)) := by
    intro hkept hkept'
    rw [hkept', Option.some.inj (hdescription.symm.trans hkept)]
    exact ⟨hworkflow.description, hworkflow.note⟩
  cases operation with
  | update_workflow patch =>
    have hlead : edited.lead = workflow.lead := by
      have hread : edited.lead = workflow.lead.map_fields fun fields => fields := h.lead
      rw [hread, map_fields_id]
    have hlines : '\r' ∉ edited.description.val.toList ↔ ∀ text ∈ patch.description, ∀ s ∈ text, '\r' ∉ s.toList := by
      rw [edited_description] at hdescription
      cases hset : patch.description with
      | none =>
        rw [hset] at hdescription
        rw [← Option.some.inj hdescription]
        refine ⟨fun _ => ?_, fun _ => hworkflow.description⟩
        rintro text ⟨⟩
      | some set =>
        rw [hset] at hdescription
        change set = some edited.description.val at hdescription
        simp [hdescription]
    have hplain : PlainProse (edited_note workflow (.update_workflow patch)) ↔ ∀ text ∈ patch.note, PlainProse text :=
      plain_elim hworkflow.note
    rw [hlines, hplain, hlead]
    exact ⟨fun h => ⟨h.1, h.2.1⟩, fun h => ⟨h.1, h.2, hworkflow.members⟩⟩
  | add_member parent_member_id member =>
    obtain ⟨hlines, hplain⟩ := hown rfl rfl
    obtain ⟨new, before, after, hnew, hall, hedited⟩ := EditedLead.add_fields h.lead
    have hold := hworkflow.members
    rw [hall, List.forall_mem_append] at hold
    rw [hedited, hsame, hsame, List.forall_mem_append, List.forall_mem_append]
    exact ⟨fun h => (read_new_in_normal_form hnew).mp h.2.2.2.1,
      fun h => ⟨hlines, hplain, hold.1, (read_new_in_normal_form hnew).mpr h, hold.2⟩⟩
  | update_member member_id patch =>
    obtain ⟨hlines, hplain⟩ := hown rfl rfl
    obtain ⟨found, new, before, after, hall, -, -, hfields, hedited⟩ := EditedLead.update_fields h.lead
    have hold := hworkflow.members
    rw [hall, List.forall_mem_append, List.forall_mem_cons] at hold
    have hpatched := patched_in_normal_form hold.2.1 hfields
    rw [hedited, hsame, hsame, List.forall_mem_append, List.forall_mem_cons]
    exact ⟨fun h => hpatched.mp h.2.2.2.1, fun h => ⟨hlines, hplain, hold.1, hpatched.mpr h, hold.2.2⟩⟩
  | remove_member member_id =>
    obtain ⟨hlines, hplain⟩ := hown rfl rfl
    obtain ⟨before, gone, after, hall, hedited⟩ := EditedLead.remove_fields h.lead
    have hold := hworkflow.members
    rw [hall, List.forall_mem_append, List.forall_mem_append] at hold
    rw [hedited, hsame, hsame, List.forall_mem_append]
    exact ⟨fun _ => trivial, fun _ => ⟨hlines, hplain, hold.1, hold.2.2⟩⟩

/-- What is validated after text normalization is in normal form. -/
theorem in_normal_form_of_validated {payload : List (String × JsonData)} {validated : NormalizedWorkflow}
    (hshape : _validate_json_shape (.object payload) = .ok ())
    (hvalidated : NormalizedWorkflow.model_validate (.object (_normalize_workflow_mapping payload)) = some validated) :
    validated.InNormalForm := by
  obtain ⟨-, -, htexts⟩ := validate_json_shape_eq_ok.mp hshape
  rw [has_xml_texts] at htexts
  obtain ⟨-, hdescription, hnote, hlead⟩ := validated_fields hvalidated
  rw [lookup_normalize_workflow_mapping, if_neg (by decide), if_neg (by decide)] at hdescription
  rw [lookup_normalize_workflow_mapping, if_neg (by decide), if_pos rfl] at hnote
  rw [lookup_normalize_workflow_mapping, if_pos rfl] at hlead
  refine ⟨?_, ?_, ?_⟩
  · obtain ⟨value, -, hvalue⟩ := Option.map_eq_some_iff.mp hdescription
    cases value with
    | string text =>
      rw [← JsonData.string.inj hvalue]
      exact normalize_text_eq_self_iff.mp (normalize_text_idem text)
    | _ => cases hvalue
  · refine plain_note hnote
  · obtain ⟨mapping, hmapping, hread⟩ := Option.bind_eq_some_iff.mp hlead
    obtain ⟨value, hvalue, rfl⟩ := Option.map_eq_some_iff.mp hmapping
    obtain ⟨lead, hlookup, rfl⟩ := Option.map_eq_some_iff.mp hvalue
    rw [read_normalized_member] at hread
    exact read_member_all (fun members fields _ hfields => in_normal_form_of_normalized (read_fields_eq_some hfields))
      (xml_texts_of_lookup htexts hlookup) hread

/-- An accepted edit of a Workflow in normal form keeps that form under exactly these conditions. -/
theorem edited_in_normal_form_iff (hworkflow : workflow.InNormalForm)
    (h : edit_normalized_workflow allocate_id drawn workflow operation = .ok (edited, next)) :
    edited.InNormalForm ↔ operation.InNormalForm ∨ LeavesActive workflow operation := by
  obtain ⟨payload, validated, -, hshape, hsemantics, hvalidated, hread, hresult⟩ := accepted_edit h
  have hactive_iff := edited_active_iff hread hsemantics.member_ids
  rcases hresult with ⟨hactive, rfl⟩ | ⟨hretired, -, hwritten⟩
  · exact ⟨fun _ => .inr (hactive_iff.mp hactive), fun _ => in_normal_form_of_validated hshape hvalidated⟩
  · rw [or_iff_left (mt hactive_iff.mpr hretired)]
    exact written_in_normal_form_iff hworkflow hwritten

end Operations

end OhMySubagents.Workflows
