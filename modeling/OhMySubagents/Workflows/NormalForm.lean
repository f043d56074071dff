import OhMySubagents.Workflows.Readback

open JsonData

namespace OhMySubagents

variable {chars : List Char} {c : Char}

theorem mem_replace_crlf (h : c ∈ chars) (hc : c ≠ '\r') : c ∈ replace_crlf chars := by
  induction chars using replace_crlf.induct with
  | case1 rest ih =>
    rw [replace_crlf]
    rcases List.mem_cons.mp h with rfl | h
    · exact absurd rfl hc
    · rcases List.mem_cons.mp h with rfl | h
      · exact List.mem_cons_self
      · exact List.mem_cons_of_mem _ (ih h)
  | case2 d rest hne ih =>
    rw [replace_crlf]
    · rcases List.mem_cons.mp h with rfl | h
      · exact List.mem_cons_self
      · exact List.mem_cons_of_mem _ (ih h)
    · exact hne
  | case3 => cases h

/-- Only line endings are normalized. -/
theorem mem_normalize_newlines_of_mem (h : c ∈ chars) (hc : c ≠ '\r') : c ∈ normalize_newlines chars :=
  List.mem_map.mpr ⟨c, mem_replace_crlf h hc, if_neg hc⟩

theorem length_normalize_newlines_le : (normalize_newlines chars).length ≤ chars.length := by
  have hcrlf : (replace_crlf chars).length ≤ chars.length := by
    induction chars using replace_crlf.induct with
    | case1 rest ih =>
      rw [replace_crlf]
      simp only [List.length_cons]
      omega
    | case2 d rest hne ih =>
      rw [replace_crlf]
      · simp only [List.length_cons]
        omega
      · exact hne
    | case3 => exact Nat.le_refl _
  unfold normalize_newlines
  rwa [List.length_map]

theorem normalize_newlines_idem : normalize_newlines (normalize_newlines chars) = normalize_newlines chars :=
  normalize_newlines_eq_self fun h => (mem_normalize_newlines h).1 rfl

/-- What normalization leaves alone has no carriage returns. -/
theorem normalize_newlines_eq_self_iff : normalize_newlines chars = chars ↔ '\r' ∉ chars :=
  ⟨fun h hmem => (mem_normalize_newlines (h.symm ▸ hmem)).1 rfl, normalize_newlines_eq_self⟩

/-- A text that is normalized to one without newlines is as it was. -/
theorem normalize_newlines_eq_self_of_no_newline (h : '\n' ∉ normalize_newlines chars) :
    normalize_newlines chars = chars := by
  refine normalize_newlines_eq_self_iff.mpr fun hmem => h ?_
  have hkept : '\r' ∈ replace_crlf chars ∨ '\n' ∈ replace_crlf chars := by
    clear h
    induction chars using replace_crlf.induct with
    | case1 rest ih =>
      rw [replace_crlf]
      exact .inr List.mem_cons_self
    | case2 d rest hne ih =>
      rw [replace_crlf]
      · rcases List.mem_cons.mp hmem with rfl | hmem
        · exact .inl List.mem_cons_self
        · exact (ih hmem).imp (List.mem_cons_of_mem _) (List.mem_cons_of_mem _)
      · exact hne
    | case3 => cases hmem
  rcases hkept with hreturn | hnewline
  · exact List.mem_map.mpr ⟨'\r', hreturn, rfl⟩
  · exact List.mem_map.mpr ⟨'\n', hnewline, rfl⟩

namespace Workflows

open Contracts

def normalize_text (s : String) : String := String.ofList (normalize_newlines s.toList)

theorem normalize_text_eq_self_iff {s : String} : normalize_text s = s ↔ '\r' ∉ s.toList := by
  rw [normalize_text, ← normalize_newlines_eq_self_iff]
  constructor
  · intro h
    have htexts := congrArg String.toList h
    rwa [String.toList_ofList] at htexts
  · intro h
    rw [h, String.ofList_toList]

theorem normalize_text_idem (s : String) : normalize_text (normalize_text s) = normalize_text s := by
  unfold normalize_text
  rw [String.toList_ofList, normalize_newlines_idem]

theorem length_normalize_text_le (s : String) : (normalize_text s).length ≤ s.length := by
  rw [normalize_text, String.length_ofList, ← String.length_toList]
  exact length_normalize_newlines_le

theorem has_text_normalize_text {s : String} (h : has_text s = true) : has_text (normalize_text s) = true := by
  obtain ⟨c, hmem, hc⟩ := List.any_eq_true.mp h
  rw [has_text, normalize_text, String.toList_ofList]
  refine List.any_eq_true.mpr ⟨c, mem_normalize_newlines_of_mem hmem ?_, hc⟩
  rintro rfl
  revert hc
  decide

/-- Whether `str.strip` leaves nothing of a text. -/
def is_blank_text (s : String) : Bool := s.toList.all Char.is_space

variable {n : Nat}

def BoundedText.normalized (text : BoundedText n) : BoundedText n :=
  ⟨normalize_text text.val, (length_normalize_text_le _).trans text.property⟩

def NonblankText.normalized (text : NonblankText n) : NonblankText n :=
  ⟨normalize_text text.val, has_text_normalize_text text.property.1,
    (length_normalize_text_le _).trans text.property.2⟩

/-- Optional prose with its line endings normalized, unless it is blank. -/
def normalized_prose (text : Option (BoundedText n)) : Option (BoundedText n) :=
  (text.map BoundedText.normalized).filter fun text => !is_blank_text text.val

def StoredProviderSelection.normalized (selection : StoredProviderSelection) : StoredProviderSelection :=
  { selection with
    model := selection.model.map NonblankText.normalized
    supported := ⟨selection.supported.1, fun hretired =>
      ⟨by rw [(selection.supported.2 hretired).1]; rfl, (selection.supported.2 hretired).2⟩⟩ }

def MemberFields.normalized (fields : MemberFields) : MemberFields where
  id := fields.id
  title := normalized_prose fields.title
  description := normalized_prose fields.description
  instruction := normalized_prose fields.instruction
  provider := fields.provider.map StoredProviderSelection.normalized
  capabilities := fields.capabilities

namespace NormalizedMember

section MapFields

variable (f : MemberFields → MemberFields)

mutual

def map_fields : NormalizedMember → NormalizedMember
  | mk fields none => mk (f fields) none
  | mk fields (some children) => mk (f fields) (some (map_fields_all children))

def map_fields_all : List NormalizedMember → List NormalizedMember
  | [] => []
  | child :: children => map_fields child :: map_fields_all children

end

end MapFields

mutual

theorem map_fields_id (member : NormalizedMember) : member.map_fields (fun fields => fields) = member := by
  match member with
  | mk fields none => rfl
  | mk fields (some children) => rw [map_fields, map_fields_all_id children]

theorem map_fields_all_id (members : List NormalizedMember) :
    map_fields_all (fun fields => fields) members = members := by
  match members with
  | [] => rfl
  | child :: children => rw [map_fields_all, map_fields_id child, map_fields_all_id children]

end

mutual

theorem within_child_limit_map_fields (f : MemberFields → MemberFields) (member : NormalizedMember) :
    (member.map_fields f).within_child_limit = member.within_child_limit := by
  match member with
  | mk fields none => rfl
  | mk fields (some children) =>
    rw [map_fields, within_child_limit, within_child_limit, all_within_child_limit_map_fields f children,
      length_map_fields_all f children]

theorem length_map_fields_all (f : MemberFields → MemberFields) (members : List NormalizedMember) :
    (map_fields_all f members).length = members.length := by
  match members with
  | [] => rfl
  | child :: children => rw [map_fields_all, List.length_cons, List.length_cons, length_map_fields_all f children]

theorem all_within_child_limit_map_fields (f : MemberFields → MemberFields) (members : List NormalizedMember) :
    all_within_child_limit (map_fields_all f members) = all_within_child_limit members := by
  match members with
  | [] => rfl
  | child :: children =>
    rw [map_fields_all, all_within_child_limit, all_within_child_limit, within_child_limit_map_fields f child,
      all_within_child_limit_map_fields f children]

end

/-- The tree that text normalization leaves. -/
def normalized (member : NormalizedMember) : NormalizedMember := member.map_fields MemberFields.normalized

end NormalizedMember

def NormalizedWorkflow.normalized (workflow : NormalizedWorkflow) : NormalizedWorkflow where
  id := workflow.id
  description := NonblankText.normalized workflow.description
  note := normalized_prose workflow.note
  lead := workflow.lead.normalized
  child_limit := by
    rw [NormalizedMember.normalized, NormalizedMember.within_child_limit_map_fields]
    exact workflow.child_limit

end Workflows

end OhMySubagents
