import OhMySubagents.Json.Codec

universe u v

namespace JsonData

section Sorted

variable {key : String} {members : List (String × JsonData)}

theorem mem_sort_members {member : String × JsonData} :
    member ∈ sort_members members ↔ ∃ value, (member.1, value) ∈ members ∧ member.2 = sort_keys value := by
  induction members with
  | nil => simp [sort_members]
  | cons head members ih =>
    obtain ⟨name, value⟩ := head
    rw [sort_members, List.mem_orderedInsert, ih]
    constructor
    · rintro (rfl | ⟨value', hmem, hvalue⟩)
      · exact ⟨value, List.mem_cons_self, rfl⟩
      · exact ⟨value', List.mem_cons_of_mem _ hmem, hvalue⟩
    · rintro ⟨value', hmem, hvalue⟩
      rcases List.mem_cons.mp hmem with heq | hmem
      · obtain ⟨h1, rfl⟩ := Prod.mk.inj heq
        exact .inl (Prod.ext h1 hvalue)
      · exact .inr ⟨value', hmem, hvalue⟩

/-- A sorted object has the keys that it had. -/
theorem keys_sorted {p : String → Prop} :
    (∀ member ∈ sort_members members, p member.1) ↔ ∀ member ∈ members, p member.1 := by
  constructor
  · exact fun h member hmember => h (member.1, sort_keys member.2) (mem_sort_members.mpr ⟨member.2, hmember, rfl⟩)
  · intro h member hmember
    obtain ⟨value, hvalue, -⟩ := mem_sort_members.mp hmember
    exact h (member.1, value) hvalue

/-- Sorting puts an equal key behind nothing that has it. -/
theorem lookup_orderedInsert (name : String) (value : JsonData) (members : List (String × JsonData)) :
    (members.orderedInsert (fun a b => a.1 ≤ b.1) (name, value)).lookup key =
      if key = name then some value else members.lookup key := by
  have hcons : ∀ (name : String) (value : JsonData) (members : List (String × JsonData)),
      ((name, value) :: members).lookup key = if key = name then some value else members.lookup key := by
    intro name value members
    rw [List.lookup_cons]
    split <;> simp_all
  induction members with
  | nil => exact hcons name value []
  | cons head members ih =>
    obtain ⟨other, value'⟩ := head
    rw [List.orderedInsert_cons]
    split
    · exact hcons name value _
    · next hle =>
      have hne : name ≠ other := fun heq => hle (by subst heq; exact String.le_refl _)
      rw [hcons, hcons, ih]
      by_cases hkey : key = other
      · rw [if_pos hkey, if_neg (by rw [hkey]; exact hne.symm), if_pos hkey]
      · rw [if_neg hkey, if_neg hkey]

/-- A key of a sorted object has what it had, sorted. -/
theorem lookup_sort_members : (sort_members members).lookup key = (members.lookup key).map sort_keys := by
  induction members with
  | nil => rfl
  | cons head members ih =>
    obtain ⟨name, value⟩ := head
    rw [sort_members, lookup_orderedInsert, ih, List.lookup_cons]
    by_cases hkey : key = name
    · rw [if_pos hkey, hkey, beq_self_eq_true]
      rfl
    · rw [if_neg hkey, beq_false_of_ne hkey]

end Sorted

/-- A validation to which the order of the members of an object is all one. -/
def Codec.SortFree {α : Type u} (c : Codec α) : Prop := ∀ v, c.decode (sort_keys v) = c.decode v

def Fields.SortFree {α : Type u} (f : Fields α) : Prop :=
  ∀ lookup : String → Option JsonData, f.decode (fun key => (lookup key).map sort_keys) = f.decode lookup

namespace Codec.SortFree

variable {α : Type u} {β : Type v} {c : Codec α}

theorem of_string : Codec.string.SortFree := fun v => by cases v <;> rfl

theorem via (hc : c.SortFree) {into : β → α} {out : α → Option β} {h : ∀ b, out (into b) = some b} :
    (c.via into out h).SortFree := fun v => congrArg (Option.bind · out) (hc v)

theorem check (hc : c.SortFree) {p : α → Prop} [DecidablePred p] : (c.check p).SortFree := hc.via

theorem enum {text : β → String} {all : List β} {h : ∀ b, (all.find? fun x => text x = text b) = some b} :
    (Codec.enum text all h).SortFree := of_string.via

theorem list (hc : c.SortFree) : c.list.SortFree := by
  have hitems : ∀ items, (sort_items items).mapM c.decode = items.mapM c.decode := by
    intro items
    induction items with
    | nil => rfl
    | cons item items ih => rw [sort_items, List.mapM_cons, List.mapM_cons, hc item, ih]
  intro v
  match v with
  | .array items => exact hitems items
  | .null | .bool _ | .int _ | .string _ | .object _ => rfl

theorem nullable (hc : c.SortFree) {h : ∀ a, c.encode a ≠ .null} : (c.nullable h).SortFree := by
  intro v
  match v with
  | .null => rfl
  | .array items => exact congrArg (Option.map some) (hc (.array items))
  | .object members => exact congrArg (Option.map some) (hc (.object members))
  | .bool _ | .int _ | .string _ => rfl

end Codec.SortFree

namespace Fields.SortFree

variable {α : Type u} {β : Type v} {c : Codec α} {key : String}

theorem required (hc : c.SortFree) : (Fields.required key c).SortFree := by
  intro lookup
  change ((lookup key).map sort_keys).bind c.decode = (lookup key).bind c.decode
  cases lookup key with
  | none => rfl
  | some value => exact hc value

theorem settable (hc : c.SortFree) : (Fields.settable key c).SortFree := by
  intro lookup
  change ((lookup key).map sort_keys).elim _ _ = (lookup key).elim _ _
  cases lookup key with
  | none => rfl
  | some value => exact congrArg (Option.map some) (hc value)

theorem optional (hc : c.SortFree) {hnull : ∀ a, c.encode a ≠ .null} : (Fields.optional key c hnull).SortFree := by
  intro lookup
  change ((lookup key).map sort_keys).elim _ _ = (lookup key).elim _ _
  cases lookup key with
  | none => rfl
  | some value => exact hc.nullable value

theorem and {f : Fields α} {g : Fields β} {hdisjoint : ∀ k ∈ f.keys, k ∉ g.keys} (hf : f.SortFree) (hg : g.SortFree) :
    (f.and g hdisjoint).SortFree := fun lookup => by
  change (f.decode _).bind _ = (f.decode lookup).bind _
  rw [hf, hg]

theorem via {f : Fields α} (hf : f.SortFree) {into : β → α} {out : α → Option β} {h : ∀ b, out (into b) = some b} :
    (f.via into out h).SortFree := fun lookup => congrArg (Option.bind · out) (hf lookup)

theorem object {f : Fields α} (hf : f.SortFree) : f.object.SortFree := by
  intro v
  match v with
  | .object members =>
    change (if ∀ member ∈ sort_members members, member.1 ∈ f.keys then
      f.decode fun k => (sort_members members).lookup k else none) = _
    refine if_congr (keys_sorted (p := (· ∈ f.keys))) ?_ rfl
    rw [← hf fun key => members.lookup key]
    exact congrArg f.decode (funext fun key => lookup_sort_members)
  | .null | .bool _ | .int _ | .string _ | .array _ => rfl

end Fields.SortFree

end JsonData
