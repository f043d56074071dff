import Mathlib.Data.List.Nodup
import OhMySubagents.Json.Data

universe u v

namespace JsonData

/-- A dump and a validation that reads it back. -/
structure Codec (α : Type u) where
  encode : α → JsonData
  decode : JsonData → Option α
  decode_encode : ∀ a, decode (encode a) = some a

namespace Codec

variable {α : Type u} {β : Type v}

attribute [simp] decode_encode

/-- What can be read back has a dump of its own. -/
theorem encode_injective (c : Codec α) : Function.Injective c.encode := fun a b h => by
  have heq := c.decode_encode a
  rw [h, c.decode_encode] at heq
  exact (Option.some.inj heq).symm

def string : Codec String where
  encode := .string
  decode | .string value => some value | _ => none
  decode_encode _ := rfl

def bool : Codec Bool where
  encode := .bool
  decode | .bool value => some value | _ => none
  decode_encode _ := rfl

def nat : Codec Nat where
  encode n := .int n
  decode | .int value => if 0 ≤ value then some value.toNat else none | _ => none
  decode_encode n := by simp

def int : Codec Int where
  encode := .int
  decode | .int value => some value | _ => none
  decode_encode _ := rfl

/-- A tuple or a list, item by item. -/
def list (c : Codec α) : Codec (List α) where
  encode items := .array (items.map c.encode)
  decode | .array items => items.mapM c.decode | _ => none
  decode_encode items := by
    induction items with
    | nil => rfl
    | cons item items ih =>
      simp only [List.map_cons, List.mapM_cons, c.decode_encode, Option.pure_def, Option.bind_eq_bind,
        Option.bind_some] at ih ⊢
      rw [ih, Option.bind_some]

/-- Values that another type represents. -/
def via (c : Codec α) (into : β → α) (out : α → Option β) (h : ∀ b, out (into b) = some b) : Codec β where
  encode b := c.encode (into b)
  decode v := (c.decode v).bind out
  decode_encode b := by simp [h]

theorem string_ne_null (s : String) : string.encode s ≠ .null := nofun

theorem string_via_ne_null (into : β → String) (out : String → Option β) (h : ∀ b, out (into b) = some b) (b : β) :
    (string.via into out h).encode b ≠ .null := nofun

/-- Values that pass a check. -/
def check (c : Codec α) (p : α → Prop) [DecidablePred p] : Codec {a // p a} :=
  c.via Subtype.val (fun a => if h : p a then some ⟨a, h⟩ else none) fun a => by simp [a.property]

theorem check_ne_null {c : Codec α} {p : α → Prop} [DecidablePred p] (h : ∀ a, c.encode a ≠ .null) (a : {a // p a}) :
    (c.check p).encode a ≠ .null := h a.val

theorem int_ne_null (n : Int) : int.encode n ≠ .null := nofun

/-- Texts that a validator normalizes, to what it does not change again. -/
def normalized (f : List Char → Option (List Char)) (h : ∀ {value text}, f value = some text → f text = some text) :
    Codec {s : String // f s.toList = some s.toList} :=
  string.via Subtype.val
    (fun s => match hs : f s.toList with
      | some text => some ⟨String.ofList text, by simpa using h hs⟩
      | none => none)
    fun b => by
      split
      · next text htext =>
        rw [b.property, Option.some.injEq] at htext
        simp [← htext]
      · next hnone => exact absurd (b.property.symm.trans hnone) nofun

/-- An enumeration by its texts. -/
def enum (text : β → String) (all : List β) (h : ∀ b, (all.find? fun x => text x = text b) = some b) : Codec β :=
  string.via text (fun s => all.find? fun x => text x = s) h

theorem enum_ne_null {text : β → String} {all : List β} {h : ∀ b, (all.find? fun x => text x = text b) = some b}
    (b : β) : (enum text all h).encode b ≠ .null := nofun

/-- One value that is always there. -/
def literal (value : String) : Codec Unit := enum (fun _ => value) [()] fun _ => by simp

/-- A value or `null`. -/
def nullable (c : Codec α) (h : ∀ a, c.encode a ≠ .null) : Codec (Option α) where
  encode a := a.elim .null c.encode
  decode | .null => some none | v => (c.decode v).map some
  decode_encode a := by
    cases a with
    | none => rfl
    | some a =>
      have hnull := h a
      simp only [Option.elim_some]
      cases hv : c.encode a <;> first | exact absurd hv hnull | rw [← hv, c.decode_encode, Option.map_some]

end Codec

/-- Some members of an object: the keys that they use, their dump and their validation. -/
structure Fields (α : Type u) where
  keys : List String
  encode : α → List (String × JsonData)
  decode : (String → Option JsonData) → Option α
  encode_keys : ∀ a, ∀ member ∈ encode a, member.1 ∈ keys
  decode_encode : ∀ a (lookup : String → Option JsonData), (∀ k ∈ keys, lookup k = (encode a).lookup k) →
    decode lookup = some a

namespace Fields

section

variable {α : Type u} {β : Type v}

/-- A key that no member has. -/
theorem lookup_eq_none {members : List (String × JsonData)} {keys : List String}
    (h : ∀ member ∈ members, member.1 ∈ keys) {k : String} (hk : k ∉ keys) : members.lookup k = none := by
  induction members with
  | nil => rfl
  | cons member members ih =>
    obtain ⟨key, value⟩ := member
    have hkey : k ≠ key := fun heq => hk (heq ▸ h (key, value) List.mem_cons_self)
    rw [List.lookup_cons, beq_false_of_ne hkey]
    exact ih fun member hmember => h member (List.mem_cons_of_mem _ hmember)

/-- A member that is always there. -/
def required (key : String) (c : Codec α) : Fields α where
  keys := [key]
  encode a := [(key, c.encode a)]
  decode lookup := (lookup key).bind c.decode
  encode_keys := by simp
  decode_encode a lookup h := by simp [h key]

/-- A member that is always dumped, with a default for data without it. -/
def defaulted (key : String) (c : Codec α) (default : α) : Fields α where
  keys := [key]
  encode a := [(key, c.encode a)]
  decode lookup := (lookup key).elim (some default) c.decode
  encode_keys := by simp
  decode_encode a lookup h := by simp [h key]

/-- A member that is `null` when it has no value, which data may also leave out. -/
def nullable (key : String) (c : Codec α) (hnull : ∀ a, c.encode a ≠ .null) : Fields (Option α) :=
  defaulted key (c.nullable hnull) none

/-- A member that is left out when it has no value, for data where it may also be `null`. -/
def optional (key : String) (c : Codec α) (hnull : ∀ a, c.encode a ≠ .null) : Fields (Option α) where
  keys := [key]
  encode a := a.toList.map fun value => (key, c.encode value)
  decode lookup := (lookup key).elim (some none) (c.nullable hnull).decode
  encode_keys a := by cases a <;> simp
  decode_encode a lookup h := by
    rw [h key List.mem_cons_self]
    cases a with
    | none => rfl
    | some a =>
      have hread : (c.nullable hnull).decode (c.encode a) = some (some a) :=
        (c.nullable hnull).decode_encode (some a)
      simpa using hread

/-- A member that is left out when it is not set. -/
def settable (key : String) (c : Codec α) : Fields (Option α) where
  keys := [key]
  encode a := a.toList.map fun value => (key, c.encode value)
  decode lookup := (lookup key).elim (some none) fun v => (c.decode v).map some
  encode_keys a := by cases a <;> simp
  decode_encode a lookup h := by
    rw [h key List.mem_cons_self]
    cases a <;> simp

/-- The members of two values, under different keys. -/
def and (f : Fields α) (g : Fields β) (hdisjoint : ∀ k ∈ f.keys, k ∉ g.keys := by decide) : Fields (α × β) where
  keys := f.keys ++ g.keys
  encode p := f.encode p.1 ++ g.encode p.2
  decode lookup := (f.decode lookup).bind fun a => (g.decode lookup).map fun b => (a, b)
  encode_keys p member hmember := by
    rcases List.mem_append.mp hmember with hmember | hmember
    · exact List.mem_append_left _ (f.encode_keys p.1 member hmember)
    · exact List.mem_append_right _ (g.encode_keys p.2 member hmember)
  decode_encode p lookup h := by
    have hf := f.decode_encode p.1 lookup fun k hk => by
      rw [h k (List.mem_append_left _ hk), List.lookup_append,
        lookup_eq_none (g.encode_keys p.2) (hdisjoint k hk), Option.or_none]
    have hg := g.decode_encode p.2 lookup fun k hk => by
      rw [h k (List.mem_append_right _ hk), List.lookup_append,
        lookup_eq_none (f.encode_keys p.1) (fun hf => hdisjoint k hf hk), Option.none_or]
    simp [hf, hg]

/-- Two parts are read apart. -/
theorem decode_and {f : Fields α} {g : Fields β} {hdisjoint : ∀ k ∈ f.keys, k ∉ g.keys}
    {lookup : String → Option JsonData} {a : α} {b : β} :
    (f.and g hdisjoint).decode lookup = some (a, b) ↔ f.decode lookup = some a ∧ g.decode lookup = some b := by
  change ((f.decode lookup).bind fun a => (g.decode lookup).map fun b => (a, b)) = some (a, b) ↔ _
  simp [Option.bind_eq_some_iff]

/-- Members of a record that a tuple represents, when the validation of the whole accepts it. -/
def via (f : Fields α) (into : β → α) (out : α → Option β) (h : ∀ b, out (into b) = some b) : Fields β where
  keys := f.keys
  encode b := f.encode (into b)
  decode lookup := (f.decode lookup).bind out
  encode_keys b := f.encode_keys (into b)
  decode_encode b lookup hlookup := by simp [f.decode_encode (into b) lookup hlookup, h]

/-- The object with these members and no others. -/
def object (f : Fields α) : Codec α where
  encode a := .object (f.encode a)
  decode
    | .object members => if ∀ member ∈ members, member.1 ∈ f.keys then f.decode fun k => members.lookup k else none
    | _ => none
  decode_encode a := by
    simp only [if_pos (f.encode_keys a)]
    exact f.decode_encode a _ fun _ _ => rfl

theorem object_ne_null (f : Fields α) (a : α) : f.object.encode a ≠ .null := nofun

/-- In front of members with other keys, these members can be told. -/
theorem append_inj (f : Fields α) {a a' : α} {members members' : List (String × JsonData)}
    (hkeys : ∀ member ∈ members, member.1 ∉ f.keys) (hkeys' : ∀ member ∈ members', member.1 ∉ f.keys)
    (h : f.encode a ++ members = f.encode a' ++ members') : a = a' ∧ members = members' := by
  have hnone : ∀ {rest : List (String × JsonData)}, (∀ member ∈ rest, member.1 ∉ f.keys) → ∀ k ∈ f.keys,
      rest.lookup k = none := by
    intro rest hrest k hk
    refine @lookup_eq_none rest (rest.map Prod.fst) (fun member hmember => List.mem_map_of_mem hmember) k ?_
    intro hmem
    obtain ⟨member, hmember, rfl⟩ := List.mem_map.mp hmem
    exact hrest member hmember hk
  have ha := f.decode_encode a (fun k => (f.encode a ++ members).lookup k) fun k hk => by
    rw [List.lookup_append, hnone hkeys k hk, Option.or_none]
  have ha' := f.decode_encode a' (fun k => (f.encode a ++ members).lookup k) fun k hk => by
    rw [h, List.lookup_append, hnone hkeys' k hk, Option.or_none]
  obtain rfl := Option.some.inj (ha.symm.trans ha')
  exact ⟨rfl, List.append_cancel_left h⟩

end

variable {α : Type u} {β : Type v} {key k : String}

/-- A validation that looks at no other keys than its own. -/
def Local (f : Fields α) : Prop :=
  ∀ lookup lookup' : String → Option JsonData, (∀ k ∈ f.keys, lookup k = lookup' k) → f.decode lookup = f.decode lookup'

theorem local_required {c : Codec α} : (required key c).Local := fun lookup lookup' h => by
  change (lookup key).bind _ = (lookup' key).bind _
  rw [h key List.mem_cons_self]

theorem local_optional {c : Codec α} {hnull : ∀ a, c.encode a ≠ .null} : (optional key c hnull).Local :=
  fun lookup lookup' h => by
    change (lookup key).elim _ _ = (lookup' key).elim _ _
    rw [h key List.mem_cons_self]

theorem local_settable {c : Codec α} : (settable key c).Local := fun lookup lookup' h => by
  change (lookup key).elim _ _ = (lookup' key).elim _ _
  rw [h key List.mem_cons_self]

theorem Local.and {f : Fields α} {g : Fields β} {hdisjoint : ∀ k ∈ f.keys, k ∉ g.keys} (hf : f.Local) (hg : g.Local) :
    (f.and g hdisjoint).Local := fun lookup lookup' h => by
  change (f.decode lookup).bind _ = (f.decode lookup').bind _
  rw [hf lookup lookup' fun k hk => h k (List.mem_append_left _ hk),
    hg lookup lookup' fun k hk => h k (List.mem_append_right _ hk)]

theorem Local.via {f : Fields α} {into : β → α} {out : α → Option β} {h : ∀ b, out (into b) = some b} (hf : f.Local) :
    (f.via into out h).Local := fun lookup lookup' hlookup => by
  change (f.decode lookup).bind _ = (f.decode lookup').bind _
  rw [hf lookup lookup' hlookup]

/-- A required member is read from its key. -/
theorem decode_required {c : Codec α} {lookup : String → Option JsonData} :
    (required key c).decode lookup = (lookup key).bind c.decode := rfl

end Fields

end JsonData
