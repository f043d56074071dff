import Mathlib.Tactic.Common
import OhMySubagents.Json.Serialization

/-- What a model dumps to and is validated from: JSON data with whole numbers. -/
inductive JsonData
  | null
  | bool (value : Bool)
  | int (value : Int)
  | string (value : String)
  | array (items : List JsonData)
  | object (members : List (String × JsonData))

namespace JsonData

/-- Induction over data, over the items of its arrays and over the members of its objects at once. -/
theorem data_induction {P : JsonData → Prop} {Q : List JsonData → Prop} {R : List (String × JsonData) → Prop}
    (null : P null) (bool : ∀ value, P (bool value)) (int : ∀ value, P (int value)) (string : ∀ value, P (string value))
    (array : ∀ items, Q items → P (array items)) (object : ∀ members, R members → P (object members))
    (no_items : Q []) (item : ∀ item items, P item → Q items → Q (item :: items))
    (no_members : R []) (member : ∀ key value members, P value → R members → R ((key, value) :: members)) :
    (∀ data, P data) ∧ (∀ items, Q items) ∧ ∀ members, R members := by
  have hdata : ∀ data, P data := fun data =>
    @JsonData.rec P Q R (fun member => P member.2) null bool int string array object no_items item no_members
      (fun head tail hhead htail => member head.1 head.2 tail hhead htail) (fun _ _ hvalue => hvalue) data
  refine ⟨hdata, fun items => ?_, fun members => ?_⟩
  · induction items with
    | nil => exact no_items
    | cons head items ih => exact item head items (hdata head) ih
  · induction members with
    | nil => exact no_members
    | cons head members ih => exact member head.1 head.2 members (hdata head.2) ih

mutual

/-- The text of some data. -/
def dumps : JsonData → List Char
  | null => ['n', 'u', 'l', 'l']
  | bool true => ['t', 'r', 'u', 'e']
  | bool false => ['f', 'a', 'l', 's', 'e']
  | int value => (toString value).toList
  | string value => Json.dumps_string value
  | array items => '[' :: (dumps_items items ++ [']'])
  | object members => '\x7b' :: (dumps_members members ++ ['\x7d'])

def dumps_items : List JsonData → List Char
  | [] => []
  | [item] => dumps item
  | item :: items => dumps item ++ ',' :: dumps_items items

def dumps_members : List (String × JsonData) → List Char
  | [] => []
  | [(key, value)] => Json.dumps_string key ++ ':' :: dumps value
  | (key, value) :: members => Json.dumps_string key ++ ':' :: (dumps value ++ ',' :: dumps_members members)

end

mutual

/-- `sort_keys`: the members of every object in the order of their keys. -/
def sort_keys : JsonData → JsonData
  | array items => array (sort_items items)
  | object members => object (sort_members members)
  | other => other

def sort_items : List JsonData → List JsonData
  | [] => []
  | item :: items => sort_keys item :: sort_items items

def sort_members : List (String × JsonData) → List (String × JsonData)
  | [] => []
  | (key, value) :: members => (sort_members members).orderedInsert (fun a b => a.1 ≤ b.1) (key, sort_keys value)

end

/-- One UTF-16 unit of a character beyond ASCII, escaped. -/
def escape_unit (unit : Nat) : List Char :=
  ['\x5c', 'u', Json.hex_digit (unit / 4096), Json.hex_digit (unit / 256 % 16), Json.hex_digit (unit / 16 % 16),
    Json.hex_digit (unit % 16)]

/-- `ensure_ascii` of a text in which only strings have other characters. -/
def ensure_ascii (chars : List Char) : List Char :=
  chars.flatMap fun c =>
    if c.toNat < 0x7F then [c]
    else if c.toNat < 0x10000 then escape_unit c.toNat
    else escape_unit (0xD800 + (c.toNat - 0x10000) / 0x400) ++ escape_unit (0xDC00 + (c.toNat - 0x10000) % 0x400)

mutual

/-- Equality of two dumps. A model dumps its fields in a fixed order, so that order counts. -/
def equal : JsonData → JsonData → Bool
  | null, null => true
  | bool value, bool value' => value == value'
  | int value, int value' => value == value'
  | string value, string value' => value == value'
  | array items, array items' => equal_items items items'
  | object members, object members' => equal_members members members'
  | _, _ => false

def equal_items : List JsonData → List JsonData → Bool
  | [], [] => true
  | item :: items, item' :: items' => equal item item' && equal_items items items'
  | _, _ => false

def equal_members : List (String × JsonData) → List (String × JsonData) → Bool
  | [], [] => true
  | (key, value) :: members, (key', value') :: members' =>
    key == key' && equal value value' && equal_members members members'
  | _, _ => false

end

mutual

theorem equal_iff (v w : JsonData) : equal v w = true ↔ v = w := by
  cases v <;> cases w <;> simp only [equal, Bool.false_eq_true, reduceCtorEq, beq_iff_eq, bool.injEq, int.injEq,
    string.injEq, array.injEq, object.injEq]
  case array.array items items' => exact equal_items_iff items items'
  case object.object members members' => exact equal_members_iff members members'

theorem equal_items_iff (items items' : List JsonData) : equal_items items items' = true ↔ items = items' := by
  match items, items' with
  | [], [] => simp [equal_items]
  | [], _ :: _ => simp [equal_items]
  | _ :: _, [] => simp [equal_items]
  | item :: items, item' :: items' =>
    rw [equal_items, Bool.and_eq_true, equal_iff item item', equal_items_iff items items', List.cons.injEq]

theorem equal_members_iff (members members' : List (String × JsonData)) :
    equal_members members members' = true ↔ members = members' := by
  match members, members' with
  | [], [] => simp [equal_members]
  | [], _ :: _ => simp [equal_members]
  | _ :: _, [] => simp [equal_members]
  | (key, value) :: members, (key', value') :: members' =>
    rw [equal_members, Bool.and_eq_true, Bool.and_eq_true, beq_iff_eq, equal_iff value value',
      equal_members_iff members members', List.cons.injEq, Prod.mk.injEq]

end

instance : DecidableEq JsonData := fun v w => decidable_of_iff (equal v w = true) (equal_iff v w)

end JsonData
