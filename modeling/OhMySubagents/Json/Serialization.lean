import Mathlib.Data.List.Sort
import Mathlib.Tactic.Common

/-- JSON values without numbers. The members of an object stand in the order in which they were put there. -/
inductive Json
  | null
  | bool (value : Bool)
  | string (value : String)
  | array (items : List Json)
  | object (members : List (String × Json))

namespace Json

/-- The lower-case digit of a number below sixteen. -/
def hex_digit (n : Nat) : Char := if n < 10 then Char.ofNat (0x30 + n) else Char.ofNat (0x57 + n)

/-- Quotes, backslashes and control characters are escaped; everything else stands for itself. -/
def escape (c : Char) : List Char :=
  if c = '\x22' then ['\x5c', '\x22']
  else if c = '\x5c' then ['\x5c', '\x5c']
  else if c = '\n' then ['\x5c', 'n']
  else if c = '\r' then ['\x5c', 'r']
  else if c = '\t' then ['\x5c', 't']
  else if c = '\x0c' then ['\x5c', 'f']
  else if c = '\x08' then ['\x5c', 'b']
  else if c.toNat < 0x20 then ['\x5c', 'u', '0', '0', hex_digit (c.toNat / 16), hex_digit (c.toNat % 16)]
  else [c]

/-- A string literal behind its opening quote. -/
def dumps_chars : List Char → List Char
  | [] => ['\x22']
  | c :: chars => escape c ++ dumps_chars chars

def dumps_string (s : String) : List Char := '\x22' :: dumps_chars s.toList

mutual

/-- `json.dumps` without blanks, with the characters beyond ASCII as they are. -/
def dumps : Json → List Char
  | null => ['n', 'u', 'l', 'l']
  | bool true => ['t', 'r', 'u', 'e']
  | bool false => ['f', 'a', 'l', 's', 'e']
  | string value => dumps_string value
  | array [] => ['[', ']']
  | array (item :: items) => '[' :: (dumps item ++ dumps_items items)
  | object [] => ['\x7b', '\x7d']
  | object ((key, value) :: members) => '\x7b' :: (dumps_string key ++ ':' :: (dumps value ++ dumps_members members))

/-- What follows the first item of an array. -/
def dumps_items : List Json → List Char
  | [] => [']']
  | item :: items => ',' :: (dumps item ++ dumps_items items)

/-- What follows the first member of an object. -/
def dumps_members : List (String × Json) → List Char
  | [] => ['\x7d']
  | (key, value) :: members => ',' :: (dumps_string key ++ ':' :: (dumps value ++ dumps_members members))

end

mutual

/-- `sort_keys`: the members of every object in the order of their keys. -/
def sort_keys : Json → Json
  | array items => array (sort_items items)
  | object members => object (sort_members members)
  | other => other

def sort_items : List Json → List Json
  | [] => []
  | item :: items => sort_keys item :: sort_items items

def sort_members : List (String × Json) → List (String × Json)
  | [] => []
  | (key, value) :: members =>
    (sort_members members).orderedInsert (fun a b => a.1 ≤ b.1) (key, sort_keys value)

end

/-- Read one escaped character back. -/
def unescape : List Char → Option (Char × List Char)
  | '\x5c' :: 'n' :: rest => some ('\n', rest)
  | '\x5c' :: 'r' :: rest => some ('\r', rest)
  | '\x5c' :: 't' :: rest => some ('\t', rest)
  | '\x5c' :: 'f' :: rest => some ('\x0c', rest)
  | '\x5c' :: 'b' :: rest => some ('\x08', rest)
  | '\x5c' :: 'u' :: '0' :: '0' :: high :: low :: rest =>
    ((List.range 0x20).find? fun n => hex_digit (n / 16) = high ∧ hex_digit (n % 16) = low).map
      fun n => (Char.ofNat n, rest)
  | '\x5c' :: c :: rest => some (c, rest)
  | c :: rest => some (c, rest)
  | [] => none

theorem unescape_escape (c : Char) (rest : List Char) : unescape (escape c ++ rest) = some (c, rest) := by
  unfold escape
  split
  · next h => subst h; rfl
  split
  · next h => subst h; rfl
  split
  · next h => subst h; rfl
  split
  · next h => subst h; rfl
  split
  · next h => subst h; rfl
  split
  · next h => subst h; rfl
  split
  · next h => subst h; rfl
  split
  · next hcontrol =>
    have hfind : ∀ m < 0x20, ((List.range 0x20).find? fun n =>
        hex_digit (n / 16) = hex_digit (m / 16) ∧ hex_digit (n % 16) = hex_digit (m % 16)) = some m := by decide
    simp only [List.cons_append, List.nil_append, unescape, hfind _ hcontrol, Option.map_some, Char.ofNat_toNat]
  · next hslash _ _ _ _ _ _ =>
    -- a plain character is not a backslash
    unfold unescape
    split <;> simp_all

variable {rest rest' : List Char}

theorem escape_append_inj {c d : Char} (h : escape c ++ rest = escape d ++ rest') : c = d ∧ rest = rest' := by
  have hread := unescape_escape c rest
  rw [h, unescape_escape, Option.some.injEq, Prod.mk.injEq] at hread
  exact ⟨hread.1.symm, hread.2.symm⟩

/-- No character is escaped as a closing quote. -/
theorem escape_ne_quote (c : Char) : ∃ first more, escape c = first :: more ∧ first ≠ '\x22' := by
  unfold escape
  repeat' split
  all_goals first
    | exact ⟨_, _, rfl, by decide⟩
    | exact ⟨_, _, rfl, by assumption⟩

theorem dumps_chars_append_inj {chars chars' : List Char}
    (h : dumps_chars chars ++ rest = dumps_chars chars' ++ rest') : chars = chars' ∧ rest = rest' := by
  induction chars generalizing chars' with
  | nil =>
    cases chars' with
    | nil => exact ⟨rfl, List.tail_eq_of_cons_eq h⟩
    | cons d chars' =>
      obtain ⟨first, more, hescape, hne⟩ := escape_ne_quote d
      simp only [dumps_chars, hescape, List.cons_append, List.cons.injEq] at h
      exact absurd h.1.symm hne
  | cons c chars ih =>
    cases chars' with
    | nil =>
      obtain ⟨first, more, hescape, hne⟩ := escape_ne_quote c
      simp only [dumps_chars, hescape, List.cons_append, List.cons.injEq] at h
      exact absurd h.1 hne
    | cons d chars' =>
      simp only [dumps_chars, List.append_assoc] at h
      obtain ⟨rfl, hrest⟩ := escape_append_inj h
      obtain ⟨rfl, hend⟩ := ih hrest
      exact ⟨rfl, hend⟩

theorem dumps_string_append_inj {s s' : String} (h : dumps_string s ++ rest = dumps_string s' ++ rest') :
    s = s' ∧ rest = rest' := by
  obtain ⟨hchars, hend⟩ := dumps_chars_append_inj (List.tail_eq_of_cons_eq h)
  exact ⟨String.toList_injective hchars, hend⟩

/-- The first character of the text of a value, by which its kind can be told. -/
def lead : Json → Char
  | null => 'n'
  | bool true => 't'
  | bool false => 'f'
  | string _ => '\x22'
  | array _ => '['
  | object _ => '\x7b'

theorem dumps_lead (v : Json) : ∃ more, dumps v = lead v :: more := by
  unfold dumps
  split <;> exact ⟨_, rfl⟩

theorem lead_eq_of_dumps {v w : Json} (h : dumps v ++ rest = dumps w ++ rest') : lead v = lead w := by
  obtain ⟨more, hv⟩ := dumps_lead v
  obtain ⟨more', hw⟩ := dumps_lead w
  rw [hv, hw] at h
  exact List.head_eq_of_cons_eq h

theorem lead_ne_close (v : Json) : lead v ≠ ']' ∧ lead v ≠ '\x7d' := by
  unfold lead
  split <;> exact ⟨by decide, by decide⟩

mutual

/-- The text of a value shows where it ends, and no two values share one. -/
theorem dumps_append_inj (v w : Json) {rest rest' : List Char} (h : dumps v ++ rest = dumps w ++ rest') :
    v = w ∧ rest = rest' := by
  have hlead := lead_eq_of_dumps h
  match v, w with
  | null, null => exact ⟨rfl, List.append_cancel_left h⟩
  | bool true, bool true => exact ⟨rfl, List.append_cancel_left h⟩
  | bool false, bool false => exact ⟨rfl, List.append_cancel_left h⟩
  | string s, string s' =>
    simp only [dumps] at h
    obtain ⟨rfl, hrest⟩ := dumps_string_append_inj h
    exact ⟨rfl, hrest⟩
  | array [], array [] => exact ⟨rfl, List.append_cancel_left h⟩
  | array [], array (item :: items) =>
    obtain ⟨more, hitem⟩ := dumps_lead item
    simp only [dumps, hitem, List.cons_append, List.cons.injEq] at h
    exact absurd h.2.1.symm (lead_ne_close item).1
  | array (item :: items), array [] =>
    obtain ⟨more, hitem⟩ := dumps_lead item
    simp only [dumps, hitem, List.cons_append, List.cons.injEq] at h
    exact absurd h.2.1 (lead_ne_close item).1
  | array (item :: items), array (item' :: items') =>
    simp only [dumps, List.cons_append, List.append_assoc, List.cons.injEq, true_and] at h
    obtain ⟨rfl, hitems⟩ := dumps_append_inj item item' h
    obtain ⟨rfl, hrest⟩ := dumps_items_append_inj items items' hitems
    exact ⟨rfl, hrest⟩
  | object [], object [] => exact ⟨rfl, List.append_cancel_left h⟩
  | object [], object ((key, value) :: members) =>
    simp [dumps, dumps_string] at h
  | object ((key, value) :: members), object [] =>
    simp [dumps, dumps_string] at h
  | object ((key, value) :: members), object ((key', value') :: members') =>
    simp only [dumps, List.cons_append, List.append_assoc, List.cons.injEq, true_and] at h
    obtain ⟨rfl, hkey⟩ := dumps_string_append_inj h
    obtain ⟨rfl, hvalue⟩ := dumps_append_inj value value' (List.tail_eq_of_cons_eq hkey)
    obtain ⟨rfl, hrest⟩ := dumps_members_append_inj members members' hvalue
    exact ⟨rfl, hrest⟩

theorem dumps_items_append_inj (items items' : List Json) {rest rest' : List Char}
    (h : dumps_items items ++ rest = dumps_items items' ++ rest') : items = items' ∧ rest = rest' := by
  match items, items' with
  | [], [] => exact ⟨rfl, List.append_cancel_left h⟩
  | [], _ :: _ => simp [dumps_items] at h
  | _ :: _, [] => simp [dumps_items] at h
  | item :: items, item' :: items' =>
    simp only [dumps_items, List.cons_append, List.append_assoc, List.cons.injEq, true_and] at h
    obtain ⟨rfl, hitems⟩ := dumps_append_inj item item' h
    obtain ⟨rfl, hrest⟩ := dumps_items_append_inj items items' hitems
    exact ⟨rfl, hrest⟩

theorem dumps_members_append_inj (members members' : List (String × Json)) {rest rest' : List Char}
    (h : dumps_members members ++ rest = dumps_members members' ++ rest') : members = members' ∧ rest = rest' := by
  match members, members' with
  | [], [] => exact ⟨rfl, List.append_cancel_left h⟩
  | [], _ :: _ => simp [dumps_members] at h
  | _ :: _, [] => simp [dumps_members] at h
  | (key, value) :: members, (key', value') :: members' =>
    simp only [dumps_members, List.cons_append, List.append_assoc, List.cons.injEq, true_and] at h
    obtain ⟨rfl, hkey⟩ := dumps_string_append_inj h
    obtain ⟨rfl, hvalue⟩ := dumps_append_inj value value' (List.tail_eq_of_cons_eq hkey)
    obtain ⟨rfl, hrest⟩ := dumps_members_append_inj members members' hvalue
    exact ⟨rfl, hrest⟩

end

theorem dumps_injective : Function.Injective dumps := fun v w h => by
  have happend : dumps v ++ [] = dumps w ++ [] := by rw [h]
  exact (dumps_append_inj v w happend).1

end Json
