import OhMySubagents.Json.Data

namespace JsonData

section Numbers

/-- A text that does not go on with a digit. -/
def NoDigit (rest : List Char) : Prop := ∀ c ∈ rest.head?, c.isDigit = false

theorem no_digit_nil : NoDigit [] := nofun

theorem no_digit_cons {c : Char} {rest : List Char} (h : c.isDigit = false) : NoDigit (c :: rest) := by
  rintro d hd
  obtain rfl := Option.some.inj hd
  exact h

variable {rest rest' : List Char}

private theorem take_digits {n : Nat} (h : NoDigit rest) :
    (n.repr.toList ++ rest).takeWhile Char.isDigit = Nat.toDigits 10 n := by
  have hdigits : ∀ c ∈ Nat.toDigits 10 n, c.isDigit = true := fun c hc =>
    Nat.isDigit_of_mem_toDigits (by decide) (by decide) hc
  rw [Nat.toList_repr, List.takeWhile_append_of_pos hdigits]
  cases rest with
  | nil => rw [List.takeWhile_nil, List.append_nil]
  | cons c rest => rw [List.takeWhile_cons_of_neg (by rw [h c rfl]; decide), List.append_nil]

/-- The digits of a number show where they end. -/
theorem repr_append_inj {m n : Nat} (hrest : NoDigit rest) (hrest' : NoDigit rest')
    (h : m.repr.toList ++ rest = n.repr.toList ++ rest') : m = n ∧ rest = rest' := by
  have hdigits := congrArg (List.takeWhile Char.isDigit) h
  rw [take_digits hrest, take_digits hrest'] at hdigits
  have hsame : m = n := by
    rw [← @Nat.ofDigitChars_ten_toDigits m, ← @Nat.ofDigitChars_ten_toDigits n, hdigits]
  subst hsame
  exact ⟨rfl, List.append_cancel_left h⟩

private theorem nat_lead (n : Nat) : ∃ c more, n.repr.toList = c :: more ∧ c.isDigit = true := by
  rw [Nat.toList_repr]
  cases hn : Nat.toDigits 10 n with
  | nil => exact absurd hn Nat.toDigits_ne_nil
  | cons c more =>
    have hc : c ∈ Nat.toDigits 10 n := by
      rw [hn]
      exact List.mem_cons_self
    exact ⟨c, more, rfl, Nat.isDigit_of_mem_toDigits (by decide) (by decide) hc⟩

/-- The first character of a whole number: a digit or a minus sign. -/
theorem int_lead (i : Int) : ∃ c more, (toString i).toList = c :: more ∧ (c = '-' ∨ c.isDigit = true) := by
  change ∃ c more, i.repr.toList = _ ∧ _
  rw [Int.repr_eq_if]
  split
  · obtain ⟨c, more, hn, hc⟩ := nat_lead i.toNat
    exact ⟨c, more, hn, .inr hc⟩
  · rw [String.toList_append]
    exact ⟨'-', _, rfl, .inl rfl⟩

private theorem repr_ne_minus {n : Nat} {more : List Char} (h : n.repr.toList ++ rest = '-' :: more) : False := by
  obtain ⟨c, digits, hn, hc⟩ := nat_lead n
  rw [hn, List.cons_append] at h
  rw [List.head_eq_of_cons_eq h] at hc
  cases hc

theorem int_append_inj {i j : Int} (hrest : NoDigit rest) (hrest' : NoDigit rest')
    (h : (toString i).toList ++ rest = (toString j).toList ++ rest') : i = j ∧ rest = rest' := by
  change i.repr.toList ++ rest = j.repr.toList ++ rest' at h
  rw [Int.repr_eq_if, Int.repr_eq_if] at h
  by_cases hi : 0 ≤ i <;> by_cases hj : 0 ≤ j
  · rw [if_pos hi, if_pos hj] at h
    obtain ⟨heq, hend⟩ := repr_append_inj hrest hrest' h
    exact ⟨by omega, hend⟩
  · rw [if_pos hi, if_neg hj, String.toList_append] at h
    exact absurd h repr_ne_minus
  · rw [if_neg hi, if_pos hj, String.toList_append] at h
    exact absurd h.symm repr_ne_minus
  · rw [if_neg hi, if_neg hj, String.toList_append, String.toList_append, List.append_assoc, List.append_assoc] at h
    obtain ⟨heq, hend⟩ := repr_append_inj hrest hrest' (List.append_cancel_left h)
    exact ⟨by omega, hend⟩

end Numbers

section Leads

/-- The kind of data that a text may begin: its first character, or a zero for every number. -/
def lead_kind (c : Char) : Char := if c = '-' ∨ c.isDigit = true then '0' else c

/-- The kind of some data. -/
def lead : JsonData → Char
  | null => 'n'
  | bool true => 't'
  | bool false => 'f'
  | int _ => '0'
  | string _ => '\x22'
  | array _ => '['
  | object _ => '\x7b'

theorem dumps_lead (v : JsonData) : ∃ c more, dumps v = c :: more ∧ lead_kind c = lead v := by
  match v with
  | null => exact ⟨_, _, rfl, by decide⟩
  | bool true => exact ⟨_, _, rfl, by decide⟩
  | bool false => exact ⟨_, _, rfl, by decide⟩
  | int value =>
    obtain ⟨c, more, hvalue, hc⟩ := int_lead value
    exact ⟨c, more, hvalue, if_pos hc⟩
  | string value => exact ⟨_, _, rfl, if_neg (by decide)⟩
  | array items => exact ⟨_, _, rfl, if_neg (by decide)⟩
  | object members => exact ⟨_, _, rfl, if_neg (by decide)⟩

variable {rest rest' : List Char}

theorem lead_eq_of_dumps {v w : JsonData} (h : dumps v ++ rest = dumps w ++ rest') : lead v = lead w := by
  obtain ⟨c, more, hv, hc⟩ := dumps_lead v
  obtain ⟨c', more', hw, hc'⟩ := dumps_lead w
  rw [hv, hw] at h
  rw [← hc, ← hc', List.head_eq_of_cons_eq h]

/-- No data begins with what stands behind it. -/
theorem dumps_ne_cons {v : JsonData} {c : Char} (hc : c ∈ [',', ']', '\x7d']) (h : dumps v ++ rest = c :: rest') :
    False := by
  obtain ⟨first, more, hv, hfirst⟩ := dumps_lead v
  rw [hv] at h
  rw [List.head_eq_of_cons_eq h] at hfirst
  have hkind : lead_kind c ∉ ['n', 't', 'f', '0', '\x22', '[', '\x7b'] := by
    simp only [List.mem_cons, List.not_mem_nil, or_false] at hc
    rcases hc with rfl | rfl | rfl <;> decide
  apply hkind
  rw [hfirst]
  unfold lead
  split <;> decide

end Leads

section Injectivity

variable {rest rest' : List Char}

/-- What stands behind an item: the closing bracket, or a comma and the other items. -/
private theorem dumps_items_cons (item : JsonData) (items : List JsonData) :
    ∃ next, dumps_items (item :: items) ++ ']' :: rest = dumps item ++ next ∧ NoDigit next ∧
      ((items = [] ∧ next = ']' :: rest) ∨ (items ≠ [] ∧ next = ',' :: (dumps_items items ++ ']' :: rest))) := by
  match items with
  | [] => exact ⟨_, by rw [dumps_items], no_digit_cons (by decide), .inl ⟨rfl, rfl⟩⟩
  | other :: items =>
    refine ⟨_, ?_, no_digit_cons (by decide), .inr ⟨List.cons_ne_nil _ _, rfl⟩⟩
    rw [dumps_items, List.append_assoc, List.cons_append]
    exact List.cons_ne_nil _ _

private theorem dumps_members_cons (key : String) (value : JsonData) (members : List (String × JsonData)) :
    ∃ next, dumps_members ((key, value) :: members) ++ '\x7d' :: rest =
        Json.dumps_string key ++ (':' :: (dumps value ++ next)) ∧ NoDigit next ∧
      ((members = [] ∧ next = '\x7d' :: rest) ∨
        (members ≠ [] ∧ next = ',' :: (dumps_members members ++ '\x7d' :: rest))) := by
  match members with
  | [] =>
    refine ⟨_, ?_, no_digit_cons (by decide), .inl ⟨rfl, rfl⟩⟩
    rw [dumps_members, List.append_assoc, List.cons_append]
  | other :: members =>
    refine ⟨_, ?_, no_digit_cons (by decide), .inr ⟨List.cons_ne_nil _ _, rfl⟩⟩
    rw [dumps_members, List.append_assoc, List.cons_append, List.append_assoc, List.cons_append]
    exact List.cons_ne_nil _ _

private theorem dumps_append_inj_all :
    (∀ v w rest rest', NoDigit rest → NoDigit rest' → dumps v ++ rest = dumps w ++ rest' → v = w ∧ rest = rest') ∧
      (∀ items items' rest rest', dumps_items items ++ ']' :: rest = dumps_items items' ++ ']' :: rest' →
        items = items' ∧ rest = rest') ∧
      ∀ members members' rest rest',
        dumps_members members ++ '\x7d' :: rest = dumps_members members' ++ '\x7d' :: rest' →
          members = members' ∧ rest = rest' := by
  refine data_induction ?_ ?_ ?_ ?_ ?_ ?_ ?_ ?_ ?_ ?_
  · intro w rest rest' hrest hrest' h
    have hlead := lead_eq_of_dumps h
    match w with
    | null => exact ⟨rfl, List.append_cancel_left h⟩
  · intro value w rest rest' hrest hrest' h
    have hlead := lead_eq_of_dumps h
    match value, w with
    | true, bool true => exact ⟨rfl, List.append_cancel_left h⟩
    | false, bool false => exact ⟨rfl, List.append_cancel_left h⟩
  · intro value w rest rest' hrest hrest' h
    have hlead := lead_eq_of_dumps h
    match w with
    | int value' =>
      obtain ⟨rfl, hend⟩ := int_append_inj hrest hrest' h
      exact ⟨rfl, hend⟩
  · intro value w rest rest' hrest hrest' h
    have hlead := lead_eq_of_dumps h
    match w with
    | string value' =>
      obtain ⟨rfl, hend⟩ := Json.dumps_string_append_inj h
      exact ⟨rfl, hend⟩
  · intro items ih w rest rest' hrest hrest' h
    have hlead := lead_eq_of_dumps h
    match w with
    | array items' =>
      rw [dumps, dumps, List.cons_append, List.cons_append, List.append_assoc, List.append_assoc] at h
      obtain ⟨rfl, hend⟩ := ih _ _ _ (List.tail_eq_of_cons_eq h)
      exact ⟨rfl, hend⟩
  · intro members ih w rest rest' hrest hrest' h
    have hlead := lead_eq_of_dumps h
    match w with
    | object members' =>
      rw [dumps, dumps, List.cons_append, List.cons_append, List.append_assoc, List.append_assoc] at h
      obtain ⟨rfl, hend⟩ := ih _ _ _ (List.tail_eq_of_cons_eq h)
      exact ⟨rfl, hend⟩
  · intro items' rest rest' h
    match items' with
    | [] => exact ⟨rfl, List.tail_eq_of_cons_eq h⟩
    | item :: items =>
      obtain ⟨next, hitem, -⟩ := @dumps_items_cons rest' item items
      rw [hitem] at h
      exact (dumps_ne_cons (by decide) h.symm).elim
  · intro item items hitem hitems items' rest rest' h
    obtain ⟨next, htext, hnext, hcase⟩ := @dumps_items_cons rest item items
    rw [htext] at h
    match items' with
    | [] => exact (dumps_ne_cons (by decide) h).elim
    | item' :: items' =>
      obtain ⟨next', htext', hnext', hcase'⟩ := @dumps_items_cons rest' item' items'
      rw [htext'] at h
      obtain ⟨rfl, heq⟩ := hitem _ _ _ hnext hnext' h
      rcases hcase with ⟨rfl, rfl⟩ | ⟨-, rfl⟩ <;> rcases hcase' with ⟨rfl, rfl⟩ | ⟨-, rfl⟩
      · exact ⟨rfl, List.tail_eq_of_cons_eq heq⟩
      · cases List.head_eq_of_cons_eq heq
      · cases List.head_eq_of_cons_eq heq
      · obtain ⟨rfl, hend⟩ := hitems _ _ _ (List.tail_eq_of_cons_eq heq)
        exact ⟨rfl, hend⟩
  · intro members' rest rest' h
    match members' with
    | [] => exact ⟨rfl, List.tail_eq_of_cons_eq h⟩
    | (key, value) :: members =>
      obtain ⟨next, hmember, -⟩ := @dumps_members_cons rest' key value members
      rw [hmember] at h
      cases List.head_eq_of_cons_eq h
  · intro key value members hvalue hmembers members' rest rest' h
    obtain ⟨next, htext, hnext, hcase⟩ := @dumps_members_cons rest key value members
    rw [htext] at h
    match members' with
    | [] => cases List.head_eq_of_cons_eq h
    | (key', value') :: members' =>
      obtain ⟨next', htext', hnext', hcase'⟩ := @dumps_members_cons rest' key' value' members'
      rw [htext'] at h
      obtain ⟨rfl, hvalues⟩ := Json.dumps_string_append_inj h
      obtain ⟨rfl, heq⟩ := hvalue _ _ _ hnext hnext' (List.tail_eq_of_cons_eq hvalues)
      rcases hcase with ⟨rfl, rfl⟩ | ⟨-, rfl⟩ <;> rcases hcase' with ⟨rfl, rfl⟩ | ⟨-, rfl⟩
      · exact ⟨rfl, List.tail_eq_of_cons_eq heq⟩
      · cases List.head_eq_of_cons_eq heq
      · cases List.head_eq_of_cons_eq heq
      · obtain ⟨rfl, hend⟩ := hmembers _ _ _ (List.tail_eq_of_cons_eq heq)
        exact ⟨rfl, hend⟩

/-- No two data share their text. -/
theorem dumps_injective {v w : JsonData} (h : dumps v = dumps w) : v = w :=
  (dumps_append_inj_all.1 v w [] [] no_digit_nil no_digit_nil (by rw [List.append_nil, List.append_nil, h])).1

end Injectivity

end JsonData
