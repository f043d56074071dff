import Mathlib.Logic.Function.Basic
import Mathlib.Data.List.AList

namespace Relational

universe u v

/-- The databases that the statements are for. -/
inductive Dialect
  | sqlite
  | postgresql
  deriving DecidableEq, Repr

/-- The largest number that an integer column stores. -/
def Dialect.integer_column_max : Dialect → Nat
  | sqlite => 0x7fffffffffffffff
  | postgresql => 0x7fffffff

/-- Every row stays, and may only change along `R`. -/
def Grows {κ : Type u} {α : Type v} (R : α → α → Prop) (f g : κ → Option α) : Prop :=
  ∀ k v, f k = some v → ∃ v', g k = some v' ∧ R v v'

namespace Grows

variable {κ : Type u} {α : Type v} {R : α → α → Prop} {f g h : κ → Option α}

theorem refl (hrefl : ∀ v, R v v) (f : κ → Option α) : Grows R f f := fun _ v hv => ⟨v, hv, hrefl v⟩

theorem trans (htrans : ∀ u v w, R u v → R v w → R u w) (hfg : Grows R f g) (hgh : Grows R g h) :
    Grows R f h := by
  intro k v hv
  obtain ⟨v', hv', hR⟩ := hfg k v hv
  obtain ⟨v'', hv'', hR'⟩ := hgh k v' hv'
  exact ⟨v'', hv'', htrans v v' v'' hR hR'⟩

theorem update_fresh [DecidableEq κ] (hrefl : ∀ v, R v v) {k : κ} (fresh : f k = none) (v : Option α) :
    Grows R f (Function.update f k v) := by
  intro k' v' hv'
  have hne : k' ≠ k := by
    rintro rfl
    rw [fresh] at hv'
    cases hv'
  exact ⟨v', by rwa [Function.update_of_ne hne], hrefl v'⟩

theorem update [DecidableEq κ] (hrefl : ∀ v, R v v) {k : κ} {v v' : α} (row : f k = some v) (hR : R v v') :
    Grows R f (Function.update f k (some v')) := by
  intro k' u hu
  by_cases hk : k' = k
  · subst hk
    rw [row] at hu
    cases hu
    exact ⟨v', Function.update_self .., hR⟩
  · exact ⟨u, by rwa [Function.update_of_ne hk], hrefl u⟩

theorem map {m : α → α} (hR : ∀ v, R v (m v)) : Grows R f fun k => (f k).map m := by
  intro k v hv
  exact ⟨m v, by simp [hv], hR v⟩

end Grows

/-- A relational table: finitely many rows, each stored under its own primary key. The key
uniqueness that a database enforces is the `nodupKeys` field of the underlying `AList`. -/
abbrev Table (κ : Type u) (α : Type v) : Type (max u v) := AList fun _ : κ => α

namespace Table

variable {κ : Type u} {α : Type v} [DecidableEq κ]

/-- Read the row stored under a primary key. -/
def get? (t : Table κ α) (k : κ) : Option α := AList.lookup k t

/-- Store a row under a key, replacing the row that was there. -/
def set (t : Table κ α) (k : κ) (r : α) : Table κ α := AList.insert k r t

/-- `INSERT`: fails when the primary key is already taken. -/
def insertNew (t : Table κ α) (k : κ) (r : α) : Option (Table κ α) :=
  if (t.get? k).isSome then none else some (t.set k r)

/-- `INSERT` of several rows: fails when one key is taken or given twice. -/
def insertAll (t : Table κ α) (rows : List (κ × α)) : Option (Table κ α) :=
  rows.foldlM (fun t row => t.insertNew row.1 row.2) t

/-- `INSERT` under a unique index: fails also when another row has the same indexed value. -/
def insertUnique (t : Table κ α) (conflicts : α → α → Bool) (k : κ) (r : α) : Option (Table κ α) :=
  if t.entries.any fun e => conflicts r e.2 then none else t.insertNew k r

/-- `UPDATE … WHERE key = k AND p … RETURNING`: fails when no row satisfies the filter. -/
def updateWhere (t : Table κ α) (k : κ) (p : α → Bool) (f : α → α) : Option (Table κ α) :=
  match t.get? k with
  | some r => if p r then some (t.set k (f r)) else none
  | none => none

/-- `DELETE … WHERE key = k`. -/
def delete (t : Table κ α) (k : κ) : Table κ α := AList.erase k t

/-- `UPDATE` over every row at once. -/
def mapRows (t : Table κ α) (f : κ → α → α) : Table κ α where
  entries := t.entries.map fun e => ⟨e.1, f e.1 e.2⟩
  nodupKeys := by
    have h := t.nodupKeys
    rw [List.NodupKeys, List.keys] at h ⊢
    simpa [Function.comp_def] using h

/-- `SELECT … WHERE p`, as keys paired with rows. -/
def select (t : Table κ α) (p : κ → α → Bool) : List (κ × α) :=
  (t.entries.filter fun e => p e.1 e.2).map fun e => (e.1, e.2)

/-- `EXISTS (SELECT … WHERE p)`. -/
def any (t : Table κ α) (p : κ → α → Bool) : Bool := t.entries.any fun e => p e.1 e.2

@[simp] theorem get?_empty (k : κ) : get? (∅ : Table κ α) k = none := AList.lookup_empty k

theorem get?_set (t : Table κ α) (k k' : κ) (r : α) :
    (t.set k r).get? k' = if k' = k then some r else t.get? k' := by
  unfold get? set
  split
  · next h => rw [h, AList.lookup_insert]
  · next h => rw [AList.lookup_insert_ne h]

@[simp] theorem get?_set_self (t : Table κ α) (k : κ) (r : α) : (t.set k r).get? k = some r := by
  rw [get?_set, if_pos rfl]

theorem get?_set_ne (t : Table κ α) {k k' : κ} (h : k' ≠ k) (r : α) :
    (t.set k r).get? k' = t.get? k' := by
  rw [get?_set, if_neg h]

/-- Only the last row stored under a key counts. -/
@[simp] theorem set_set (t : Table κ α) (k : κ) (r r' : α) : (t.set k r).set k r' = t.set k r' :=
  AList.insert_insert t

theorem get?_delete (t : Table κ α) (k k' : κ) :
    (t.delete k).get? k' = if k' = k then none else t.get? k' := by
  unfold get? delete
  split
  · next h => rw [h, AList.lookup_erase]
  · next h => rw [AList.lookup_erase_ne h]

/-- The only row can be deleted again. -/
theorem delete_set_empty (k : κ) (r : α) : (set ∅ k r).delete k = ∅ :=
  AList.ext (List.kerase_cons_eq (s := (⟨k, r⟩ : Sigma fun _ : κ => α)) rfl)

private theorem dlookup_map (f : κ → α → α) (k : κ) (l : List (Sigma fun _ : κ => α)) :
    (l.map fun e => (⟨e.1, f e.1 e.2⟩ : Sigma fun _ : κ => α)).dlookup k =
      (l.dlookup k).map (f k) := by
  induction l with
  | nil => rfl
  | cons e l ih =>
    obtain ⟨k', r⟩ := e
    by_cases h : k = k'
    · subst h; simp
    · rw [List.map_cons, @List.dlookup_cons_ne κ (fun _ => α) _ _ _ ⟨k', f k' r⟩ h]
      exact ih.trans (congrArg _ (@List.dlookup_cons_ne κ (fun _ => α) _ _ _ ⟨k', r⟩ h).symm)

@[simp] theorem get?_mapRows (t : Table κ α) (f : κ → α → α) (k : κ) :
    (t.mapRows f).get? k = (t.get? k).map (f k) := dlookup_map f k t.entries

/-- An insert succeeds exactly on a fresh key, and then stores the row. -/
theorem insertNew_eq_some {t t' : Table κ α} {k : κ} {r : α} :
    t.insertNew k r = some t' ↔ t.get? k = none ∧ t' = t.set k r := by
  unfold insertNew
  cases h : t.get? k <;> simp [eq_comm]

/-- Inserting several rows adds exactly those rows, under fresh keys. -/
theorem insertAll_eq_some {t t' : Table κ α} {rows : List (κ × α)} (h : t.insertAll rows = some t') :
    (∀ k r, t'.get? k = some r ↔ t.get? k = some r ∨ (k, r) ∈ rows) ∧
      (∀ row ∈ rows, t.get? row.1 = none) ∧ (rows.map Prod.fst).Nodup := by
  induction rows generalizing t with
  | nil =>
    cases h
    simp
  | cons row rows ih =>
    rw [insertAll, List.foldlM_cons, Option.bind_eq_bind, Option.bind_eq_some_iff] at h
    obtain ⟨middle, hrow, hrest⟩ := h
    rw [insertNew_eq_some] at hrow
    obtain ⟨hfree, rfl⟩ := hrow
    obtain ⟨hget, hfresh, hnodup⟩ := ih hrest
    have hne : ∀ other ∈ rows, other.1 ≠ row.1 := by
      intro other hother heq
      have hnone := hfresh other hother
      rw [heq, get?_set_self] at hnone
      cases hnone
    refine ⟨?_, ?_, ?_⟩
    · intro k r
      rw [hget, get?_set, List.mem_cons, Prod.ext_iff]
      by_cases hk : k = row.1
      · subst hk
        simp [hfree, eq_comm]
      · simp [hk]
    · intro other hother
      rcases List.mem_cons.mp hother with rfl | hother
      · exact hfree
      · have hnone := hfresh other hother
        rwa [get?_set_ne _ (hne other hother)] at hnone
    · rw [List.map_cons, List.nodup_cons]
      refine ⟨fun hmem => ?_, hnodup⟩
      obtain ⟨other, hother, heq⟩ := List.mem_map.mp hmem
      exact hne other hother heq

/-- An insert under a unique index found the key free and no row in its way. -/
theorem insertUnique_eq_some {t t' : Table κ α} {conflicts : α → α → Bool} {k : κ} {r : α} :
    t.insertUnique conflicts k r = some t' ↔ t.any (fun _ other => conflicts r other) = false ∧
      t.get? k = none ∧ t' = t.set k r := by
  unfold insertUnique any
  split
  · next h => simp [h]
  · next h =>
    rw [Bool.not_eq_true] at h
    rw [insertNew_eq_some, h]
    simp

/-- Inserting rows one by one under a unique index inserts them all. -/
theorem foldlM_insertUnique {t t' : Table κ α} {conflicts : α → α → Bool} {rows : List (κ × α)}
    (h : rows.foldlM (fun t row => t.insertUnique conflicts row.1 row.2) t = some t') : t.insertAll rows = some t' := by
  induction rows generalizing t with
  | nil => exact h
  | cons row rows ih =>
    rw [List.foldlM_cons, Option.bind_eq_bind, Option.bind_eq_some_iff] at h
    obtain ⟨middle, hrow, hrest⟩ := h
    obtain ⟨-, hfree, rfl⟩ := insertUnique_eq_some.mp hrow
    rw [insertAll, List.foldlM_cons, insertNew_eq_some.mpr ⟨hfree, rfl⟩]
    exact ih hrest

/-- A conditional update succeeds exactly when the row exists and passes its filter. -/
theorem updateWhere_eq_some {t t' : Table κ α} {k : κ} {p : α → Bool} {f : α → α} :
    t.updateWhere k p f = some t' ↔ ∃ r, t.get? k = some r ∧ p r = true ∧ t' = t.set k (f r) := by
  unfold updateWhere
  cases h : t.get? k with
  | none => simp
  | some r =>
    by_cases hp : p r = true
    · simp only [hp, if_true, Option.some.injEq, exists_eq_left', true_and]
      exact eq_comm
    · simp [hp]

theorem mem_entries_iff {t : Table κ α} {k : κ} {r : α} :
    (⟨k, r⟩ : Sigma fun _ : κ => α) ∈ t.entries ↔ t.get? k = some r :=
  (AList.mem_lookup_iff (s := t) (a := k) (b := r)).symm

theorem mem_select_iff {t : Table κ α} {p : κ → α → Bool} {k : κ} {r : α} :
    (k, r) ∈ t.select p ↔ t.get? k = some r ∧ p k r = true := by
  simp only [select, List.mem_map, List.mem_filter, Prod.mk.injEq, Sigma.exists]
  constructor
  · rintro ⟨k', r', ⟨hmem, hp⟩, rfl, rfl⟩
    exact ⟨mem_entries_iff.mp hmem, hp⟩
  · rintro ⟨hget, hp⟩
    exact ⟨k, r, ⟨mem_entries_iff.mpr hget, hp⟩, rfl, rfl⟩

theorem any_eq_true_iff {t : Table κ α} {p : κ → α → Bool} :
    t.any p = true ↔ ∃ k r, t.get? k = some r ∧ p k r = true := by
  simp only [any, List.any_eq_true, Sigma.exists]
  constructor
  · rintro ⟨k, r, hmem, hp⟩
    exact ⟨k, r, mem_entries_iff.mp hmem, hp⟩
  · rintro ⟨k, r, hget, hp⟩
    exact ⟨k, r, mem_entries_iff.mpr hget, hp⟩

theorem any_eq_false_iff {t : Table κ α} {p : κ → α → Bool} :
    t.any p = false ↔ ∀ k r, t.get? k = some r → p k r = false := by
  rw [Bool.eq_false_iff, Ne, any_eq_true_iff]
  simp

/-- What a table looks like when every row is read through `f`. -/
def view {β : Type v} (t : Table κ α) (f : α → β) : κ → Option β := fun k => (t.get? k).map f

@[simp] theorem view_empty {β : Type v} (f : α → β) : (∅ : Table κ α).view f = fun _ => none := by
  funext k
  simp [view]

@[simp] theorem view_set {β : Type v} (t : Table κ α) (k : κ) (r : α) (f : α → β) :
    (t.set k r).view f = Function.update (t.view f) k (some (f r)) := by
  funext k'
  by_cases h : k' = k <;> simp [view, get?_set, h]

@[simp] theorem view_delete {β : Type v} (t : Table κ α) (k : κ) (f : α → β) :
    (t.delete k).view f = Function.update (t.view f) k none := by
  funext k'
  by_cases h : k' = k <;> simp [view, get?_delete, h]

theorem view_eq_some {β : Type v} {t : Table κ α} {k : κ} {f : α → β} {b : β} :
    t.view f k = some b ↔ ∃ r, t.get? k = some r ∧ f r = b := Option.map_eq_some_iff

theorem view_eq_none {β : Type v} {t : Table κ α} {k : κ} {f : α → β} :
    t.view f k = none ↔ t.get? k = none := Option.map_eq_none_iff

/-- A row that still looks the same leaves the view as it was. -/
theorem view_set_same {β : Type v} {t : Table κ α} {k : κ} {r r' : α} {f : α → β} (row : t.get? k = some r)
    (h : f r' = f r) : (t.set k r').view f = t.view f := by
  rw [view_set, h]
  exact Function.update_eq_self_iff.mpr (by simp [view, row])

/-- Inserting several rows adds exactly what they look like. -/
theorem view_insertAll {β : Type v} {t t' : Table κ α} {rows : List (κ × α)} (h : t.insertAll rows = some t')
    (f : α → β) (k : κ) (b : β) :
    t'.view f k = some b ↔ t.view f k = some b ∨ ∃ row ∈ rows, row.1 = k ∧ b = f row.2 := by
  obtain ⟨hget, -, -⟩ := insertAll_eq_some h
  simp only [view_eq_some, hget, or_and_right, exists_or]
  refine or_congr_right ⟨?_, ?_⟩
  · rintro ⟨r, hmem, rfl⟩
    exact ⟨(k, r), hmem, rfl, rfl⟩
  · rintro ⟨⟨_, r⟩, hmem, rfl, rfl⟩
    exact ⟨r, hmem, rfl⟩

omit [DecidableEq κ] in
/-- A selection never returns one key twice. -/
theorem select_keys_nodup (t : Table κ α) (p : κ → α → Bool) :
    ((t.select p).map Prod.fst).Nodup := by
  have h : (t.entries.map Sigma.fst).Nodup := t.nodupKeys
  rw [select, List.map_map]
  exact (List.Sublist.map Sigma.fst List.filter_sublist).nodup h

end Table

/-- Exactly `n` keys hold a value with a property. -/
def Counts {κ : Type u} {β : Type v} (f : κ → Option β) (p : κ → β → Prop) (n : Nat) : Prop :=
  ∃ keys : List κ, keys.Nodup ∧ keys.length = n ∧ ∀ k, k ∈ keys ↔ ∃ b, f k = some b ∧ p k b

namespace Counts

variable {κ : Type u} {β : Type v} {f g : κ → Option β} {p : κ → β → Prop} {n m : Nat}

theorem unique (h : Counts f p n) (h' : Counts f p m) : n = m := by
  obtain ⟨keys, hnodup, rfl, hmem⟩ := h
  obtain ⟨keys', hnodup', rfl, hmem'⟩ := h'
  exact ((List.perm_ext_iff_of_nodup hnodup hnodup').mpr fun k => (hmem k).trans (hmem' k).symm).length_eq

theorem zero (h : ∀ k b, f k = some b → ¬ p k b) : Counts f p 0 :=
  ⟨[], .nil, rfl, fun k => by simpa using h k⟩

/-- What holds of the same keys counts the same. -/
theorem congr (h : Counts f p n)
    (hsame : ∀ k, (∃ b, g k = some b ∧ p k b) ↔ ∃ b, f k = some b ∧ p k b) : Counts g p n := by
  obtain ⟨keys, hnodup, hlength, hmem⟩ := h
  exact ⟨keys, hnodup, hlength, fun k => (hmem k).trans (hsame k).symm⟩

/-- New keys count one each. -/
theorem add (h : Counts f p n) {new : List κ} (nodup : new.Nodup) (fresh : ∀ k ∈ new, f k = none)
    (hadded : ∀ k, (∃ b, g k = some b ∧ p k b) ↔ (∃ b, f k = some b ∧ p k b) ∨ k ∈ new) :
    Counts g p (n + new.length) := by
  obtain ⟨keys, hnodup, rfl, hmem⟩ := h
  refine ⟨keys ++ new, hnodup.append nodup fun k hk hnew => ?_, List.length_append, fun k => ?_⟩
  · obtain ⟨b, hb, -⟩ := (hmem k).mp hk
    rw [fresh k hnew] at hb
    cases hb
  · rw [List.mem_append, hmem, hadded]

end Counts

namespace Table

variable {κ : Type u} {α β : Type v} [DecidableEq κ]

/-- A selection counts the rows that it returns. -/
theorem counts_select (t : Table κ α) (f : α → β) (q : κ → β → Bool) :
    Counts (t.view f) (fun k b => q k b = true) (t.select fun k r => q k (f r)).length := by
  refine ⟨(t.select fun k r => q k (f r)).map Prod.fst, t.select_keys_nodup _, List.length_map _, fun k => ?_⟩
  simp only [List.mem_map, Prod.exists, exists_and_right, exists_eq_right, mem_select_iff, view_eq_some]
  constructor
  · rintro ⟨r, hrow, hq⟩
    exact ⟨f r, ⟨r, hrow, rfl⟩, hq⟩
  · rintro ⟨_, ⟨r, hrow, rfl⟩, hq⟩
    exact ⟨r, hrow, hq⟩

theorem select_length_eq {t : Table κ α} {f : α → β} {q : κ → β → Bool} {n : Nat}
    (h : Counts (t.view f) (fun k b => q k b = true) n) : (t.select fun k r => q k (f r)).length = n :=
  (t.counts_select f q).unique h

end Table

end Relational
