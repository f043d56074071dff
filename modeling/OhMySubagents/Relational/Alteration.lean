import OhMySubagents.Relational.Table

namespace Relational

universe u v

/-- Two states of one table that hold the same keys, each row related to what it was. -/
def Evolves {κ : Type u} {α : Type v} [DecidableEq κ] (R : α → α → Prop) (t t' : Table κ α) : Prop :=
  ∀ k, Option.Rel R (t.get? k) (t'.get? k)

namespace Evolves

variable {κ : Type u} {α : Type v} [DecidableEq κ] {R : α → α → Prop} {t t' t'' : Table κ α} {k : κ} {r r' : α}

theorem refl (hrefl : ∀ r, R r r) (t : Table κ α) : Evolves R t t := by
  intro k
  cases t.get? k with
  | none => exact .none
  | some r => exact .some (hrefl r)

theorem trans (htrans : ∀ r r' r'', R r r' → R r' r'' → R r r'') (h : Evolves R t t') (h' : Evolves R t' t'') :
    Evolves R t t'' := by
  intro k
  have hk := h k
  have hk' := h' k
  generalize t.get? k = row at hk ⊢
  generalize t'.get? k = row' at hk hk'
  generalize t''.get? k = row'' at hk' ⊢
  cases hk with
  | none => exact hk'
  | some hR =>
    cases hk' with
    | some hR' => exact .some (htrans _ _ _ hR hR')

theorem set (hrefl : ∀ r, R r r) (row : t.get? k = some r) (hR : R r r') : Evolves R t (t.set k r') := by
  intro k'
  rw [Table.get?_set]
  split
  · next hk =>
    subst hk
    rw [row]
    exact .some hR
  · exact refl hrefl t k'

theorem mapRows {f : κ → α → α} (hR : ∀ k r, R r (f k r)) : Evolves R t (t.mapRows f) := by
  intro k
  rw [Table.get?_mapRows]
  cases t.get? k with
  | none => exact .none
  | some r => exact .some (hR k r)

theorem mono {S : α → α → Prop} (hS : ∀ r r', R r r' → S r r') (h : Evolves R t t') : Evolves S t t' := by
  intro k
  have hk := h k
  generalize t.get? k = row at hk ⊢
  generalize t'.get? k = row' at hk ⊢
  cases hk with
  | none => exact .none
  | some hR => exact .some (hS _ _ hR)

/-- No row appears or disappears. -/
theorem isSome_get? (h : Evolves R t t') (k : κ) : (t'.get? k).isSome = (t.get? k).isSome := by
  have hk := h k
  revert hk
  cases t.get? k <;> cases t'.get? k <;> intro hk <;> cases hk <;> rfl

theorem forward (h : Evolves R t t') (row : t.get? k = some r) : ∃ r', t'.get? k = some r' ∧ R r r' := by
  have hk := h k
  rw [row] at hk
  cases hrow : t'.get? k with
  | none => rw [hrow] at hk; cases hk
  | some r' =>
    rw [hrow] at hk
    cases hk with
    | some hR => exact ⟨r', rfl, hR⟩

theorem backward (h : Evolves R t t') (row : t'.get? k = some r') : ∃ r, t.get? k = some r ∧ R r r' := by
  have hk := h k
  rw [row] at hk
  cases hrow : t.get? k with
  | none => rw [hrow] at hk; cases hk
  | some r =>
    rw [hrow] at hk
    cases hk with
    | some hR => exact ⟨r, rfl, hR⟩

/-- What no change touches looks the same. -/
theorem view {β : Type v} {f : α → β} (hf : ∀ r r', R r r' → f r' = f r) (h : Evolves R t t') :
    t'.view f = t.view f := by
  funext k
  have hk := h k
  unfold Table.view
  generalize t.get? k = row at hk ⊢
  generalize t'.get? k = row' at hk ⊢
  cases hk with
  | none => rfl
  | some hR => exact congrArg some (hf _ _ hR)

end Evolves

/-- What may become of one row: it stays absent, it is added, or it changes along `R`. -/
inductive Altered {α : Type v} (new : α → Prop) (R : α → α → Prop) : Option α → Option α → Prop
  | absent : Altered new R none none
  | added {r} (hnew : new r) : Altered new R none (some r)
  | kept {r r'} (rel : R r r') : Altered new R (some r) (some r')

/-- Two states of one table: no row is lost, each row that was there changed along `R`, and the others are
    new. -/
def Alters {κ : Type u} {α : Type v} [DecidableEq κ] (new : κ → α → Prop) (R : κ → α → α → Prop)
    (t t' : Table κ α) : Prop := ∀ k, Altered (new k) (R k) (t.get? k) (t'.get? k)

namespace Altered

variable {α : Type v} {new new' : α → Prop} {R R' : α → α → Prop} {x y z : Option α}

theorem trans (hnew : ∀ r r', new r → R r r' → new r') (htrans : ∀ r r' r'', R r r' → R r' r'' → R r r'')
    (h : Altered new R x y) (h' : Altered new R y z) : Altered new R x z := by
  cases h with
  | absent => exact h'
  | added hr =>
    cases h' with
    | kept rel => exact .added (hnew _ _ hr rel)
  | kept rel =>
    cases h' with
    | kept rel' => exact .kept (htrans _ _ _ rel rel')

theorem mono (hnew : ∀ r, new r → new' r) (hR : ∀ r r', R r r' → R' r r') (h : Altered new R x y) :
    Altered new' R' x y := by
  cases h with
  | absent => exact .absent
  | added hr => exact .added (hnew _ hr)
  | kept rel => exact .kept (hR _ _ rel)

end Altered

namespace Alters

variable {κ : Type u} {α : Type v} [DecidableEq κ] {new new' : κ → α → Prop} {R R' : κ → α → α → Prop}
  {t t' t'' : Table κ α} {k : κ} {r r' : α}

theorem refl (hrefl : ∀ k r, R k r r) (t : Table κ α) : Alters new R t t := by
  intro k
  cases t.get? k with
  | none => exact .absent
  | some r => exact .kept (hrefl k r)

theorem trans (hnew : ∀ k r r', new k r → R k r r' → new k r')
    (htrans : ∀ k r r' r'', R k r r' → R k r' r'' → R k r r'') (h : Alters new R t t') (h' : Alters new R t' t'') :
    Alters new R t t'' := fun k => (h k).trans (hnew k) (htrans k) (h' k)

theorem mono (hnew : ∀ k r, new k r → new' k r) (hR : ∀ k r r', R k r r' → R' k r r') (h : Alters new R t t') :
    Alters new' R' t t' := fun k => (h k).mono (hnew k) (hR k)

theorem intro (hkeep : ∀ k r, t.get? k = some r → ∃ r', t'.get? k = some r' ∧ R k r r')
    (hnew : ∀ k r, t.get? k = none → t'.get? k = some r → new k r) : Alters new R t t' := by
  intro k
  cases hk : t.get? k with
  | some r =>
    obtain ⟨r', hr', rel⟩ := hkeep k r hk
    rw [hr']
    exact .kept rel
  | none =>
    cases hk' : t'.get? k with
    | none => exact .absent
    | some r => exact .added (hnew k r hk hk')

/-- One row changes. -/
theorem set (hrefl : ∀ k r, R k r r) (row : t.get? k = some r) (rel : R k r r') : Alters new R t (t.set k r') := by
  intro k'
  rw [Table.get?_set]
  split
  · next hk =>
    subst hk
    rw [row]
    exact .kept rel
  · exact refl hrefl t k'

/-- One row is added. -/
theorem add (hrefl : ∀ k r, R k r r) (fresh : t.get? k = none) (hnew : new k r) : Alters new R t (t.set k r) := by
  intro k'
  rw [Table.get?_set]
  split
  · next hk =>
    subst hk
    rw [fresh]
    exact .added hnew
  · exact refl hrefl t k'

/-- One row changes, and another is added. -/
theorem set_add {k' : κ} {s : α} (hrefl : ∀ k r, R k r r) (row : t.get? k = some r) (rel : R k r r')
    (fresh : t.get? k' = none) (hnew : new k' s) : Alters new R t ((t.set k r').set k' s) := by
  have hset : Alters new R t (t.set k r') := set hrefl row rel
  intro i
  rw [Table.get?_set]
  split
  · next hi =>
    subst hi
    rw [fresh]
    exact .added hnew
  · exact hset i

theorem mapRows {f : κ → α → α} (hR : ∀ k r, t.get? k = some r → R k r (f k r)) : Alters new R t (t.mapRows f) := by
  intro k
  rw [Table.get?_mapRows]
  cases hk : t.get? k with
  | none => exact .absent
  | some r => exact .kept (hR k r hk)

theorem of_evolves {S : α → α → Prop} (h : Evolves S t t') (hR : ∀ k r r', t.get? k = some r → S r r' → R k r r') :
    Alters new R t t' := by
  intro k
  have hk := h k
  cases hr : t.get? k with
  | none =>
    rw [hr] at hk
    generalize t'.get? k = row' at hk ⊢
    cases hk
    exact .absent
  | some r =>
    rw [hr] at hk
    generalize t'.get? k = row' at hk ⊢
    cases hk with
    | some hS => exact .kept (hR k r _ hr hS)

theorem forward (h : Alters new R t t') (row : t.get? k = some r) : ∃ r', t'.get? k = some r' ∧ R k r r' := by
  have hk := h k
  rw [row] at hk
  generalize t'.get? k = row' at hk ⊢
  cases hk with
  | kept rel => exact ⟨_, rfl, rel⟩

theorem backward (h : Alters new R t t') (row : t'.get? k = some r') :
    t.get? k = none ∧ new k r' ∨ ∃ r, t.get? k = some r ∧ R k r r' := by
  have hk := h k
  rw [row] at hk
  generalize t.get? k = row' at hk ⊢
  cases hk with
  | added hnew => exact .inl ⟨rfl, hnew⟩
  | kept rel => exact .inr ⟨_, rfl, rel⟩

theorem added (h : Alters new R t t') (fresh : t.get? k = none) (row : t'.get? k = some r) : new k r := by
  rcases h.backward row with ⟨-, hnew⟩ | ⟨_, hold, -⟩
  · exact hnew
  · rw [fresh] at hold
    cases hold

theorem kept (h : Alters new R t t') (row : t.get? k = some r) (row' : t'.get? k = some r') : R k r r' := by
  obtain ⟨_, hrow, rel⟩ := h.forward row
  obtain rfl := Option.some.inj (hrow.symm.trans row')
  exact rel

end Alters

end Relational
