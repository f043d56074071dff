import Mathlib.Data.List.Nodup
import Mathlib.Order.Basic
import Mathlib.Order.Lattice
import OhMySubagents.Relational.Table

namespace Relational

universe u v w

section OrderBy

variable {α : Type v} {β : Type w} [LinearOrder β] {key : α → β} {rows rows' : List α}

/-- `ORDER BY key`. -/
def orderBy (key : α → β) (rows : List α) : List α := rows.mergeSort fun row other => decide (key row ≤ key other)

theorem orderBy_perm (key : α → β) (rows : List α) : (orderBy key rows).Perm rows := List.mergeSort_perm _ _

theorem orderBy_pairwise (key : α → β) (rows : List α) :
    (orderBy key rows).Pairwise fun row other => key row ≤ key other := by
  refine (List.pairwise_mergeSort (fun a b c hab hbc => ?_) (fun a b => ?_) rows).imp of_decide_eq_true
  · exact decide_eq_true ((of_decide_eq_true hab).trans (of_decide_eq_true hbc))
  · rw [Bool.or_eq_true, decide_eq_true_iff, decide_eq_true_iff]
    exact le_total _ _

/-- Two lists of the same rows in the order of a key that tells them apart are one. -/
theorem eq_of_ordered (hperm : rows.Perm rows')
    (hinj : ∀ row ∈ rows, ∀ other ∈ rows, key row = key other → row = other)
    (hrows : rows.Pairwise fun row other => key row ≤ key other)
    (hrows' : rows'.Pairwise fun row other => key row ≤ key other) : rows = rows' :=
  List.Perm.eq_of_pairwise (fun row other hrow hother hle hge =>
    hinj row hrow other (hperm.mem_iff.mpr hother) (le_antisymm hle hge)) hrows hrows' hperm

/-- Rows whose keys differ are in strict order. -/
theorem orderBy_strict (h : (rows.map key).Nodup) :
    (orderBy key rows).Pairwise fun row other => key row < key other := by
  have hnodup : ((orderBy key rows).map key).Nodup := ((orderBy_perm key rows).map key).nodup_iff.mpr h
  exact (orderBy_pairwise key rows).imp₂ (fun _ _ hle hne => lt_of_le_of_ne hle hne) (List.pairwise_map.mp hnodup)

/-- A condition may be tested before or after the rows are ordered. -/
theorem orderBy_filter (h : (rows.map key).Nodup) (p : α → Bool) :
    orderBy key (rows.filter p) = (orderBy key rows).filter p := by
  refine eq_of_ordered ((orderBy_perm key _).trans ((orderBy_perm key rows).filter p).symm) ?_ (orderBy_pairwise key _)
    ((orderBy_pairwise key rows).filter p)
  intro row hrow other hother heq
  have hmem := fun found (hfound : found ∈ orderBy key (rows.filter p)) =>
    (List.mem_filter.mp ((orderBy_perm key _).mem_iff.mp hfound)).1
  exact List.inj_on_of_nodup_map h (hmem row hrow) (hmem other hother) heq

/-- The rows behind a row of a list in strict order are the rest of the list. -/
theorem filter_behind {before behind : List α} {row : α}
    (h : (before ++ row :: behind).Pairwise fun row other => key row < key other) :
    ((before ++ row :: behind).filter fun other => decide (key row < key other)) = behind := by
  obtain ⟨-, hrest, hbefore⟩ := List.pairwise_append.mp h
  have hnone : (before.filter fun other => decide (key row < key other)) = [] :=
    List.filter_eq_nil_iff.mpr fun other hother =>
      fun hlt => lt_asymm (of_decide_eq_true hlt) (hbefore other hother row List.mem_cons_self)
  rw [List.filter_append, hnone, List.nil_append, List.filter_cons_of_neg (by simp)]
  exact List.filter_eq_self.mpr fun other hother => decide_eq_true ((List.pairwise_cons.mp hrest).1 other hother)

end OrderBy

section Keyset

variable {α : Type v} {β : Type w} [LinearOrder β]

/-- Whether a row comes behind a cursor. -/
def isBehind (key : α → β) (cursor : Option β) (row : α) : Bool := cursor.all fun k => decide (k < key row)

/-- `WHERE key > cursor ORDER BY key LIMIT size`. -/
def keysetPage (key : α → β) (cursor : Option β) (size : Nat) (rows : List α) : List α :=
  (orderBy key (rows.filter (isBehind key cursor))).take size

/-- The key of the last row of a full page. -/
def nextCursor (key : α → β) (size : Nat) (page : List α) : Option β :=
  if page.length = size then page.getLast?.map key else none

/-- What a reader collects who turns pages over rows that may change from one page to the next. -/
inductive KeysetScan (key : α → β) (size : Nat) (reads : Nat → List α) : Nat → Option β → List α → Prop
  | last {i : Nat} {cursor : Option β} (hlast : nextCursor key size (keysetPage key cursor size (reads i)) = none) :
      KeysetScan key size reads i cursor (keysetPage key cursor size (reads i))
  | more {i : Nat} {cursor : Option β} {next : β} {rest : List α}
      (hnext : nextCursor key size (keysetPage key cursor size (reads i)) = some next)
      (scan : KeysetScan key size reads (i + 1) (some next) rest) :
      KeysetScan key size reads i cursor (keysetPage key cursor size (reads i) ++ rest)

variable {key : α → β} {rows output : List α} {reads : Nat → List α} {cursor : Option β} {size i : Nat} {next : β}
  {row : α}

theorem mem_of_mem_keysetPage (h : row ∈ keysetPage key cursor size rows) :
    row ∈ rows ∧ isBehind key cursor row = true :=
  List.mem_filter.mp ((orderBy_perm key _).mem_iff.mp (List.mem_of_mem_take h))

private theorem behind_strict (h : (rows.map key).Nodup) (cursor : Option β) :
    (orderBy key (rows.filter (isBehind key cursor))).Pairwise fun row other => key row < key other :=
  orderBy_strict (h.sublist (List.filter_sublist.map key))

theorem keysetPage_strict (h : (rows.map key).Nodup) :
    (keysetPage key cursor size rows).Pairwise fun row other => key row < key other :=
  (behind_strict h cursor).sublist (List.take_sublist _ _)

omit [LinearOrder β] in
theorem nextCursor_eq_some {page : List α} : nextCursor key size page = some next ↔
    page.length = size ∧ ∃ before row, page = before ++ [row] ∧ key row = next := by
  unfold nextCursor
  split
  · next hfull =>
    rw [Option.map_eq_some_iff]
    constructor
    · rintro ⟨row, hrow, rfl⟩
      obtain ⟨before, rfl⟩ := List.getLast?_eq_some_iff.mp hrow
      exact ⟨hfull, before, row, rfl, rfl⟩
    · rintro ⟨-, before, row, rfl, rfl⟩
      exact ⟨row, List.getLast?_concat, rfl⟩
  · next hshort =>
    constructor
    · intro h
      cases h
    · intro h
      exact absurd h.1 hshort

/-- The cursor behind a page lies behind the cursor of the page. -/
theorem nextCursor_advances (h : nextCursor key size (keysetPage key cursor size rows) = some next) :
    cursor.all (fun k => decide (k < next)) = true := by
  obtain ⟨-, before, row, hpage, rfl⟩ := nextCursor_eq_some.mp h
  exact (mem_of_mem_keysetPage (hpage ▸ List.mem_append_right _ (List.mem_singleton_self row))).2

/-- A page that is not full holds everything behind its cursor. -/
theorem mem_keysetPage_of_last (hsize : 0 < size)
    (hlast : nextCursor key size (keysetPage key cursor size rows) = none) (hrow : row ∈ rows)
    (hbehind : isBehind key cursor row = true) : row ∈ keysetPage key cursor size rows := by
  have hmem : row ∈ orderBy key (rows.filter (isBehind key cursor)) :=
    (orderBy_perm key _).mem_iff.mpr (List.mem_filter.mpr ⟨hrow, hbehind⟩)
  have hshort : (keysetPage key cursor size rows).length ≠ size := by
    intro hfull
    unfold nextCursor at hlast
    rw [if_pos hfull, Option.map_eq_none_iff, List.getLast?_eq_none_iff] at hlast
    rw [hlast] at hfull
    exact absurd hfull (Nat.ne_of_lt hsize)
  unfold keysetPage at hshort ⊢
  rw [List.length_take] at hshort
  rwa [List.take_of_length_le (by omega)]

/-- A full page holds everything between its cursor and the next one. -/
theorem mem_keysetPage_of_le (h : (rows.map key).Nodup)
    (hnext : nextCursor key size (keysetPage key cursor size rows) = some next) (hrow : row ∈ rows)
    (hbehind : isBehind key cursor row = true) (hle : key row ≤ next) : row ∈ keysetPage key cursor size rows := by
  obtain ⟨-, before, last, hpage, rfl⟩ := nextCursor_eq_some.mp hnext
  have hmem : row ∈ orderBy key (rows.filter (isBehind key cursor)) :=
    (orderBy_perm key _).mem_iff.mpr (List.mem_filter.mpr ⟨hrow, hbehind⟩)
  have hstrict := behind_strict h cursor
  have hlast : last ∈ keysetPage key cursor size rows := hpage ▸ List.mem_append_right _ (List.mem_singleton_self _)
  unfold keysetPage at hlast ⊢
  rw [← List.take_append_drop size (orderBy key _)] at hmem hstrict
  rcases List.mem_append.mp hmem with hin | hafter
  · exact hin
  · exact absurd ((List.pairwise_append.mp hstrict).2.2 last hlast row hafter) (not_lt.mpr hle)

namespace KeysetScan

theorem mem (h : KeysetScan key size reads i cursor output) (hrow : row ∈ output) :
    isBehind key cursor row = true ∧ ∃ j, i ≤ j ∧ row ∈ reads j := by
  induction h with
  | last =>
    obtain ⟨hmem, hbehind⟩ := mem_of_mem_keysetPage hrow
    exact ⟨hbehind, _, le_rfl, hmem⟩
  | @more i cursor next rest hnext _ ih =>
    rcases List.mem_append.mp hrow with hpage | hrest
    · obtain ⟨hmem, hbehind⟩ := mem_of_mem_keysetPage hpage
      exact ⟨hbehind, i, le_rfl, hmem⟩
    · obtain ⟨hbehind, j, hj, hmem⟩ := ih hrest
      refine ⟨?_, j, by omega, hmem⟩
      have hadvances := nextCursor_advances hnext
      unfold isBehind at hbehind ⊢
      cases cursor with
      | none => rfl
      | some k => exact decide_eq_true ((of_decide_eq_true hadvances).trans (of_decide_eq_true hbehind))

/-- No key is collected twice. -/
theorem strict (h : KeysetScan key size reads i cursor output) (hreads : ∀ j, ((reads j).map key).Nodup) :
    output.Pairwise fun row other => key row < key other := by
  induction h with
  | last => exact keysetPage_strict (hreads _)
  | @more i cursor next rest hnext scan ih =>
    refine List.pairwise_append.mpr ⟨keysetPage_strict (hreads i), ih, fun row hpage other hrest => ?_⟩
    obtain ⟨-, before, last, hrows, rfl⟩ := nextCursor_eq_some.mp hnext
    have hbehind : key last < key other := of_decide_eq_true (scan.mem hrest).1
    have hstrict : (keysetPage key cursor size (reads i)).Pairwise fun row other => key row < key other :=
      keysetPage_strict (hreads i)
    rw [hrows] at hpage hstrict
    rcases List.mem_append.mp hpage with hbefore | hlast
    · exact ((List.pairwise_append.mp hstrict).2.2 row hbefore last (List.mem_singleton_self _)).trans hbehind
    · rwa [List.mem_singleton.mp hlast]

/-- A row that is there all along is collected, whatever happens to the others. -/
theorem complete (h : KeysetScan key size reads i cursor output) (hsize : 0 < size)
    (hreads : ∀ j, ((reads j).map key).Nodup) (hrow : ∀ j, row ∈ reads j) (hbehind : isBehind key cursor row = true) :
    row ∈ output := by
  induction h with
  | last hlast => exact mem_keysetPage_of_last hsize hlast (hrow _) hbehind
  | @more i cursor next rest hnext _ ih =>
    by_cases hle : key row ≤ next
    · exact List.mem_append_left _ (mem_keysetPage_of_le (hreads i) hnext (hrow i) hbehind hle)
    · exact List.mem_append_right _ (ih (decide_eq_true (not_le.mp hle)))

end KeysetScan

end Keyset

namespace Table

variable {κ : Type u} {α : Type v} {β : Type w} [LinearOrder β]

/-- `SELECT … WHERE p ORDER BY key`. -/
def selectOrdered (t : Table κ α) (p : κ → α → Bool) (key : κ → α → β) : List (κ × α) :=
  orderBy (fun row => key row.1 row.2) (t.select p)

theorem selectOrdered_perm (t : Table κ α) (p : κ → α → Bool) (key : κ → α → β) :
    (t.selectOrdered p key).Perm (t.select p) := orderBy_perm _ _

theorem select_nodup (t : Table κ α) (p : κ → α → Bool) : (t.select p).Nodup :=
  (t.select_keys_nodup p).of_map Prod.fst

theorem selectOrdered_pairwise (t : Table κ α) (p : κ → α → Bool) (key : κ → α → β) :
    (t.selectOrdered p key).Pairwise fun row other => key row.1 row.2 ≤ key other.1 other.2 := orderBy_pairwise _ _

variable [DecidableEq κ] {t t' : Table κ α} {p : κ → α → Bool} {key : κ → α → β} {rows : List (κ × α)} {k : κ} {r : α}

/-- `DELETE … WHERE p`. -/
def deleteWhere (t : Table κ α) (p : κ → α → Bool) : Table κ α :=
  (t.select p).foldl (fun t row => t.delete row.1) t

theorem mem_selectOrdered_iff : (k, r) ∈ t.selectOrdered p key ↔ t.get? k = some r ∧ p k r = true :=
  (t.selectOrdered_perm p key).mem_iff.trans mem_select_iff

/-- The rows of a query, listed once each and in strict order, are its result. -/
theorem selectOrdered_eq (hmem : ∀ k r, (k, r) ∈ rows ↔ t.get? k = some r ∧ p k r = true)
    (hrows : rows.Pairwise fun row other => key row.1 row.2 < key other.1 other.2) : t.selectOrdered p key = rows := by
  have hkeys : (rows.map fun row => key row.1 row.2).Nodup := List.pairwise_map.mpr (hrows.imp ne_of_lt)
  have hperm : rows.Perm (t.selectOrdered p key) := by
    refine ((List.perm_ext_iff_of_nodup hkeys.of_map (t.select_nodup p)).mpr ?_).trans (t.selectOrdered_perm p key).symm
    rintro ⟨k, r⟩
    rw [mem_select_iff, hmem]
  exact (eq_of_ordered hperm (List.inj_on_of_nodup_map hkeys) (hrows.imp le_of_lt)
    (t.selectOrdered_pairwise p key)).symm

/-- A query whose rows are told apart by their order does not see the other rows. -/
theorem selectOrdered_congr {p' : κ → α → Bool}
    (hinj : ∀ k k' r r', t.get? k = some r → p k r = true → t.get? k' = some r' → p k' r' = true →
      key k r = key k' r' → k = k')
    (h : ∀ k r, (t.get? k = some r ∧ p k r = true) ↔ (t'.get? k = some r ∧ p' k r = true)) :
    t.selectOrdered p key = t'.selectOrdered p' key := by
  refine eq_of_ordered ?_ ?_ (t.selectOrdered_pairwise p key) (t'.selectOrdered_pairwise p' key)
  · refine ((t.selectOrdered_perm p key).trans ?_).trans (t'.selectOrdered_perm p' key).symm
    refine (List.perm_ext_iff_of_nodup (t.select_nodup p) (t'.select_nodup p')).mpr ?_
    rintro ⟨k, r⟩
    rw [mem_select_iff, mem_select_iff, h]
  · rintro ⟨k, r⟩ hrow ⟨k', r'⟩ hother hkey
    obtain ⟨hget, hp⟩ := mem_selectOrdered_iff.mp hrow
    obtain ⟨hget', hp'⟩ := mem_selectOrdered_iff.mp hother
    obtain rfl := hinj k k' r r' hget hp hget' hp' hkey
    obtain rfl := Option.some.inj (hget.symm.trans hget')
    rfl

private theorem get?_foldl_delete (keys : List (κ × α)) (t : Table κ α) (k : κ) :
    (keys.foldl (fun t row => t.delete row.1) t).get? k = if k ∈ keys.map Prod.fst then none else t.get? k := by
  induction keys generalizing t with
  | nil => simp
  | cons row keys ih =>
    rw [List.foldl_cons, ih, get?_delete]
    have hmem : k ∈ (row :: keys).map Prod.fst ↔ k = row.1 ∨ k ∈ keys.map Prod.fst := List.mem_cons
    by_cases hrest : k ∈ keys.map Prod.fst
    · rw [if_pos hrest, if_pos (hmem.mpr (.inr hrest))]
    · by_cases hfirst : k = row.1
      · rw [if_neg hrest, if_pos hfirst, if_pos (hmem.mpr (.inl hfirst))]
      · rw [if_neg hrest, if_neg hfirst, if_neg (mt hmem.mp (not_or.mpr ⟨hfirst, hrest⟩))]

theorem get?_deleteWhere_eq_some : (t.deleteWhere p).get? k = some r ↔ t.get? k = some r ∧ p k r = false := by
  have hmem : k ∈ (t.select p).map Prod.fst ↔ ∃ r, t.get? k = some r ∧ p k r = true := by
    rw [List.mem_map]
    constructor
    · rintro ⟨⟨k, r⟩, hrow, rfl⟩
      exact ⟨r, mem_select_iff.mp hrow⟩
    · rintro ⟨r, hrow⟩
      exact ⟨(k, r), mem_select_iff.mpr hrow, rfl⟩
  rw [deleteWhere, get?_foldl_delete]
  constructor
  · intro h
    split at h
    · cases h
    · next hnot =>
      exact ⟨h, Bool.eq_false_iff.mpr fun hp => hnot (hmem.mpr ⟨r, h, hp⟩)⟩
  · rintro ⟨hget, hp⟩
    rw [if_neg, hget]
    intro hin
    obtain ⟨other, hother, hp'⟩ := hmem.mp hin
    obtain rfl := Option.some.inj (hget.symm.trans hother)
    rw [hp] at hp'
    cases hp'

/-- Rows under fresh keys that nothing keeps apart are inserted one after the other. -/
theorem exists_foldlM_insertUnique {conflicts : α → α → Bool} (hfresh : ∀ row ∈ rows, t.get? row.1 = none)
    (hkeys : (rows.map Prod.fst).Nodup)
    (hfree : ∀ row ∈ rows, ∀ k r, t.get? k = some r → conflicts row.2 r = false)
    (hapart : rows.Pairwise fun row later => conflicts later.2 row.2 = false) :
    ∃ t', rows.foldlM (fun t row => t.insertUnique conflicts row.1 row.2) t = some t' := by
  induction rows generalizing t with
  | nil => exact ⟨t, rfl⟩
  | cons row rows ih =>
    obtain ⟨hrow, hrest⟩ := List.forall_mem_cons.mp hfresh
    obtain ⟨hrow_free, hrest_free⟩ := List.forall_mem_cons.mp hfree
    obtain ⟨hapart_row, hapart_rest⟩ := List.pairwise_cons.mp hapart
    rw [List.map_cons, List.nodup_cons] at hkeys
    have hinsert : t.insertUnique conflicts row.1 row.2 = some (t.set row.1 row.2) :=
      insertUnique_eq_some.mpr ⟨any_eq_false_iff.mpr fun k r hget => hrow_free k r hget, hrow, rfl⟩
    have hrest_fresh : ∀ later ∈ rows, (t.set row.1 row.2).get? later.1 = none := by
      intro later hlater
      have hne : later.1 ≠ row.1 := fun heq => hkeys.1 (heq ▸ List.mem_map_of_mem hlater)
      rw [get?_set_ne _ hne]
      exact hrest later hlater
    have hrest_free' : ∀ later ∈ rows, ∀ k r, (t.set row.1 row.2).get? k = some r → conflicts later.2 r = false := by
      intro later hlater k r hget
      rw [get?_set] at hget
      split at hget
      · obtain rfl := Option.some.inj hget
        exact hapart_row later hlater
      · exact hrest_free later hlater k r hget
    obtain ⟨t', ht'⟩ := ih hrest_fresh hkeys.2 hrest_free' hapart_rest
    exact ⟨t', by rw [List.foldlM_cons, hinsert]; exact ht'⟩

end Table

end Relational
