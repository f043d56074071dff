import Mathlib.Data.List.Forall2
import Mathlib.Data.List.AList

namespace OhMySubagents

universe u v

/-- `OperationFailureCode`: the classified reasons a runtime operation can fail with. -/
inductive OperationFailureCode
  | invalid_request_shape | local_admission_denied | authentication_failed | scope_mismatch
  | illegal_caller | illegal_target_relation | illegal_state | stale_dispatch
  | stale_team_revision | stale_assignment | name_collision | missing_resource
  | conflicting_continuation | cursor_reset_required | boundary_precondition_failed
  | capability_rejected | conflict | invalid_task_path | invalid_task_root | budget_exhausted
  | internal_error
  deriving DecidableEq, Repr

/-- `RuntimeOperationError`, with the fields a caller of the runtime can observe. -/
structure RuntimeOperationError where
  code : OperationFailureCode
  summary : String
  is_retryable : Bool := false
  deriving DecidableEq, Repr

def illegal_state_error (summary : String) : RuntimeOperationError :=
  { code := .illegal_state, summary }

def invalid_request_shape_error (summary : String) : RuntimeOperationError :=
  { code := .invalid_request_shape, summary }

def stale_assignment_error (summary : String) : RuntimeOperationError :=
  { code := .stale_assignment, summary, is_retryable := true }

def stale_team_revision_error (summary : String) : RuntimeOperationError :=
  { code := .stale_team_revision, summary, is_retryable := true }

def stale_dispatch_error (summary : String) : RuntimeOperationError :=
  { code := .stale_dispatch, summary }

def missing_resource_error (summary : String) : RuntimeOperationError :=
  { code := .missing_resource, summary }

def budget_exhausted_error (summary : String) : RuntimeOperationError :=
  { code := .budget_exhausted, summary }

def conflict_error (summary : String) : RuntimeOperationError :=
  { code := .conflict, summary }

/-- A `KeyError`, a failed `assert` or another programming error: the operation aborts. -/
def internal_error (summary : String) : RuntimeOperationError :=
  { code := .internal_error, summary }

/-- The database refused a row whose primary or unique key is already taken. -/
def integrity_error : RuntimeOperationError := internal_error "IntegrityError"

/-- Outcome of one runtime transaction. An error rolls the transaction back. -/
abbrev Result (α : Type u) := Except RuntimeOperationError α

/-- A result is a success exactly when its bound computations both succeed. -/
theorem bind_eq_ok_iff {ε : Type v} {α β : Type u} {x : Except ε α} {f : α → Except ε β} {b : β} :
    x >>= f = .ok b ↔ ∃ a, x = .ok a ∧ f a = .ok b := by
  cases x with
  | error e => simp [bind, Except.bind]
  | ok a => simp [bind, Except.bind]

theorem map_eq_ok_iff {α β : Type u} {x : Result α} {f : α → β} {b : β} :
    x.map f = .ok b ↔ ∃ a, x = .ok a ∧ f a = b := by
  cases x <;> simp [Except.map]

theorem mapError_eq_ok_iff {α : Type u} {x : Result α} {f : RuntimeOperationError → RuntimeOperationError} {a : α} :
    x.mapError f = .ok a ↔ x = .ok a := by
  cases x <;> simp [Except.mapError]

theorem toOption_eq_some_iff {α : Type u} {x : Result α} {a : α} : x.toOption = some a ↔ x = .ok a := by
  cases x <;> simp [Except.toOption]

/-- Abort with an error unless a condition holds. -/
def require (condition : Bool) (error : RuntimeOperationError) : Result Unit :=
  if condition then .ok () else .error error

theorem require_eq_ok_iff {condition : Bool} {error : RuntimeOperationError} {u : Unit} :
    require condition error = .ok u ↔ condition = true := by
  unfold require
  split <;> simp_all

/-- Give up quietly unless a condition holds: a transition that lost its race returns `False`. -/
def ensure (condition : Bool) : Option Unit :=
  if condition then some () else none

theorem ensure_eq_some_iff {condition : Bool} {u : Unit} : ensure condition = some u ↔ condition = true := by
  unfold ensure
  split <;> simp_all

/-- Read an optional value, aborting with an error when it is missing. -/
def require_some {α : Type u} (value : Option α) (error : RuntimeOperationError) : Result α :=
  match value with
  | some a => .ok a
  | none => .error error

theorem require_some_eq_ok_iff {α : Type u} {value : Option α} {error : RuntimeOperationError} {a : α} :
    require_some value error = .ok a ↔ value = some a := by
  cases value <;> simp [require_some]

/-- A loop that never looks at one part of its state gives the same result when that part differs. -/
theorem foldlM_map_state {α β : Type u} {f : β → α → Result β} {g : β → β}
    (h : ∀ b a, f (g b) a = (f b a).map g) (l : List α) (b : β) : l.foldlM f (g b) = (l.foldlM f b).map g := by
  induction l generalizing b with
  | nil => rfl
  | cons a l ih =>
    rw [List.foldlM_cons, List.foldlM_cons, h]
    cases f b a with
    | error e => rfl
    | ok b' => exact ih b'

/-- A loop succeeds where every iteration leaves what the next one needs. -/
theorem foldlM_ok {α β : Type u} {f : β → α → Result β} {P : List α → β → Prop}
    (hstep : ∀ b a rest, P (a :: rest) b → ∃ b', f b a = .ok b' ∧ P rest b') {l : List α} {b : β} (h : P l b) :
    ∃ b', l.foldlM f b = .ok b' ∧ P [] b' := by
  induction l generalizing b with
  | nil => exact ⟨b, rfl, h⟩
  | cons a rest ih =>
    obtain ⟨middle, hmiddle, hrest⟩ := hstep b a rest h
    obtain ⟨b', hfold, hend⟩ := ih hrest
    exact ⟨b', by rw [List.foldlM_cons, hmiddle]; exact hfold, hend⟩

/-- What every iteration keeps, the whole loop keeps. -/
theorem foldlM_invariant {α β : Type u} {f : β → α → Result β} {P : β → β → Prop} (hrefl : ∀ b, P b b)
    (hstep : ∀ b b' b'' a, P b b' → f b' a = .ok b'' → P b b'') {l : List α} {b b' : β}
    (h : l.foldlM f b = .ok b') : P b b' := by
  suffices ∀ (l : List α) (middle : β), P b middle → l.foldlM f middle = .ok b' → P b b' from
    this l b (hrefl b) h
  intro l
  induction l with
  | nil =>
    intro middle hmiddle h
    cases h
    exact hmiddle
  | cons a l ih =>
    intro middle hmiddle h
    rw [List.foldlM_cons, bind_eq_ok_iff] at h
    obtain ⟨next, hnext, hrest⟩ := h
    exact ih next (hstep b middle next a hmiddle hnext) hrest

/-- A loop over a list that may fail succeeds when it does on every element. -/
theorem mapM_ok_iff {ε α β : Type u} {f : α → Except ε β} {l : List α} {l' : List β} :
    l.mapM f = .ok l' ↔ List.Forall₂ (fun a b => f a = .ok b) l l' := by
  induction l generalizing l' with
  | nil => cases l' <;> simp [pure, Except.pure]
  | cons a l ih =>
    rw [List.mapM_cons]
    cases hhead : f a with
    | error e =>
      refine ⟨fun h => (by cases h), fun h => ?_⟩
      obtain ⟨b, -, hb, -⟩ := List.forall₂_cons_left_iff.mp h
      rw [hhead] at hb
      cases hb
    | ok b =>
      cases htail : l.mapM f with
      | error e =>
        refine ⟨fun h => (by cases h), fun h => ?_⟩
        obtain ⟨_, tail, -, hrest, -⟩ := List.forall₂_cons_left_iff.mp h
        rw [ih.mpr hrest] at htail
        cases htail
      | ok tail =>
        constructor
        · intro h
          obtain rfl : b :: tail = l' := Except.ok.inj h
          exact .cons hhead (ih.mp htail)
        · intro h
          obtain ⟨_, tail', hb, hrest, rfl⟩ := List.forall₂_cons_left_iff.mp h
          obtain rfl := Except.ok.inj (hhead.symm.trans hb)
          obtain rfl := Except.ok.inj (htail.symm.trans (ih.mpr hrest))
          rfl

theorem mapM_ok_mem {ε α β : Type u} {f : α → Except ε β} {l : List α} {l' : List β} (h : l.mapM f = .ok l') {b : β}
    (hb : b ∈ l') : ∃ a ∈ l, f a = .ok b := by
  induction mapM_ok_iff.mp h with
  | nil => cases hb
  | @cons a head l l' hhead htail ih =>
    rcases List.mem_cons.mp hb with rfl | hb
    · exact ⟨a, List.mem_cons_self, hhead⟩
    · obtain ⟨a', ha', hb'⟩ := ih (mapM_ok_iff.mpr htail) hb
      exact ⟨a', List.mem_cons_of_mem _ ha', hb'⟩

theorem mapM_ok_of_mem {ε α β : Type u} {f : α → Except ε β} {l : List α} {l' : List β} (h : l.mapM f = .ok l')
    {a : α} (ha : a ∈ l) : ∃ b ∈ l', f a = .ok b := by
  induction mapM_ok_iff.mp h with
  | nil => cases ha
  | @cons head b l l' hhead htail ih =>
    rcases List.mem_cons.mp ha with rfl | ha
    · exact ⟨b, List.mem_cons_self, hhead⟩
    · obtain ⟨b', hb', ha'⟩ := ih (mapM_ok_iff.mpr htail) ha
      exact ⟨b', List.mem_cons_of_mem _ hb', ha'⟩

theorem mapM_error_iff {ε α β : Type u} {f : α → Except ε β} {l : List α} :
    (∃ e, l.mapM f = .error e) ↔ ∃ a ∈ l, ∃ e, f a = .error e := by
  induction l with
  | nil => simp [pure, Except.pure]
  | cons a l ih =>
    rw [List.mapM_cons]
    cases hhead : f a with
    | error e => exact ⟨fun _ => ⟨a, List.mem_cons_self, e, hhead⟩, fun _ => ⟨e, rfl⟩⟩
    | ok b =>
      simp only [List.mem_cons, exists_eq_or_imp, hhead, reduceCtorEq, exists_false, false_or]
      rw [← ih]
      cases l.mapM f with
      | error e => exact ⟨fun _ => ⟨e, rfl⟩, fun _ => ⟨e, rfl⟩⟩
      | ok tail => exact ⟨fun ⟨_, h⟩ => (by cases h), fun ⟨_, h⟩ => (by cases h)⟩

theorem mapM_eq_some {α β : Type u} {f : α → Option β} {l : List α} {l' : List β} :
    l.mapM f = some l' ↔ List.Forall₂ (fun a b => f a = some b) l l' := by
  induction l generalizing l' with
  | nil => simp [eq_comm]
  | cons a l ih =>
    rw [List.mapM_cons, Option.bind_eq_bind, Option.bind_eq_some_iff]
    constructor
    · rintro ⟨b, hb, h⟩
      obtain ⟨rest, hrest, h⟩ := Option.bind_eq_some_iff.mp h
      obtain rfl := Option.some.inj h
      exact .cons hb (ih.mp hrest)
    · rintro (_ | ⟨hb, hrest⟩)
      exact ⟨_, hb, Option.bind_eq_some_iff.mpr ⟨_, ih.mpr hrest, rfl⟩⟩

theorem mem_of_mapM_eq_some {α β : Type u} {f : α → Option β} {l : List α} {l' : List β} (h : l.mapM f = some l')
    {b : β} (hb : b ∈ l') : ∃ a ∈ l, f a = some b := by
  induction mapM_eq_some.mp h with
  | nil => cases hb
  | cons hfirst hrest ih =>
    rcases List.mem_cons.mp hb with rfl | hb
    · exact ⟨_, List.mem_cons_self, hfirst⟩
    · obtain ⟨a, ha, hab⟩ := ih (mapM_eq_some.mpr hrest) hb
      exact ⟨a, List.mem_cons_of_mem _ ha, hab⟩

end OhMySubagents
