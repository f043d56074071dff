import OhMySubagents.DatabaseReset.TaskRootCleanup

open Filesystem

namespace OhMySubagents.DatabaseReset

/-! ### Workspace Tasks -/

def task_id_alphabet : List Char := "0123456789abcdefghjkmnpqrstvwxyz".toList

def is_task_id (name : String) : Bool :=
  name.length == 10 && ['t', '_'].isPrefixOf name.toList && (name.toList.drop 2).all task_id_alphabet.contains

def task_container_name : String := ".oms"

def legacy_task_container_name : String := ".banksia"

/-- The Task containers that a workspace may have: the current one and the one that a migration leaves. -/
def task_container_names : List String := [task_container_name, legacy_task_container_name]

/-- Whether a task root is that of a Task which some container of a workspace has accepted. -/
def is_accepted_task_root (containers : List String) (path : TaskRootPath) : Bool :=
  containers.contains path.parent_name && is_task_id path.name

/-- `_is_workspace_task_root`: only the current container counts. -/
def is_workspace_task_root (path : TaskRootPath) : Bool :=
  path.parent_name == ".oms" && is_task_id path.name

def reset_deletable_task_roots (task_roots : List TaskRootPath) : List TaskRootPath :=
  task_roots.filter fun path => !is_workspace_task_root path

/-! ### The reset -/

/-- What the reset reads of a database, whether its backup succeeds, and the database that it creates. -/
structure DatabaseBackend (δ : Type) where
  read_controller_task_roots : δ → List TaskRootPath
  can_back_up : δ → Bool
  seeded : δ

/-- What a reset works on. -/
structure Installation (α δ : Type) where
  files : FileTree α
  database : Option δ
  has_safe_database_files : Bool
  backups : List δ

inductive ResetError
  | unsafe_database_files
  | backup_failed
  | task_root (error : TaskRootError)
deriving DecidableEq, Repr

variable {α δ : Type}

namespace Installation

def task_roots (installation : Installation α δ) (backend : DatabaseBackend δ) : List TaskRootPath :=
  (installation.database.map backend.read_controller_task_roots).getD []

/-- A database that is not there needs no backup. -/
def can_be_backed_up (installation : Installation α δ) (backend : DatabaseBackend δ) : Bool :=
  installation.database.all backend.can_back_up

def backed_up (installation : Installation α δ) : Installation α δ :=
  { installation with backups := installation.database.toList ++ installation.backups }

end Installation

/-- The database is deleted and created again. -/
def replace_database (backend : DatabaseBackend δ) (installation : Installation α δ) : List (Installation α δ) :=
  [{ installation with database := none }, { installation with database := some backend.seeded }]

/-- `reset_database`: what the installation is after each of its effects, and the number of deleted roots. -/
def reset_database (nesting : Nat) (backend : DatabaseBackend δ) (boundary : Path) (installation : Installation α δ) :
    List (Installation α δ) × Except ResetError Nat :=
  if !installation.has_safe_database_files then ([], .error .unsafe_database_files)
  else if !installation.can_be_backed_up backend then ([], .error .backup_failed)
  else
    let backed_up := installation.backed_up
    match retain_task_roots installation.files boundary
        (reset_deletable_task_roots (installation.task_roots backend)) with
    | .error e => ([backed_up], .error (.task_root (.unsafe_task_root e)))
    | .ok roots =>
      let (trees, result) := remove_retained_trees nesting roots installation.files
      let cleaned := trees.map fun files => { backed_up with files }
      match result with
      | .error e => (backed_up :: cleaned, .error (.task_root e))
      | .ok () =>
        (backed_up :: cleaned ++ replace_database backend (cleaned.getLast?.getD backed_up), .ok roots.length)

/-! ### What a reset is for -/

section
variable (nesting : Nat) (backend : DatabaseBackend δ) (boundary : Path) (installation : Installation α δ)

/-- The task roots of the database that belong to no accepted workspace Task. -/
def controller_task_roots : List TaskRootPath :=
  (installation.task_roots backend).filter fun path => !is_accepted_task_root task_container_names path

/-- The controller roots that are there. -/
def existing_controller_roots : Finset Path :=
  ((controller_task_roots backend installation).map fun path => abspath path.parts).toFinset.filter
    fun path => installation.files.is_directory path

/-- The database files are unsafe, or the database cannot be backed up. -/
def Unprepared : Prop :=
  installation.has_safe_database_files = false ∨ installation.can_be_backed_up backend = false

/-- A reset deletes the controller roots and nothing else. -/
structure DeletesControllerRoots : Prop where
  spared : ∀ path ∈ installation.task_roots backend, path.is_absolute →
    is_accepted_task_root task_container_names path → installation.files.is_directory (abspath path.parts) →
    ∀ state ∈ (reset_database nesting backend boundary installation).1, state.files.is_directory (abspath path.parts)
  refused : (∃ e, (reset_database nesting backend boundary installation).2 = .error e) ↔
    Unprepared backend installation ∨
      ∃ path ∈ controller_task_roots backend installation, Refused installation.files boundary path
  untouched : ∀ e, (reset_database nesting backend boundary installation).2 = .error e →
    ∀ state ∈ (reset_database nesting backend boundary installation).1,
      state.files = installation.files ∧ state.database = installation.database
  deleted : ∀ n, (reset_database nesting backend boundary installation).2 = .ok n →
    n = (existing_controller_roots backend installation).card ∧
      ∃ last, (reset_database nesting backend boundary installation).1.getLast? = some last ∧
        last.database = some backend.seeded ∧ ∀ path, last.files.entry path =
          if ∃ root ∈ existing_controller_roots backend installation, root <+: path then none
          else installation.files.entry path
  backed_up : ∀ state ∈ (reset_database nesting backend boundary installation).1,
    ∀ database ∈ installation.database, database ∈ state.backups

/-- What a legacy container and a nested workspace can spoil: the roots of accepted Tasks that the reset takes for
    those of the controller, and the ones that lie in a controller root. -/
structure Separate : Prop where
  legacy : ∀ path ∈ installation.task_roots backend, is_accepted_task_root [legacy_task_container_name] path →
    ¬ Refused installation.files boundary path ∧ ¬ installation.files.is_directory (abspath path.parts)
  nested : ∀ path ∈ installation.task_roots backend, path.is_absolute →
    is_accepted_task_root task_container_names path → installation.files.is_directory (abspath path.parts) →
    ∀ root ∈ existing_controller_roots backend installation, ¬ root <+: abspath path.parts

end

/-! ### The reset and its condition -/

variable {nesting : Nat} {backend : DatabaseBackend δ} {boundary : Path} {installation : Installation α δ}
  {path : TaskRootPath}

theorem is_accepted_task_root_iff : is_accepted_task_root task_container_names path =
    (is_workspace_task_root path || is_accepted_task_root [legacy_task_container_name] path) := by
  simp only [is_accepted_task_root, is_workspace_task_root, task_container_names, task_container_name,
    List.contains_cons, List.contains_nil, Bool.or_false, Bool.and_or_distrib_right]

/-- The roots that the reset takes for those of the controller. -/
theorem mem_reset_deletable_task_roots : path ∈ reset_deletable_task_roots (installation.task_roots backend) ↔
    path ∈ controller_task_roots backend installation ∨
      path ∈ installation.task_roots backend ∧ is_workspace_task_root path = false ∧
        is_accepted_task_root [legacy_task_container_name] path := by
  simp only [reset_deletable_task_roots, controller_task_roots, List.mem_filter, is_accepted_task_root_iff]
  cases is_workspace_task_root path <;> cases is_accepted_task_root [legacy_task_container_name] path <;> simp

/-- A legacy root is no current one. -/
theorem not_workspace_of_legacy (h : is_accepted_task_root [legacy_task_container_name] path) :
    is_workspace_task_root path = false := by
  simp only [is_accepted_task_root, legacy_task_container_name, List.contains_cons, List.contains_nil, Bool.or_false,
    Bool.and_eq_true, beq_iff_eq] at h
  simp [is_workspace_task_root, h.1]

/-- The roots that a reset holds open and deletes. -/
structure ResetDone (nesting : Nat) (backend : DatabaseBackend δ) (boundary : Path) (installation : Installation α δ)
    (roots : List Path) : Prop where
  prepared : ¬ Unprepared backend installation
  open_roots : ∀ path ∈ reset_deletable_task_roots (installation.task_roots backend),
    ¬ Refused installation.files boundary path
  retained : Retained installation.files (reset_deletable_task_roots (installation.task_roots backend)) roots
  removed : (remove_retained_trees nesting roots installation.files).2 = .ok ()
  run : reset_database nesting backend boundary installation =
    (installation.backed_up :: (remove_retained_trees nesting roots installation.files).1.map
        (fun files => { installation.backed_up with files }) ++
      replace_database backend { installation.backed_up with
        files := (remove_retained_trees nesting roots).last installation.files },
      .ok roots.length)

theorem reset_database_of_removed {roots : List Path} (hprepared : ¬ Unprepared backend installation)
    (hroots : retain_task_roots installation.files boundary
      (reset_deletable_task_roots (installation.task_roots backend)) = .ok roots)
    (hremoved : (remove_retained_trees nesting roots installation.files).2 = .ok ()) :
    reset_database nesting backend boundary installation =
      (installation.backed_up :: (remove_retained_trees nesting roots installation.files).1.map
          (fun files => { installation.backed_up with files }) ++
        replace_database backend { installation.backed_up with
          files := (remove_retained_trees nesting roots).last installation.files },
        .ok roots.length) := by
  have hlast : (((remove_retained_trees nesting roots installation.files).1.map
      fun files => { installation.backed_up with files }).getLast?.getD installation.backed_up) =
      { installation.backed_up with files := (remove_retained_trees nesting roots).last installation.files } := by
    rw [Effects.last, List.getLast?_map]
    cases (remove_retained_trees nesting roots installation.files).1.getLast? <;> rfl
  obtain ⟨hsafe, hbackup⟩ := not_or.mp hprepared
  rw [Bool.not_eq_false] at hsafe hbackup
  simp only [reset_database, hsafe, hbackup, Bool.not_true, Bool.false_eq_true, if_false, hroots, hremoved, hlast]

theorem reset_database_cases (nesting : Nat) (backend : DatabaseBackend δ) (boundary : Path)
    (installation : Installation α δ) :
    Unprepared backend installation ∧ (∃ e, reset_database nesting backend boundary installation = ([], .error e)) ∨
      (∃ path ∈ reset_deletable_task_roots (installation.task_roots backend),
        Refused installation.files boundary path) ∧
        (∃ e, reset_database nesting backend boundary installation = ([installation.backed_up], .error e)) ∨
      (∃ roots, Retained installation.files (reset_deletable_task_roots (installation.task_roots backend)) roots ∧
        ¬ FileTree.Shallow nesting installation.files {root | root ∈ roots} ∧
        (∀ path ∈ reset_deletable_task_roots (installation.task_roots backend),
          ¬ Refused installation.files boundary path) ∧ ¬ Unprepared backend installation ∧
        ∃ e, (reset_database nesting backend boundary installation).2 = .error e) ∨
      ∃ roots, ResetDone nesting backend boundary installation roots := by
  by_cases hprepared : Unprepared backend installation
  · refine .inl ⟨hprepared, ?_⟩
    unfold reset_database
    by_cases hsafe : installation.has_safe_database_files = true
    · have hbackup := hprepared.resolve_left (by simp [hsafe])
      exact ⟨.backup_failed, by simp [hsafe, hbackup]⟩
    · exact ⟨.unsafe_database_files, by simp [hsafe]⟩
  · refine .inr ?_
    obtain ⟨hsafe, hbackup⟩ := not_or.mp hprepared
    rw [Bool.not_eq_false] at hsafe hbackup
    obtain ⟨⟨e, herror⟩, hrefused⟩ | ⟨roots, hroots, hopen, hretained⟩ := retain_task_roots_cases installation.files
      boundary (reset_deletable_task_roots (installation.task_roots backend))
    · exact .inl ⟨hrefused, _, by simp [reset_database, hsafe, hbackup, herror]; rfl⟩
    · have hremoved := remove_retained_trees_success nesting (fun root hroot => ((hretained.mem root).mp hroot).2)
        hretained.nodup hretained.deepest_first
      refine .inr ?_
      cases hresult : (remove_retained_trees nesting roots installation.files).2 with
      | error e =>
        refine .inl ⟨roots, hretained, fun hshallow => ?_, hopen, hprepared, .task_root e, ?_⟩
        · rw [hremoved.1.mpr hshallow] at hresult
          cases hresult
        · simp [reset_database, hsafe, hbackup, hroots, hresult]
      | ok u =>
        exact .inr ⟨roots, hprepared, hopen, hretained, hresult, reset_database_of_removed hprepared hroots hresult⟩

/-- Nothing is left below a deleted root, and the rest is as it was. -/
theorem ResetDone.entry_last {roots : List Path} (h : ResetDone nesting backend boundary installation roots)
    (path : Path) :
    ((remove_retained_trees nesting roots).last installation.files).entry path =
      if ∃ root ∈ roots, root <+: path then none else installation.files.entry path :=
  (remove_retained_trees_success nesting (fun root hroot => ((h.retained.mem root).mp hroot).2) h.retained.nodup
    h.retained.deepest_first).2 h.removed path

/-- What lies below none of the roots stays as it is, and the backup stays. -/
theorem ResetDone.state {roots : List Path} {state : Installation α δ}
    (h : ResetDone nesting backend boundary installation roots)
    (hstate : state ∈ (reset_database nesting backend boundary installation).1) :
    (∀ path, (∀ root ∈ roots, ¬ root <+: path) → state.files.entry path = installation.files.entry path) ∧
      ∀ database ∈ installation.database, database ∈ state.backups := by
  have hbackup : ∀ database ∈ installation.database, database ∈ installation.backed_up.backups :=
    fun database hdatabase => List.mem_append_left _ (Option.mem_toList.mpr hdatabase)
  have hlast : ∀ path, (∀ root ∈ roots, ¬ root <+: path) →
      ((remove_retained_trees nesting roots).last installation.files).entry path = installation.files.entry path := by
    intro path hspared
    rw [h.entry_last, if_neg (by simpa using hspared)]
  rw [h.run] at hstate
  rcases List.mem_append.mp hstate with hstate | hstate
  · rcases List.mem_cons.mp hstate with rfl | hstate
    · exact ⟨fun _ _ => rfl, hbackup⟩
    · obtain ⟨tree, htree, rfl⟩ := List.mem_map.mp hstate
      exact ⟨fun path hspared => remove_retained_trees_spares htree hspared, hbackup⟩
  · simp only [replace_database, List.mem_cons, List.not_mem_nil, or_false] at hstate
    rcases hstate with rfl | rfl
    · exact ⟨hlast, hbackup⟩
    · exact ⟨hlast, hbackup⟩

theorem ResetDone.last {roots : List Path} (h : ResetDone nesting backend boundary installation roots) :
    ∃ last, (reset_database nesting backend boundary installation).1.getLast? = some last ∧
      last.database = some backend.seeded ∧ ∀ path, last.files.entry path =
        if ∃ root ∈ roots, root <+: path then none else installation.files.entry path := by
  rw [h.run, List.getLast?_append]
  exact ⟨_, rfl, rfl, h.entry_last⟩

/-- The roots that a reset holds open are those of the controller when no legacy Task has a directory. -/
theorem Retained.eq_controller_roots {roots : List Path}
    (h : Retained installation.files (reset_deletable_task_roots (installation.task_roots backend)) roots)
    (hlegacy : ∀ path ∈ installation.task_roots backend, is_accepted_task_root [legacy_task_container_name] path →
      ¬ installation.files.is_directory (abspath path.parts)) :
    roots.toFinset = existing_controller_roots backend installation := by
  ext path
  simp only [List.mem_toFinset, existing_controller_roots, Finset.mem_filter, List.mem_map, h.mem]
  constructor
  · rintro ⟨⟨task_root, hmem, rfl⟩, hdirectory⟩
    rcases mem_reset_deletable_task_roots.mp hmem with hmem | ⟨hmem, -, haccepted⟩
    · exact ⟨⟨task_root, hmem, rfl⟩, hdirectory⟩
    · exact (hlegacy task_root hmem haccepted hdirectory).elim
  · rintro ⟨⟨task_root, hmem, rfl⟩, hdirectory⟩
    exact ⟨⟨task_root, mem_reset_deletable_task_roots.mpr (.inl hmem), rfl⟩, hdirectory⟩

/-- A reset that is refused for its own reasons deletes nothing. -/
theorem DeletesControllerRoots.of_refused {states : List (Installation α δ)} {e : ResetError}
    (hrun : reset_database nesting backend boundary installation = (states, .error e))
    (hreason : Unprepared backend installation ∨
      ∃ path ∈ controller_task_roots backend installation, Refused installation.files boundary path)
    (hstates : ∀ state ∈ states, state.files = installation.files ∧ state.database = installation.database ∧
      ∀ database ∈ installation.database, database ∈ state.backups) :
    DeletesControllerRoots nesting backend boundary installation where
  spared path _ _ _ hdirectory state hstate := by
    rw [hrun] at hstate
    rwa [(hstates state hstate).1]
  refused := ⟨fun _ => hreason, fun _ => ⟨e, by rw [hrun]⟩⟩
  untouched _ _ state hstate := by
    rw [hrun] at hstate
    exact ⟨(hstates state hstate).1, (hstates state hstate).2.1⟩
  deleted n hn := by
    rw [hrun] at hn
    cases hn
  backed_up state hstate := by
    rw [hrun] at hstate
    exact (hstates state hstate).2.2

/-- A reset that deletes what it should spares the accepted Tasks, which no deleted root is or is above. -/
theorem DeletesControllerRoots.separate {roots : List Path}
    (h : DeletesControllerRoots nesting backend boundary installation)
    (hdone : ResetDone nesting backend boundary installation roots) : Separate backend boundary installation := by
  obtain ⟨last, hlast, -, hentry⟩ := hdone.last
  have hmem := List.mem_of_getLast? hlast
  -- the last state has nothing below a deleted root, so no accepted Task has its directory there
  have hkept : ∀ path ∈ installation.task_roots backend, path.is_absolute →
      is_accepted_task_root task_container_names path → installation.files.is_directory (abspath path.parts) →
      ∀ root ∈ roots, ¬ root <+: abspath path.parts := by
    intro path hpath habsolute haccepted hdirectory root hroot hbelow
    have hspared := FileTree.is_directory_iff.mp (h.spared path hpath habsolute haccepted hdirectory last hmem)
    rw [hentry, if_pos ⟨root, hroot, hbelow⟩] at hspared
    cases hspared
  refine ⟨fun path hpath haccepted => ?_, fun path hpath habsolute haccepted hdirectory root hroot => ?_⟩
  · have hdeletable := mem_reset_deletable_task_roots.mpr (.inr ⟨hpath, not_workspace_of_legacy haccepted, haccepted⟩)
    have hopen := hdone.open_roots path hdeletable
    refine ⟨hopen, fun hdirectory => ?_⟩
    have habsolute : path.is_absolute = true := by
      by_contra hrelative
      exact hopen (.inl (by simpa using hrelative))
    exact hkept path hpath habsolute (by simp [is_accepted_task_root_iff, haccepted]) hdirectory _
      ((hdone.retained.mem _).mpr ⟨⟨path, hdeletable, rfl⟩, hdirectory⟩) (List.prefix_refl _)
  · obtain ⟨hroot, hthere⟩ := Finset.mem_filter.mp hroot
    obtain ⟨task_root, htask_root, rfl⟩ := List.mem_map.mp (List.mem_toFinset.mp hroot)
    exact hkept path hpath habsolute haccepted hdirectory _ ((hdone.retained.mem _).mpr
      ⟨⟨task_root, mem_reset_deletable_task_roots.mpr (.inl htask_root), rfl⟩, hthere⟩)

/-- A reset that is done deletes the controller roots when no accepted Task is mistaken for one or lies in one. -/
theorem ResetDone.deletes {roots : List Path} (hdone : ResetDone nesting backend boundary installation roots)
    (hseparate : Separate backend boundary installation) :
    DeletesControllerRoots nesting backend boundary installation := by
  have hroots := hdone.retained.eq_controller_roots fun path hpath haccepted =>
    (hseparate.legacy path hpath haccepted).2
  refine ⟨fun path hpath habsolute haccepted hdirectory state hstate => ?_, ⟨fun ⟨e, herror⟩ => ?_, ?_⟩,
    fun e herror => ?_, fun n hn => ?_, fun state hstate => (hdone.state hstate).2⟩
  · have hnested := hseparate.nested path hpath habsolute haccepted hdirectory
    rw [FileTree.is_directory_iff] at hdirectory ⊢
    rw [(hdone.state hstate).1 _ fun root hroot => hnested root (hroots ▸ List.mem_toFinset.mpr hroot), hdirectory]
  · rw [hdone.run] at herror
    cases herror
  · rintro (hunprepared | ⟨path, hpath, hrefused⟩)
    · exact (hdone.prepared hunprepared).elim
    · exact (hdone.open_roots path (mem_reset_deletable_task_roots.mpr (.inl hpath)) hrefused).elim
  · rw [hdone.run] at herror
    cases herror
  · obtain ⟨last, hlast, hdatabase, hentry⟩ := hdone.last
    refine ⟨?_, last, hlast, hdatabase, fun path => ?_⟩
    · rw [hdone.run] at hn
      rw [← hroots, List.toFinset_card_of_nodup hdone.retained.nodup]
      exact (Except.ok.inj hn).symm
    · rw [hentry, ← hroots]
      simp only [List.mem_toFinset]

/-- A reset deletes the controller roots and nothing else exactly when it is refused for one of them or for the
    database, or when no accepted Task is mistaken for one or lies in one and nothing below one is nested too deep. -/
theorem reset_database_deletes_controller_roots_iff (nesting : Nat) (backend : DatabaseBackend δ) (boundary : Path)
    (installation : Installation α δ) :
    DeletesControllerRoots nesting backend boundary installation ↔
      Unprepared backend installation ∨
        (∃ path ∈ controller_task_roots backend installation, Refused installation.files boundary path) ∨
        Separate backend boundary installation ∧
          FileTree.Shallow nesting installation.files ↑(existing_controller_roots backend installation) := by
  have hfound : ∀ roots, Retained installation.files
    (reset_deletable_task_roots (installation.task_roots backend)) roots → Separate backend boundary installation →
      {root | root ∈ roots} = (↑(existing_controller_roots backend installation) : Set Path) := by
    intro roots hretained hseparate
    rw [← hretained.eq_controller_roots fun path hpath haccepted => (hseparate.legacy path hpath haccepted).2,
      List.coe_toFinset]
  constructor
  · intro h
    by_cases hrefused : Unprepared backend installation ∨
        ∃ path ∈ controller_task_roots backend installation, Refused installation.files boundary path
    · exact hrefused.imp_right .inl
    · obtain ⟨hunprepared, -⟩ | ⟨-, e, herror⟩ | ⟨roots, -, -, -, -, e, herror⟩ | ⟨roots, hdone⟩ :=
        reset_database_cases nesting backend boundary installation
      · exact .inl hunprepared
      · exact (hrefused (h.refused.mp ⟨e, by rw [herror]⟩)).elim
      · exact (hrefused (h.refused.mp ⟨e, herror⟩)).elim
      · have hseparate := h.separate hdone
        have hremoved := remove_retained_trees_success nesting
          (fun root hroot => ((hdone.retained.mem root).mp hroot).2)
          hdone.retained.nodup hdone.retained.deepest_first
        exact .inr (.inr ⟨hseparate, hfound roots hdone.retained hseparate ▸ hremoved.1.mp hdone.removed⟩)
  · intro hcondition
    obtain ⟨hunprepared, e, hrun⟩ | ⟨hrefused, e, hrun⟩ | ⟨roots, hretained, hdeep, hopen, hprepared, -⟩ |
      ⟨roots, hdone⟩ := reset_database_cases nesting backend boundary installation
    · exact .of_refused hrun (.inl hunprepared) fun state hstate => (List.not_mem_nil hstate).elim
    · refine .of_refused hrun ?_ fun state hstate => ?_
      · rcases hcondition with hunprepared | hcontroller | ⟨hseparate, -⟩
        · exact .inl hunprepared
        · exact .inr hcontroller
        · obtain ⟨path, hpath, hrefused⟩ := hrefused
          rcases mem_reset_deletable_task_roots.mp hpath with hpath | ⟨hpath, -, haccepted⟩
          · exact .inr ⟨path, hpath, hrefused⟩
          · exact ((hseparate.legacy path hpath haccepted).1 hrefused).elim
      · obtain rfl := List.mem_singleton.mp hstate
        exact ⟨rfl, rfl, fun database hdatabase => List.mem_append_left _ (Option.mem_toList.mpr hdatabase)⟩
    · rcases hcondition with hunprepared | ⟨path, hpath, hrefused⟩ | ⟨hseparate, hshallow⟩
      · exact (hprepared hunprepared).elim
      · exact (hopen path (mem_reset_deletable_task_roots.mpr (.inl hpath)) hrefused).elim
      · exact (hdeep (hfound roots hretained hseparate ▸ hshallow)).elim
    · rcases hcondition with hunprepared | ⟨path, hpath, hrefused⟩ | ⟨hseparate, -⟩
      · exact (hdone.prepared hunprepared).elim
      · exact (hdone.open_roots path (mem_reset_deletable_task_roots.mpr (.inl hpath)) hrefused).elim
      · exact hdone.deletes hseparate

/-! ### A migrated Task -/

/-- A Task that a migration has left in the legacy container of its workspace. -/
def migrated_task_root : TaskRootPath := ⟨true, ["work", ".banksia", "t_01234567"]⟩

theorem migrated_task_root_accepted : is_accepted_task_root task_container_names migrated_task_root = true := by
  decide +kernel

/-- A database with one migrated Task, and no directory. -/
def migrated_installation : Installation Unit (List TaskRootPath) where
  files := ⟨fun _ => none, fun _ => [], nofun, fun _ _ => by simp, fun _ => List.nodup_nil⟩
  database := some [migrated_task_root]
  has_safe_database_files := true
  backups := []

/-- The reset of a database with a migrated Task is refused, though its root belongs to no controller. -/
theorem reset_database_refuses_migrated_task :
    ¬ DeletesControllerRoots 400 ⟨id, fun _ => true, []⟩ ["data"] migrated_installation := by
  intro h
  obtain (hsafe | hbackup) | ⟨path, hpath, -⟩ := h.refused.mp ⟨_, rfl⟩
  · cases hsafe
  · cases hbackup
  · obtain ⟨hpath, haccepted⟩ := List.mem_filter.mp hpath
    obtain rfl := List.mem_singleton.mp hpath
    simp [migrated_task_root_accepted] at haccepted

end OhMySubagents.DatabaseReset
