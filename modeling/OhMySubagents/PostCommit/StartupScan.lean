import OhMySubagents.PostCommit.StartupAudit

open Relational

namespace OhMySubagents

namespace PostCommit

variable {timeout : Nat} {task_id task_id' : TaskId} {db db' : TaskDb} {family family' : String} {k k' : Nat}
  {signal : RuntimeEffectSignal}

/-! # What an audit reads -/

section Audit

variable {database : ControllerDb} {query : StartupRows}

theorem ControllerDb.mem_rows {row : Nat × AuditResult RuntimeEffectSignal} :
    row ∈ database.rows query ↔ ∃ task_id db, database.tasks.get? task_id = some db ∧ row ∈ query task_id db := by
  unfold rows
  rw [List.mem_flatMap]
  constructor
  · rintro ⟨⟨task_id, db⟩, htask, hrow⟩
    exact ⟨task_id, db, (Table.mem_select_iff.mp htask).1, hrow⟩
  · rintro ⟨task_id, db, htask, hrow⟩
    exact ⟨(task_id, db), Table.mem_select_iff.mpr ⟨htask, rfl⟩, hrow⟩

private theorem rows_keys_nodup_of {has : TaskId → TaskDb → Nat → Prop}
    (hkeys : ∀ task_id db, ((query task_id db).map Prod.fst).Nodup)
    (hhas : ∀ task_id db row, row ∈ query task_id db → has task_id db row.1)
    (hone : ∀ t t' db db' k, database.tasks.get? t = some db → database.tasks.get? t' = some db' → has t db k →
      has t' db' k → t = t') : ((database.rows query).map Prod.fst).Nodup := by
  unfold ControllerDb.rows
  rw [List.map_flatMap, List.nodup_flatMap]
  refine ⟨fun task _ => hkeys task.1 task.2, ?_⟩
  have htasks := List.pairwise_map.mp (Table.select_keys_nodup database.tasks fun _ _ => true)
  refine htasks.imp_of_mem fun {task other} htask hother hne k hk hk' => hne ?_
  obtain ⟨row, hrow, rfl⟩ := List.mem_map.mp hk
  obtain ⟨row', hrow', hsame⟩ := List.mem_map.mp hk'
  exact hone _ _ _ _ row.1 (Table.mem_select_iff.mp htask).1 (Table.mem_select_iff.mp hother).1
    (hhas _ _ row hrow) (hsame ▸ hhas _ _ row' hrow')

private theorem selected_rows_keys_nodup {α : Type} {table : TaskDb → Table Nat α} {p : TaskDb → Nat → α → Bool}
    {build : Nat × α → AuditResult RuntimeEffectSignal}
    (hone : OneTask database.tasks fun db k => ((table db).get? k).isSome) :
    ((database.rows fun _ db => ((table db).select (p db)).map fun row => (row.1, build row)).map Prod.fst).Nodup := by
  refine @rows_keys_nodup_of database _ (fun _ db k => ((table db).get? k).isSome = true) (fun _ db => ?_)
    (fun _ db row hrow => ?_) hone
  · rw [List.map_map]
    exact Table.select_keys_nodup (table db) (p db)
  · obtain ⟨r, hget, -, -⟩ := mem_selected_rows.mp hrow
    exact Option.isSome_of_eq_some hget

/-- No two rows of a family have the same key. -/
theorem startup_rows_keys_nodup (database : ControllerDb) (h : (family, query) ∈ startup_runtime_families timeout) :
    ((database.rows query).map Prod.fst).Nodup := by
  simp only [startup_runtime_families, List.mem_cons, Prod.mk.injEq, List.not_mem_nil, or_false] at h
  rcases h with ⟨-, rfl⟩ | ⟨-, rfl⟩ | ⟨-, rfl⟩ | ⟨-, rfl⟩ | ⟨-, rfl⟩ | ⟨-, rfl⟩ | ⟨-, rfl⟩ | ⟨-, rfl⟩ |
    ⟨-, rfl⟩ | ⟨-, rfl⟩ | ⟨-, rfl⟩ | ⟨-, rfl⟩
  · refine @rows_keys_nodup_of database _ (fun task_id _ k => k = task_id) (fun task_id db => ?_)
      (fun task_id db row hrow => ?_) fun _ _ _ _ _ _ _ hk hk' => hk.symm.trans hk'
    all_goals unfold task_start_rows at *
    · split <;> simp
    · split at hrow
      · cases List.mem_singleton.mp hrow
        rfl
      · cases hrow
  · exact selected_rows_keys_nodup database.delegation_waves
  · exact selected_rows_keys_nodup database.delegation_waves
  · exact selected_rows_keys_nodup database.replan_transitions
  · exact selected_rows_keys_nodup database.human_requests
  · exact selected_rows_keys_nodup database.human_requests
  · exact selected_rows_keys_nodup database.command_runs
  · exact selected_rows_keys_nodup database.command_runs
  · exact selected_rows_keys_nodup database.command_runs
  · exact selected_rows_keys_nodup database.command_runs
  · exact selected_rows_keys_nodup database.dispatches
  · exact selected_rows_keys_nodup database.dispatches

/-- One Task alone has the source of a signal. -/
theorem ControllerDb.one_lane (h : database.tasks.get? task_id = some db) (h' : database.tasks.get? task_id' = some db')
    (hlane : (signal.lane task_id db).isSome = true) (hlane' : (signal.lane task_id' db').isSome = true) :
    task_id = task_id' := by
  cases signal <;> simp only [RuntimeEffectSignal.lane, Option.isSome_map] at hlane hlane'
  · grind
  · exact database.delegation_waves _ _ _ _ _ h h' hlane hlane'
  · exact database.delegation_waves _ _ _ _ _ h h' hlane hlane'
  · exact database.replan_transitions _ _ _ _ _ h h' hlane hlane'
  · exact database.human_requests _ _ _ _ _ h h' hlane hlane'
  · exact database.human_requests _ _ _ _ _ h h' hlane hlane'
  · exact database.command_runs _ _ _ _ _ h h' hlane hlane'
  · exact database.command_runs _ _ _ _ _ h h' hlane hlane'
  · exact database.command_runs _ _ _ _ _ h h' hlane hlane'
  · exact database.dispatches _ _ _ _ _ h h' hlane hlane'
  · exact database.dispatches _ _ _ _ _ h h' hlane hlane'

/-- The sources that one family routes, each read from some page. -/
def FamilyScanned (query : StartupRows) (reads : Nat → ControllerDb) (sources : List RuntimeEffectSignal) : Prop :=
  ∃ output, KeysetScan Prod.fst STARTUP_AUDIT_PAGE_SIZE (fun page => (reads page).rows query) 0 none output ∧
    output.map Prod.snd = sources.map .ok

theorem read_startup_page_success {cursor : Option Nat} {size : Nat} {page : StartupAuditPage}
    (h : read_startup_page query database cursor size = .ok page) :
    (keysetPage Prod.fst cursor size (database.rows query)).map Prod.snd = page.sources.map .ok ∧
      page.next_cursor = nextCursor Prod.fst size (keysetPage Prod.fst cursor size (database.rows query)) := by
  unfold read_startup_page at h
  obtain ⟨sources, hsources, h⟩ := bind_eq_ok_iff.mp h
  cases h
  refine ⟨?_, rfl⟩
  rw [← List.forall₂_eq_eq_eq, List.forall₂_map_left_iff, List.forall₂_map_right_iff]
  exact mapM_ok_iff.mp hsources

theorem audit_startup_source_family_success {σ : Type} {reads : Nat → ControllerDb}
    {route_source : σ → RuntimeEffectSignal → AuditResult σ} {size remaining pages_read sources_routed count : Nat}
    {cursor : Option Nat} {state state' : σ}
    (h : audit_startup_source_family family size (fun page => read_startup_page query (reads page))
      route_source remaining
      pages_read sources_routed cursor state = .ok (count, state')) :
    ∃ (output : List (Nat × AuditResult RuntimeEffectSignal)) (sources : List RuntimeEffectSignal),
      KeysetScan Prod.fst size (fun page => (reads page).rows query) pages_read cursor output ∧
      output.map Prod.snd = sources.map .ok ∧ sources.foldlM route_source state = .ok state' := by
  induction remaining generalizing pages_read sources_routed cursor state with
  | zero =>
    unfold audit_startup_source_family at h
    obtain ⟨_, -, h⟩ := bind_eq_ok_iff.mp h
    cases h
  | succ remaining ih =>
    unfold audit_startup_source_family at h
    simp only [bind_eq_ok_iff] at h
    obtain ⟨page, hpage, _, -, middle, hroute, h⟩ := h
    obtain ⟨hsources, hnext⟩ := read_startup_page_success hpage
    cases hcursor : page.next_cursor with
    | none =>
      rw [hcursor] at h hnext
      cases h
      exact ⟨_, page.sources, .last hnext.symm, hsources, hroute⟩
    | some next =>
      rw [hcursor] at h hnext
      obtain ⟨rest, sources, hscan, hrest, hfold⟩ := ih h
      refine ⟨_, page.sources ++ sources, .more hnext.symm hscan, ?_, ?_⟩
      · rw [List.map_append, List.map_append, hsources, hrest]
      · rw [List.foldlM_append, hroute]
        exact hfold

/-- Every signal type has a real handler. -/
theorem signal_type_routed (signal : RuntimeEffectSignal) :
    signal.signal_type ∈ RUNTIME_STARTUP_ROUTED_SIGNAL_TYPES := by
  cases signal <;> simp [RuntimeEffectSignal.signal_type, RUNTIME_STARTUP_ROUTED_SIGNAL_TYPES]

theorem route_startup_signals_success {publish : List RuntimeEffectSignal → RuntimeEffectSignal → Bool}
    {sources : List RuntimeEffectSignal} {routing routing' : StartupRouting}
    (h : sources.foldlM (route_startup_signal publish RUNTIME_STARTUP_ROUTED_SIGNAL_TYPES) routing = .ok routing') :
    routing'.published = routing.published ++ sources := by
  induction sources generalizing routing with
  | nil =>
    cases h
    exact (List.append_nil _).symm
  | cons source sources ih =>
    rw [List.foldlM_cons] at h
    obtain ⟨middle, hroute, hrest⟩ := bind_eq_ok_iff.mp h
    unfold route_startup_signal at hroute
    rw [if_neg (not_not.mpr (signal_type_routed source))] at hroute
    split at hroute
    · cases hroute
      rw [ih hrest, List.append_assoc]
      rfl
    · cases hroute

private theorem foldlM_collects {α β : Type} {step : β → α → AuditResult β} {name : α → String}
    {published : β → List RuntimeEffectSignal} {R : α → List RuntimeEffectSignal → Prop}
    (hstep : ∀ b a b', step b a = .ok b' → ∃ sources, published b' = published b ++ sources ∧ R a sources)
    {families : List α} (hnames : (families.map name).Nodup) {b b' : β} (h : families.foldlM step b = .ok b') :
    ∃ found : String → List RuntimeEffectSignal,
      published b' = published b ++ families.flatMap (fun a => found (name a)) ∧ ∀ a ∈ families,
        R a (found (name a)) := by
  induction families generalizing b with
  | nil =>
    cases h
    exact ⟨fun _ => [], by simp⟩
  | cons a families ih =>
    rw [List.foldlM_cons] at h
    obtain ⟨middle, hfirst, hrest⟩ := bind_eq_ok_iff.mp h
    obtain ⟨hfresh, hnames⟩ := List.nodup_cons.mp hnames
    obtain ⟨sources, hsources, hR⟩ := hstep b a middle hfirst
    obtain ⟨found, hpublished, hfound⟩ := ih hnames hrest
    have hother : ∀ other ∈ families, Function.update found (name a) sources (name other) = found (name other) := by
      intro other hmem
      refine Function.update_of_ne (fun hsame => hfresh ?_) _ _
      rw [← hsame]
      exact List.mem_map_of_mem hmem
    refine ⟨Function.update found (name a) sources, ?_, fun other hmem => ?_⟩
    · rw [List.flatMap_cons, List.flatMap_congr hother, Function.update_self, hpublished, hsources, List.append_assoc]
    · rcases List.mem_cons.mp hmem with rfl | hmem
      · rwa [Function.update_self]
      · rw [hother other hmem]
        exact hfound other hmem

theorem startup_family_names_nodup (timeout : Nat) : ((startup_runtime_families timeout).map Prod.fst).Nodup := by
  simp [startup_runtime_families]

/-- An audit that returns has published what each family found. -/
theorem audit_startup_runtime_effects_success {reads : String → Nat → ControllerDb}
    {publish : List RuntimeEffectSignal → RuntimeEffectSignal → Bool}
    {results : List (String × StartupRuntimeFamilyResult)} {published : List RuntimeEffectSignal}
    (h : audit_startup_runtime_effects reads publish RUNTIME_STARTUP_ROUTED_SIGNAL_TYPES timeout =
      .ok (results, published)) :
    ∃ found : String → List RuntimeEffectSignal,
      published = (startup_runtime_families timeout).flatMap (fun entry => found entry.1) ∧
        ∀ entry ∈ startup_runtime_families timeout, FamilyScanned entry.2 (reads entry.1) (found entry.1) := by
  unfold audit_startup_runtime_effects at h
  split at h
  · cases h
  · refine @foldlM_collects _ _ _ Prod.fst Prod.snd (fun entry => FamilyScanned entry.2 (reads entry.1))
      (fun b entry b' hstep => ?_) _ (startup_family_names_nodup timeout) _ _ h
    obtain ⟨⟨count, routing⟩, haudit, hstep⟩ := bind_eq_ok_iff.mp hstep
    cases hstep
    obtain ⟨output, sources, hscan, hsources, hroute⟩ := audit_startup_source_family_success haudit
    exact ⟨sources, route_startup_signals_success hroute, output, hscan, hsources⟩

/-! # One Task among the others -/

section OneTask

variable {reads : Nat → ControllerDb} {sources : List RuntimeEffectSignal}

/-- A Task whose rows stay while a family is read is found once and completely, whatever happens to the other Tasks. -/
theorem FamilyScanned.of_task (h : FamilyScanned query reads sources)
    (hfamily : (family, query) ∈ startup_runtime_families timeout)
    (hreads : ∀ page, (reads page).tasks.get? task_id = some db) :
    (sources.filter fun signal => (signal.lane task_id db).isSome).Nodup ∧
      ∀ signal, (signal ∈ sources ∧ (signal.lane task_id db).isSome = true) ↔
        ∃ k, StartupFound timeout task_id db family k signal := by
  obtain ⟨output, hscan, hsources⟩ := h
  have hkeys : ∀ page, (((reads page).rows query).map Prod.fst).Nodup := fun page =>
    startup_rows_keys_nodup (reads page) hfamily
  -- a row of the output that is about this Task is one of its rows
  have hmine : ∀ k signal, (k, .ok signal) ∈ output → (signal.lane task_id db).isSome = true →
      StartupFound timeout task_id db family k signal := by
    intro k signal hrow hlane
    obtain ⟨-, page, -, hrow⟩ := hscan.mem hrow
    obtain ⟨other, rows, hother, hrow⟩ := ControllerDb.mem_rows.mp hrow
    have hfound := (startup_runtime_families_found hfamily).mp hrow
    obtain rfl := (reads page).one_lane hother (hreads page) hfound.lane hlane
    obtain rfl := Option.some.inj (hother.symm.trans (hreads page))
    exact hfound
  have hall : ∀ k signal, StartupFound timeout task_id db family k signal → (k, .ok signal) ∈ output :=
    fun k signal hfound => hscan.complete (by decide) hkeys (fun page => ControllerDb.mem_rows.mpr
      ⟨task_id, db, hreads page, (startup_runtime_families_found hfamily).mpr hfound⟩) rfl
  have hmem : ∀ signal, signal ∈ sources ↔ ∃ k, (k, .ok signal) ∈ output := by
    intro signal
    have hiff : signal ∈ sources ↔ (.ok signal : AuditResult RuntimeEffectSignal) ∈ output.map Prod.snd := by
      rw [hsources]
      simp
    rw [hiff]
    simp
  constructor
  · have hapart : (output.map Prod.snd).Pairwise fun found other => ∀ signal signal' : RuntimeEffectSignal,
        found = .ok signal → other = .ok signal' → (signal.lane task_id db).isSome = true →
          (signal'.lane task_id db).isSome = true → signal ≠ signal' := by
      refine List.pairwise_map.mpr ((hscan.strict hkeys).imp_of_mem ?_)
      rintro ⟨k, _⟩ ⟨k', _⟩ hrow hother hlt signal _ rfl rfl hlane hlane' rfl
      obtain ⟨-, hsame⟩ := (hmine k signal hrow hlane).unique (hmine k' signal hother hlane')
      exact absurd hsame (Nat.ne_of_lt hlt)
    rw [hsources, List.pairwise_map] at hapart
    exact List.pairwise_filter.mpr (hapart.imp fun hne => hne _ _ rfl rfl)
  · intro signal
    rw [hmem]
    constructor
    · rintro ⟨⟨k, hrow⟩, hlane⟩
      exact ⟨k, hmine k signal hrow hlane⟩
    · rintro ⟨k, hfound⟩
      exact ⟨⟨k, hall k signal hfound⟩, hfound.lane⟩

theorem StartupFound.family_mem (h : StartupFound timeout task_id db family k signal) :
    ∃ query, (family, query) ∈ startup_runtime_families timeout := by
  cases h <;> simp [startup_runtime_families]

/-- An audit finds a Task whose rows stay exactly as one look at its rows would find it. -/
theorem audit_startup_runtime_effects_task {reads : String → Nat → ControllerDb}
    {publish : List RuntimeEffectSignal → RuntimeEffectSignal → Bool}
    {results : List (String × StartupRuntimeFamilyResult)} {published : List RuntimeEffectSignal}
    (hreads : ∀ family page, (reads family page).tasks.get? task_id = some db)
    (h : audit_startup_runtime_effects reads publish RUNTIME_STARTUP_ROUTED_SIGNAL_TYPES timeout =
      .ok (results, published)) :
    (published.filter fun signal => (signal.lane task_id db).isSome).Nodup ∧
      ∀ signal, (signal ∈ published ∧ (signal.lane task_id db).isSome = true) ↔
        ∃ family k, StartupFound timeout task_id db family k signal := by
  obtain ⟨found, rfl, hscanned⟩ := audit_startup_runtime_effects_success h
  have hfamily : ∀ entry ∈ startup_runtime_families timeout, _ := fun entry hentry =>
    (hscanned entry hentry).of_task hentry (hreads entry.1)
  constructor
  · rw [List.filter_flatMap, List.nodup_flatMap]
    refine ⟨fun entry hentry => (hfamily entry hentry).1, ?_⟩
    refine (List.pairwise_map.mp (startup_family_names_nodup timeout)).imp_of_mem
      fun {entry other} hentry hother hne signal hsignal hsignal' => hne ?_
    obtain ⟨k, hfound⟩ := ((hfamily entry hentry).2 signal).mp (List.mem_filter.mp hsignal)
    obtain ⟨k', hfound'⟩ := ((hfamily other hother).2 signal).mp (List.mem_filter.mp hsignal')
    exact (hfound.unique hfound').1
  · intro signal
    rw [List.mem_flatMap]
    constructor
    · rintro ⟨⟨entry, hentry, hsignal⟩, hlane⟩
      obtain ⟨k, hfound⟩ := ((hfamily entry hentry).2 signal).mp ⟨hsignal, hlane⟩
      exact ⟨entry.1, k, hfound⟩
    · rintro ⟨family, k, hfound⟩
      obtain ⟨query, hquery⟩ := hfound.family_mem
      obtain ⟨hsignal, hlane⟩ := ((hfamily (family, query) hquery).2 signal).mpr ⟨k, hfound⟩
      exact ⟨⟨_, hquery, hsignal⟩, hlane⟩

end OneTask

end Audit

/-! # The audit ends -/

/-- The pages of one family were full up to the guard. -/
def PagesFull (query : StartupRows) (reads : Nat → ControllerDb) (size pages : Nat) (cursor : Option Nat) : Prop :=
  ∃ keys : List Nat, keys.Pairwise (· < ·) ∧ keys.length = size * pages ∧
    ∀ k ∈ keys, cursor.all (fun previous => decide (previous < k)) = true ∧
      ∃ page, ∃ row ∈ (reads page).rows query, row.1 = k

section Ends

variable {query : StartupRows} {reads : Nat → ControllerDb} {size remaining : Nat} {cursor : Option Nat}

theorem PagesFull.more {page next : Nat} (hkeys : (((reads page).rows query).map Prod.fst).Nodup)
    (hnext : nextCursor Prod.fst size (keysetPage Prod.fst cursor size ((reads page).rows query)) = some next)
    (h : PagesFull query reads size remaining (some next)) : PagesFull query reads size (remaining + 1) cursor := by
  obtain ⟨keys, hstrict, hlength, hbehind⟩ := h
  obtain ⟨hfull, before, last, hpage, rfl⟩ := nextCursor_eq_some.mp hnext
  have hadvances := nextCursor_advances hnext
  have hordered : (keysetPage Prod.fst cursor size ((reads page).rows query)).Pairwise fun row other =>
    row.1 < other.1 :=
    keysetPage_strict hkeys
  refine ⟨(keysetPage Prod.fst cursor size ((reads page).rows query)).map Prod.fst ++ keys, ?_, ?_, fun k hk => ?_⟩
  · refine List.pairwise_append.mpr ⟨List.pairwise_map.mpr hordered, hstrict, fun k hk k' hk' => ?_⟩
    have hlast : last.1 < k' := of_decide_eq_true (hbehind k' hk').1
    obtain ⟨row, hrow, rfl⟩ := List.mem_map.mp hk
    rw [hpage] at hrow hordered
    rcases List.mem_append.mp hrow with hbefore | hrow
    · exact ((List.pairwise_append.mp hordered).2.2 row hbefore last (List.mem_singleton_self _)).trans hlast
    · rwa [List.mem_singleton.mp hrow]
  · rw [List.length_append, List.length_map, hfull, hlength, Nat.mul_succ, Nat.add_comm]
  · rcases List.mem_append.mp hk with hk | hk
    · obtain ⟨row, hrow, rfl⟩ := List.mem_map.mp hk
      obtain ⟨hmem, hbehind⟩ := mem_of_mem_keysetPage hrow
      exact ⟨hbehind, page, row, hmem, rfl⟩
    · obtain ⟨hlater, hrow⟩ := hbehind k hk
      refine ⟨?_, hrow⟩
      cases cursor with
      | none => rfl
      | some previous => exact decide_eq_true ((of_decide_eq_true hadvances).trans (of_decide_eq_true hlater))

theorem read_startup_page_ok {database : ControllerDb} (h : ∀ row ∈ database.rows query, ∃ signal, row.2 = .ok signal)
    (cursor : Option Nat) (size : Nat) : ∃ page, read_startup_page query database cursor size = .ok page := by
  unfold read_startup_page
  cases hsources : (keysetPage Prod.fst cursor size (database.rows query)).mapM Prod.snd with
  | ok sources =>
    dsimp only
    rw [hsources]
    exact ⟨_, rfl⟩
  | error e =>
    obtain ⟨row, hrow, e', herror⟩ := mapM_error_iff.mp ⟨e, hsources⟩
    obtain ⟨signal, hok⟩ := h row (mem_of_mem_keysetPage hrow).1
    cases herror.symm.trans hok

/-- The pages of one query pass the checks on pages. -/
theorem check_startup_page_ok {database : ControllerDb} {page : StartupAuditPage}
    (h : read_startup_page query database cursor size = .ok page) :
    check_startup_page family size cursor page = .ok () := by
  obtain ⟨hsources, hnext⟩ := read_startup_page_success h
  have hlength := congrArg List.length hsources
  rw [List.length_map, List.length_map] at hlength
  have hsize : (keysetPage Prod.fst cursor size (database.rows query)).length ≤ size := List.length_take_le _ _
  unfold check_startup_page
  rw [if_neg (by omega)]
  split
  · next previous candidate hcandidate =>
    rw [hnext] at hcandidate
    exact if_pos (of_decide_eq_true (nextCursor_advances hcandidate))
  · rfl

private theorem foldlM_route {σ : Type} {route_source : σ → RuntimeEffectSignal → AuditResult σ}
    (hroute : ∀ state source, ∃ state', route_source state source = .ok state') (sources : List RuntimeEffectSignal)
    (state : σ) : ∃ state', sources.foldlM route_source state = .ok state' := by
  induction sources generalizing state with
  | nil => exact ⟨state, rfl⟩
  | cons source sources ih =>
    obtain ⟨middle, hmiddle⟩ := hroute state source
    rw [List.foldlM_cons, hmiddle]
    exact ih middle

theorem audit_startup_source_family_ends {σ : Type} {route_source : σ → RuntimeEffectSignal → AuditResult σ}
    {pages_read sources_routed : Nat} {state : σ} (hkeys : ∀ page, (((reads page).rows query).map Prod.fst).Nodup)
    (hrows : ∀ page, ∀ row ∈ (reads page).rows query, ∃ signal, row.2 = .ok signal)
    (hroute : ∀ state source, ∃ state', route_source state source = .ok state') :
    (∃ result, audit_startup_source_family family size (fun page => read_startup_page query (reads page)) route_source
      remaining pages_read sources_routed cursor state = .ok result) ∨
    audit_startup_source_family family size (fun page => read_startup_page query (reads page)) route_source remaining
      pages_read sources_routed cursor state = .error (.page_guard family) ∧
        PagesFull query reads size remaining cursor := by
  induction remaining generalizing pages_read sources_routed cursor state with
  | zero =>
    obtain ⟨page, hpage⟩ := read_startup_page_ok (hrows pages_read) cursor size
    unfold audit_startup_source_family
    rw [hpage]
    exact .inr ⟨rfl, [], .nil, rfl, by simp⟩
  | succ remaining ih =>
    obtain ⟨page, hpage⟩ := read_startup_page_ok (hrows pages_read) cursor size
    obtain ⟨-, hnext⟩ := read_startup_page_success hpage
    obtain ⟨state', hfold⟩ := foldlM_route hroute page.sources state
    unfold audit_startup_source_family
    rw [hpage]
    dsimp only [bind, Except.bind]
    rw [check_startup_page_ok hpage]
    dsimp only
    rw [hfold]
    cases hcursor : page.next_cursor with
    | none => exact .inl ⟨_, rfl⟩
    | some next =>
      refine ih.imp_right fun ⟨herror, hfull⟩ => ⟨herror, ?_⟩
      exact hfull.more (hkeys pages_read) (hnext.symm.trans hcursor)

theorem route_startup_signal_ok {publish : List RuntimeEffectSignal → RuntimeEffectSignal → Bool}
    (hpublish : ∀ published signal, publish published signal = true)
    (routed_signal_types : List RuntimeEffectSignalType) (routing : StartupRouting) (signal : RuntimeEffectSignal) :
    ∃ routing', route_startup_signal publish routed_signal_types routing signal = .ok routing' := by
  unfold route_startup_signal
  split
  · exact ⟨_, rfl⟩
  · rw [if_pos (hpublish _ _)]
    exact ⟨_, rfl⟩

/-- An audit that can build every signal and publish it only stops at its page guard. -/
theorem audit_startup_runtime_effects_ends {reads : String → Nat → ControllerDb}
    {publish : List RuntimeEffectSignal → RuntimeEffectSignal → Bool}
    {routed_signal_types : List RuntimeEffectSignalType}
    (hpositive : 0 < timeout) (hpublish : ∀ published signal, publish published signal = true)
    (hrows : ∀ entry ∈ startup_runtime_families timeout, ∀ page, ∀ row ∈ (reads entry.1 page).rows entry.2,
      ∃ signal, row.2 = .ok signal) :
    (∃ outcome, audit_startup_runtime_effects reads publish routed_signal_types timeout = .ok outcome) ∨
      ∃ entry ∈ startup_runtime_families timeout,
        audit_startup_runtime_effects reads publish routed_signal_types timeout = .error (.page_guard entry.1) ∧
          PagesFull entry.2 (reads entry.1) STARTUP_AUDIT_PAGE_SIZE (STARTUP_AUDIT_PAGE_GUARD - 1) none := by
  unfold audit_startup_runtime_effects
  rw [if_neg (Nat.ne_of_gt hpositive)]
  have hkeys : ∀ entry ∈ startup_runtime_families timeout, ∀ page,
    (((reads entry.1 page).rows entry.2).map Prod.fst).Nodup :=
    fun entry hentry page => startup_rows_keys_nodup (reads entry.1 page) hentry
  generalize startup_runtime_families timeout = families at hrows hkeys ⊢
  generalize (([], []) : List (String × StartupRuntimeFamilyResult) × List RuntimeEffectSignal) = initial
  induction families generalizing initial with
  | nil => exact .inl ⟨_, rfl⟩
  | cons entry families ih =>
    rw [List.foldlM_cons]
    have hfirst := @audit_startup_source_family_ends entry.1 entry.2 (reads entry.1) STARTUP_AUDIT_PAGE_SIZE
      (STARTUP_AUDIT_PAGE_GUARD - 1) none _ _ 0 0 ⟨initial.2, 0, 0⟩ (hkeys entry List.mem_cons_self)
      (hrows entry List.mem_cons_self) (route_startup_signal_ok hpublish routed_signal_types)
    obtain ⟨⟨count, routing⟩, hok⟩ | ⟨herror, hfull⟩ := hfirst
    · dsimp only [bind, Except.bind]
      rw [hok]
      dsimp only [pure, Except.pure]
      obtain hrest | ⟨other, hother, herror, hfull⟩ :=
        ih (fun other hother => hrows other (List.mem_cons_of_mem _ hother))
        (fun other hother => hkeys other (List.mem_cons_of_mem _ hother))
        (initial.1 ++ [(entry.1, ⟨count, routing.routed_count, routing.deferred_count⟩)], routing.published)
      · exact .inl hrest
      · exact .inr ⟨other, List.mem_cons_of_mem _ hother, herror, hfull⟩
    · refine .inr ⟨entry, List.mem_cons_self, ?_, hfull⟩
      dsimp only [bind, Except.bind]
      rw [herror]

end Ends

end PostCommit

end OhMySubagents
