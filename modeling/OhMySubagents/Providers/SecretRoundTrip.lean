import Mathlib.Data.List.ReduceOption
import OhMySubagents.Providers.SecretEnvironment

open Text

namespace OhMySubagents.ProviderEnvironment

section Reading

variable {text line : List Char} {lines retained : List (List Char)} {file : Option (List Char)} {secrets : Secrets}
  {key other : String} {keys remove : List String} {value : List Char}

/-- The assignment that the reader takes from a line. -/
def secret_of (line : List Char) : Option (String × List Char) := (read_environment_line line).toOption.join

/-- A line that does not make the reader refuse the file. -/
def Accepted (line : List Char) : Prop := ∃ found, read_environment_line line = .ok found

theorem read_blank_line (h : is_blank line = true) : read_environment_line line = .ok none := by
  rw [is_blank, List.isEmpty_iff] at h
  simp only [read_environment_line, h, List.isEmpty_nil, Bool.true_or, if_true]

theorem secret_of_blank (h : is_blank line = true) : secret_of line = none := by
  rw [secret_of, read_blank_line h]
  rfl

/-- The key of a secret is the one that its line assigns to. -/
theorem is_assignment_to_of_secret (h : secret_of line = some (key, value)) :
    is_assignment_to keys line = decide (key ∈ keys) := by
  unfold secret_of read_environment_line at h
  dsimp only at h
  split at h
  · cases h
  · split at h
    · cases h
    · next name _ hmatch =>
      split at h
      · cases h
      · split at h
        · cases h
        · cases hread : read_secret_value (String.ofList name) (shell_split (strip line)) with
          | error error =>
            rw [hread] at h
            cases h
          | ok found =>
            rw [hread] at h
            cases h
            rw [is_assignment_to, hmatch, Option.any_some]

private theorem reduceOption_of_read {read : List (Option (String × List Char))}
    (h : List.Forall₂ (fun line found => read_environment_line line = .ok found) lines read) :
    read.reduceOption = lines.filterMap secret_of := by
  induction h with
  | nil => rfl
  | @cons line found lines read hhead _ ih =>
    have hsecret : secret_of line = found := by rw [secret_of, hhead]; rfl
    cases found with
    | none => rw [List.reduceOption_cons_of_none, List.filterMap_cons_none hsecret, ih]
    | some found => rw [List.reduceOption_cons_of_some, List.filterMap_cons_some hsecret, ih]

/-- A text is read line by line. -/
theorem parse_eq_ok : _parse_provider_secret_environment text = .ok secrets ↔
    (∀ line ∈ splitlines text, Accepted line) ∧
      secrets = ((splitlines text).filterMap secret_of).foldl Secrets.set [] := by
  unfold _parse_provider_secret_environment
  constructor
  · intro h
    obtain ⟨read, hread, h⟩ := bind_eq_ok_iff.mp h
    cases h
    refine ⟨fun line hline => ?_, by rw [reduceOption_of_read (mapM_ok_iff.mp hread)]⟩
    obtain ⟨found, -, hfound⟩ := mapM_ok_of_mem hread hline
    exact ⟨found, hfound⟩
  · rintro ⟨hlines, rfl⟩
    cases hread : (splitlines text).mapM read_environment_line with
    | error error =>
      obtain ⟨line, hline, error, herror⟩ := mapM_error_iff.mp ⟨error, hread⟩
      obtain ⟨found, hfound⟩ := hlines line hline
      rw [hfound] at herror
      cases herror
    | ok read =>
      rw [← reduceOption_of_read (mapM_ok_iff.mp hread)]
      rfl

theorem lookup_set (secrets : Secrets) (assignment : String × List Char) (key : String) :
    (secrets.set assignment).lookup key = if key = assignment.1 then some assignment.2 else secrets.lookup key := by
  unfold Secrets.set
  rw [List.lookup_cons]
  by_cases hkey : key = assignment.1
  · rw [hkey, beq_self_eq_true, if_pos rfl]
  · rw [beq_eq_false_iff_ne.mpr hkey, if_neg hkey]
    dsimp only
    induction secrets with
    | nil => rfl
    | cons head secrets ih =>
      rw [List.filter_cons]
      split
      · rw [List.lookup_cons, List.lookup_cons, ih]
      · next hhead =>
        have hne : (key == head.1) = false := by
          rw [beq_eq_false_iff_ne]
          rintro rfl
          exact hhead (decide_eq_true hkey)
        rw [ih, List.lookup_cons, hne]

/-- The value of a key is that of its last assignment. -/
theorem lookup_secrets (assignments : List (String × List Char)) (key : String) :
    (assignments.foldl Secrets.set []).lookup key = ((assignments.filter (·.1 = key)).getLast?).map (·.2) := by
  induction assignments using List.reverseRecOn with
  | nil => rfl
  | append_singleton assignments assignment ih =>
    rw [List.foldl_append, List.foldl_cons, List.foldl_nil, lookup_set, List.filter_append, List.filter_singleton]
    by_cases hkey : key = assignment.1
    · rw [if_pos hkey, decide_eq_true hkey.symm]
      simp
    · rw [if_neg hkey, decide_eq_false (Ne.symm hkey), ih]
      simp

/-- Which lines of a text stay when the assignments to some keys go. -/
def kept_lines (remove : List String) (text : List Char) : List (List Char) :=
  (splitlines text).filter fun line => !is_blank line && !is_assignment_to remove line

private theorem filterMap_rdropWhile {α : Type} {f : List Char → Option α}
    (hblank : ∀ line, is_blank line = true → f line = none)
    (lines : List (List Char)) : (lines.rdropWhile is_blank).filterMap f = lines.filterMap f := by
  induction lines using List.reverseRecOn with
  | nil => rfl
  | append_singleton lines line ih =>
    rw [List.rdropWhile_concat, List.filterMap_append]
    split
    · next h => rw [ih, List.filterMap_cons_none (hblank line h), List.filterMap_nil, List.append_nil]
    · rw [List.filterMap_append]

/-- The lines that are retained, with what follows them when there are any. -/
theorem retained_eq_ok (h : _retained_environment_lines file remove = .ok retained) :
    (∀ line ∈ splitlines (file.getD []), Accepted line) ∧
      retained = if ((splitlines (file.getD [])).filter fun line => !is_assignment_to remove line).rdropWhile
        is_blank = []
        then [] else ((splitlines (file.getD [])).filter fun line => !is_assignment_to remove line).rdropWhile
          is_blank ++ [[]] := by
  cases file with
  | none =>
    cases h
    exact ⟨List.forall_mem_nil _, rfl⟩
  | some text =>
    obtain ⟨secrets, hparse, h⟩ := bind_eq_ok_iff.mp h
    cases h
    refine ⟨(parse_eq_ok.mp hparse).1, ?_⟩
    simp only [List.isEmpty_iff, Option.getD_some]

/-- Of every line that means something, retaining keeps exactly those that assign to none of the keys. -/
theorem retained_filterMap {α : Type} {f : List Char → Option α} (hblank : ∀ line, is_blank line = true → f line = none)
    (h : _retained_environment_lines file remove = .ok retained) : retained.filterMap f =
      ((splitlines (file.getD [])).filter fun line => !is_assignment_to remove line).filterMap f := by
  obtain ⟨-, rfl⟩ := retained_eq_ok h
  rw [← filterMap_rdropWhile hblank ((splitlines (file.getD [])).filter fun line => !is_assignment_to remove line)]
  split
  · next hnil => rw [hnil]
  · rw [List.filterMap_append, List.filterMap_cons_none (hblank [] rfl), List.filterMap_nil, List.append_nil]

theorem retained_accepted (h : _retained_environment_lines file remove = .ok retained) :
    ∀ line ∈ retained, Accepted line ∧ Unbroken line := by
  obtain ⟨haccepted, rfl⟩ := retained_eq_ok h
  intro line hline
  have hempty : Accepted [] ∧ Unbroken [] := ⟨⟨none, read_blank_line rfl⟩, List.forall_mem_nil _⟩
  split at hline
  · cases hline
  · rcases List.mem_append.mp hline with hline | hline
    · have hmem := (List.mem_filter.mp ((List.rdropWhile_prefix _ _).subset hline)).1
      exact ⟨haccepted line hmem, unbroken_of_mem_splitlines hmem⟩
    · exact List.mem_singleton.mp hline ▸ hempty

end Reading

section Assignments

variable {value : List Char}

/-- A line that assigns to the key, up to what stands behind the opening quote. -/
def opened_line (behind : List Char) : List Char := ANTHROPIC_API_KEY.toList ++ '=' :: '\x22' :: behind

theorem strip_opened_line (behind : List Char) :
    strip (opened_line behind) = opened_line (behind.rdropWhile Char.is_space) := by
  have hdrop : (opened_line behind).dropWhile Char.is_space = opened_line behind := by
    rw [opened_line, show ANTHROPIC_API_KEY.toList = 'A' :: "NTHROPIC_API_KEY".toList by decide]
    exact List.dropWhile_cons_of_neg (by decide)
  rw [strip, hdrop]
  induction behind using List.reverseRecOn with
  | nil => decide
  | append_singleton behind c ih =>
    have hsplit : opened_line (behind ++ [c]) = opened_line behind ++ [c] := by
      simp only [opened_line, List.append_assoc, List.cons_append]
    rw [hsplit, List.rdropWhile_concat, List.rdropWhile_concat]
    split
    · refine ih ?_
      rw [opened_line, show ANTHROPIC_API_KEY.toList = 'A' :: "NTHROPIC_API_KEY".toList by decide]
      exact List.dropWhile_cons_of_neg (by decide)
    · exact hsplit.symm

theorem match_opened_line {behind : List Char} (h : '\n' ∉ behind) :
    match_assignment (opened_line behind) = some (ANTHROPIC_API_KEY.toList, '\x22' :: behind) := by
  have hname : ANTHROPIC_API_KEY.toList = 'A' :: "NTHROPIC_API_KEY".toList := by decide +kernel
  have hkey : ∀ c ∈ "NTHROPIC_API_KEY".toList, is_key_character c = true :=
    List.all_eq_true.mp (by decide +kernel)
  rw [opened_line, hname, List.cons_append, match_assignment, if_pos (by decide), List.dropWhile_append_of_pos hkey,
    List.takeWhile_append_of_pos hkey, List.dropWhile_cons_of_neg (by decide), List.takeWhile_cons_of_neg (by decide),
    List.append_nil]
  refine if_neg ?_
  simpa using h

theorem read_opened_line {behind : List Char} (h : '\n' ∉ behind) : read_environment_line (opened_line behind) =
    (do
      let value ← read_secret_value ANTHROPIC_API_KEY (shell_split (opened_line (behind.rdropWhile Char.is_space)))
      return some (ANTHROPIC_API_KEY, value)) := by
  have hname : ANTHROPIC_API_KEY.toList = 'A' :: "NTHROPIC_API_KEY".toList := by decide +kernel
  have hstart : ∀ behind, ((opened_line behind).isEmpty || (opened_line behind).head? == some '#') = false := by
    intro behind
    rw [opened_line, hname, List.cons_append, List.head?_cons]
    rfl
  unfold read_environment_line
  rw [strip_opened_line]
  dsimp only
  rw [hstart, match_opened_line fun hmem => h ((List.rdropWhile_prefix _ _).subset hmem)]
  dsimp only
  rw [String.ofList_toList, if_neg (by decide), if_neg (by decide), if_neg (by decide)]

/-- A line with an open quotation is no assignment. -/
theorem read_open_line {behind : List Char} (hnewline : '\n' ∉ behind) (h : behind <+: escape_quoted value) :
    ¬Accepted (opened_line behind) := by
  rintro ⟨found, hfound⟩
  have hfront := List.rdropWhile_prefix Char.is_space behind
  have hnone : shell_split (opened_line (behind.rdropWhile Char.is_space)) = none := by
    have hplain : ∀ c ∈ ANTHROPIC_API_KEY.toList ++ ['='], is_plain c = true :=
      List.all_eq_true.mp (by decide +kernel)
    have hsplit := shell_split_plain hplain (by decide) (behind.rdropWhile Char.is_space)
    rw [List.append_assoc, List.singleton_append] at hsplit
    rw [opened_line, hsplit, split_open_quote (hfront.trans h)]
  rw [read_opened_line hnewline, hnone] at hfound
  cases hfound

/-- The line of a secret is read as the secret. -/
theorem read_assignment (hvalue : value ≠ []) (hnewline : '\n' ∉ value) :
    read_environment_line (ANTHROPIC_API_KEY.toList ++ '=' :: _quote_environment_value value) =
      .ok (some (ANTHROPIC_API_KEY, value)) := by
  have hplain : ∀ c ∈ ANTHROPIC_API_KEY.toList ++ ['='], is_plain c = true :=
    List.all_eq_true.mp (by decide +kernel)
  have hsplit := shell_split_plain hplain (by decide) (escape_quoted value ++ ['\x22'])
  rw [split_escape_quoted, List.append_assoc, List.singleton_append] at hsplit
  have hwords : shell_split (opened_line (escape_quoted value ++ ['\x22'])) =
      some [ANTHROPIC_API_KEY.toList ++ '=' :: value] := by
    rw [opened_line, hsplit]
    simp only [split_words, if_true, emit_token, Bool.not_true, Bool.and_false, Bool.false_eq_true, if_false,
      List.append_assoc, List.singleton_append]
  have hclosed : (escape_quoted value ++ ['\x22']).rdropWhile Char.is_space = escape_quoted value ++ ['\x22'] :=
    List.rdropWhile_concat_neg _ _ _ (by decide)
  have hmatch : '\n' ∉ escape_quoted value ++ ['\x22'] := by
    intro hmem
    rcases List.mem_append.mp hmem with hmem | hmem
    · rcases mem_escape_quoted hmem with hback | hmem
      · exact absurd hback (by decide)
      · exact hnewline hmem
    · exact absurd (List.mem_singleton.mp hmem) (by decide)
  have hread : read_secret_value ANTHROPIC_API_KEY (some [ANTHROPIC_API_KEY.toList ++ '=' :: value]) = .ok value := by
    have hkey : ∀ c ∈ ANTHROPIC_API_KEY.toList, (c != '=') = true := List.all_eq_true.mp (by decide +kernel)
    rw [read_secret_value, if_pos (List.mem_append_right _ List.mem_cons_self), List.dropWhile_append_of_pos hkey,
      List.dropWhile_cons_of_neg (by decide), List.tail_cons]
    exact if_neg (by rwa [List.isEmpty_iff])
  have hline : ANTHROPIC_API_KEY.toList ++ '=' :: _quote_environment_value value =
      opened_line (escape_quoted value ++ ['\x22']) := rfl
  rw [hline, read_opened_line hmatch, hclosed, hwords, hread]
  rfl

theorem unbroken_opened_line {behind : List Char} (h : Unbroken behind) : Unbroken (opened_line behind) := by
  have hplain : ∀ c ∈ ANTHROPIC_API_KEY.toList ++ ['=', '\x22'], (!is_line_boundary c) = true :=
    List.all_eq_true.mp (by decide +kernel)
  have hname : Unbroken (ANTHROPIC_API_KEY.toList ++ ['=', '\x22']) := fun c hc => by
    rw [← Bool.not_eq_true', hplain c hc]
  intro c hc
  rw [opened_line] at hc
  rcases List.mem_append.mp hc with hc | hc
  · exact hname c (List.mem_append_left _ hc)
  · rcases List.mem_cons.mp hc with rfl | hc
    · decide
    · rcases List.mem_cons.mp hc with rfl | hc
      · decide
      · exact h c hc

theorem unbroken_escape_quoted (h : Unbroken value) : Unbroken (escape_quoted value) := by
  intro c hc
  rcases mem_escape_quoted hc with rfl | hc
  · decide
  · exact h c hc

end Assignments

section Writing

variable {file : Option (List Char)} {key : String} {value written : List Char} {keys remove : List String}

/-- What may be stored: the value is trimmed and not empty, without line feeds, carriage returns and NUL. -/
structure Storable (value : List Char) : Prop where
  nonempty : value ≠ []
  trimmed : strip value = value
  one_line : '\x00' ∉ value ∧ '\n' ∉ value ∧ '\r' ∉ value

theorem validate_secret_value_eq_ok {normalized : List Char} :
    _validate_secret_value value key = .ok normalized ↔ normalized = value ∧ Storable value := by
  unfold _validate_secret_value
  split
  · next h =>
    refine ⟨nofun, fun hvalue => ?_⟩
    rcases Bool.or_eq_true _ _ ▸ h with h | h
    · exact absurd (List.isEmpty_iff.mp h) hvalue.2.nonempty
    · exact absurd hvalue.2.trimmed (bne_iff_ne.mp h)
  · next h =>
    rw [Bool.or_eq_true, not_or, List.isEmpty_iff, bne_iff_ne, not_not] at h
    split
    · next hcontrol =>
      refine ⟨nofun, fun hvalue => ?_⟩
      obtain ⟨hnul, hfeed, hreturn⟩ := hvalue.2.one_line
      rcases hcontrol with hcontrol | hcontrol | hcontrol
      · exact (hnul hcontrol).elim
      · exact (hfeed hcontrol).elim
      · exact (hreturn hcontrol).elim
    · next hcontrol =>
      rw [not_or, not_or] at hcontrol
      constructor
      · intro hok
        exact ⟨(Except.ok.inj hok).symm, h.1, h.2, hcontrol⟩
      · rintro ⟨rfl, -⟩
        rfl

def Readable (file : Option (List Char)) : Prop := ∃ secrets, read_provider_secret_environment file = .ok secrets

theorem readable_iff : Readable file ↔ ∀ line ∈ splitlines (file.getD []), Accepted line := by
  cases file with
  | none => exact ⟨fun _ => List.forall_mem_nil _, fun _ => ⟨[], rfl⟩⟩
  | some text =>
    constructor
    · rintro ⟨secrets, hsecrets⟩
      exact (parse_eq_ok.mp hsecrets).1
    · exact fun h => ⟨_, parse_eq_ok.mpr ⟨h, rfl⟩⟩

theorem retained_of_readable (h : Readable file) (remove : List String) :
    ∃ retained, _retained_environment_lines file remove = .ok retained := by
  cases file with
  | none => exact ⟨[], rfl⟩
  | some text =>
    obtain ⟨secrets, hsecrets⟩ := h
    exact ⟨_, bind_eq_ok_iff.mpr ⟨secrets, hsecrets, rfl⟩⟩

theorem persist_eq_ok : persist_provider_secret file key value remove = .ok written ↔
    key = ANTHROPIC_API_KEY ∧ Storable value ∧ ∃ retained,
      _retained_environment_lines file (key :: remove) = .ok retained ∧
      written = render_lines (retained ++ [opened_line (escape_quoted value ++ ['\x22'])]) := by
  unfold persist_provider_secret
  have hsupported : key ∈ PROVIDER_SECRET_ENVIRONMENT_KEYS ↔ key = ANTHROPIC_API_KEY := List.mem_singleton
  split
  · next hkey => exact ⟨nofun, fun h => absurd (hsupported.mpr h.1) hkey⟩
  · next hkey =>
    have hkey := hsupported.mp (not_not.mp hkey)
    constructor
    · intro h
      obtain ⟨normalized, hvalue, hrest⟩ := bind_eq_ok_iff.mp h
      obtain ⟨retained, hretained, hwritten⟩ := bind_eq_ok_iff.mp hrest
      obtain ⟨rfl, hvalue⟩ := validate_secret_value_eq_ok.mp hvalue
      refine ⟨hkey, hvalue, retained, hretained, ?_⟩
      rw [← Except.ok.inj hwritten, hkey]
      rfl
    · rintro ⟨rfl, hvalue, retained, hretained, rfl⟩
      exact bind_eq_ok_iff.mpr ⟨value, validate_secret_value_eq_ok.mpr ⟨rfl, hvalue⟩,
        bind_eq_ok_iff.mpr ⟨retained, hretained, rfl⟩⟩

/-- The lines of the file that is written: those that were retained, and what is made of the new assignment. -/
theorem splitlines_persisted {retained : List (List Char)} (h : ∀ line ∈ retained, Accepted line ∧ Unbroken line) :
    splitlines (render_lines (retained ++ [opened_line (escape_quoted value ++ ['\x22'])])) =
      retained ++ splitlines (opened_line (escape_quoted value ++ ['\x22']) ++ ['\n']) := by
  have hlast : ∀ hne : opened_line (escape_quoted value ++ ['\x22']) ≠ [],
      (opened_line (escape_quoted value ++ ['\x22'])).getLast hne ≠ '\n' := by
    intro hne
    have heq : opened_line (escape_quoted value ++ ['\x22']) =
        (ANTHROPIC_API_KEY.toList ++ '=' :: '\x22' :: escape_quoted value) ++ ['\x22'] := by
      simp only [opened_line, List.append_assoc, List.cons_append]
    simp only [heq, List.getLast_concat]
    decide
  rw [render_lines_eq hlast (by simp [opened_line]), List.flatMap_append,
    splitlines_flatMap fun line hline => (h line hline).2, List.flatMap_singleton]

/-- A boundary in the value leaves the quotation open on the line where the value begins. -/
theorem not_accepted_of_broken (hvalue : Storable value) (hbroken : ¬Unbroken value) :
    ∃ line ∈ splitlines (opened_line (escape_quoted value ++ ['\x22']) ++ ['\n']), ¬Accepted line := by
  have hexists : ∃ before b after, value = before ++ b :: after ∧ Unbroken before ∧ is_line_boundary b = true := by
    replace hbroken : ∃ c ∈ value, is_line_boundary c = true := by
      simpa only [Unbroken, not_forall, Bool.not_eq_false, exists_prop] using hbroken
    clear hvalue
    induction value with
    | nil => exact absurd hbroken.choose_spec.1 List.not_mem_nil
    | cons c value ih =>
      cases hc : is_line_boundary c with
      | true => exact ⟨[], c, value, rfl, List.forall_mem_nil _, hc⟩
      | false =>
        obtain ⟨d, hd, hboundary⟩ := hbroken
        rcases List.mem_cons.mp hd with rfl | hd
        · rw [hc] at hboundary
          cases hboundary
        · obtain ⟨before, b, after, rfl, hbefore, hb⟩ := ih ⟨d, hd, hboundary⟩
          exact ⟨c :: before, b, after, rfl, List.forall_mem_cons.mpr ⟨hc, hbefore⟩, hb⟩
  obtain ⟨before, b, after, rfl, hbefore, hb⟩ := hexists
  obtain ⟨-, hfeed, hreturn⟩ := hvalue.one_line
  have hnot : b ≠ '\r' := by
    rintro rfl
    exact hreturn (List.mem_append_right _ List.mem_cons_self)
  have hplain : ¬(b = '\x5c' ∨ b = '\x22') := by
    rintro (rfl | rfl)
    · exact absurd hb (by decide)
    · exact absurd hb (by decide)
  have hsplit : opened_line (escape_quoted (before ++ b :: after) ++ ['\x22']) ++ ['\n'] =
      opened_line (escape_quoted before) ++ b :: (escape_quoted after ++ ['\x22', '\n']) := by
    rw [escape_quoted_append, escape_quoted_cons, if_neg hplain]
    simp only [opened_line, List.append_assoc, List.cons_append, List.nil_append]
  rw [hsplit, splitlines_append (unbroken_opened_line (unbroken_escape_quoted hbefore)) hb hnot]
  refine ⟨_, List.mem_cons_self, read_open_line (fun hmem => ?_) (List.prefix_refl (escape_quoted before))⟩
  rcases mem_escape_quoted hmem with hback | hmem
  · exact absurd hback (by decide)
  · exact hfeed (List.mem_append_left _ hmem)

theorem splitlines_assignment (hunbroken : Unbroken value) :
    splitlines (opened_line (escape_quoted value ++ ['\x22']) ++ ['\n']) =
      [opened_line (escape_quoted value ++ ['\x22'])] := by
  have hquoted : Unbroken (escape_quoted value ++ ['\x22']) := by
    intro c hc
    rcases List.mem_append.mp hc with hc | hc
    · exact unbroken_escape_quoted hunbroken c hc
    · rw [List.mem_singleton.mp hc]
      decide
  exact splitlines_append (unbroken_opened_line hquoted) (by decide) (by decide)

/-- Removing secrets keeps a file readable. -/
theorem remove_readable {removed : Option (List Char)} (h : remove_provider_secrets file keys = .ok removed) :
    Readable removed := by
  unfold remove_provider_secrets at h
  split at h
  · cases h
  · split at h
    · cases h
      exact ⟨[], rfl⟩
    · next text =>
      obtain ⟨retained, hretained, h⟩ := bind_eq_ok_iff.mp h
      cases h
      have haccepted := retained_accepted hretained
      obtain ⟨-, heq⟩ := retained_eq_ok hretained
      rw [readable_iff, Option.getD_some]
      split at heq
      · rw [heq]
        exact fun line hline => ⟨none, read_blank_line (by rw [List.mem_singleton.mp hline]; rfl)⟩
      · next hne =>
        obtain ⟨init, last, hlast⟩ := (List.eq_nil_or_concat' _).resolve_left hne
        have hblank := List.rdropWhile_last_not is_blank _ hne
        rw [hlast] at heq
        simp only [hlast, List.getLast_concat] at hblank
        have hmem : ∀ line ∈ init ++ [last], Accepted line ∧ Unbroken line := fun line hline =>
          haccepted line (by rw [heq]; exact List.mem_append_left _ hline)
        have hnonempty : last ≠ [] := by
          rintro rfl
          exact hblank rfl
        have hfeed : ∀ hne : last ≠ [], last.getLast hne ≠ '\n' := by
          intro hne hfeed
          have hunbroken := (hmem last (List.mem_append_right _ List.mem_cons_self)).2 _ (List.getLast_mem hne)
          rw [hfeed] at hunbroken
          cases hunbroken
        have hlines : splitlines ((init ++ [last]).flatMap (· ++ ['\n']) ++ []) = init ++ [last] ++ splitlines [] :=
          splitlines_flatMap fun line hline => (hmem line hline).2
        rw [List.append_nil] at hlines
        rw [heq, render_lines_empty hfeed hnonempty, hlines]
        intro line hline
        rw [splitlines, List.append_nil] at hline
        exact (hmem line hline).1

end Writing

section RoundTrip

variable {file : Option (List Char)} {key : String} {value written : List Char} {remove : List String}

/-- What storing a secret promises: the file that was written is read as having the value for the key and what it had
    for every other, and no line is lost but the assignments to the key and to those that were to be removed. -/
structure RoundTrips (file : Option (List Char)) (key : String) (value : List Char) (remove : List String)
    (written : List Char) : Prop where
  stored : ∃ secrets, read_provider_secret_environment (some written) = .ok secrets ∧ secrets.lookup key = some value ∧
    ∀ before, read_provider_secret_environment file = .ok before →
      ∀ other, other ≠ key → other ∉ remove → secrets.lookup other = before.lookup other
  kept : kept_lines (key :: remove) written = kept_lines (key :: remove) (file.getD [])

theorem round_trips_of_unbroken (h : persist_provider_secret file key value remove = .ok written)
    (hunbroken : Unbroken value) : RoundTrips file key value remove written := by
  obtain ⟨rfl, hvalue, retained, hretained, rfl⟩ := persist_eq_ok.mp h
  have haccepted := retained_accepted hretained
  have hread := read_assignment hvalue.nonempty hvalue.one_line.2.1
  have hlines : splitlines (render_lines (retained ++ [opened_line (escape_quoted value ++ ['\x22'])])) =
      retained ++ [opened_line (escape_quoted value ++ ['\x22'])] :=
    (splitlines_persisted haccepted).trans (congrArg _ (splitlines_assignment hunbroken))
  have hsecret : secret_of (opened_line (escape_quoted value ++ ['\x22'])) = some (ANTHROPIC_API_KEY, value) := by
    rw [secret_of, opened_line]
    exact congrArg (fun found => found.toOption.join) hread
  have hassigned : is_assignment_to (ANTHROPIC_API_KEY :: remove) _ =
      decide (ANTHROPIC_API_KEY ∈ ANTHROPIC_API_KEY :: remove) := is_assignment_to_of_secret hsecret
  rw [decide_eq_true List.mem_cons_self] at hassigned
  refine ⟨⟨_, parse_eq_ok.mpr ⟨?_, rfl⟩, ?_, ?_⟩, ?_⟩
  · rw [hlines]
    intro line hline
    rcases List.mem_append.mp hline with hline | hline
    · exact (haccepted line hline).1
    · exact List.mem_singleton.mp hline ▸ ⟨_, hread⟩
  · rw [hlines, List.filterMap_append, List.filterMap_cons_some hsecret, lookup_secrets, List.filter_append]
    simp
  · intro before hbefore other hother hremove
    have hnever : ∀ line, is_assignment_to (ANTHROPIC_API_KEY :: remove) line = true →
        ∀ found ∈ secret_of line, found.1 ≠ other := by
      rintro line hline ⟨name, found⟩ hfound rfl
      rw [is_assignment_to_of_secret hfound, decide_eq_true_eq] at hline
      exact (List.mem_cons.mp hline).elim hother hremove
    have hsame : ∀ lines : List (List Char),
        ((lines.filter fun line => !is_assignment_to (ANTHROPIC_API_KEY :: remove) line).filterMap secret_of).filter
          (·.1 = other) = (lines.filterMap secret_of).filter (·.1 = other) := by
      intro lines
      induction lines with
      | nil => rfl
      | cons line lines ih =>
        rw [List.filter_cons]
        cases hassigned : is_assignment_to (ANTHROPIC_API_KEY :: remove) line with
        | false =>
          rw [Bool.not_false, if_pos rfl]
          cases hsecret : secret_of line with
          | none => rw [List.filterMap_cons_none hsecret, List.filterMap_cons_none hsecret, ih]
          | some found =>
            rw [List.filterMap_cons_some hsecret, List.filterMap_cons_some hsecret, List.filter_cons,
              List.filter_cons, ih]
        | true =>
          rw [Bool.not_true, if_neg Bool.false_ne_true, ih]
          cases hsecret : secret_of line with
          | none => rw [List.filterMap_cons_none hsecret]
          | some found =>
            rw [List.filterMap_cons_some hsecret, List.filter_cons,
              if_neg (by simpa using hnever line hassigned found hsecret)]
    have hold : before.lookup other =
        ((((splitlines (file.getD [])).filterMap secret_of).filter (·.1 = other)).getLast?).map (·.2) := by
      cases file with
      | none =>
        cases hbefore
        rfl
      | some text => rw [(parse_eq_ok.mp hbefore).2, lookup_secrets]; rfl
    rw [hold, ← hsame, ← retained_filterMap (fun line => secret_of_blank) hretained, lookup_secrets, hlines,
      List.filterMap_append, List.filterMap_cons_some hsecret, List.filter_append, List.filter_cons,
      if_neg (by simpa using Ne.symm hother)]
    simp
  · have hblank : ∀ line, is_blank line = true →
        Option.guard (fun line => !is_blank line && !is_assignment_to (ANTHROPIC_API_KEY :: remove) line)
          line = none := by
      intro line hline
      rw [Option.guard_eq_none_iff, hline]
      rfl
    have hkept := retained_filterMap hblank hretained
    rw [List.filterMap_eq_filter, List.filter_filter] at hkept
    simp only [Bool.and_assoc, Bool.and_self] at hkept
    rw [kept_lines, hlines, List.filter_append, hkept, List.filter_singleton, hassigned]
    simp [kept_lines]

/-- A change to the secrets that a user asks for. -/
inductive SecretChange
  | store (key : String) (value : List Char) (remove : List String)
  | remove (keys : List String)

def SecretChange.apply (file : Option (List Char)) : SecretChange → Except SecretError (Option (List Char))
  | .store key value remove => do return some (← persist_provider_secret file key value remove)
  | .remove keys => remove_provider_secrets file keys

/-- Whether a value that is stored is one line for `str.splitlines`. -/
def SecretChange.IsOneLine : SecretChange → Prop
  | .store _ value _ => Unbroken value
  | .remove _ => True

/-- The file after some changes, of which one that fails changes nothing. -/
def apply_changes (file : Option (List Char)) (changes : List SecretChange) : Option (List Char) :=
  changes.foldl (fun file change => (change.apply file).toOption.getD file) file

theorem SecretChange.apply_readable {change : SecretChange} {changed : Option (List Char)} (hline : change.IsOneLine)
    (h : change.apply file = .ok changed) : Readable changed := by
  cases change with
  | store key value remove =>
    obtain ⟨written, hwritten, h⟩ := bind_eq_ok_iff.mp h
    cases h
    obtain ⟨secrets, hsecrets, -⟩ := (round_trips_of_unbroken hwritten hline).stored
    exact ⟨secrets, hsecrets⟩
  | remove keys => exact remove_readable h

theorem apply_changes_readable {changes : List SecretChange} (h : Readable file)
    (hline : ∀ change ∈ changes, change.IsOneLine) : Readable (apply_changes file changes) := by
  induction changes generalizing file with
  | nil => exact h
  | cons change changes ih =>
    obtain ⟨hchange, hline⟩ := List.forall_mem_cons.mp hline
    have hreadable : Readable ((change.apply file).toOption.getD file) := by
      cases happlied : change.apply file with
      | error error => exact h
      | ok changed => exact change.apply_readable hchange happlied
    exact ih hreadable hline

/-- What is so of one private environment file through every store and removal. -/
structure SecretsRoundTrip (file : Option (List Char)) : Prop where
  /-- A file that is read takes every storable value. -/
  accepts : ∀ key value remove, Readable file →
    ((∃ written, persist_provider_secret file key value remove = .ok written) ↔
      key ∈ PROVIDER_SECRET_ENVIRONMENT_KEYS ∧ Storable value)
  round_trips : ∀ key value remove written, persist_provider_secret file key value remove = .ok written →
    (RoundTrips file key value remove written ↔ Unbroken value)
  stays_readable : ∀ changes, Readable file → (∀ change ∈ changes, SecretChange.IsOneLine change) →
    Readable (apply_changes file changes)

/-- A stored secret is read back exactly when its value has none of the characters at which a line ends for the
    reader. -/
theorem secrets_round_trip (file : Option (List Char)) : SecretsRoundTrip file where
  accepts := by
    intro key value remove hreadable
    constructor
    · rintro ⟨written, h⟩
      obtain ⟨rfl, hvalue, -⟩ := persist_eq_ok.mp h
      exact ⟨List.mem_cons_self, hvalue⟩
    · rintro ⟨hkey, hvalue⟩
      obtain ⟨retained, hretained⟩ := retained_of_readable hreadable (key :: remove)
      exact ⟨_, persist_eq_ok.mpr ⟨List.mem_singleton.mp hkey, hvalue, retained, hretained, rfl⟩⟩
  round_trips := by
    intro key value remove written h
    refine ⟨fun hround => ?_, round_trips_of_unbroken h⟩
    obtain ⟨rfl, hvalue, retained, hretained, rfl⟩ := persist_eq_ok.mp h
    by_contra hbroken
    obtain ⟨secrets, hsecrets, -⟩ := hround.stored
    obtain ⟨line, hline, hrefused⟩ := not_accepted_of_broken hvalue hbroken
    refine hrefused ((parse_eq_ok.mp hsecrets).1 line ?_)
    rw [splitlines_persisted (retained_accepted hretained)]
    exact List.mem_append_right _ hline
  stays_readable := fun _ => apply_changes_readable

/-- A stored value with a line separator makes the file unreadable, and every later change is refused. -/
theorem secret_breaks_at_line_separator : ∃ written,
    persist_provider_secret none ANTHROPIC_API_KEY ['a', '\u2028', 'b'] [] = .ok written ∧
      read_provider_secret_environment (some written) = .error (invalid_assignment ANTHROPIC_API_KEY) ∧
      persist_provider_secret (some written) ANTHROPIC_API_KEY ['a'] [] =
        .error (invalid_assignment ANTHROPIC_API_KEY) ∧
      remove_provider_secrets (some written) [ANTHROPIC_API_KEY] = .error (invalid_assignment ANTHROPIC_API_KEY) := by
  refine ⟨_, rfl, rfl, rfl, ?_⟩
  have hsupported : [ANTHROPIC_API_KEY].filter (· ∉ PROVIDER_SECRET_ENVIRONMENT_KEYS) = [] := by decide
  rw [remove_provider_secrets, hsupported, List.mergeSort_nil]
  rfl

end RoundTrip

end OhMySubagents.ProviderEnvironment
