import Mathlib.Data.List.Induction
import OhMySubagents.Cursors.Codecs

open Json

namespace OhMySubagents

open Cursors (SanitizerState)

/-- `_BIDI_AND_SPOOFING_CONTROLS`. -/
def is_bidi_or_spoofing_control (codepoint : Nat) : Bool :=
  codepoint == 0x061C || codepoint == 0x200E || codepoint == 0x200F || codepoint == 0xFEFF ||
    (0x202A ≤ codepoint && codepoint < 0x202F) || (0x2066 ≤ codepoint && codepoint < 0x2070)

/-- What one character adds to the output, and the state behind it. -/
def sanitize_character (state : SanitizerState) (character : Nat) : CodePoints × SanitizerState :=
  match state with
  | .normal =>
    if character = 0x1B then ([], .escape)
    else if character = 0x9B then ([], .csi)
    else if character = 0x9D then ([], .osc)
    else if character ∈ [0x90, 0x98, 0x9E, 0x9F] then ([], .control_string)
    else if is_bidi_or_spoofing_control character then ([], .normal)
    else if character ∈ [0x0A, 0x0D, 0x09] then ([character], .normal)
    else if character < 0x20 ∨ (0x7F ≤ character ∧ character ≤ 0x9F) then ([], .normal)
    else ([character], .normal)
  | .escape =>
    if character = 0x5B then ([], .csi)
    else if character = 0x5D then ([], .osc)
    else if character ∈ [0x50, 0x58, 0x5E, 0x5F] then ([], .control_string)
    else if 0x20 ≤ character ∧ character ≤ 0x2F then ([], .escape_intermediate)
    else if character = 0x1B then ([], .escape)
    else ([], .normal)
  | .escape_intermediate =>
    if character = 0x1B then ([], .escape)
    else if 0x30 ≤ character ∧ character ≤ 0x7E then ([], .normal)
    else ([], .escape_intermediate)
  | .csi =>
    if character = 0x1B then ([], .escape)
    else if 0x40 ≤ character ∧ character ≤ 0x7E then ([], .normal)
    else ([], .csi)
  | .osc | .control_string =>
    if character = 0x07 ∧ state = .osc then ([], .normal)
    else if character = 0x9C then ([], .normal)
    else if character = 0x1B then ([], if state = .osc then .osc_escape else .control_string_escape)
    else ([], state)
  | .osc_escape | .control_string_escape =>
    if character = 0x5C then ([], .normal)
    else if character = 0x1B then ([], state)
    else if state = .osc_escape ∧ character = 0x07 then ([], .normal)
    else ([], if state = .osc_escape then .osc else .control_string)

/-- Strip terminal controls while preserving ordinary Unicode and chunk state. -/
def sanitize_command_output_chunk : CodePoints → SanitizerState → CodePoints × SanitizerState
  | [], state => ([], state)
  | character :: content, state =>
    let (output, state) := sanitize_character state character
    let (rest, state) := sanitize_command_output_chunk content state
    (output ++ rest, state)

/-- What opens a control sequence. -/
def is_introducer (character : Nat) : Bool :=
  character == 0x1B || character == 0x9B || character == 0x9D || character == 0x90 || character == 0x98 ||
    character == 0x9E || character == 0x9F

/-- A control of C0 or C1, or `DEL`, other than the white space that stays. -/
def is_control (character : Nat) : Bool :=
  (character < 0x20 || (0x7F ≤ character && character ≤ 0x9F)) && character != 0x0A && character != 0x0D &&
    character != 0x09

/-- What may stand in the output. -/
def is_shown (character : Nat) : Bool :=
  !is_introducer character && !is_control character && !is_bidi_or_spoofing_control character

section Chunks

variable {content more : CodePoints} {state : SanitizerState} {character : Nat}

theorem sanitize_append (content more : CodePoints) (state : SanitizerState) :
    sanitize_command_output_chunk (content ++ more) state =
      ((sanitize_command_output_chunk content state).1 ++
          (sanitize_command_output_chunk more (sanitize_command_output_chunk content state).2).1,
        (sanitize_command_output_chunk more (sanitize_command_output_chunk content state).2).2) := by
  induction content generalizing state with
  | nil => rfl
  | cons character content ih =>
    simp only [List.cons_append, sanitize_command_output_chunk, ih, List.append_assoc]

theorem is_control_iff : is_control character = true ↔
    (character < 0x20 ∨ (0x7F ≤ character ∧ character ≤ 0x9F)) ∧ character ∉ [0x0A, 0x0D, 0x09] := by
  simp only [is_control, Bool.and_eq_true, Bool.or_eq_true, decide_eq_true_iff, bne_iff_ne, List.mem_cons,
    List.not_mem_nil, or_false, not_or, and_assoc]

/-- Outside a sequence a character is kept when it may be shown. -/
theorem sanitize_normal (h : is_introducer character = false) :
    sanitize_character .normal character = ([character].filter is_shown, .normal) := by
  have hintroducer : ¬(character = 0x1B) ∧ ¬(character = 0x9B) ∧ ¬(character = 0x9D) ∧
      character ∉ [0x90, 0x98, 0x9E, 0x9F] := by
    simp only [is_introducer, Bool.or_eq_false_iff, beq_eq_false_iff_ne] at h
    simp only [List.mem_cons, List.not_mem_nil, or_false, not_or]
    omega
  obtain ⟨hescape, hcsi, hosc, hstring⟩ := hintroducer
  have hshown : is_shown character = (!is_control character && !is_bidi_or_spoofing_control character) := by
    rw [is_shown, h, Bool.not_false, Bool.true_and]
  rw [sanitize_character, if_neg hescape, if_neg hcsi, if_neg hosc, if_neg hstring, List.filter_singleton, hshown]
  cases hspoofing : is_bidi_or_spoofing_control character with
  | true => rw [if_pos rfl, Bool.not_true, Bool.and_false]; rfl
  | false =>
    rw [if_neg Bool.false_ne_true, Bool.not_false, Bool.and_true]
    by_cases hblank : character ∈ [0x0A, 0x0D, 0x09]
    · have hcontrol : is_control character = false :=
        Bool.eq_false_iff.mpr fun hcontrol => (is_control_iff.mp hcontrol).2 hblank
      rw [if_pos hblank, hcontrol]
      rfl
    · rw [if_neg hblank]
      split
      · next hrange => rw [is_control_iff.mpr ⟨hrange, hblank⟩]; rfl
      · next hrange =>
        have hcontrol : is_control character = false :=
          Bool.eq_false_iff.mpr fun hcontrol => hrange (is_control_iff.mp hcontrol).1
        rw [hcontrol]
        rfl

/-- An introducer is never kept. -/
theorem sanitize_introducer (h : is_introducer character = true) : (sanitize_character .normal character).1 = [] := by
  simp only [is_introducer, Bool.or_eq_true, beq_iff_eq] at h
  rcases h with (((((rfl | rfl) | rfl) | rfl) | rfl) | rfl) | rfl <;> rfl

/-- Inside a sequence nothing is kept. -/
theorem sanitize_inside (h : state ≠ .normal) : (sanitize_character state character).1 = [] := by
  unfold sanitize_character
  cases state with
  | normal => exact absurd rfl h
  | escape | escape_intermediate | csi | osc | control_string | osc_escape | control_string_escape =>
    dsimp only
    split_ifs <;> rfl

theorem kept_is_shown {kept : Nat} (h : kept ∈ (sanitize_character state character).1) : is_shown kept = true := by
  by_cases hstate : state = .normal
  · subst hstate
    cases hintroducer : is_introducer character with
    | true =>
      rw [sanitize_introducer hintroducer] at h
      cases h
    | false =>
      rw [sanitize_normal hintroducer] at h
      exact (List.mem_filter.mp h).2
  · rw [sanitize_inside hstate] at h
    cases h

theorem sanitized_is_shown (h : character ∈ (sanitize_command_output_chunk content state).1) :
    is_shown character = true := by
  induction content generalizing state with
  | nil => cases h
  | cons first content ih =>
    rcases List.mem_append.mp h with hfirst | hrest
    · exact kept_is_shown hfirst
    · exact ih hrest

/-- Ordinary text loses what may not be shown. -/
theorem sanitize_text (h : ∀ character ∈ content, is_introducer character = false) :
    sanitize_command_output_chunk content .normal = (content.filter is_shown, .normal) := by
  induction content with
  | nil => rfl
  | cons first content ih =>
    obtain ⟨hfirst, hrest⟩ := List.forall_mem_cons.mp h
    rw [sanitize_command_output_chunk, sanitize_normal hfirst]
    dsimp only
    rw [ih hrest, ← List.filter_append, List.singleton_append]

/-- What may be shown is left as it is. -/
theorem sanitize_shown (h : ∀ character ∈ content, is_shown character = true) :
    sanitize_command_output_chunk content .normal = (content, .normal) := by
  have htext : ∀ character ∈ content, is_introducer character = false := by
    intro character hmem
    have hshown := h character hmem
    rw [is_shown, Bool.and_eq_true, Bool.and_eq_true, Bool.not_eq_true'] at hshown
    exact hshown.1.1
  rw [sanitize_text htext, List.filter_eq_self.mpr h]

end Chunks

/-! # Control sequences -/

/-- How a control of C1 is written: as an escape and a letter, or as one character. -/
inductive ControlWidth
  | seven_bit
  | eight_bit
  deriving DecidableEq, Repr

def ControlWidth.write (width : ControlWidth) (letter control : Nat) : CodePoints :=
  match width with
  | .seven_bit => [0x1B, letter]
  | .eight_bit => [control]

/-- The string terminator. -/
def ControlWidth.terminator (width : ControlWidth) : CodePoints := width.write 0x5C 0x9C

inductive ControlString
  | device_control
  | start_of_string
  | privacy_message
  | application_command
  deriving DecidableEq, Repr

def ControlString.introducer (width : ControlWidth) : ControlString → CodePoints
  | device_control => width.write 0x50 0x90
  | start_of_string => width.write 0x58 0x98
  | privacy_message => width.write 0x5E 0x9E
  | application_command => width.write 0x5F 0x9F

/-- What ends an operating system command: `BEL`, or a string terminator. -/
inductive CommandEnd
  | bell
  | terminator (width : ControlWidth)
  deriving DecidableEq, Repr

def CommandEnd.characters : CommandEnd → CodePoints
  | bell => [0x07]
  | terminator width => width.terminator

/-- A piece of terminal output: ordinary text, or one complete sequence. -/
inductive Segment
  | text (characters : CodePoints)
  | escape (intermediates : CodePoints) (final : Nat)
  | csi (width : ControlWidth) (parameters intermediates : CodePoints) (final : Nat)
  | osc (width : ControlWidth) (payload : CodePoints) (command_end : CommandEnd)
  | control_string (kind : ControlString) (width : ControlWidth) (payload : CodePoints) (st_width : ControlWidth)

/-- A payload holds no string terminator, and does not end in an escape that the terminator behind it would complete. -/
structure IsPayload (payload : CodePoints) : Prop where
  no_control : 0x9C ∉ payload
  no_escaped : ¬[0x1B, 0x5C] <:+: payload
  no_escape_last : payload.getLast? ≠ some 0x1B

namespace Segment

def characters : Segment → CodePoints
  | text characters => characters
  | escape intermediates final => 0x1B :: (intermediates ++ [final])
  | csi width parameters intermediates final => width.write 0x5B 0x9B ++ (parameters ++ intermediates ++ [final])
  | osc width payload command_end => width.write 0x5D 0x9D ++ (payload ++ command_end.characters)
  | control_string kind width payload st_width => kind.introducer width ++ (payload ++ st_width.terminator)

/-- Text opens no sequence, and a sequence is of the form of its kind. -/
def WellFormed : Segment → Prop
  | text characters => ∀ character ∈ characters, is_introducer character = false
  | escape intermediates final => (∀ character ∈ intermediates, 0x20 ≤ character ∧ character ≤ 0x2F) ∧
      (0x30 ≤ final ∧ final ≤ 0x7E) ∧ (intermediates = [] → final ∉ [0x5B, 0x5D, 0x50, 0x58, 0x5E, 0x5F])
  | csi _ parameters intermediates final => (∀ character ∈ parameters, 0x30 ≤ character ∧ character ≤ 0x3F) ∧
      (∀ character ∈ intermediates, 0x20 ≤ character ∧ character ≤ 0x2F) ∧ (0x40 ≤ final ∧ final ≤ 0x7E)
  | osc _ payload _ => IsPayload payload ∧ 0x07 ∉ payload
  | control_string _ _ payload _ => IsPayload payload

/-- What is left of a piece. -/
def shown : Segment → CodePoints
  | text characters => characters.filter is_shown
  | escape _ _ | csi _ _ _ _ | osc _ _ _ | control_string _ _ _ _ => []

end Segment

section Sequences

variable {payload content : CodePoints} {state behind : SanitizerState} {character : Nat}

/-- That characters lead from a state to another without output. -/
def Skips (content : CodePoints) (state behind : SanitizerState) : Prop :=
  sanitize_command_output_chunk content state = ([], behind)

theorem Skips.append {more : CodePoints} {next : SanitizerState} (h : Skips content state behind)
    (hmore : Skips more behind next) : Skips (content ++ more) state next := by
  unfold Skips at h hmore ⊢
  rw [sanitize_append, h, hmore]
  rfl

theorem skips_one (h : sanitize_character state character = ([], behind)) : Skips [character] state behind := by
  rw [Skips, sanitize_command_output_chunk, h]
  rfl

/-- Characters that leave a state as it is. -/
theorem skips_all (h : ∀ character ∈ content, sanitize_character state character = ([], state)) :
    Skips content state state := by
  induction content with
  | nil => rfl
  | cons first content ih =>
    obtain ⟨hfirst, hrest⟩ := List.forall_mem_cons.mp h
    exact (skips_one hfirst).append (ih hrest)

theorem skips_csi (width : ControlWidth) : Skips (width.write 0x5B 0x9B) .normal .csi := by
  cases width <;> rfl

theorem skips_osc (width : ControlWidth) : Skips (width.write 0x5D 0x9D) .normal .osc := by
  cases width <;> rfl

theorem skips_control_string (kind : ControlString) (width : ControlWidth) :
    Skips (kind.introducer width) .normal .control_string := by
  cases kind <;> cases width <;> rfl

theorem skips_command_end (command_end : CommandEnd) : Skips command_end.characters .osc .normal := by
  cases command_end with
  | bell => rfl
  | terminator width => cases width <;> rfl

theorem skips_terminator (width : ControlWidth) : Skips width.terminator .control_string .normal := by
  cases width <;> rfl

theorem skips_intermediates (h : ∀ character ∈ content, 0x20 ≤ character ∧ character ≤ 0x2F) :
    Skips content .escape (if content = [] then .escape else .escape_intermediate) := by
  cases content with
  | nil => rfl
  | cons first content =>
    obtain ⟨hfirst, hrest⟩ := List.forall_mem_cons.mp h
    have hopen : Skips [first] .escape .escape_intermediate := by
      refine skips_one ?_
      rw [sanitize_character, if_neg (by omega), if_neg (by omega), if_neg (by simp; omega), if_pos hfirst]
    refine hopen.append (skips_all fun character hmem => ?_)
    have hrange := hrest character hmem
    rw [sanitize_character, if_neg (by omega), if_neg (by omega)]

theorem skips_escape {final : Nat} (h : (Segment.escape content final).WellFormed) :
    Skips (Segment.escape content final).characters .normal .normal := by
  obtain ⟨hintermediates, hfinal, hplain⟩ := h
  have hopen : Skips [0x1B] .normal .escape := rfl
  refine hopen.append ((skips_intermediates hintermediates).append (skips_one ?_))
  split
  · next hnil =>
    have hfree := hplain hnil
    simp only [List.mem_cons, List.not_mem_nil, or_false, not_or] at hfree
    rw [sanitize_character, if_neg (by omega), if_neg (by omega), if_neg (by simp; omega), if_neg (by omega),
      if_neg (by omega)]
  · rw [sanitize_character, if_neg (by omega), if_pos hfinal]

theorem skips_parameters (h : ∀ character ∈ content, 0x20 ≤ character ∧ character ≤ 0x3F) :
    Skips content .csi .csi := by
  refine skips_all fun character hmem => ?_
  have hrange := h character hmem
  rw [sanitize_character, if_neg (by omega), if_neg (by omega)]

/-- A string in its two states: within its payload, and behind an escape there. `BEL` may end it. -/
inductive StringStates : Bool → SanitizerState → SanitizerState → Prop
  | osc : StringStates true .osc .osc_escape
  | control_string : StringStates false .control_string .control_string_escape

/-- The state within a string, behind some of its payload. -/
def within (state escaped : SanitizerState) (payload : CodePoints) : SanitizerState :=
  if payload.getLast? = some 0x1B then escaped else state

theorem skips_within {escaped : SanitizerState} {bell : Bool} (hstates : StringStates bell state escaped)
    (hbell : bell = true → character ≠ 0x07) (hcontrol : character ≠ 0x9C) :
    sanitize_character state character = ([], if character = 0x1B then escaped else state) := by
  cases hstates with
  | osc =>
    rw [sanitize_character, if_neg fun h => hbell rfl h.1, if_neg hcontrol]
    split <;> rfl
  | control_string =>
    rw [sanitize_character, if_neg (fun h => nomatch h.2), if_neg hcontrol]
    split <;> rfl

theorem skips_escaped {escaped : SanitizerState} {bell : Bool} (hstates : StringStates bell state escaped)
    (hbell : bell = true → character ≠ 0x07) (hslash : character ≠ 0x5C) :
    sanitize_character escaped character = ([], if character = 0x1B then escaped else state) := by
  cases hstates with
  | osc =>
    rw [sanitize_character, if_neg hslash]
    split
    · rfl
    · rw [if_neg fun h => hbell rfl h.2]
      rfl
  | control_string =>
    rw [sanitize_character, if_neg hslash]
    split
    · rfl
    · rw [if_neg fun h => nomatch h.1]
      rfl

/-- A payload stays within its string. -/
theorem skips_within_payload {escaped : SanitizerState} {bell : Bool} (hstates : StringStates bell state escaped)
    (hbell : bell = true → 0x07 ∉ payload) (hcontrol : 0x9C ∉ payload) (hescaped : ¬[0x1B, 0x5C] <:+: payload) :
    Skips payload state (within state escaped payload) := by
  induction payload using List.reverseRecOn with
  | nil => rfl
  | append_singleton payload character ih =>
    rw [List.mem_append, List.mem_singleton, not_or] at hcontrol
    have hbell' : bell = true → 0x07 ∉ payload ∧ character ≠ 0x07 := by
      intro h
      have hboth := hbell h
      rw [List.mem_append, List.mem_singleton, not_or] at hboth
      exact ⟨hboth.1, Ne.symm hboth.2⟩
    refine (ih (fun h => (hbell' h).1) hcontrol.1 fun h => hescaped (h.trans (List.prefix_append _ _).isInfix)).append
      (skips_one ?_)
    simp only [within, List.getLast?_concat, Option.some.injEq]
    split
    · next hlast =>
      refine skips_escaped hstates (fun h => (hbell' h).2) fun hslash => hescaped ?_
      obtain ⟨front, rfl⟩ := List.getLast?_eq_some_iff.mp hlast
      rw [hslash, List.append_assoc]
      exact (List.suffix_append front _).isInfix
    · exact skips_within hstates (fun h => (hbell' h).2) (Ne.symm hcontrol.2)

theorem skips_payload {escaped : SanitizerState} {bell : Bool} (hstates : StringStates bell state escaped)
    (hpayload : IsPayload payload) (hbell : bell = true → 0x07 ∉ payload) : Skips payload state state := by
  have hskips := skips_within_payload hstates hbell hpayload.no_control hpayload.no_escaped
  rwa [within, if_neg hpayload.no_escape_last] at hskips

/-- A sequence is skipped, and text loses what may not be shown. -/
theorem sanitize_segment {segment : Segment} (h : segment.WellFormed) :
    sanitize_command_output_chunk segment.characters .normal = (segment.shown, .normal) := by
  cases segment with
  | text characters => exact sanitize_text h
  | escape intermediates final => exact skips_escape h
  | csi width parameters intermediates final =>
    obtain ⟨hparameters, hintermediates, hfinal⟩ := h
    refine (skips_csi width).append ((skips_parameters fun character hmem => ?_).append (skips_one ?_))
    · rcases List.mem_append.mp hmem with hmem | hmem
      · have hrange := hparameters character hmem
        omega
      · have hrange := hintermediates character hmem
        omega
    · rw [sanitize_character, if_neg (by omega), if_pos hfinal]
  | osc width payload command_end =>
    exact (skips_osc width).append ((skips_payload .osc h.1 fun _ => h.2).append (skips_command_end command_end))
  | control_string kind width payload st_width =>
    exact (skips_control_string kind width).append ((skips_payload .control_string h nofun).append
      (skips_terminator st_width))

theorem sanitize_segments {segments : List Segment} (h : ∀ segment ∈ segments, segment.WellFormed) :
    sanitize_command_output_chunk (segments.flatMap Segment.characters) .normal =
      (segments.flatMap Segment.shown, .normal) := by
  induction segments with
  | nil => rfl
  | cons segment segments ih =>
    obtain ⟨hsegment, hsegments⟩ := List.forall_mem_cons.mp h
    rw [List.flatMap_cons, List.flatMap_cons, sanitize_append, sanitize_segment hsegment, ih hsegments]

end Sequences

end OhMySubagents
