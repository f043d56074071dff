import OhMySubagents.TaskEvents.Datetimes

namespace OhMySubagents

/-- The microseconds that a zone is ahead of UTC. -/
abbrev ZoneOffset := {microseconds : Int // -86400000000 < microseconds ∧ microseconds < 86400000000}

/-- A `datetime` with a fixed offset from UTC or none. -/
structure Timestamp where
  naive : NaiveDatetime
  tzinfo : Option ZoneOffset
  deriving DecidableEq

namespace Time

def microsecond_of_day (time : Time) : Nat :=
  ((time.hour * 60 + time.minute) * 60 + time.second) * 1000000 + time.microsecond

def of_microsecond (microsecond : Nat) (h : microsecond < 86400000000) : Time where
  hour := microsecond / 3600000000
  minute := microsecond / 60000000 % 60
  second := microsecond / 1000000 % 60
  microsecond := microsecond % 1000000
  valid := by omega

theorem microsecond_of_day_lt (time : Time) : time.microsecond_of_day < 86400000000 := by
  have := time.valid
  unfold microsecond_of_day
  omega

theorem of_microsecond_of_day (time : Time) :
    of_microsecond time.microsecond_of_day time.microsecond_of_day_lt = time := by
  obtain ⟨hour, minute, second, microsecond, hvalid⟩ := time
  simp only [of_microsecond, microsecond_of_day, mk.injEq]
  omega

end Time

namespace Timestamp

def utc : ZoneOffset := ⟨0, by decide⟩

/-- `_as_utc`; `none` when the instant leaves the representable years, which is an `OverflowError`. -/
def as_utc (value : Timestamp) : Option Timestamp :=
  match value.tzinfo with
  | none => some { value with tzinfo := some utc }
  | some ⟨ahead, hahead⟩ =>
    have htime := value.naive.time.microsecond_of_day_lt
    let microsecond : Int := value.naive.time.microsecond_of_day - ahead
    if hbefore : microsecond < 0 then
      value.naive.date.previous.map fun date =>
        ⟨⟨date, .of_microsecond (microsecond + 86400000000).toNat (by omega)⟩, some utc⟩
    else if hafter : 86400000000 ≤ microsecond then
      value.naive.date.next.map fun date =>
        ⟨⟨date, .of_microsecond (microsecond - 86400000000).toNat (by omega)⟩, some utc⟩
    else some ⟨⟨value.naive.date, .of_microsecond microsecond.toNat (by omega)⟩, some utc⟩

/-- Digits behind a point, when there is anything to write. -/
def fraction_text (microsecond : Nat) : List Char :=
  if microsecond = 0 then [] else '.' :: (two_digits (microsecond / 10000) ++
    two_digits (microsecond / 100 % 100) ++ two_digits (microsecond % 100))

/-- The seconds of an offset, when it has some. -/
def seconds_text (microsecond : Nat) : List Char :=
  if microsecond = 0 then [] else ':' :: (two_digits (microsecond / 1000000) ++ fraction_text (microsecond % 1000000))

/-- The offset behind an `isoformat`. -/
def offset_text : Option ZoneOffset → List Char
  | none => []
  | some ⟨ahead, _⟩ =>
    (if ahead < 0 then '-' else '+') :: (two_digits (ahead.natAbs / 3600000000) ++
      ':' :: (two_digits (ahead.natAbs / 60000000 % 60) ++ seconds_text (ahead.natAbs % 60000000)))

def isoformat (value : Timestamp) : List Char := value.naive.isoformat ++ offset_text value.tzinfo

def read_seconds : List Char → Option Nat
  | [] => some 0
  | ':' :: s₁ :: s₂ :: rest => do
    let (microsecond, rest) ← read_fraction rest
    if rest = [] then return (← read_two s₁ s₂) * 1000000 + microsecond else none
  | _ => none

def signed_offset (sign : Char) (microsecond : Nat) : Option ZoneOffset :=
  if h : microsecond < 86400000000 then
    if sign = '+' then some ⟨microsecond, by omega⟩
    else if sign = '-' then some ⟨-microsecond, by omega⟩
    else none
  else none

def read_offset : List Char → Option (Option ZoneOffset)
  | [] => some none
  | sign :: h₁ :: h₂ :: ':' :: m₁ :: m₂ :: rest => do
    let minutes := (← read_two h₁ h₂) * 60 + (← read_two m₁ m₂)
    return some (← signed_offset sign (minutes * 60000000 + (← read_seconds rest)))
  | _ => none

/-- `fromisoformat` for the one form that `isoformat` writes. -/
def read_isoformat : List Char → Option Timestamp
  | y₁ :: y₂ :: y₃ :: y₄ :: '-' :: m₁ :: m₂ :: '-' :: d₁ :: d₂ :: 'T' :: h₁ :: h₂ :: ':' :: n₁ :: n₂ :: ':' :: s₁ ::
      s₂ :: rest => do
    let year := 100 * (← read_two y₁ y₂) + (← read_two y₃ y₄)
    let month ← read_two m₁ m₂
    let day ← read_two d₁ d₂
    let hour ← read_two h₁ h₂
    let minute ← read_two n₁ n₂
    let second ← read_two s₁ s₂
    let (microsecond, rest) ← read_fraction rest
    let tzinfo ← read_offset rest
    if hdate : (1 ≤ year ∧ year ≤ 9999) ∧ (1 ≤ month ∧ month ≤ 12) ∧ 1 ≤ day ∧ day ≤ days_in_month year month then
      if htime : hour < 24 ∧ minute < 60 ∧ second < 60 ∧ microsecond < 1000000 then
        return ⟨⟨⟨year, month, day, hdate⟩, ⟨hour, minute, second, microsecond, htime⟩⟩, tzinfo⟩
      else none
    else none
  | _ => none

section RoundTrip

variable {microsecond : Nat} {rest : List Char}

/-- A value in UTC is its own. -/
theorem as_utc_utc (naive : NaiveDatetime) : as_utc ⟨naive, some utc⟩ = some ⟨naive, some utc⟩ := by
  have htime := naive.time.microsecond_of_day_lt
  simp only [as_utc, utc, Int.sub_zero]
  rw [dif_neg (by omega), dif_neg (by omega)]
  simp only [Int.toNat_natCast, Time.of_microsecond_of_day]

theorem as_utc_tzinfo {value converted : Timestamp} (h : value.as_utc = some converted) :
    converted.tzinfo = some utc := by
  unfold as_utc at h
  split at h
  · cases h
    rfl
  · dsimp only at h
    split at h
    · obtain ⟨date, -, rfl⟩ := Option.map_eq_some_iff.mp h
      rfl
    · split at h
      · obtain ⟨date, -, rfl⟩ := Option.map_eq_some_iff.mp h
        rfl
      · cases h
        rfl

theorem read_fraction_text (h : microsecond < 1000000) (hrest : rest.head? ≠ some '.') :
    read_fraction (fraction_text microsecond ++ rest) = some (microsecond, rest) := by
  unfold fraction_text
  split
  · next hzero =>
    subst hzero
    rw [List.nil_append, read_fraction.eq_def]
    split
    · exact absurd rfl hrest
    · rfl
  · simp only [two_digits, List.cons_append, List.nil_append, read_fraction,
      read_two_digits (show microsecond / 10000 < 100 by omega),
      read_two_digits (show microsecond / 100 % 100 < 100 by omega),
      read_two_digits (show microsecond % 100 < 100 by omega), Option.bind_eq_bind, Option.bind_some, Option.pure_def,
      Option.some.injEq, Prod.mk.injEq, and_true]
    omega

theorem read_seconds_text (h : microsecond < 60000000) :
    read_seconds (seconds_text microsecond) = some microsecond := by
  unfold seconds_text
  split
  · next hzero =>
    subst hzero
    rfl
  · have hfraction := @read_fraction_text (microsecond % 1000000) [] (by omega) (by simp)
    rw [List.append_nil] at hfraction
    simp only [two_digits, List.cons_append, List.nil_append, read_seconds, hfraction, Option.bind_eq_bind,
      Option.bind_some, if_true, read_two_digits (show microsecond / 1000000 < 100 by omega), Option.pure_def,
      Option.some.injEq]
    omega

theorem signed_offset_natAbs (ahead : ZoneOffset) :
    signed_offset (if ahead.val < 0 then '-' else '+') ahead.val.natAbs = some ahead := by
  obtain ⟨ahead, hlow, hhigh⟩ := ahead
  rw [signed_offset, dif_pos (by dsimp only; omega)]
  dsimp only
  split
  · rw [if_neg (by decide), if_pos rfl]
    simp only [Option.some.injEq, Subtype.mk.injEq]
    omega
  · rw [if_pos rfl]
    simp only [Option.some.injEq, Subtype.mk.injEq]
    omega

theorem read_offset_text (tzinfo : Option ZoneOffset) : read_offset (offset_text tzinfo) = some tzinfo := by
  cases tzinfo with
  | none => rfl
  | some ahead =>
    have hrange := ahead.property
    have hseconds := @read_seconds_text (ahead.val.natAbs % 60000000) (by omega)
    have hminutes : ahead.val.natAbs / 60000000 % 60 < 100 := by omega
    have hhours : ahead.val.natAbs / 3600000000 < 100 := by omega
    have hahead : (ahead.val.natAbs / 3600000000 * 60 + ahead.val.natAbs / 60000000 % 60) * 60000000 +
        ahead.val.natAbs % 60000000 = ahead.val.natAbs := by omega
    rw [offset_text, two_digits, two_digits, List.cons_append, List.cons_append, List.nil_append, List.cons_append,
      List.cons_append, List.nil_append, read_offset]
    refine Option.bind_eq_some_iff.mpr ⟨_, read_two_digits hhours, ?_⟩
    refine Option.bind_eq_some_iff.mpr ⟨_, read_two_digits hminutes, ?_⟩
    refine Option.bind_eq_some_iff.mpr ⟨_, hseconds, ?_⟩
    refine Option.bind_eq_some_iff.mpr ⟨ahead, ?_, rfl⟩
    rw [hahead, signed_offset_natAbs]

private theorem offset_text_head (tzinfo : Option ZoneOffset) : (offset_text tzinfo).head? ≠ some '.' := by
  obtain _ | ⟨ahead, hahead⟩ := tzinfo
  · nofun
  · unfold offset_text
    dsimp only
    split <;> simp

theorem read_isoformat_isoformat (value : Timestamp) : read_isoformat value.isoformat = some value := by
  obtain ⟨⟨⟨year, month, day, hdate⟩, hour, minute, second, microsecond, htime⟩, tzinfo⟩ := value
  have hday := days_in_month_le year month
  have hfraction := read_fraction_text htime.2.2.2 (offset_text_head tzinfo)
  simp only [fraction_text, two_digits, List.cons_append, List.nil_append] at hfraction
  simp only [isoformat, NaiveDatetime.isoformat, two_digits, List.cons_append, List.nil_append, read_isoformat]
  rw [read_two_digits (by omega), read_two_digits (by omega), read_two_digits (by omega), read_two_digits (by omega),
    read_two_digits (by omega), read_two_digits (by omega), read_two_digits (by omega)]
  simp only [Option.bind_eq_bind, Option.bind_some, hfraction, read_offset_text, Option.pure_def]
  have hyear : 100 * (year / 100) + year % 100 = year := Nat.div_add_mod year 100
  simp only [hyear]
  rw [dif_pos hdate, dif_pos htime]

end RoundTrip

end Timestamp

end OhMySubagents
