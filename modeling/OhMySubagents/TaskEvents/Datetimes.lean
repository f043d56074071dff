import Mathlib.Tactic.IntervalCases
import OhMySubagents.Json.Codec

open JsonData

namespace OhMySubagents

def is_leap (year : Nat) : Bool := year % 4 == 0 && (year % 100 != 0 || year % 400 == 0)

def days_in_month (year month : Nat) : Nat :=
  if month = 2 then if is_leap year then 29 else 28
  else if month = 4 ∨ month = 6 ∨ month = 9 ∨ month = 11 then 30
  else 31

structure Date where
  year : Nat
  month : Nat
  day : Nat
  valid : (1 ≤ year ∧ year ≤ 9999) ∧ (1 ≤ month ∧ month ≤ 12) ∧ 1 ≤ day ∧ day ≤ days_in_month year month
  deriving DecidableEq

structure Time where
  hour : Nat
  minute : Nat
  second : Nat
  microsecond : Nat
  valid : hour < 24 ∧ minute < 60 ∧ second < 60 ∧ microsecond < 1000000
  deriving DecidableEq

/-- A `datetime` without `tzinfo`. -/
structure NaiveDatetime where
  date : Date
  time : Time
  deriving DecidableEq

/-- The minutes that a zone is ahead of UTC. -/
abbrev UtcOffset := {minutes : Int // -1440 < minutes ∧ minutes < 1440}

structure Datetime where
  naive : NaiveDatetime
  offset : Option UtcOffset
  deriving DecidableEq

theorem days_in_month_pos (year month : Nat) : 1 ≤ days_in_month year month := by
  unfold days_in_month
  repeat' split
  all_goals decide

namespace Date

/-- `none` when the year is out of range. -/
def next (date : Date) : Option Date :=
  if hday : date.day < days_in_month date.year date.month then
    some ⟨date.year, date.month, date.day + 1, date.valid.1, date.valid.2.1, by omega, hday⟩
  else if hmonth : date.month < 12 then
    some ⟨date.year, date.month + 1, 1, date.valid.1, ⟨by omega, hmonth⟩, Nat.le_refl 1, days_in_month_pos _ _⟩
  else if hyear : date.year < 9999 then
    some ⟨date.year + 1, 1, 1, ⟨by omega, hyear⟩, by omega, Nat.le_refl 1, days_in_month_pos _ _⟩
  else none

def previous (date : Date) : Option Date :=
  if hday : 1 < date.day then
    some ⟨date.year, date.month, date.day - 1, date.valid.1, date.valid.2.1, by omega, by have := date.valid; omega⟩
  else if hmonth : 1 < date.month then
    some ⟨date.year, date.month - 1, days_in_month date.year (date.month - 1), date.valid.1,
      ⟨by omega, by have := date.valid; omega⟩, days_in_month_pos _ _, Nat.le_refl _⟩
  else if hyear : 1 < date.year then
    some ⟨date.year - 1, 12, days_in_month (date.year - 1) 12, ⟨by omega, by have := date.valid; omega⟩, by omega,
      days_in_month_pos _ _, Nat.le_refl _⟩
  else none

end Date

/-- A time of the same second at another minute of the day. -/
def Time.at_minute (time : Time) (minute_of_day : Nat) (h : minute_of_day < 1440) : Time where
  hour := minute_of_day / 60
  minute := minute_of_day % 60
  second := time.second
  microsecond := time.microsecond
  valid := ⟨by omega, by omega, time.valid.2.2⟩

namespace Datetime

/-- `astimezone(UTC).replace(tzinfo=None)`; a value without zone stands for UTC. `none` when out of range. -/
def as_utc (value : Datetime) : Option NaiveDatetime :=
  match value.offset with
  | none => some value.naive
  | some ⟨minutes, hminutes⟩ =>
    let time := value.naive.time
    have htime := time.valid
    let minute_of_day : Int := time.hour * 60 + time.minute - minutes
    if hbefore : minute_of_day < 0 then
      value.naive.date.previous.map fun date => ⟨date, time.at_minute (minute_of_day + 1440).toNat (by omega)⟩
    else if hafter : 1440 ≤ minute_of_day then
      value.naive.date.next.map fun date => ⟨date, time.at_minute (minute_of_day - 1440).toNat (by omega)⟩
    else some ⟨value.naive.date, time.at_minute minute_of_day.toNat (by omega)⟩

end Datetime

def digit (n : Nat) : Char := Char.ofNat (0x30 + n % 10)

def two_digits (n : Nat) : List Char := [digit (n / 10), digit n]

def read_digit (c : Char) : Option Nat := if c.isDigit then some (c.toNat - 0x30) else none

def read_two (c d : Char) : Option Nat := do return 10 * (← read_digit c) + (← read_digit d)

/-- `isoformat` of a `datetime` without `tzinfo`. -/
def NaiveDatetime.isoformat (value : NaiveDatetime) : List Char :=
  two_digits (value.date.year / 100) ++ two_digits (value.date.year % 100) ++ '-' :: (two_digits value.date.month ++
    '-' :: (two_digits value.date.day ++ 'T' :: (two_digits value.time.hour ++ ':' :: (two_digits value.time.minute ++
      ':' :: (two_digits value.time.second ++ if value.time.microsecond = 0 then [] else
        '.' :: (two_digits (value.time.microsecond / 10000) ++ two_digits (value.time.microsecond / 100 % 100) ++
          two_digits (value.time.microsecond % 100)))))))

/-- The zone in the text of a dumped `datetime`. -/
def zone_text : Option UtcOffset → List Char
  | none => []
  | some ⟨minutes, _⟩ =>
    if minutes = 0 then ['Z']
    else (if minutes < 0 then '-' else '+') ::
      (two_digits (minutes.natAbs / 60) ++ ':' :: two_digits (minutes.natAbs % 60))

private theorem negated_offset {minutes : Nat} (h : minutes < 1440) :
    -1440 < -(minutes : Int) ∧ -(minutes : Int) < 1440 := by
  omega

def read_zone : List Char → Option (Option UtcOffset)
  | [] => some none
  | ['Z'] => some (some ⟨0, by decide⟩)
  | [sign, h₁, h₂, ':', m₁, m₂] => do
    let minutes : Nat := 60 * (← read_two h₁ h₂) + (← read_two m₁ m₂)
    if h : minutes < 1440 then
      if sign = '+' then return some ⟨minutes, by omega⟩
      else if sign = '-' then return some ⟨-minutes, negated_offset h⟩
      else none
    else none
  | _ => none

def read_fraction : List Char → Option (Nat × List Char)
  | '.' :: a₁ :: a₂ :: b₁ :: b₂ :: c₁ :: c₂ :: rest => do
    return (10000 * (← read_two a₁ a₂) + 100 * (← read_two b₁ b₂) + (← read_two c₁ c₂), rest)
  | rest => some (0, rest)

/-- Read the text of a dumped `datetime`. -/
def Datetime.parse : List Char → Option Datetime
  | y₁ :: y₂ :: y₃ :: y₄ :: '-' :: m₁ :: m₂ :: '-' :: d₁ :: d₂ :: 'T' :: h₁ :: h₂ :: ':' :: n₁ :: n₂ :: ':' :: s₁ ::
      s₂ :: rest => do
    let year := 100 * (← read_two y₁ y₂) + (← read_two y₃ y₄)
    let month ← read_two m₁ m₂
    let day ← read_two d₁ d₂
    let hour ← read_two h₁ h₂
    let minute ← read_two n₁ n₂
    let second ← read_two s₁ s₂
    let (microsecond, rest) ← read_fraction rest
    let offset ← read_zone rest
    if hdate : (1 ≤ year ∧ year ≤ 9999) ∧ (1 ≤ month ∧ month ≤ 12) ∧ 1 ≤ day ∧ day ≤ days_in_month year month then
      if htime : hour < 24 ∧ minute < 60 ∧ second < 60 ∧ microsecond < 1000000 then
        return ⟨⟨⟨year, month, day, hdate⟩, ⟨hour, minute, second, microsecond, htime⟩⟩, offset⟩
      else none
    else none
  | _ => none

/-- The text that a model dumps a `datetime` to. -/
def Datetime.text (value : Datetime) : List Char := value.naive.isoformat ++ zone_text value.offset

private theorem read_digit_digit (n : Nat) : read_digit (digit n) = some (n % 10) := by
  unfold digit
  have hlt : n % 10 < 10 := Nat.mod_lt _ (by decide)
  generalize n % 10 = k at hlt
  interval_cases k <;> decide

theorem read_two_digits {n : Nat} (h : n < 100) : read_two (digit (n / 10)) (digit n) = some n := by
  unfold read_two
  rw [read_digit_digit, read_digit_digit]
  simp only [Option.bind_eq_bind, Option.bind_some, Option.pure_def, Option.some.injEq]
  omega

theorem read_zone_text (offset : Option UtcOffset) : read_zone (zone_text offset) = some offset := by
  obtain _ | ⟨minutes, hlow, hhigh⟩ := offset
  · rfl
  unfold zone_text
  dsimp only
  split
  · next hzero =>
    subst hzero
    rfl
  next hne =>
    have hhours : minutes.natAbs / 60 < 100 := by omega
    have hminutes : minutes.natAbs % 60 < 100 := by omega
    simp only [two_digits, List.cons_append, List.nil_append, read_zone, read_two_digits hhours,
      read_two_digits hminutes, Option.bind_eq_bind, Option.bind_some, Option.pure_def]
    rw [dif_pos (by omega)]
    by_cases hneg : minutes < 0
    · rw [if_pos hneg, if_neg (by decide), if_pos rfl]
      simp only [Option.some.injEq, Subtype.mk.injEq]
      omega
    · rw [if_neg hneg, if_pos rfl]
      simp only [Option.some.injEq, Subtype.mk.injEq]
      omega

private theorem read_fraction_zone_text (offset : Option UtcOffset) :
    read_fraction (zone_text offset) = some (0, zone_text offset) := by
  obtain _ | ⟨minutes, -, -⟩ := offset
  · rfl
  unfold zone_text
  dsimp only
  split
  · rfl
  split <;> rfl

private theorem read_fraction_text {microsecond : Nat} (h : microsecond < 1000000) (offset : Option UtcOffset) :
    read_fraction ((if microsecond = 0 then [] else '.' :: (two_digits (microsecond / 10000) ++
      two_digits (microsecond / 100 % 100) ++ two_digits (microsecond % 100))) ++ zone_text offset) =
      some (microsecond, zone_text offset) := by
  split
  · next hzero =>
    subst hzero
    exact read_fraction_zone_text offset
  · simp only [two_digits, List.cons_append, List.nil_append, read_fraction,
      read_two_digits (show microsecond / 10000 < 100 by omega),
      read_two_digits (show microsecond / 100 % 100 < 100 by omega),
      read_two_digits (show microsecond % 100 < 100 by omega), Option.bind_eq_bind, Option.bind_some, Option.pure_def,
      Option.some.injEq, Prod.mk.injEq, and_true]
    omega

theorem days_in_month_le (year month : Nat) : days_in_month year month ≤ 31 := by
  unfold days_in_month
  repeat' split
  all_goals decide

theorem Datetime.parse_text (value : Datetime) : parse value.text = some value := by
  obtain ⟨⟨⟨year, month, day, hdate⟩, hour, minute, second, microsecond, htime⟩, offset⟩ := value
  have hday := days_in_month_le year month
  simp only [text, NaiveDatetime.isoformat, two_digits, List.cons_append, List.nil_append, parse]
  rw [read_two_digits (by omega), read_two_digits (by omega), read_two_digits (by omega), read_two_digits (by omega),
    read_two_digits (by omega), read_two_digits (by omega), read_two_digits (by omega)]
  have hfraction := read_fraction_text htime.2.2.2 offset
  simp only [two_digits, List.cons_append, List.nil_append] at hfraction
  simp only [Option.bind_eq_bind, Option.bind_some, hfraction, read_zone_text, Option.pure_def]
  have hyear : 100 * (year / 100) + year % 100 = year := Nat.div_add_mod year 100
  simp only [hyear]
  rw [dif_pos hdate, dif_pos htime]

def Datetime.codec : Codec Datetime :=
  Codec.string.via (fun value => String.ofList value.text) (fun s => parse s.toList) fun value => by
    simp [parse_text]

theorem Datetime.ne_null (value : Datetime) : codec.encode value ≠ .null := Codec.string_via_ne_null _ _ _ value

end OhMySubagents
