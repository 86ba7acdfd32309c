import LanguageHost.Number.Binary64

/-!
# Instants

An instant is a number of microseconds since the start of the year 2024. It is shown as a date and
a time of day in whole seconds, with the part of a second cut off toward the past.
-/

namespace LanguageHost

/-- Microseconds since the start of the year 2024. -/
abbrev Instant := Int

namespace Instant

/-- A calendar date. -/
structure Date where
  year : Int
  month : Nat
  day : Nat
  deriving DecidableEq, Repr

/-- The date a number of days after the first of January 2024. Years are counted from March in
eras of 400 years, so that the leap day is the last day of a year. -/
def dateOf (days : Int) : Date :=
  let shifted := days + 739191
  let era := shifted.fdiv 146097
  let dayOfEra := (shifted - era * 146097).toNat
  let yearOfEra := (dayOfEra - dayOfEra / 1460 + dayOfEra / 36524 - dayOfEra / 146096) / 365
  let dayOfYear := dayOfEra - (365 * yearOfEra + yearOfEra / 4 - yearOfEra / 100)
  let shiftedMonth := (5 * dayOfYear + 2) / 153
  let day := dayOfYear - (153 * shiftedMonth + 2) / 5 + 1
  let month := if shiftedMonth < 10 then shiftedMonth + 3 else shiftedMonth - 9
  let year := (yearOfEra : Int) + era * 400 + (if month ≤ 2 then 1 else 0)
  ⟨year, month, day⟩

/-- The whole days from the start of the year 2024 to an instant. -/
def days (t : Instant) : Int :=
  t.fdiv 86400000000

/-- The calendar has the years 1 to 9999. -/
def isInCalendar (t : Instant) : Bool :=
  let year := (dateOf t.days).year
  1 ≤ year && year ≤ 9999

/-- A number in at least so many digits. -/
def padded (width n : Nat) : String :=
  let ds := Nat.toDigits 10 n
  String.ofList (List.replicate (width - ds.length) '0' ++ ds)

/-- Date and time of day; the mark stands between hours, minutes and seconds. -/
def format (mark : String) (t : Instant) : String :=
  let seconds := t.fdiv 1000000
  let days := seconds.fdiv 86400
  let second := (seconds - days * 86400).toNat
  let date := dateOf days
  padded 4 date.year.toNat ++ "-" ++ padded 2 date.month ++ "-" ++ padded 2 date.day ++ "T" ++
    padded 2 (second / 3600) ++ mark ++ padded 2 (second / 60 % 60) ++ mark ++
    padded 2 (second % 60)

/-- Whole milliseconds from one instant to another, computed in double precision: the difference
in seconds is rounded, its thousandfold is rounded, and the rest is cut off toward zero. -/
def millisecondsSince (before after : Instant) : Int :=
  let us := after - before
  ((Binary64.ofRatio (us < 0) us.natAbs 1000000).scale 1000).truncate

end Instant

end LanguageHost
