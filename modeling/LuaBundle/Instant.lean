/-! # Points in time

A bundle says when it was made, to the second and in universal time. Days are counted in the
proleptic Gregorian calendar. A leap second is the second after the last one of a minute, and is
given as a fraction of more than a second.
-/

namespace LuaBundle

/-- A day of the Gregorian calendar. -/
structure CalendarDay where
  year : Int
  month : Nat
  day : Nat
  deriving Repr, DecidableEq

namespace CalendarDay

/-- The day a number of days after the first of January 1970. Years are counted from March here, so
that a leap day is the last day of its year; 400 years have 146097 days. -/
def ofEpochDay (epochDay : Int) : CalendarDay :=
  let shifted := epochDay + 719468
  let era := shifted.fdiv 146097
  let dayOfEra := (shifted - era * 146097).toNat
  let yearOfEra :=
    (dayOfEra - dayOfEra / 1460 + dayOfEra / 36524 - dayOfEra / 146096) / 365
  let dayOfYear := dayOfEra - (365 * yearOfEra + yearOfEra / 4 - yearOfEra / 100)
  let monthFromMarch := (5 * dayOfYear + 2) / 153
  let day := dayOfYear - (153 * monthFromMarch + 2) / 5 + 1
  let month := if monthFromMarch < 10 then monthFromMarch + 3 else monthFromMarch - 9
  let year := era * 400 + yearOfEra
  ⟨if month ≤ 2 then year + 1 else year, month, day⟩

end CalendarDay

/-- A point in time: a day and a second of it, which in a leap second is one more than the clock's
other seconds. -/
structure Instant where
  day : CalendarDay
  hour : Nat
  minute : Nat
  second : Nat
  deriving Repr, DecidableEq

namespace Instant

/-- The years that can be told. -/
def firstYear : Int := -262143

/-- The years that can be told. -/
def lastYear : Int := 262142

/-- The point in time some seconds and nanoseconds after the start of 1970. A thousand million
nanoseconds and more are a leap second, and only the last second of a minute may have them. -/
def ofTimestamp? (seconds : Int) (nanos : Nat) : Option Instant :=
  let day := CalendarDay.ofEpochDay (seconds.fdiv 86400)
  let secondOfDay := (seconds.fmod 86400).toNat
  let second := secondOfDay % 60
  let leap := 1000000000 ≤ nanos
  if day.year < firstYear ∨ lastYear < day.year then none
  else if 2000000000 ≤ nanos ∨ (leap ∧ second ≠ 59) then none
  else some ⟨day, secondOfDay / 3600, secondOfDay / 60 % 60, if leap then 60 else second⟩

/-- A number with zeros in front up to a width. -/
def padded (width : Nat) (n : Nat) : String :=
  let digits := (toString n).toList
  String.ofList (List.replicate (width - digits.length) '0' ++ digits)

/-- A year of four digits is written plainly; every other carries a sign. -/
def renderYear (year : Int) : String :=
  if 0 ≤ year ∧ year ≤ 9999 then padded 4 year.toNat
  else (if year < 0 then "-" else "+") ++ padded 4 year.natAbs

/-- A point in time as RFC 3339 writes it, to the second and in universal time. -/
def render (instant : Instant) : String :=
  renderYear instant.day.year ++ "-" ++ padded 2 instant.day.month ++ "-" ++
    padded 2 instant.day.day ++ "T" ++ padded 2 instant.hour ++ ":" ++
    padded 2 instant.minute ++ ":" ++ padded 2 instant.second ++ "Z"

end Instant

end LuaBundle
