/-!
Instants and their text.

An instant is a count of seconds since 1970 with nanoseconds; a leap second is the last second of
a minute with a thousand million nanoseconds or more. Dates are those of the Gregorian calendar,
carried on in both directions, within the years -262143 to 262142. The text has whole seconds in
universal time.
-/

namespace DomainSteward

/-- An instant within the years of the calendar. -/
structure Instant where
  /-- Seconds since the start of 1970. -/
  seconds : Int
  /-- Nanoseconds within the second, twice as many within a leap second. -/
  nanos : Nat
deriving DecidableEq, Repr, Inhabited

/-- A date of the Gregorian calendar. -/
structure Date where
  year : Int
  month : Nat
  day : Nat
deriving DecidableEq, Repr

def daySeconds : Int := 86400

/-- The date so many days after the first of January 1970. The count starts anew in each era of
400 years, at the first of March, so that the leap day comes last. -/
def Date.ofDay (day : Int) : Date :=
  let z := day + 719468
  let era := z.fdiv 146097
  let doe := (z - era * 146097).toNat
  let yoe := (doe - doe / 1460 + doe / 36524 - doe / 146096) / 365
  let doy := doe - (365 * yoe + yoe / 4 - yoe / 100)
  let mp := (5 * doy + 2) / 153
  let month := if mp < 10 then mp + 3 else mp - 9
  ⟨yoe + era * 400 + (if month ≤ 2 then 1 else 0), month, doy - (153 * mp + 2) / 5 + 1⟩

namespace Instant

/-- The years of the calendar. -/
def yearInRange (y : Int) : Bool := decide (-262143 ≤ y) && decide (y ≤ 262142)

def date (t : Instant) : Date := Date.ofDay (t.seconds.fdiv daySeconds)

/-- The instant of so many seconds and nanoseconds, if the calendar has it. -/
def ofUnix? (seconds : Int) (nanos : Nat) : Option Instant :=
  let t : Instant := ⟨seconds, nanos⟩
  if yearInRange t.date.year && decide (nanos < 2000000000) &&
      (decide (nanos < 1000000000) || decide (seconds.fmod 60 = 59)) then some t
  else none

/-- A number in at least so many digits. -/
def padded (width n : Nat) : String :=
  let digits := Nat.toDigits 10 n
  String.ofList (List.replicate (width - digits.length) '0' ++ digits)

/-- A year in four digits, with a sign if it is not one of the years 0 to 9999. -/
def yearText (y : Int) : String :=
  if 0 ≤ y ∧ y ≤ 9999 then padded 4 y.toNat
  else (if y < 0 then "-" else "+") ++ padded 4 y.natAbs

/-- The instant to the second, in universal time. -/
def timestamp (t : Instant) : String :=
  let date := t.date
  let s := (t.seconds.fmod daySeconds).toNat
  let second := s % 60 + (if t.nanos ≥ 1000000000 then 1 else 0)
  yearText date.year ++ "-" ++ padded 2 date.month ++ "-" ++ padded 2 date.day ++ "T" ++
    padded 2 (s / 3600) ++ ":" ++ padded 2 (s / 60 % 60) ++ ":" ++ padded 2 second ++ "Z"

end Instant

end DomainSteward
