/-!
Lengths of time.

A `Duration` counts whole nanoseconds and reaches up to 2⁶⁴ seconds, so every number of
milliseconds or seconds that fits 64 bits is one. Arithmetic stops at the longest duration.
-/

namespace DomainSteward

/-- The nanoseconds of the longest duration. -/
def longestNanos : Nat := (UInt64.size - 1) * 1000000000 + 999999999

/-- A length of time in nanoseconds. -/
structure Duration where
  nanos : Nat
  bounded : nanos ≤ longestNanos
deriving DecidableEq, Repr

namespace Duration

def longest : Duration := ⟨longestNanos, Nat.le_refl _⟩

/-- A number of nanoseconds, or the longest duration if that is less. -/
def ofNanos (n : Nat) : Duration := ⟨min n longestNanos, Nat.min_le_right _ _⟩

def ofMillis (n : Nat) : Duration := ofNanos (n * 1000000)

def ofSeconds (n : Nat) : Duration := ofNanos (n * 1000000000)

instance : Inhabited Duration := ⟨ofNanos 0⟩

instance : LE Duration := ⟨fun a b => a.nanos ≤ b.nanos⟩

instance : LT Duration := ⟨fun a b => a.nanos < b.nanos⟩

instance (a b : Duration) : Decidable (a ≤ b) := inferInstanceAs (Decidable (a.nanos ≤ b.nanos))

instance (a b : Duration) : Decidable (a < b) := inferInstanceAs (Decidable (a.nanos < b.nanos))

instance : Min Duration := ⟨fun a b => if a ≤ b then a else b⟩

/-- The duration so many times over, at most the longest one. -/
def saturatingTimes (d : Duration) (n : Nat) : Duration := ofNanos (d.nanos * n)

/-- The duration so many times over, if it does not pass the longest one. -/
def times? (d : Duration) (n : Nat) : Option Duration :=
  if h : d.nanos * n ≤ longestNanos then some ⟨d.nanos * n, h⟩ else none

/-- Whether the duration is empty. -/
def isZero (d : Duration) : Bool := d.nanos = 0

def millis (d : Duration) : Nat := d.nanos / 1000000

/-- The digits of a fraction given in so many places, without the zeros at its end. -/
def fractionDigits (places value : Nat) : List Char :=
  let digits := Nat.toDigits 10 value
  let padded := List.replicate (places - digits.length) '0' ++ digits
  (padded.reverse.dropWhile (· = '0')).reverse

/-- A number with a fraction in so many places, followed by a unit. -/
def withFraction (whole places value : Nat) (unit : String) : String :=
  if value = 0 then toString whole ++ unit
  else toString whole ++ "." ++ String.ofList (fractionDigits places value) ++ unit

/-- The duration in the largest of the units s, ms, µs and ns that it fills. -/
def text (d : Duration) : String :=
  if d.nanos ≥ 1000000000 then
    withFraction (d.nanos / 1000000000) 9 (d.nanos % 1000000000) "s"
  else if d.nanos ≥ 1000000 then withFraction (d.nanos / 1000000) 6 (d.nanos % 1000000) "ms"
  else if d.nanos ≥ 1000 then withFraction (d.nanos / 1000) 3 (d.nanos % 1000) "µs"
  else toString d.nanos ++ "ns"

end Duration

end DomainSteward
