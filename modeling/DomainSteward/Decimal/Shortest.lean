/-!
The fewest digits that read back as a double.

A finite double stands for all reals that round to it. The coarsest decimal grid with a point in
that interval gives the fewest digits; of two points the nearer one is taken. All comparisons are
of natural numbers.
-/

namespace DomainSteward

/-- A natural number scaled by a power of ten. -/
structure Decimal where
  digits : Nat
  exponent : Int
deriving DecidableEq, Repr, Inhabited

/-- The magnitude of a finite double, and the reals that round to it, in units of a power of
two. -/
structure RoundingInterval where
  /-- The magnitude. -/
  value : Nat
  /-- The lower end. -/
  low : Nat
  /-- The upper end. -/
  high : Nat
  /-- Whether the ends belong to the interval. -/
  closed : Bool
  /-- The power of two that is the unit. -/
  unit : Int
deriving Repr

namespace RoundingInterval

/-- The interval of a magnitude given by the bits of its exponent and its fraction. Below a power
of two the next double is only half as far away as above it. -/
def ofParts (exponent fraction : Nat) : RoundingInterval :=
  let m := if exponent = 0 then fraction else fraction + 1 <<< 52
  let q : Int := if exponent = 0 then -1074 else (exponent : Int) - 1075
  { value := 4 * m
    low := if fraction = 0 ∧ 1 < exponent then 4 * m - 1 else 4 * m - 2
    high := 4 * m + 2
    closed := m % 2 = 0
    unit := q - 2 }

/-- The factors that bring magnitudes and points of a decimal grid to one scale. -/
def scales (i : RoundingInterval) (grid : Int) : Nat × Nat :=
  (Nat.pow 10 (-grid).toNat <<< i.unit.toNat, Nat.pow 10 grid.toNat <<< (-i.unit).toNat)

/-- Whether a point of a grid lies in the interval. -/
def holds (i : RoundingInterval) (grid : Int) (point : Nat) : Bool :=
  let (a, b) := i.scales grid
  if i.closed then decide (i.low * a ≤ point * b) && decide (point * b ≤ i.high * a)
  else decide (i.low * a < point * b) && decide (point * b < i.high * a)

/-- The point of a grid in the interval that is nearest to the magnitude. -/
def pointOn? (i : RoundingInterval) (grid : Int) : Option Nat :=
  let (a, b) := i.scales grid
  let below := i.value * a / b
  let above := below + 1
  match i.holds grid below && decide (0 < below), i.holds grid above with
  | true, true =>
    some (if i.value * a - below * b ≤ above * b - i.value * a then below else above)
  | true, false => some below
  | false, true => some above
  | false, false => none

/-- The first of so many grids, each ten times finer than the one before, that has a point. -/
def search (i : RoundingInterval) (grid : Int) : Nat → Decimal
  | 0 => ⟨0, 0⟩
  | n + 1 =>
    match i.pointOn? grid with
    | some point => ⟨point, grid⟩
    | none => i.search (grid - 1) n

/-- The shortest decimal in the interval. No double is above 10³⁰⁹ and every double reads back
from a multiple of 10⁻³⁴³. -/
def shortest (i : RoundingInterval) : Decimal := i.search 309 653

end RoundingInterval

namespace Decimal

/-- The digits of a decimal in positional notation. -/
def positional (d : Decimal) : List Char :=
  let digits := Nat.toDigits 10 d.digits
  if 0 ≤ d.exponent then digits ++ List.replicate d.exponent.toNat '0'
  else
    let places := d.exponent.natAbs
    let padded := List.replicate (places + 1 - digits.length) '0' ++ digits
    let whole := padded.length - places
    padded.take whole ++ '.' :: padded.drop whole

/-- The shortest decimal that reads back as the magnitude of a finite double. -/
def ofFloat (x : Float) : Decimal :=
  let bits := x.toBits.toNat
  let exponent := bits >>> 52 % 1 <<< 11
  let fraction := bits % 1 <<< 52
  if exponent = 0 ∧ fraction = 0 then ⟨0, 0⟩
  else (RoundingInterval.ofParts exponent fraction).shortest

end Decimal

end DomainSteward
