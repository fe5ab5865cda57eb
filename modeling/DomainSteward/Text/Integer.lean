/-!
Integers written in decimal, read into a range.

A text is an optional sign and at least one ASCII digit. A range without negative numbers takes no
minus sign. What is wrong with a text is one of four causes, found from left to right: a digit that
is none comes before a number that has grown too large.
-/

namespace DomainSteward.Text

/-- Why a text is no integer of a range. -/
inductive IntegerError where
  | empty
  | invalidDigit
  | tooLarge
  | tooSmall
deriving DecidableEq, Repr

/-- The wording of a cause. -/
def IntegerError.message : IntegerError → String
  | .empty => "cannot parse integer from empty string"
  | .invalidDigit => "invalid digit found in string"
  | .tooLarge => "number too large to fit in target type"
  | .tooSmall => "number too small to fit in target type"

/-- A range of integers that contains zero. -/
structure IntegerRange where
  lowest : Int
  highest : Int
deriving DecidableEq, Repr

def IntegerRange.unsigned (bits : Nat) : IntegerRange := ⟨0, (1 <<< bits : Nat) - 1⟩

def IntegerRange.signed (bits : Nat) : IntegerRange :=
  ⟨-(1 <<< (bits - 1) : Nat), (1 <<< (bits - 1) : Nat) - 1⟩

/-- Whether the integer lies in the range. -/
def IntegerRange.holds (r : IntegerRange) (n : Int) : Bool :=
  decide (r.lowest ≤ n) && decide (n ≤ r.highest)

/-- Reads digits onto a number, upwards or downwards, and stops at the first fault. -/
def readDigits (r : IntegerRange) (negative : Bool) : Int → List Char → Except IntegerError Int
  | n, [] => .ok n
  | n, c :: rest =>
    if c.isDigit then
      let digit : Int := c.toNat - 48
      let next := if negative then n * 10 - digit else n * 10 + digit
      if r.highest < next then .error .tooLarge
      else if next < r.lowest then .error .tooSmall
      else readDigits r negative next rest
    else .error .invalidDigit

/-- Reads digits, of which there has to be one. -/
def readSome (r : IntegerRange) (negative : Bool) : List Char → Except IntegerError Int
  | [] => .error .invalidDigit
  | cs => readDigits r negative 0 cs

/-- The integer that a text writes. -/
def readInteger (r : IntegerRange) (s : String) : Except IntegerError Int :=
  match s.toList with
  | [] => .error .empty
  | '+' :: rest => readSome r false rest
  | '-' :: rest => if r.lowest < 0 then readSome r true rest else .error .invalidDigit
  | cs => readDigits r false 0 cs

end DomainSteward.Text
