/-!
What cuts a computation short.

A panic gives no result. It ends the step in which it happens, and says why if it can.
-/

namespace DomainSteward

/-- What a panic says of itself. -/
inductive Panic where
  | said (message : String)
  /-- A panic without words. -/
  | wordless
deriving DecidableEq, Repr, Inhabited

def Panic.message : Panic → String
  | .said message => message
  | .wordless => "unknown panic"

/-- The panic of a difference that 32 bits cannot hold. -/
def differenceOverflow : Panic := .said "attempt to subtract with overflow"

/-- The difference of two numbers, or a panic if 32 bits cannot hold it. -/
def difference (a b : Int32) : Except Panic Int32 :=
  let exact := a.toInt - b.toInt
  if Int32.minValue.toInt ≤ exact ∧ exact ≤ Int32.maxValue.toInt then .ok (a - b)
  else .error differenceOverflow

end DomainSteward
