import DomainSteward.Json.Basic
import DomainSteward.Time.Duration

/-!
Forms that are filled in by hand.

In a form a field that is missing is the same as one that is `null`, and a field of the wrong type
counts as missing.
-/

namespace DomainSteward.Form

/-! ## Reading -/

/-- The value of a field; `null` if it is missing. -/
def field (j : Json) (name : String) : Json := (j.get? name).getD .null

def textOf? (j : Json) (name : String) : Option String := (field j name).text?

/-- A text, empty if it is missing. -/
def textOf (j : Json) (name : String) : String := (textOf? j name).getD ""

/-- An integer, if there is one. -/
def intOf? (j : Json) (name : String) : Option Int := (field j name).int?

/-- A count, with a default. -/
def natOf (j : Json) (name : String) (default : Nat := 0) : Nat :=
  ((intOf? j name).map Int.toNat).getD default

/-- A truth value, with a default. -/
def boolOf (j : Json) (name : String) (default : Bool := false) : Bool :=
  ((field j name).bool?).getD default

/-- A list, empty if it is missing. -/
def listOf (j : Json) (name : String) : List Json := ((field j name).list?).getD []

/-- The fields of an object, none if it is missing. -/
def fieldsOf (j : Json) (name : String) : List (String × Json) := ((field j name).object?).getD []

def namesOf (j : Json) (name : String) : List String := (listOf j name).filterMap Json.text?

/-- A count of 32 bits, if there is one. -/
def count? (j : Json) (name : String) : Option UInt32 :=
  (intOf? j name).map (fun n => UInt32.ofNat n.toNat)

/-- A status code, if there is one. -/
def code? (j : Json) (name : String) : Option UInt16 :=
  (intOf? j name).map (fun n => UInt16.ofNat n.toNat)

/-! ## Writing -/

def texts (l : List String) : Json := .list (l.map .text)

/-- A count. -/
def natJson (n : Nat) : Json := Json.ofInt n

/-- A duration in nanoseconds, as a text. -/
def nanos (d : Duration) : Json := .text (toString d.nanos)

/-- Something or `null`. -/
def nullable {α : Type} (f : α → Json) (a : Option α) : Json := Json.ofOption (a.map f)

end DomainSteward.Form
