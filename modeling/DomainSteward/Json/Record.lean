import DomainSteward.Json.Tree

/-!
Reading records from written trees.

A record is written as an object whose members may come in any order, or as an array of its fields
in their order, of which the last may be missing. A member that names a field twice is a fault, so
is an item too many; members that name no field are passed over, whatever they hold.
-/

namespace DomainSteward.Json.Tree

variable {α : Type}

/-- The values of the members that have the name. -/
def named (name : String) (members : List (Option String × Tree)) : List Tree :=
  (members.filter (fun m => m.1 = some name)).map (·.2)

/-- What a tree holds for each field of a record, by the names of the fields. -/
def record? (names : List String) : Tree → Option (List (Option Tree))
  | .object members =>
    if members.all (fun m => m.1.isSome) &&
        names.all (fun name => decide ((named name members).length ≤ 1)) then
      some (names.map (fun name => (named name members).head?))
    else none
  | .list items =>
    if items.length ≤ names.length then
      some (items.map some ++ List.replicate (names.length - items.length) none)
    else none
  | _ => none

/-- A whole string. -/
def text? : Tree → Option String
  | .text s => s
  | _ => none

/-- An integer literal of 16 bits without a sign. -/
def uint16? : Tree → Option UInt16
  | .number n => do
    let n ← n.int?
    if 0 ≤ n ∧ n < 65536 then return UInt16.ofNat n.toNat else none
  | _ => none

/-- An integer literal of 32 bits without a sign. -/
def uint32? : Tree → Option UInt32
  | .number n => do
    let n ← n.int?
    if 0 ≤ n ∧ n < UInt32.size then return UInt32.ofNat n.toNat else none
  | _ => none

/-- An array whose items all read. -/
def listOf? (read : Tree → Option α) : Tree → Option (List α)
  | .list items => items.mapM read
  | _ => none

/-- A value that may be `null`. -/
def nullable? (read : Tree → Option α) : Tree → Option (Option α)
  | .null => some none
  | tree => (read tree).map some

/-- A field of a record, with a default when it is missing. -/
def orDefault? (default : α) (read : Tree → Option α) : Option Tree → Option α
  | none => some default
  | some tree => read tree

end DomainSteward.Json.Tree
