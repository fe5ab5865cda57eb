import DomainSteward.Data.NameMap
import DomainSteward.Json.Basic

/-!
Reading and writing records as JSON objects.

A reader makes something of a value or refuses it. A record is read field by field: a required
field has to be there, an optional one may be missing or `null`, a defaulted one may be missing
but not `null`; fields that nobody asks for are ignored. Writing leaves out what is absent.
-/

namespace DomainSteward.Json

variable {α β : Type}

/-! ## Readers -/

/-- A 32-bit integer. -/
def int32? (j : Json) : Option Int32 := do
  let n ← j.int?
  if -2147483648 ≤ n ∧ n < 2147483648 then return Int32.ofInt n else none

/-- A 64-bit integer. -/
def int64? (j : Json) : Option Int64 := do
  let n ← j.int?
  if -9223372036854775808 ≤ n ∧ n < 9223372036854775808 then return Int64.ofInt n else none

/-- An array whose items all read. -/
def listOf? (read : Json → Option α) (j : Json) : Option (List α) := j.list?.bind (·.mapM read)

/-- An object whose fields all read, as a map. -/
def mapOf? (read : Json → Option α) (j : Json) : Option (NameMap α) := do
  let fields ← j.object?
  let entries ← fields.mapM (fun (name, value) => (read value).map (name, ·))
  return NameMap.ofList entries

/-! ## Fields of a record -/

/-- A field that has to be there. -/
def required? (fields : List (String × Json)) (name : String) (read : Json → Option α) : Option α :=
  (fieldOf name fields).bind read

/-- A field that may be missing or `null`. -/
def optional? (fields : List (String × Json)) (name : String) (read : Json → Option α) :
    Option (Option α) :=
  match fieldOf name fields with
  | none => some none
  | some .null => some none
  | some value => (read value).map some

/-- A field that has a default when it is missing. -/
def defaulted? (fields : List (String × Json)) (name : String) (default : α)
    (read : Json → Option α) : Option α :=
  match fieldOf name fields with
  | none => some default
  | some value => read value

/-! ## Writing -/

/-- The field of something that may be absent. -/
def field? (name : String) (write : α → Json) : Option α → List (String × Json)
  | some a => [(name, write a)]
  | none => []

/-- The field of a list, left out when the list is empty. -/
def listField (name : String) (write : α → Json) (items : List α) : List (String × Json) :=
  if items.isEmpty then [] else [(name, .list (items.map write))]

/-- A map as an object. -/
def ofMap (write : α → Json) (m : NameMap α) : Json :=
  .object (m.entries.map (fun (name, value) => (name, write value)))

end DomainSteward.Json
