import DomainSteward.Json.Basic
import DomainSteward.Json.Record

/-!
The bodies with which the API explains an outcome.

A `StatusBody` has a code, a reason and a message, and may name the object and the causes. A body
that is no such record becomes the message, whole.
-/

namespace DomainSteward

/-- One cause of a failure. -/
structure StatusCause where
  reason : Option String := none
  message : Option String := none
  /-- The field that is at fault. -/
  field : Option String := none
deriving DecidableEq, Repr, Inhabited

/-- What a failure is about. -/
structure StatusDetails where
  name : Option String := none
  kind : Option String := none
  causes : List StatusCause := []
deriving DecidableEq, Repr, Inhabited

/-- An outcome as the API explains it. -/
structure StatusBody where
  code : UInt16 := 0
  reason : String := ""
  message : String := ""
  details : Option StatusDetails := none
deriving DecidableEq, Repr, Inhabited

open Json (Tree)

/-- Reads a cause. -/
def StatusCause.ofTree? (t : Tree) : Option StatusCause := do
  match ← t.record? ["reason", "message", "field"] with
  | [reason, message, field] =>
    let reason ← Tree.orDefault? none (Tree.nullable? Tree.text?) reason
    let message ← Tree.orDefault? none (Tree.nullable? Tree.text?) message
    let field ← Tree.orDefault? none (Tree.nullable? Tree.text?) field
    return { reason, message, field }
  | _ => none

/-- Reads what a failure is about. -/
def StatusDetails.ofTree? (t : Tree) : Option StatusDetails := do
  match ← t.record? ["name", "kind", "causes"] with
  | [name, kind, causes] =>
    let name ← Tree.orDefault? none (Tree.nullable? Tree.text?) name
    let kind ← Tree.orDefault? none (Tree.nullable? Tree.text?) kind
    let causes ← Tree.orDefault? [] (Tree.listOf? StatusCause.ofTree?) causes
    return { name, kind, causes }
  | _ => none

namespace StatusBody

/-- Reads an outcome. -/
def ofTree? (t : Tree) : Option StatusBody := do
  match ← t.record? ["code", "reason", "message", "details"] with
  | [code, reason, message, details] =>
    let code ← Tree.orDefault? 0 Tree.uint16? code
    let reason ← Tree.orDefault? "" Tree.text? reason
    let message ← Tree.orDefault? "" Tree.text? message
    let details ← Tree.orDefault? none (Tree.nullable? StatusDetails.ofTree?) details
    return { code, reason, message, details }
  | _ => none

/-- The outcome that a body explains; its code counts if it has one, else that of the answer. -/
def ofBody (code : UInt16) (body : String) : StatusBody :=
  match (Tree.parse? body).bind ofTree? with
  | some s => if s.code = 0 then { s with code } else s
  | none => { code, message := body }

/-- The reason of the first cause if it has one, else the reason of the whole. -/
def mostSpecificReason? (s : StatusBody) : Option String :=
  (((s.details.bind (·.causes.head?)).bind (·.reason)).filter (fun r => !r.isEmpty)).or
    (if s.reason.isEmpty then none else some s.reason)

def textField? (name : String) : Option String → List (String × Json)
  | some s => [(name, .text s)]
  | none => []

def writeCause (c : StatusCause) : Json :=
  .object (textField? "reason" c.reason ++ textField? "message" c.message ++
    textField? "field" c.field)

/-- Writes what a failure is about. -/
def writeDetails (d : StatusDetails) : Json :=
  .object (textField? "name" d.name ++ textField? "kind" d.kind ++
    [("causes", .list (d.causes.map writeCause))])

/-- Writes an outcome. -/
def write (s : StatusBody) : Json :=
  .object (
    [("code", Json.ofInt s.code.toNat), ("reason", .text s.reason),
      ("message", .text s.message)] ++
    (match s.details with
      | some d => [("details", writeDetails d)]
      | none => []))

end StatusBody

end DomainSteward
