import DomainSteward.Call.Response
import DomainSteward.Text.Quoted
import DomainSteward.Wire.Address
import DomainSteward.Wire.Page

/-!
Calls of the API as they go over the wire.

`HttpRequest.of?` writes a call as a request, and `Response.ofReply` says what a reply to it means.
A fault that explains itself keeps its code, reason and message; one that does not is quoted whole.
A reply that should bring an object and does not counts as no reply at all.
-/

namespace DomainSteward

/-- A request as it goes over the wire. -/
structure HttpRequest where
  method : String
  address : Address
  contentType : Option String := none
  body : Option Json := none

/-- What comes back. -/
inductive HttpReply where
  | answer (code : Nat) (body : String)
  /-- The connection fails. -/
  | refused
deriving Inhabited

/-! ## Requests -/

namespace Resource

/-- The place of the objects of a kind, in a namespace or in all. -/
def collection (r : Resource) (namespaceName : Option String) : String :=
  (if r.group.isEmpty then "/api/" else "/apis/") ++ r.apiVersion ++ "/" ++
    (match namespaceName with
      | some ns => "namespaces/" ++ ns ++ "/"
      | none => "") ++ r.plural

end Resource

/-- What a list asks with. -/
def ListOptions.query (o : ListOptions) : List (String × String) :=
  let pair (name : String) (value : Option String) : List (String × String) :=
    (value.map (name, ·)).toList
  pair "labelSelector" o.labelSelector ++ pair "fieldSelector" o.fieldSelector ++
    pair "limit" (o.limit.map (fun n => toString n.toNat)) ++ pair "continue" o.continueToken

def PatchType.contentType : PatchType → String
  | .merge => "application/merge-patch+json"
  | .strategic => "application/strategic-merge-patch+json"

def deletionBody (gracePeriodSeconds : Option UInt32) : Json :=
  .object ((gracePeriodSeconds.map (fun n => ("gracePeriodSeconds", Json.ofInt n.toNat))).toList)

namespace HttpRequest

/-- The type of a body that is one object. -/
def objectType : String := "application/json"

/-- The request of a call; there is none for an object without a name, or with a name that makes no
address. -/
def of? (r : Request) : Option HttpRequest :=
  let place := r.resource.collection r.namespaceName
  let object (name : String) : Option Address :=
    if name.isEmpty then none else Address.of? (place ++ "/" ++ name)
  match r.operation with
  | .get name => (object name).map (fun address => { method := "GET", address })
  | .list options =>
    (Address.of? place options.query).map (fun address => { method := "GET", address })
  | .create body =>
    (Address.of? place).map (fun address =>
      { method := "POST", address, contentType := some objectType, body := some body.write })
  | .replace name body =>
    (object name).map (fun address =>
      { method := "PUT", address, contentType := some objectType, body := some body.write })
  | .patch name p =>
    (object name).map (fun address =>
      { method := "PATCH", address, contentType := some p.type.contentType, body := some p.body })
  | .patchStatus name p =>
    if name.isEmpty then none
    else
      (Address.of? (place ++ "/" ++ name ++ "/status")).map (fun address =>
        { method := "PATCH", address, contentType := some p.type.contentType, body := some p.body })
  | .delete name grace =>
    (object name).map (fun address =>
      { method := "DELETE", address, contentType := some objectType
        body := some (deletionBody grace) })

end HttpRequest

/-! ## Replies -/

open Json (Tree)

namespace StatusBody

/-- Reads the explanation of a fault, which has to say that it is one and under what code. -/
def ofFault? (t : Tree) : Option StatusBody := do
  match ← t.record? ["status", "message", "reason", "code"] with
  | [status, message, reason, code] =>
    let _ ← status.bind Tree.text?
    let message ← Tree.orDefault? "" Tree.text? message
    let reason ← Tree.orDefault? "" Tree.text? reason
    let code ← code.bind Tree.uint16?
    return { code, reason, message }
  | _ => none

/-- What a fault explains. A body that is no explanation is quoted. -/
def ofFault (code : Nat) (body : String) : StatusBody :=
  ((Tree.parse? body).bind ofFault?).getD
    { code := UInt16.ofNat code
      reason := "Failed to parse error data"
      message := Text.quote body }

/-- A text that is not empty. -/
def filled (s : String) : Option String := if s.isEmpty then none else some s

/-- Reads one of two words. -/
def outcome? (t : Tree) : Option String :=
  t.text?.filter (fun s => s = "Success" || s = "Failure")

/-- Reads a cause as a deletion explains it. -/
def deletionCause? (t : Tree) : Option StatusCause := do
  match ← t.record? ["reason", "message", "field"] with
  | [reason, message, field] =>
    let reason ← Tree.orDefault? "" Tree.text? reason
    let message ← Tree.orDefault? "" Tree.text? message
    let field ← Tree.orDefault? "" Tree.text? field
    return { reason := filled reason, message := filled message, field := filled field }
  | _ => none

/-- Reads what a deletion was about. -/
def deletionDetails? (t : Tree) : Option StatusDetails := do
  match ← t.record? ["name", "group", "kind", "uid", "causes", "retryAfterSeconds"] with
  | [name, group, kind, uid, causes, retryAfter] =>
    let name ← Tree.orDefault? "" Tree.text? name
    let _ ← Tree.orDefault? "" Tree.text? group
    let kind ← Tree.orDefault? "" Tree.text? kind
    let _ ← Tree.orDefault? "" Tree.text? uid
    let causes ← Tree.orDefault? [] (Tree.listOf? deletionCause?) causes
    let _ ← Tree.orDefault? 0 Tree.uint32? retryAfter
    return { name := filled name, kind := filled kind, causes }
  | _ => none

/-- Reads what a deletion says in place of the deleted object; without a code it went well. -/
def ofDeletion? (t : Tree) : Option StatusBody := do
  match ← t.record? ["status", "code", "message", "reason", "details"] with
  | [status, code, message, reason, details] =>
    let _ ← Tree.orDefault? none (Tree.nullable? outcome?) status
    let code ← Tree.orDefault? 0 Tree.uint16? code
    let message ← Tree.orDefault? "" Tree.text? message
    let reason ← Tree.orDefault? "" Tree.text? reason
    let details ← Tree.orDefault? none (Tree.nullable? deletionDetails?) details
    return { code := if code = 0 then 200 else code, reason, message, details }
  | _ => none

end StatusBody

namespace Response

/-- Reads an object with the status that belongs to the call. -/
def readObject (code : UInt16) (j : Json) : Option Response :=
  (ApiObject.read j).map (.object · code)

/-- Reads what a deletion brings: the object, or a word about it. -/
def readDeleted (t : Tree) : Option Response := do
  let j ← Json.ofTree? t
  if (j.get? "kind").bind Json.text? = some "Status" then
    (StatusBody.ofDeletion? t).map .status
  else readObject 200 j

/-- Reads a page of objects. -/
def readPage (j : Json) : Option Response :=
  (Page.read ApiObject.read j).map (fun page =>
    .list { continueToken := page.continueToken, items := page.items })

/-- Reads what a call that went well brings. -/
def readSuccess (op : Operation) (body : String) : Option Response := do
  let t ← Tree.parse? body
  match op with
  | .delete .. => readDeleted t
  | .list _ => (Json.ofTree? t).bind readPage
  | .create _ => (Json.ofTree? t).bind (readObject 201)
  | _ => (Json.ofTree? t).bind (readObject 200)

/-- Whether a status tells of a fault. -/
def isFault (code : Nat) : Bool := 400 ≤ code && code < 600

/-- What a reply to a call means. -/
def ofReply (r : Request) : HttpReply → Response
  | .refused => .failure (.transport r "connection failed")
  | .answer code body =>
    if isFault code then .failure (.http r (.ofFault code body))
    else (readSuccess r.operation body).getD (.failure (.transport r "unreadable answer"))

/-- What comes of a call that cannot be written as a request. -/
def unsendable (r : Request) : Response := .failure (.transport r "no such address")

end Response

end DomainSteward
