import DomainSteward.Object.Basic

/-!
Calls of the API.

A `Request` says what is done to objects of one kind, in one namespace or in all. Its texts name
the call in logs and failures: `deletePod in namespace ns1, for domain1-ms1`.
-/

namespace DomainSteward

/-- Which objects a list asks for. -/
structure ListOptions where
  labelSelector : Option String := none
  fieldSelector : Option String := none
  /-- The most objects in one page. -/
  limit : Option UInt32 := none
  /-- Where the page before left off. -/
  continueToken : Option String := none
deriving DecidableEq, Repr, Inhabited

/-- How the body of a patch is meant. -/
inductive PatchType where
  | merge
  | strategic
deriving DecidableEq, Repr, Inhabited

/-- The body of a patch. -/
structure Patch where
  type : PatchType
  body : Json
deriving Inhabited

/-- What a call does. -/
inductive Operation where
  | get (name : String)
  | list (options : ListOptions)
  | create (body : ApiObject)
  | replace (name : String) (body : ApiObject)
  | patch (name : String) (patch : Patch)
  | patchStatus (name : String) (patch : Patch)
  | delete (name : String) (gracePeriodSeconds : Option UInt32)
deriving Inhabited

/-- The word for what a call does. -/
def Operation.verb : Operation → String
  | .get .. => "read"
  | .list .. => "list"
  | .create .. => "create"
  | .replace .. => "replace"
  | .patch .. => "patch"
  | .patchStatus .. => "patchStatus"
  | .delete .. => "delete"

/-- One call. -/
structure Request where
  resource : Resource
  /-- The namespace of the objects; all if absent. -/
  namespaceName : Option String
  operation : Operation
deriving Inhabited

namespace Request

/-- The name of the object that the call is about; a list has none. -/
def name? (r : Request) : Option String :=
  match r.operation with
  | .get name => some name
  | .list _ => none
  | .create body => body.metadata.name
  | .replace name _ => some name
  | .patch name _ => some name
  | .patchStatus name _ => some name
  | .delete name _ => some name

/-- What is done to which kind, such as `deletePod`. -/
def callName (r : Request) : String := r.operation.verb ++ r.resource.kind

/-- The call in words, with its namespace and object. -/
def describe (r : Request) : String :=
  r.callName ++
    (match r.namespaceName with
      | some ns => " in namespace " ++ ns
      | none => "") ++
    (match r.name? with
      | some name => ", for " ++ name
      | none => "")

/-- A list call that goes on where a token points; other calls stay as they are. -/
def continuedAt (r : Request) (token : Option String) : Request :=
  match r.operation, token with
  | .list options, some token =>
    { r with operation := .list { options with continueToken := some token } }
  | _, _ => r

end Request

end DomainSteward
