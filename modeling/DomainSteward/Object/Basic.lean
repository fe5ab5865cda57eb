import DomainSteward.Object.Meta

/-!
API objects of any kind.

An `ApiObject` has typed metadata; its kind is known only if both the version and the kind are
given, and everything else is carried as it came. `Resource` names a kind of object and where the
API serves it.
-/

namespace DomainSteward

/-- A kind of object the API serves. -/
structure Resource where
  /-- The API group; empty for the core group. -/
  group : String
  version : String
  kind : String
  /-- The name of the collection in paths. -/
  plural : String
deriving DecidableEq, Repr, Inhabited

namespace Resource

/-- Pods, which run the servers. -/
def pod : Resource := ⟨"", "v1", "Pod", "pods"⟩

/-- Domains, which say what servers there should be. -/
def domain : Resource := ⟨"weblogic.oracle", "v9", "Domain", "domains"⟩

/-- Group and version as objects of the kind carry them. -/
def apiVersion (r : Resource) : String :=
  if r.group.isEmpty then r.version else r.group ++ "/" ++ r.version

end Resource

/-- The version and the kind an object says it has. -/
structure TypeMeta where
  apiVersion : String
  kind : String
deriving DecidableEq, Repr, Inhabited

structure ApiObject where
  types : Option TypeMeta := none
  metadata : ObjectMeta := {}
  /-- All other fields. -/
  data : List (String × Json) := []
deriving Inhabited

namespace ApiObject

/-- The object of a resource that has a name and nothing else. -/
def named (r : Resource) (name : String) : ApiObject :=
  { types := some ⟨r.apiVersion, r.kind⟩, metadata := { name := some name } }

/-- The fields that have a place of their own. -/
def isOwnField (name : String) : Bool :=
  name = "apiVersion" || name = "kind" || name = "metadata"

def read (j : Json) : Option ApiObject := do
  let fs ← j.object?
  let metadata ← Json.defaulted? fs "metadata" {} ObjectMeta.read
  let types := do
    let apiVersion ← Json.required? fs "apiVersion" Json.text?
    let kind ← Json.required? fs "kind" Json.text?
    return (⟨apiVersion, kind⟩ : TypeMeta)
  return { types, metadata, data := fs.filter (fun f => !isOwnField f.1) }

def write (o : ApiObject) : Json :=
  .object (
    (match o.types with
      | some t => [("apiVersion", .text t.apiVersion), ("kind", .text t.kind)]
      | none => []) ++
    [("metadata", o.metadata.write)] ++ o.data)

end ApiObject

end DomainSteward
