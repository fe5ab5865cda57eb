import DomainSteward.Json.Fields
import DomainSteward.Time.Stamp

/-!
Metadata of API objects.

Every field may be absent. What the operator never looks into (owners, managed fields) is carried
as it came.
-/

namespace DomainSteward

/-- What an API server keeps about every object. -/
structure ObjectMeta where
  annotations : Option (NameMap String) := none
  creationTimestamp : Option Stamp := none
  deletionGracePeriodSeconds : Option Int64 := none
  /-- Set once the object is being taken down. -/
  deletionTimestamp : Option Stamp := none
  finalizers : Option (List String) := none
  generateName : Option String := none
  /-- Grows with every change of the wanted state. -/
  generation : Option Int64 := none
  labels : Option (NameMap String) := none
  managedFields : Option (List (List (String × Json))) := none
  name : Option String := none
  namespaceName : Option String := none
  ownerReferences : Option (List (List (String × Json))) := none
  /-- Changes with every change of the object. -/
  resourceVersion : Option String := none
  selfLink : Option String := none
  /-- Tells apart two objects that have had the same name. -/
  uid : Option String := none
deriving Inhabited

namespace ObjectMeta

/-- The value of a label. -/
def label? (m : ObjectMeta) (name : String) : Option String := m.labels.bind (·.get? name)

/-- The name of the object; before it has one, what its name will start with, if that is known. -/
def bestName (m : ObjectMeta) : String := (m.name.or m.generateName).getD ""

/-- A stamp as a value. -/
def readStamp (j : Json) : Option Stamp := j.text?.bind Stamp.ofText?

def read (j : Json) : Option ObjectMeta := do
  let fs ← j.object?
  let annotations ← Json.optional? fs "annotations" (Json.mapOf? Json.text?)
  let creationTimestamp ← Json.optional? fs "creationTimestamp" readStamp
  let deletionGracePeriodSeconds ← Json.optional? fs "deletionGracePeriodSeconds" Json.int64?
  let deletionTimestamp ← Json.optional? fs "deletionTimestamp" readStamp
  let finalizers ← Json.optional? fs "finalizers" (Json.listOf? Json.text?)
  let generateName ← Json.optional? fs "generateName" Json.text?
  let generation ← Json.optional? fs "generation" Json.int64?
  let labels ← Json.optional? fs "labels" (Json.mapOf? Json.text?)
  let managedFields ← Json.optional? fs "managedFields" (Json.listOf? Json.object?)
  let name ← Json.optional? fs "name" Json.text?
  let namespaceName ← Json.optional? fs "namespace" Json.text?
  let ownerReferences ← Json.optional? fs "ownerReferences" (Json.listOf? Json.object?)
  let resourceVersion ← Json.optional? fs "resourceVersion" Json.text?
  let selfLink ← Json.optional? fs "selfLink" Json.text?
  let uid ← Json.optional? fs "uid" Json.text?
  return { annotations, creationTimestamp, deletionGracePeriodSeconds, deletionTimestamp,
           finalizers, generateName, generation, labels, managedFields, name, namespaceName,
           ownerReferences, resourceVersion, selfLink, uid }

def write (m : ObjectMeta) : Json :=
  .object (
    Json.field? "annotations" (Json.ofMap .text) m.annotations ++
    Json.field? "creationTimestamp" (fun t => .text t.text) m.creationTimestamp ++
    Json.field? "deletionGracePeriodSeconds" (fun n => Json.ofInt n.toInt)
      m.deletionGracePeriodSeconds ++
    Json.field? "deletionTimestamp" (fun t => .text t.text) m.deletionTimestamp ++
    Json.field? "finalizers" (fun l => .list (l.map .text)) m.finalizers ++
    Json.field? "generateName" .text m.generateName ++
    Json.field? "generation" (fun n => Json.ofInt n.toInt) m.generation ++
    Json.field? "labels" (Json.ofMap .text) m.labels ++
    Json.field? "managedFields" (fun l => .list (l.map .object)) m.managedFields ++
    Json.field? "name" .text m.name ++
    Json.field? "namespace" .text m.namespaceName ++
    Json.field? "ownerReferences" (fun l => .list (l.map .object)) m.ownerReferences ++
    Json.field? "resourceVersion" .text m.resourceVersion ++
    Json.field? "selfLink" .text m.selfLink ++
    Json.field? "uid" .text m.uid)

end ObjectMeta

end DomainSteward
