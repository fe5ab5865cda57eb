import DomainSteward.Object.Basic

/-!
Pods of servers.

A pod carries labels that name its domain, its server, its cluster and the restart version it was
made for. It reports Ready through a condition. `Pod.replacement` is the definition of the pod
that takes its place.
-/

namespace DomainSteward

namespace Label

/-- Names the domain that owns the pod. -/
def domainUid : String := "weblogic.domainUID"

/-- Names the server that the pod runs. -/
def serverName : String := "weblogic.serverName"

/-- Names the cluster of the server; absent for one that stands alone. -/
def clusterName : String := "weblogic.clusterName"

/-- The restart version that the pod was made for. -/
def restartVersion : String := "weblogic.domainRestartVersion"

/-- Set on every pod that the operator made. -/
def createdByOperator : String := "weblogic.createdByOperator"

end Label

/-- A condition that a pod reports. -/
structure PodCondition where
  type : String
  status : String
  /-- What else it says. -/
  others : List (String × Json) := []
deriving Inhabited

/-- The observed state of a pod. -/
structure PodStatus where
  conditions : Option (List PodCondition) := none
  others : List (String × Json) := []
deriving Inhabited

namespace Pod

/-- The fields of an object but those of the names and those that are `null`. -/
def without (names : List String) (fields : List (String × Json)) : List (String × Json) :=
  fields.filter (fun f => !names.contains f.1 && !f.2.isNull)

/-- The fields of a wanted state, which always lists its containers. -/
def withContainers (fields : List (String × Json)) : List (String × Json) :=
  if (Json.fieldOf "containers" fields).isSome then fields else ("containers", .list []) :: fields

end Pod

/-- The wanted state of a pod, carried as it came. -/
structure PodSpec where
  fields : List (String × Json)
  /-- What it leaves open has no field. -/
  filled : ∀ f ∈ fields, f.2.isNull = false
  /-- It always lists its containers. -/
  containers : (Json.fieldOf "containers" fields).isSome = true

namespace PodSpec

/-- The wanted state that some fields give. -/
def ofFields (fields : List (String × Json)) : PodSpec where
  fields := Pod.withContainers (Pod.without [] fields)
  filled := by
    unfold Pod.withContainers
    split <;> simp [Pod.without, Json.isNull]
  containers := by
    unfold Pod.withContainers
    split
    · assumption
    · simp [Json.fieldOf]

end PodSpec

structure Pod where
  metadata : ObjectMeta := {}
  spec : Option PodSpec := none
  status : Option PodStatus := none
deriving Inhabited

namespace Pod

/-! ## What labels and conditions say -/

/-- The server that the pod runs. -/
def serverName? (p : Pod) : Option String := p.metadata.label? Label.serverName

def clusterName? (p : Pod) : Option String := p.metadata.label? Label.clusterName

/-- The domain that owns the pod. -/
def domainUid? (p : Pod) : Option String := p.metadata.label? Label.domainUid

/-- The restart version that the pod was made for. -/
def restartVersion? (p : Pod) : Option String := p.metadata.label? Label.restartVersion

/-- Whether the pod reports Ready. -/
def isReady (p : Pod) : Bool :=
  ((p.status.bind (·.conditions)).getD []).any (fun c => c.type = "Ready" && c.status = "True")

/-- Whether the pod is being taken down. -/
def isTerminating (p : Pod) : Bool := p.metadata.deletionTimestamp.isSome

/-- Namespace, domain and server of a pod that has all three. -/
def identity? (p : Pod) : Option (String × String × String) := do
  let ns ← p.metadata.namespaceName
  let uid ← p.domainUid?
  let server ← p.serverName?
  return (ns, uid, server)

/-! ## Reading and writing -/

def readCondition (j : Json) : Option PodCondition := do
  let fs ← j.object?
  let type ← Json.defaulted? fs "type" "" Json.text?
  let status ← Json.defaulted? fs "status" "" Json.text?
  return { type, status, others := without ["type", "status"] fs }

/-- Reads an observed state. -/
def readStatus (j : Json) : Option PodStatus := do
  let fs ← j.object?
  let conditions ← Json.optional? fs "conditions" (Json.listOf? readCondition)
  return { conditions, others := without ["conditions"] fs }

/-- Reads a pod. Version and kind may be missing but have to be right. -/
def read (j : Json) : Option Pod := do
  let fs ← j.object?
  let version ← Json.defaulted? fs "apiVersion" "v1" Json.text?
  let kind ← Json.defaulted? fs "kind" "Pod" Json.text?
  if version ≠ "v1" ∨ kind ≠ "Pod" then none
  else
    let metadata ← Json.defaulted? fs "metadata" {} ObjectMeta.read
    let spec ← Json.optional? fs "spec" Json.object?
    let status ← Json.optional? fs "status" readStatus
    return { metadata, spec := spec.map PodSpec.ofFields, status }

def writeCondition (c : PodCondition) : Json :=
  .object ([("type", .text c.type), ("status", .text c.status)] ++ c.others)

/-- Writes an observed state. -/
def writeStatus (s : PodStatus) : Json :=
  let conditions (l : List PodCondition) : Json := .list (l.map writeCondition)
  .object (Json.field? "conditions" conditions s.conditions ++ s.others)

def write (p : Pod) : Json :=
  .object (
    [("apiVersion", .text "v1"), ("kind", .text "Pod"), ("metadata", p.metadata.write)] ++
    Json.field? "spec" (fun s => .object s.fields) p.spec ++
    Json.field? "status" writeStatus p.status)

/-- The pod that an object describes. -/
def ofObject? (o : ApiObject) : Option Pod := read o.write

/-! ## Replacement -/

/-- The definition of the pod that replaces this one: what the server keeps about the old pod, the
node it ran on and its observed state are left out, and the restart version is the new one. -/
def replacement (p : Pod) (restartVersion : String) : ApiObject :=
  { types := some ⟨"v1", "Pod"⟩
    metadata :=
      { p.metadata with
        resourceVersion := none
        uid := none
        creationTimestamp := none
        deletionTimestamp := none
        deletionGracePeriodSeconds := none
        managedFields := none
        labels := some ((p.metadata.labels.getD {}).insert Label.restartVersion restartVersion) }
    data := Json.field? "spec" (fun s => .object (Json.dropField "nodeName" s.fields)) p.spec }

end Pod

end DomainSteward
