import DomainSteward.Json.Fields

/-!
The observed state of a domain.

A status holds conditions, one entry for each server, and the reason and message of a failure.
Setting a condition replaces the one of the same type; the time of its last transition moves only
when its value changes.
-/

namespace DomainSteward

inductive ConditionType where
  /-- Enough servers are Ready. -/
  | available
  /-- A roll is under way. -/
  | rolling
  /-- A call or a restart has failed for good. -/
  | failed
deriving DecidableEq, Repr, Inhabited

namespace ConditionType

def name : ConditionType → String
  | .available => "Available"
  | .rolling => "Rolling"
  | .failed => "Failed"

def ofName? : String → Option ConditionType
  | "Available" => some .available
  | "Rolling" => some .rolling
  | "Failed" => some .failed
  | _ => none

end ConditionType

structure DomainCondition where
  type : ConditionType
  /-- `True` or `False`, as text. -/
  status : String
  reason : Option String := none
  message : Option String := none
  /-- When the status last changed. -/
  lastTransitionTime : Option String := none
deriving DecidableEq, Inhabited

namespace DomainCondition

def ofBool (type : ConditionType) (holds : Bool) (reason message : Option String := none) :
    DomainCondition :=
  { type, status := if holds then "True" else "False", reason, message }

/-- Whether the condition holds. -/
def isTrue (c : DomainCondition) : Bool := c.status = "True"

def read (j : Json) : Option DomainCondition := do
  let fs ← j.object?
  let type ← Json.required? fs "type" (fun j => j.text?.bind ConditionType.ofName?)
  let status ← Json.required? fs "status" Json.text?
  let reason ← Json.optional? fs "reason" Json.text?
  let message ← Json.optional? fs "message" Json.text?
  let lastTransitionTime ← Json.optional? fs "lastTransitionTime" Json.text?
  return { type, status, reason, message, lastTransitionTime }

def write (c : DomainCondition) : Json :=
  .object (
    [("type", .text c.type.name), ("status", .text c.status)] ++
    Json.field? "reason" .text c.reason ++ Json.field? "message" .text c.message ++
    Json.field? "lastTransitionTime" .text c.lastTransitionTime)

end DomainCondition

/-- The observed state of a server. -/
structure ServerStatus where
  serverName : String
  clusterName : Option String := none
  /-- RUNNING, STARTING or SHUTTING_DOWN. -/
  state : Option String := none
  ready : Bool := false
deriving DecidableEq, Inhabited

namespace ServerStatus

/-- Reads a server's state. -/
def read (j : Json) : Option ServerStatus := do
  let fs ← j.object?
  let serverName ← Json.required? fs "serverName" Json.text?
  let clusterName ← Json.optional? fs "clusterName" Json.text?
  let state ← Json.optional? fs "state" Json.text?
  let ready ← Json.defaulted? fs "ready" false Json.bool?
  return { serverName, clusterName, state, ready }

def write (s : ServerStatus) : Json :=
  .object (
    [("serverName", .text s.serverName)] ++ Json.field? "clusterName" .text s.clusterName ++
    Json.field? "state" .text s.state ++ [("ready", .bool s.ready)])

end ServerStatus

/-- The observed state of a domain. -/
structure DomainStatus where
  conditions : List DomainCondition := []
  servers : List ServerStatus := []
  observedGeneration : Option Int64 := none
  reason : Option String := none
  message : Option String := none
deriving DecidableEq, Inhabited

namespace DomainStatus

/-- The first condition of a type. -/
def condition? (s : DomainStatus) (type : ConditionType) : Option DomainCondition :=
  s.conditions.find? (fun c => c.type = type)

def holds (s : DomainStatus) (type : ConditionType) : Bool :=
  (s.condition? type).any DomainCondition.isTrue

/-- Replaces the first condition of the same type, or adds one at the end. The time is that of the
replaced condition if it had the same status, else now. -/
def placeCondition (condition : DomainCondition) (now : String) :
    List DomainCondition → List DomainCondition
  | [] => [{ condition with lastTransitionTime := some now }]
  | old :: rest =>
    if old.type = condition.type then
      { condition with
        lastTransitionTime :=
          if old.status = condition.status then old.lastTransitionTime else some now } :: rest
    else old :: placeCondition condition now rest

/-- Sets the condition of a type. -/
def setCondition (s : DomainStatus) (condition : DomainCondition) (now : String) : DomainStatus :=
  { s with conditions := placeCondition condition now s.conditions }

/-- Leaves no condition of a type. -/
def removeCondition (s : DomainStatus) (type : ConditionType) : DomainStatus :=
  { s with conditions := s.conditions.filter (fun c => c.type ≠ type) }

/-- Records a failure: as a condition, and as reason and message of the status. -/
def recordFailure (s : DomainStatus) (reason message now : String) : DomainStatus :=
  { s.setCondition (.ofBool .failed true (some reason) (some message)) now with
    reason := some reason
    message := some message }

def read (j : Json) : Option DomainStatus := do
  let fs ← j.object?
  let conditions ← Json.defaulted? fs "conditions" [] (Json.listOf? DomainCondition.read)
  let servers ← Json.defaulted? fs "servers" [] (Json.listOf? ServerStatus.read)
  let observedGeneration ← Json.optional? fs "observedGeneration" Json.int64?
  let reason ← Json.optional? fs "reason" Json.text?
  let message ← Json.optional? fs "message" Json.text?
  return { conditions, servers, observedGeneration, reason, message }

/-- The fields of a status, without those that are empty or absent. -/
def fields (s : DomainStatus) : List (String × Json) :=
  Json.listField "conditions" DomainCondition.write s.conditions ++
  Json.listField "servers" ServerStatus.write s.servers ++
  Json.field? "observedGeneration" (fun n => Json.ofInt n.toInt) s.observedGeneration ++
  Json.field? "reason" .text s.reason ++ Json.field? "message" .text s.message

def write (s : DomainStatus) : Json := .object s.fields

/-- A field with a value that stands for its absence. -/
def orElse (name : String) (absent : Json) (fields : List (String × Json)) : List (String × Json) :=
  if (Json.fieldOf name fields).isSome then fields else fields ++ [(name, absent)]

/-- The merge patch that writes a status over one whose version is still current. Empty lists and
absent fields are named, so that nothing of the old status stays. -/
def patch (s : DomainStatus) (resourceVersion : Option String) : Json :=
  let full := ["conditions", "servers"].foldl (fun fs name => orElse name (.list []) fs) s.fields
  let full := ["reason", "message", "observedGeneration"].foldl
    (fun fs name => orElse name .null fs) full
  .object [("metadata", .object [("resourceVersion", Json.ofText? resourceVersion)]),
    ("status", .object full)]

end DomainStatus

end DomainSteward
