import DomainSteward.Call.Retry
import DomainSteward.Domain.Spec
import DomainSteward.Fiber.Packet
import DomainSteward.Form.Fields
import DomainSteward.Report.Event

/-!
Requests, events and settings of calls in forms.
-/

namespace DomainSteward.Form

/-- Reads how often and how patiently calls are made again. -/
def tuningOf (j : Json) : RetryTuning :=
  let usual : RetryTuning := {}
  { maxRetries := UInt32.ofNat (natOf j "max_retries" usual.maxRetries.toNat)
    initialBackoff := .ofMillis (natOf j "initial_ms" usual.initialBackoff.millis)
    maxBackoff := .ofMillis (natOf j "max_ms" usual.maxBackoff.millis) }

/-- Reads an event. -/
def eventOf (j : Json) : DomainEvent :=
  match textOf j "kind" with
  | "RollStarting" => .rollStarting (textOf j "message")
  | "PodCycleStarting" => .podCycleStarting (textOf j "server") (textOf j "reason")
  | "Failed" => .failed (textOf j "reason") (textOf j "message")
  | _ => .rollCompleted

/-- Reads a kind of object: one of the operator's own by name, or any by its parts. -/
def resourceOf (j : Json) : Resource :=
  match j with
  | .text "Domain" => .domain
  | .object _ =>
    { group := textOf j "group", version := textOf j "version"
      kind := textOf j "kind", plural := textOf j "plural" }
  | _ => .pod

/-- Reads the body of a patch. -/
def patchOf (j : Json) : Patch :=
  { type := if boolOf j "strategic" then .strategic else .merge, body := field j "body" }

/-- Reads which objects a list asks for. -/
def listOptionsOf (j : Json) : ListOptions :=
  { labelSelector := textOf? j "labels", fieldSelector := textOf? j "fields"
    limit := count? j "limit", continueToken := textOf? j "continue" }

/-- Reads a request. A body that is no object stands for an object with nothing but the name. -/
def requestOf (j : Json) : Request :=
  let resource := resourceOf (field j "resource")
  let name := textOf j "name"
  let body := (ApiObject.read (field j "body")).getD (.named resource name)
  { resource
    namespaceName := textOf? j "namespace"
    operation :=
      match textOf j "verb" with
      | "list" => .list (listOptionsOf j)
      | "create" => .create body
      | "replace" => .replace name body
      | "patch" => .patch name (patchOf j)
      | "patch_status" => .patchStatus name (patchOf j)
      | "delete" => .delete name (count? j "grace")
      | _ => .get name }

/-- Reads a value for a packet. -/
def packetValue? : Json → Option PacketValue
  | .text s => some (.text s)
  | .bool b => some (.flag b)
  | j => j.int?.map (fun n => .integer (Int64.ofInt n))

/-- Reads clusters; what is none is passed over. -/
def clustersOf (j : Json) : List ClusterSpec := (j.list?.getD []).filterMap ClusterSpec.read

end DomainSteward.Form
