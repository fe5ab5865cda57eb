import DomainSteward.Form.Script
import DomainSteward.Rehearsal.Scene

/-!
Scenes in forms.
-/

namespace DomainSteward.Form

/-- Why a scene cannot be set up. -/
inductive SceneError where
  | invalidDomain
  | invalidPod
deriving DecidableEq, Repr, Inhabited

/-- Whether a scene is one of single fibers or of whole reconciles. -/
inductive SceneKind where
  /-- The domain is on stage from the start. -/
  | fiber
  /-- Domains come with the reconciles. -/
  | reconcile
deriving DecidableEq, Repr, Inhabited

/-- Reads something that is planned. -/
def plannedOf (j : Json) : Option Planned :=
  match textOf j "do" with
  | "stop" => some (.deed (.stop (textOf j "reason")))
  | "drop" => some (.deed .abandon)
  | "pod" => (Pod.read (field j "pod")).map (fun pod => .deed (.podApplied pod))
  | "pod_gone" => (Pod.read (field j "pod")).map (fun pod => .deed (.podDeleted pod))
  | "touch_domain" => some (.deed .touchDomain)
  | "set_domain" => (Domain.read (field j "domain")).map .setDomain
  | _ => none

/-- The conflicts that a status update bears in a fiber unless the form says otherwise. -/
def usualConflicts : UInt32 := 2

/-- Reads the settings that all chains share. In a reconcile a status update bears as many
conflicts as there are retries. -/
def conductOf (kind : SceneKind) (j : Json) : Conduct :=
  let tuning := tuningOf (field j "tuning")
  { tuning
    callTimeout := .ofMillis (natOf j "call_timeout_ms" 30000)
    pageSize := (count? j "page_size").filter (0 < ·)
    pollDelay := .ofMillis (natOf j "poll_ms" 1000)
    conflictBudget :=
      match kind with
      | .fiber => (count? j "conflict_budget").getD usualConflicts
      | .reconcile => tuning.maxRetries
    countsRolls := !boolOf j "no_metrics" }

/-- The time that the clock of a scene shows: the first second of 2026 unless the form says
otherwise. -/
def stampOf (j : Json) : String :=
  ((Instant.ofUnix? ((intOf? j "clock").getD 1767225600) 0).map Instant.timestamp).getD ""

/-- Reads how the server behaves. -/
def serverOf (j : Json) (stored : Option ApiObject) : ApiServer :=
  { latency := natOf j "latency_ms"
    replies := (listOf j "replies").map replyOf
    faults := .ofList ((fieldsOf j "faults").map (fun (key, l) =>
      (key, (l.list?.getD []).map replyOf)))
    deleteDelay := natOf j "delete_ms"
    readyDelay := (intOf? j "ready_ms").map Int.toNat
    stored }

/-- Reads a recorded failure. -/
def recordedFailureOf (j : Json) : Option RecordedFailure :=
  j.object?.map (fun _ => ⟨textOf j "reason", textOf j "message"⟩)

/-- Reads who is told of the failures of scripted calls. -/
def sinkOf (j : Json) : SceneSink :=
  match textOf j "sink" with
  | "none" => .none
  | "kube" => .domain
  | _ => .recorder

/-- Reads a scene. -/
def sceneOf (kind : SceneKind) (j : Json) : Except SceneError Scene := do
  let given :=
    match kind with
    | .fiber => field j "domain"
    | .reconcile => .null
  let domain ←
    if given.isNull then pure none
    else
      match Domain.read given with
      | some d => pure (some d)
      | none => throw .invalidDomain
  let pods ←
    match (listOf j "pods").mapM Pod.read with
    | some pods => pure pods
    | none => throw .invalidPod
  let stored := field j "stored"
  return {
    key := ((textOf? j "ns").getD "ns1", (textOf? j "uid").getD "domain1")
    domain
    pods
    beingDeleted := namesOf j "being_deleted"
    failure := recordedFailureOf (field j "failure")
    rolling := boolOf j "rolling"
    conduct := conductOf kind j
    stamp := stampOf j
    sink := sinkOf j
    abandoned := boolOf j "drop_controller"
    stopped := boolOf j "stopped"
    server := serverOf j (ApiObject.read (if stored.isNull then given else stored))
    playsCluster := textOf j "mode" = "cluster"
    timeline := (listOf j "timeline").filterMap (fun t => (plannedOf t).map (natOf t "at", ·))
    limit := natOf j "limit_ms" 600000 }

/-- Reads what a script is rehearsed on. -/
def settingOf (j : Json) : Scene.Setting :=
  let topology := field j "topology"
  { values := (fieldsOf j "packet").filterMap (fun (key, v) => (packetValue? v).map (key, ·))
    topology :=
      if topology.isNull then none else some (.ofSpec { clusters := clustersOf topology })
    hasPresence := !boolOf j "no_presence" }

end DomainSteward.Form
