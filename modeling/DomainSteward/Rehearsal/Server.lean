import DomainSteward.Chain.World
import DomainSteward.Json.MergePatch
import DomainSteward.Rehearsal.Reply
import DomainSteward.Text.Integer

/-!
The API server of a rehearsal.

It gives the replies that it was told to give, then those it keeps for single calls, and after that
it answers by itself: it echoes the request, or it plays a cluster whose pods are those of one
presence. What it does later on comes back as `Deed`s with the times they take.
-/

namespace DomainSteward

/-- Something that happens in a rehearsal besides the fibers. -/
inductive Deed where
  /-- Somebody asks the operator to stop. -/
  | stop (reason : String)
  /-- The hold on the stopping flag is given up. -/
  | abandon
  | podApplied (pod : Pod)
  | podDeleted (pod : Pod)
  /-- The stored domain gets a new version. -/
  | touchDomain
  /-- A domain comes to be held by a presence. -/
  | setDomain (id : PresenceId) (domain : Domain)
deriving Inhabited

/-- How the server answers by itself. -/
inductive ServerMode where
  | echo
  /-- It plays the cluster of a presence. -/
  | cluster (id : PresenceId)
deriving Inhabited

structure ApiServer where
  mode : ServerMode := .echo
  /-- The time that passes before a call is looked at. -/
  latency : Nat := 0
  /-- The next replies; an absent one leaves the answer to the server. -/
  replies : List (Option Reply) := []
  /-- The next replies to single calls, by what is done to which object. -/
  faults : NameMap (List (Option Reply)) := {}
  /-- The time it takes to delete a pod. -/
  deleteDelay : Nat := 0
  /-- The time it takes a new pod to become Ready; for ever if absent. -/
  readyDelay : Option Nat := none
  /-- The domain as the server keeps it. -/
  stored : Option ApiObject := none
  /-- How many pods of each name were made. -/
  made : NameMap Nat := {}
deriving Inhabited

/-- An answer with everything that comes of it. -/
structure Served where
  response : Response
  server : ApiServer
  world : World
  /-- What happens later. -/
  later : List (Nat × Deed) := []

namespace ApiServer

/-! ## Told replies -/

/-- The name under which replies to a call are kept. -/
def faultKey (r : Request) : String :=
  r.callName ++ (match r.name? with
    | some name => " " ++ name
    | none => "")

/-- Takes the next told reply to a request, if there is any. -/
def takeReply (s : ApiServer) (r : Request) : Option Reply × ApiServer :=
  match s.replies with
  | reply :: rest => (reply, { s with replies := rest })
  | [] =>
    match s.faults.get? (faultKey r) with
    | some (reply :: rest) => (reply, { s with faults := s.faults.insert (faultKey r) rest })
    | _ => (none, s)

/-! ## The played cluster -/

/-- The version after a version. -/
def nextVersion (version : Option String) : String :=
  match Text.readInteger (.unsigned 64) (version.getD "") with
  | .ok n => toString (n + 1)
  | .error _ => "1"

/-- Gives an object its next version. -/
def touched (o : ApiObject) : ApiObject :=
  let version := nextVersion o.metadata.resourceVersion
  { o with metadata := { o.metadata with resourceVersion := some version } }

def podObject (p : Pod) : ApiObject := (ApiObject.read p.write).getD {}

/-- Where a page starts. -/
def offsetOf (token : Option String) (total : Nat) : Nat :=
  match Text.readInteger (.unsigned 64) (token.getD "") with
  | .ok n => min n.toNat total
  | .error _ => 0

/-- A page of the pods of a presence, in the order of their servers. -/
def listPods (presence : Presence) (options : ListOptions) : ObjectPage :=
  let pods := presence.servers.values
  let start := offsetOf options.continueToken pods.length
  let stop :=
    match options.limit with
    | some limit => min (start + limit.toNat) pods.length
    | none => pods.length
  { items := ((pods.take stop).drop start).map podObject
    continueToken := if stop < pods.length then some (toString stop) else none }

/-- Deletes the first pod of a name. -/
def deletePod (s : ApiServer) (w : World) (r : Request) (presence : Presence) (name : String) :
    Served :=
  match presence.servers.values.find? (fun p => p.metadata.name = some name) with
  | none => ⟨ReplyContent.refused r 404, s, w, []⟩
  | some pod =>
    let response := Response.object (podObject pod) 200
    if s.deleteDelay = 0 then ⟨response, s, w.withRegistry (·.podDeleted pod), []⟩
    else ⟨response, s, w, [(s.deleteDelay, .podDeleted pod)]⟩

/-- A pod with one condition that tells whether it is Ready. -/
def withReadiness (pod : Pod) (ready : Bool) : Pod :=
  { pod with
    status := some
      { conditions := some [{ type := "Ready", status := if ready then "True" else "False" }] } }

/-- Makes a pod. -/
def createPod (s : ApiServer) (w : World) (r : Request) (presence : Presence) (body : ApiObject) :
    Served :=
  let name := body.metadata.name.getD ""
  let number := (s.made.get? name).getD 0 + 1
  let s := { s with made := s.made.insert name number }
  match Pod.ofObject? body with
  | none => ⟨ReplyContent.refused r 400, s, w, []⟩
  | some pod =>
    match pod.serverName? with
    | none => ⟨ReplyContent.refused r 422, s, w, []⟩
    | some server =>
      if (presence.pod? server).isSome then ⟨ReplyContent.refused r 409, s, w, []⟩
      else
        let uid := "created-" ++ name ++ "-" ++ toString number
        let pod := { pod with metadata := { pod.metadata with uid := some uid } }
        let first := withReadiness pod (s.readyDelay = some 0)
        ⟨.object (podObject first) 201, s, w.withRegistry (·.podApplied first),
          match s.readyDelay with
          | some 0 => []
          | some wait => [(wait, .podApplied (withReadiness pod true))]
          | none => []⟩

/-- Gives the stored domain. -/
def readDomain (s : ApiServer) (w : World) (r : Request) : Served :=
  match s.stored with
  | some domain => ⟨.object domain 200, s, w, []⟩
  | none => ⟨ReplyContent.refused r 404, s, w, []⟩

/-- The version that a patch insists on. -/
def wantedVersion (patch : Json) : Json :=
  (((patch.get? "metadata").getD .null).get? "resourceVersion").getD .null

/-- Whether a patch may be applied to an object. -/
def admits (o : ApiObject) (patch : Json) : Bool :=
  let wanted := wantedVersion patch
  wanted.isNull || (wanted.text?.isSome && wanted.text? = o.metadata.resourceVersion)

/-- Merges the status of a patch into the stored domain. -/
def patchStatus (s : ApiServer) (w : World) (r : Request) (patch : Json) : Served :=
  match s.stored with
  | none => ⟨ReplyContent.refused r 404, s, w, []⟩
  | some domain =>
    if admits domain patch then
      let status :=
        ((Json.fieldOf "status" domain.data).getD .null).mergePatch
          ((patch.get? "status").getD .null)
      let domain := touched { domain with data := Json.setField "status" status domain.data }
      ⟨.object domain 200, { s with stored := some domain }, w, []⟩
    else ⟨ReplyContent.refused r 409, s, w, []⟩

/-- Plays the cluster of a presence. -/
def play (s : ApiServer) (w : World) (id : PresenceId) (r : Request) : Served :=
  let presence := (w.presence? id).getD default
  let isPod := r.resource.kind = Resource.pod.kind
  let isDomain := r.resource.kind = Resource.domain.kind
  match r.operation with
  | .list options =>
    if isPod then ⟨.list (listPods presence options), s, w, []⟩ else refuse
  | .delete name _ => if isPod then s.deletePod w r presence name else refuse
  | .create body => if isPod then s.createPod w r presence body else refuse
  | .get _ => if isDomain then s.readDomain w r else refuse
  | .patchStatus _ patch => if isDomain then s.patchStatus w r patch.body else refuse
  | _ => refuse
where
  refuse : Served := ⟨ReplyContent.refused r 405, s, w, []⟩

/-- Answers by itself. -/
def answer (s : ApiServer) (w : World) (r : Request) : Served :=
  match s.mode with
  | .echo => ⟨ReplyContent.response r .plain, s, w, []⟩
  | .cluster id => s.play w id r

end ApiServer

def Deed.perform (d : Deed) (s : ApiServer) (w : World) : ApiServer × World :=
  match d with
  | .stop reason => (s, { w with shutdown := w.shutdown.stop reason })
  | .abandon => (s, { w with shutdown := w.shutdown.abandon })
  | .podApplied pod => (s, w.withRegistry (·.podApplied pod))
  | .podDeleted pod => (s, w.withRegistry (·.podDeleted pod))
  | .touchDomain => ({ s with stored := s.stored.map ApiServer.touched }, w)
  | .setDomain id domain => (s, w.modifyPresence id (·.setDomain domain))

end DomainSteward
