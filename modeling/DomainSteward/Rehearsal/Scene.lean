import DomainSteward.Rehearsal.Log
import DomainSteward.Rehearsal.Play
import DomainSteward.Time.Timestamp

/-!
Scenes: how a rehearsal is set up, and how it is run.

A scene says what is known of one domain, how the server behaves and what happens when. A script of
steps, or a number of reconciles, is then rehearsed in it.
-/

namespace DomainSteward

/-- Something that is to happen at some time. -/
inductive Planned where
  | deed (d : Deed)
  /-- A domain comes to be held by the presence on stage. -/
  | setDomain (domain : Domain)
deriving Inhabited

/-- The sinks that a scene can give to the calls of a script. -/
inductive SceneSink where
  | none
  | recorder
  /-- That of the domain on stage. -/
  | domain
deriving DecidableEq, Repr, Inhabited

/-- How a rehearsal is set up. -/
structure Scene where
  key : DomainKey := ("ns1", "domain1")
  /-- The domain as it is held. -/
  domain : Option Domain := none
  /-- The pods that are known. -/
  pods : List Pod := []
  beingDeleted : List String := []
  failure : Option RecordedFailure := none
  rolling : Bool := false
  conduct : Conduct := {}
  stamp : String := ""
  sink : SceneSink := .recorder
  /-- Whether nobody holds on to the stopping flag. -/
  abandoned : Bool := false
  /-- Whether the operator is stopping from the start. -/
  stopped : Bool := false
  server : ApiServer := {}
  /-- Whether the server plays the cluster of the presence on stage. -/
  playsCluster : Bool := false
  timeline : List (Nat × Planned) := []
  /-- The longest time that a rehearsal may take. -/
  limit : Nat := 600000
deriving Inhabited

namespace Scene

/-- What is known of the domain on stage. -/
def presence (s : Scene) (p : Presence) : Presence :=
  let p := { p with rolling := s.rolling, failure := s.failure }
  let p := match s.domain with
    | some d => p.setDomain d
    | none => p
  s.beingDeleted.foldl Presence.mark p

/-- The registry at the start, and the number of the presence on stage. -/
def registry (s : Scene) : PresenceId × Registry :=
  let (id, r) := ({} : Registry).findOrCreate s.key
  (id, s.pods.foldl Registry.podApplied (r.modify id s.presence))

/-- The stopping flag at the start. -/
def shutdown (s : Scene) : Shutdown :=
  let flag : Shutdown := {}
  let flag := if s.stopped then flag.stop "stopped" else flag
  if s.abandoned then flag.abandon else flag

/-- The number of the presence on stage. -/
def stage (s : Scene) : PresenceId := s.registry.1

/-- The world at the start. -/
def world (s : Scene) : World :=
  { stamp := s.stamp, feed := { registry := s.registry.2 }, shutdown := s.shutdown }

/-- Who is told of the failures of the calls of a script. -/
def failureSink (s : Scene) : Option FailureSink :=
  match s.sink with
  | .none => none
  | .recorder => some (.recorder false)
  | .domain => some (.domain s.stage)

/-- What scripts are cast with. -/
def casting (s : Scene) : Cast :=
  { conduct := s.conduct
    id := s.stage
    presence := (s.world.presence? s.stage).getD default
    sink := s.failureSink }

def deed (s : Scene) : Planned → Deed
  | .deed d => d
  | .setDomain domain => .setDomain s.stage domain

/-- The rehearsal at its start, with the labelled steps of its script. -/
def opened (s : Scene) (labels : List (String × Step Cue)) : Play :=
  let play : Play :=
    { staging := { conduct := s.conduct, presence := s.stage, sink := s.failureSink, labels }
      machine := { fibers := [], world := s.world }
      server :=
        { s.server with mode := if s.playsCluster then .cluster s.stage else .echo } }
  s.timeline.foldl (fun play (time, planned) =>
    if time = 0 then { play with queue := play.queue ++ [.deed (s.deed planned)] }
    else play.alarm time (.deed (s.deed planned))) play

/-! ## Scripts -/

/-- What a script is rehearsed on. -/
structure Setting where
  /-- The values of the packet at the start. -/
  values : List (String × PacketValue) := []
  topology : Option Topology := none
  /-- Whether the packet has the presence on stage. -/
  hasPresence : Bool := true
deriving Inhabited

/-- The packet of a script at its start. -/
def packet (s : Scene) (t : Setting) : Packet :=
  { values := NameMap.ofList
      (t.values ++ (t.topology.map (fun l => (Packet.topologyKey, PacketValue.topology l))).toList)
    presence := if t.hasPresence then some s.stage else none }

/-- The first step of a script and all of its labelled steps. -/
def castScript (s : Scene) (script : Script) : Option (Step Cue) × List (String × Step Cue) :=
  let (head, sheet) := s.casting.chain {} script
  (head, sheet.labels)

/-- A fiber that was rehearsed. -/
structure Performance where
  fiber : FiberId
  /-- The time at its end, or when patience ran out. -/
  time : Nat
  play : Play

/-- Rehearses a script. -/
def perform (s : Scene) (t : Setting) (script : Script) (settle : Option Nat) : Performance :=
  let (head, labels) := s.castScript script
  let p := (s.packet t).put Act.fiberKey (.text "0")
  let (fiber, play) := (s.opened labels).start (head.getD .idle) p
  let play := play.runFor fiber s.limit
  let time := play.now
  { fiber
    time
    play := match settle with
      | some wait => play.settle wait
      | none => play }

/-- Applies the first step of a script to a fresh packet. -/
def tryStep (s : Scene) (t : Setting) (labels : List (String × Step Cue)) (head : Step Cue) :
    StepApplied Cue :=
  let play := s.opened labels
  head.apply s.conduct play.staging.rules (s.packet t) play.world

/-! ## Reconciles -/

/-- How a rehearsed reconcile went. -/
inductive RunResult where
  | ended (result : Except ReconcileError NextLook)
  | unfinished

/-- Rehearses one reconcile of a domain. -/
def reconcile (resync : Duration) (limit : Nat) (domain : Domain) (play : Play) :
    RunResult × Play :=
  match beginReconcile play.staging.conduct domain play.world with
  | .refused e => (.ended (.error e), play)
  | .forgotten w => (.ended (.ok .onChange), play.modifyWorld (fun _ => w))
  | .fiber id head p w =>
    let began := play.now
    let (fiber, play) := (play.modifyWorld (fun _ => w)).start head p
    let opened : OpenReconcile := { fiber, presence := id, began }
    let play := { play with reconciles := play.reconciles ++ [opened] }
    let play := play.runFor fiber limit
    match (play.machine.fiber? fiber).bind Fiber.verdict? with
    | some failure => (.ended (reconcileResult resync failure), play)
    | none => (.unfinished, play)

end Scene

end DomainSteward
