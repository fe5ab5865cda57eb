import DomainSteward.Chain.Pods

/-!
The chains of a roll.

Servers that are not Ready or stand alone restart at once. The others restart cluster by cluster
in waves, each wave no larger than what the cluster can spare, and the next one begins only when
all restarts of the one before have ended. A roll is announced when it begins and closed once,
after all its restarts.
-/

namespace DomainSteward

variable {ε : Type}

/-- Restarts the servers of some work, each by its own chain, and then goes on with a step. -/
def rollServers (work : NameMap (Step ε × Packet)) (next : Option (Step ε)) : Step ε :=
  .rolling work.entries next

/-- The packet of the chain that restarts a server. -/
def memberPacket (p : Packet) (server : String) (cluster : Option String) : Packet :=
  let p := p.put Packet.serverKey (.text server)
  match cluster with
  | some cluster => p.put Packet.clusterKey (.text cluster)
  | none => p

/-- The restarts that are due: of every server whose pod was made for another restart version. -/
def workOf (sink : Option FailureSink) (presence : Presence) (restartVersion : String)
    (p : Packet) : NameMap (Step ε × Packet) :=
  .ofList ((presence.serversToRoll restartVersion).filterMap (fun (server, cluster) =>
    (restartServer? sink presence server restartVersion none).map (fun chain =>
      (server, chain, memberPacket p server cluster))))

/-- Rolls the servers that are out of date, if there are any. -/
def rollIfNeeded (sink : Option FailureSink) (next : Option (Step ε)) (p : Packet) (w : World) :
    StepApplied ε :=
  withPresence p w (fun _ presence =>
    match presence.domain with
    | none => .of (.goOn next) p w
    | some domain =>
      let work := workOf sink presence domain.restartVersion p
      if work.isEmpty then .of (.goOn next) p w else .of (.next (rollServers work next)) p w)

/-- Announces a roll, unless that has been done. -/
def announce (id : PresenceId) (servers : List String) (p : Packet) (w : World) :
    Packet × World :=
  if p.contains Packet.rollMarkKey then (p, w)
  else
    (p.put Packet.rollMarkKey (.flag true),
      (w.emit (.rollStarting
        ("Rolling restart of servers " ++ String.intercalate ", " servers))).modifyPresence id
        (·.setRolling true))

/-- The cluster in which a member of a roll is restarted. -/
def Member.cluster? (m : Step ε × Packet) : Option String := m.2.text? Packet.clusterKey

/-- The fibers of a roll: one for all servers that can restart now and one for each cluster. -/
def rollFibers (members : List (Member ε)) (ready : NameSet) (p : Packet) :
    List (Step ε × Packet) :=
  let split := partition Member.cluster? ready members
  (if split.unconstrained.isEmpty then [] else [(.restartNow split.unconstrained, p)]) ++
    split.clustered.entries.map (fun (cluster, queue) =>
      (.rollCluster cluster queue p.topology?, p))

/-- Announces a roll and forks its fibers. -/
def rolling (members : List (Member ε)) (next : Option (Step ε)) (p : Packet) (w : World) :
    StepApplied ε :=
  withPresence p w (fun id presence =>
    let (p, w) := announce id (members.map (·.1)) p w
    .of (.forkJoin (rollFibers members presence.readyServers p) (some (.afterRoll next))) p w)

/-- Restarts servers all at once. -/
def restartNow (members : List (Member ε)) (p : Packet) (w : World) : StepApplied ε :=
  .of (.forkJoin (members.map (·.2)) none) p w

/-- Splits the queue of a cluster into its next wave and those that wait on. It takes a floor to
know how many can be spared. -/
def splitQueue (presence : Presence) (cluster : String) (topology : Option Topology)
    (queue : List (Member ε)) : Except Panic (WaveSplit (Step ε × Packet)) :=
  (presence.minAvailable cluster).map
    (nextWave queue (presence.readyInCluster cluster topology))

/-- Restarts the next wave of a cluster, or waits for slack, or ends when nobody is left. No wave
begins once the operator is stopping. -/
def rollCluster (c : Conduct) (cluster : String) (queue : List (Member ε))
    (topology : Option Topology) (p : Packet) (w : World) : StepApplied ε :=
  if w.isStopping then .of (.terminate .cancelled) p w
  else
    withPresence p w (fun _ presence =>
      match splitQueue presence cluster topology queue with
      | .error panic => .panicked panic p w
      | .ok split =>
        let again := some (.rollCluster cluster split.held topology)
        if !split.wave.isEmpty then .of (.forkJoin (split.wave.map (·.2)) again) p w
        else if split.held.isEmpty then .of .finish p w
        else .of (.delay c.pollDelay again) p w)

/-- Closes a roll that was announced. -/
def afterRoll (c : Conduct) (next : Option (Step ε)) (p : Packet) (w : World) : StepApplied ε :=
  let announced := ((p.value? Packet.rollMarkKey).bind (·.flag?)).isSome
  let p := p.remove Packet.rollMarkKey
  .of (.goOn next) p (
    if announced then
      c.countRoll (·.rollCompleted)
        ((w.modifyPresenceOf p (·.setRolling false)).emit .rollCompleted)
    else w)

end DomainSteward
