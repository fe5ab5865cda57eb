import DomainSteward.Presence.Basic

/-!
The status that a domain should report.

It is computed from what is known now, on top of the status before: one entry for each server,
whether enough servers are Ready, whether a roll is under way, and the recorded failure.
-/

namespace DomainSteward.Presence

/-- The state of a server that runs. -/
def stateRunning : String := "RUNNING"

/-- The state of a server that has not become Ready yet. -/
def stateStarting : String := "STARTING"

/-- The state of a server whose pod goes away. -/
def stateShuttingDown : String := "SHUTTING_DOWN"

/-- The entry of a server. -/
def serverStatus (p : Presence) (name : String) (pod : Pod) : ServerStatus :=
  { serverName := name
    clusterName := pod.clusterName?
    state := some (
      if p.isMarked name || pod.isTerminating then stateShuttingDown
      else if pod.isReady then stateRunning
      else stateStarting)
    ready := p.isServerReady name }

/-- The clusters that have too few Ready members, in the order of the domain. -/
def shortClusters (p : Presence) (spec : DomainSpec) : Except Panic (List String) :=
  spec.floors.map (fun floors =>
    (floors.filter (fun (cluster, floor) =>
      decide ((p.readyInCluster cluster (some (Topology.ofSpec spec))).size < floor))).map (·.1))

/-- Whether the domain is available, and why not, given the clusters that are short. -/
def availableCondition (p : Presence) (short : List String) : DomainCondition :=
  if !short.isEmpty then
    .ofBool .available false (some "ServersNotReady")
      (some ("Too few Ready servers in cluster(s) " ++ String.intercalate ", " short))
  else if p.readyServers.isEmpty then
    .ofBool .available false (some "ServersNotReady") (some "No server is Ready")
  else .ofBool .available true (some "ServersReady")

/-- The condition of a roll: there while it is under way, gone otherwise. -/
def withRolling (p : Presence) (now : String) (s : DomainStatus) : DomainStatus :=
  if p.rolling then s.setCondition (.ofBool .rolling true (some "RestartVersion")) now
  else s.removeCondition .rolling

/-- The recorded failure: there while it is recorded, gone otherwise. -/
def withFailure (p : Presence) (now : String) (s : DomainStatus) : DomainStatus :=
  match p.failure with
  | some f => s.recordFailure f.reason f.message now
  | none => { s.removeCondition .failed with reason := none, message := none }

/-- The status that a domain with some short clusters should report now. -/
def statusWith (p : Presence) (d : Domain) (short : List String) (now : String) : DomainStatus :=
  let before := d.status.getD {}
  let servers := p.servers.entries.map (fun (name, pod) => p.serverStatus name pod)
  let s := { before with servers }
  let s := s.setCondition (p.availableCondition short) now
  let s := p.withRolling now s
  let s := p.withFailure now s
  { s with observedGeneration := d.metadata.generation }

/-- The status that a domain should report now. -/
def computeStatus (p : Presence) (d : Domain) (now : String) : Except Panic DomainStatus :=
  (p.shortClusters d.spec).map (fun short => p.statusWith d short now)

end DomainSteward.Presence
