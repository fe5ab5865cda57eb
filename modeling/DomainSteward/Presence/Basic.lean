import DomainSteward.Domain.Topology
import DomainSteward.Pod.Basic

/-!
What is known of a domain.

A `Presence` holds the domain as last read, the pod of each server, the servers whose pods are
being deleted, a recorded failure, and whether a roll is under way. A server is Ready when its pod
is there, reports Ready, and is neither being taken down nor marked as being deleted.
-/

namespace DomainSteward

/-- A failure recorded against a domain until the next status update tells of it. -/
structure RecordedFailure where
  reason : String
  message : String
deriving DecidableEq, Repr, Inhabited

/-- What is known of one domain. -/
structure Presence where
  namespaceName : String
  domainUid : String
  /-- The domain as last read. -/
  domain : Option Domain := none
  /-- The pod of each server. -/
  servers : NameMap Pod := {}
  /-- The servers whose pods are being deleted. -/
  beingDeleted : NameSet := {}
  failure : Option RecordedFailure := none
  /-- Whether a roll is under way. -/
  rolling : Bool := false
deriving Inhabited

namespace Presence

/-! ## Servers -/

def pod? (p : Presence) (server : String) : Option Pod := p.servers.get? server

def setPod (p : Presence) (server : String) (pod : Pod) : Presence :=
  { p with servers := p.servers.insert server pod }

/-- Forgets the pod of a server. -/
def removePod (p : Presence) (server : String) : Presence :=
  { p with servers := p.servers.erase server }

/-- Makes the given pods all that are known. -/
def replacePods (p : Presence) (servers : NameMap Pod) : Presence := { p with servers }

/-- Marks a server's pod as being deleted. -/
def mark (p : Presence) (server : String) : Presence :=
  { p with beingDeleted := NameSet.add p.beingDeleted server }

/-- Takes the mark away. -/
def unmark (p : Presence) (server : String) : Presence :=
  { p with beingDeleted := p.beingDeleted.erase server }

/-- Whether a server's pod is marked as being deleted. -/
def isMarked (p : Presence) (server : String) : Bool := p.beingDeleted.contains server

/-! ## Readiness -/

/-- Whether a server with the given pod is Ready. -/
def isReadyWith (p : Presence) (server : String) (pod : Pod) : Bool :=
  !pod.isTerminating && !p.isMarked server && pod.isReady

def isServerReady (p : Presence) (server : String) : Bool :=
  (p.pod? server).any (p.isReadyWith server)

def readyServers (p : Presence) : NameSet := (p.servers.filter p.isReadyWith).names

/-- Whether a server counts as a member of a cluster: the topology says so if it lists the servers
of the cluster, else the label of the pod. -/
def isMember (topology : Option Topology) (cluster server : String) (pod : Pod) : Bool :=
  match (topology.bind (·.members? cluster)).filter (fun l => !l.isEmpty) with
  | some members => members.contains server
  | none => pod.clusterName? = some cluster

def readyInCluster (p : Presence) (cluster : String) (topology : Option Topology) : NameSet :=
  (p.servers.filter (fun name pod =>
    isMember topology cluster name pod && p.isReadyWith name pod)).names

/-- The members of a cluster that have to stay Ready; none while the domain is unknown. -/
def minAvailable (p : Presence) (cluster : String) : Except Panic Nat :=
  (p.domain.map (·.spec.minAvailable cluster)).getD (.ok 0)

/-- The wanted number of members of a cluster; none while the domain is unknown. -/
def replicaCount (p : Presence) (cluster : String) : Int32 :=
  (p.domain.map (·.spec.replicaCount cluster)).getD 0

/-- The servers whose pod was made for another restart version, with their clusters. -/
def serversToRoll (p : Presence) (restartVersion : String) : List (String × Option String) :=
  (p.servers.entries.filter (fun e => e.2.restartVersion? ≠ some restartVersion)).map
    (fun (server, pod) => (server, pod.clusterName?))

/-! ## The rest -/

/-- Holds a domain as last read. -/
def setDomain (p : Presence) (domain : Domain) : Presence := { p with domain := some domain }

/-- Records a failure over the one before. -/
def recordFailure (p : Presence) (reason message : String) : Presence :=
  { p with failure := some ⟨reason, message⟩ }

/-- Forgets the recorded failure. -/
def clearFailure (p : Presence) : Presence := { p with failure := none }

/-- Says whether a roll is under way. -/
def setRolling (p : Presence) (rolling : Bool) : Presence := { p with rolling }

end Presence

end DomainSteward
