import DomainSteward.Json.Fields
import DomainSteward.Panic

/-!
The wanted state of a domain.

A domain lists its clusters, each with a number of replicas and a number of members that may be
missing during a roll; what a cluster leaves open is taken from the domain. The floor of a cluster
is their difference, if there is one.
-/

namespace DomainSteward

/-- A cluster of servers. -/
structure ClusterSpec where
  clusterName : String
  /-- The wanted number of running members. -/
  replicas : Option Int32 := none
  /-- The most members that may be missing during a roll. -/
  maxUnavailable : Option Int32 := none
  /-- The servers that belong to the cluster. -/
  servers : List String := []
deriving DecidableEq, Inhabited

/-- The wanted state of a domain. -/
structure DomainSpec where
  /-- Identifies the domain; its name if absent. -/
  domainUid : Option String := none
  /-- The replicas of clusters that do not set their own. -/
  replicas : Int32 := 1
  /-- A new value rolls every server of the domain. -/
  restartVersion : Option String := none
  /-- The missing members allowed to clusters that do not set their own. -/
  maxClusterUnavailable : Option Int32 := none
  clusters : List ClusterSpec := []
deriving DecidableEq, Inhabited

/-- The missing members allowed where neither cluster nor domain says. -/
def defaultMaxUnavailable : Int32 := 1

namespace ClusterSpec

def read (j : Json) : Option ClusterSpec := do
  let fs ← j.object?
  let clusterName ← Json.required? fs "clusterName" Json.text?
  let replicas ← Json.optional? fs "replicas" Json.int32?
  let maxUnavailable ← Json.optional? fs "maxUnavailable" Json.int32?
  let servers ← Json.defaulted? fs "servers" [] (Json.listOf? Json.text?)
  return { clusterName, replicas, maxUnavailable, servers }

def write (c : ClusterSpec) : Json :=
  .object (
    [("clusterName", .text c.clusterName)] ++
    Json.field? "replicas" (fun n => Json.ofInt n.toInt) c.replicas ++
    Json.field? "maxUnavailable" (fun n => Json.ofInt n.toInt) c.maxUnavailable ++
    Json.listField "servers" .text c.servers)

end ClusterSpec

namespace DomainSpec

/-- The first cluster that has the name. -/
def cluster? (s : DomainSpec) (name : String) : Option ClusterSpec :=
  s.clusters.find? (fun c => c.clusterName = name)

/-- The wanted number of running members of a cluster. -/
def replicaCount (s : DomainSpec) (cluster : String) : Int32 :=
  ((s.cluster? cluster).bind (·.replicas)).getD s.replicas

/-- The most members of a cluster that may be missing during a roll. -/
def maxUnavailable (s : DomainSpec) (cluster : String) : Int32 :=
  (((s.cluster? cluster).bind (·.maxUnavailable)).or s.maxClusterUnavailable).getD
    defaultMaxUnavailable

/-- The members of a cluster that have to stay Ready during a roll. The difference is taken in
32 bits, with a panic where these do not hold it. -/
def minAvailable (s : DomainSpec) (cluster : String) : Except Panic Nat :=
  (difference (s.replicaCount cluster) (s.maxUnavailable cluster)).map (·.toInt.toNat)

/-- Every listed cluster with its floor, in the order of the domain. -/
def floors (s : DomainSpec) : Except Panic (List (String × Nat)) :=
  s.clusters.mapM (fun c => (s.minAvailable c.clusterName).map (c.clusterName, ·))

/-- Reads a wanted state. -/
def read (j : Json) : Option DomainSpec := do
  let fs ← j.object?
  let domainUid ← Json.optional? fs "domainUID" Json.text?
  let replicas ← Json.defaulted? fs "replicas" 1 Json.int32?
  let restartVersion ← Json.optional? fs "restartVersion" Json.text?
  let maxClusterUnavailable ← Json.optional? fs "maxClusterUnavailable" Json.int32?
  let clusters ← Json.defaulted? fs "clusters" [] (Json.listOf? ClusterSpec.read)
  return { domainUid, replicas, restartVersion, maxClusterUnavailable, clusters }

/-- Writes a wanted state. -/
def write (s : DomainSpec) : Json :=
  .object (
    Json.field? "domainUID" .text s.domainUid ++
    [("replicas", Json.ofInt s.replicas.toInt)] ++
    Json.field? "restartVersion" .text s.restartVersion ++
    Json.field? "maxClusterUnavailable" (fun n => Json.ofInt n.toInt) s.maxClusterUnavailable ++
    Json.listField "clusters" ClusterSpec.write s.clusters)

end DomainSpec

end DomainSteward
