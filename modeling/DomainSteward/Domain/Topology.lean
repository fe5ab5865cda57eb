import DomainSteward.Data.NameMap
import DomainSteward.Domain.Basic

/-!
Which servers belong to which cluster.

The topology of a domain lists the servers of each cluster by the cluster's name; of two entries
of one name the later counts.
-/

namespace DomainSteward

/-- The servers of each cluster. -/
structure Topology where
  clusters : NameMap (List String) := {}
deriving Inhabited

namespace Topology

/-- The topology that a wanted state gives. -/
def ofSpec (s : DomainSpec) : Topology :=
  ⟨NameMap.ofList (s.clusters.map (fun c => (c.clusterName, c.servers)))⟩

/-- The servers listed for a cluster. -/
def members? (t : Topology) (cluster : String) : Option (List String) := t.clusters.get? cluster

end Topology

end DomainSteward
