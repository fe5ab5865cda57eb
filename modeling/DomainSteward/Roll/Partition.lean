import DomainSteward.Data.NameMap

/-!
Who can restart now and who has to queue.

A server that is not Ready, or that belongs to no cluster, is held back by nobody. The others wait
in the queue of their cluster.
-/

namespace DomainSteward

variable {α : Type}

/-- Servers that can restart now, and a queue for each cluster; all in the order of the work. -/
structure Partition (α : Type) where
  unconstrained : List (String × α)
  clustered : NameMap (List (String × α))

/-- The cluster in whose queue a server has to wait. -/
def queueOf (clusterOf : α → Option String) (ready : NameSet) (member : String × α) :
    Option String :=
  if ready.contains member.1 then clusterOf member.2 else none

/-- Splits the work of a roll. -/
def partition (clusterOf : α → Option String) (ready : NameSet) (work : List (String × α)) :
    Partition α :=
  let queue := queueOf clusterOf ready
  { unconstrained := work.filter (fun m => queue m = none)
    clustered := NameMap.ofList ((work.filterMap queue).map (fun cluster =>
      (cluster, work.filter (fun m => queue m = some cluster)))) }

end DomainSteward
