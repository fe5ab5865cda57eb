import DomainSteward.Presence.Registry

/-!
What a watch of pods tells the registry.

A watch tells of single pods, and from time to time lists all pods anew. The pods of such a list
are held back until it is complete; then they are all that is known.
-/

namespace DomainSteward

/-- What a watch tells. -/
inductive PodEvent where
  | applied (pod : Pod)
  | deleted (pod : Pod)
  /-- A list of all pods begins. -/
  | listBegan
  | listed (pod : Pod)
  /-- The list is complete. -/
  | listDone
deriving Inhabited

/-- The registry with the list that is under way. -/
structure PodFeed where
  registry : Registry := {}
  /-- The pods of the list so far. -/
  pending : Option (List Pod) := none
deriving Inhabited

namespace PodFeed

/-- Takes in what a watch tells. A pod of a list that has not begun counts as changed. -/
def receive (f : PodFeed) : PodEvent → PodFeed
  | .applied pod => { f with registry := f.registry.podApplied pod }
  | .deleted pod => { f with registry := f.registry.podDeleted pod }
  | .listBegan => { f with pending := some [] }
  | .listed pod =>
    match f.pending with
    | some pods => { f with pending := some (pods ++ [pod]) }
    | none => { f with registry := f.registry.podApplied pod }
  | .listDone =>
    { registry := f.registry.replacePods (f.pending.getD []), pending := none }

end PodFeed

end DomainSteward
