import DomainSteward.Presence.Basic

/-!
The presences of all domains.

A presence is found by namespace and domain, and then held by its number: one that has been taken
out of the registry lives on for whoever still holds it.
-/

namespace DomainSteward

/-- Namespace and domain that identify a presence. -/
abbrev DomainKey := String × String

/-- The number under which a presence is held. -/
abbrev PresenceId := Nat

structure Registry where
  /-- Every presence that was ever made, by its number. -/
  presences : List Presence := []
  /-- The presences that can be found, in the order in which they came in. -/
  index : List (DomainKey × PresenceId) := []
deriving Inhabited

namespace Registry

/-- The number of the presence of a domain. -/
def find? (r : Registry) (key : DomainKey) : Option PresenceId :=
  (r.index.find? (fun e => e.1 = key)).map (·.2)

/-- The presence held by a number. -/
def get? (r : Registry) (id : PresenceId) : Option Presence := r.presences[id]?

def lookup? (r : Registry) (key : DomainKey) : Option Presence := (r.find? key).bind r.get?

/-- Changes the presence held by a number. -/
def modify (r : Registry) (id : PresenceId) (f : Presence → Presence) : Registry :=
  { r with presences := r.presences.modify id f }

/-- The number of the presence of a domain, made if there is none. -/
def findOrCreate (r : Registry) (key : DomainKey) : PresenceId × Registry :=
  match r.find? key with
  | some id => (id, r)
  | none =>
    (r.presences.length,
      { presences := r.presences ++ [{ namespaceName := key.1, domainUid := key.2 }]
        index := r.index ++ [(key, r.presences.length)] })

/-- Takes the presence of a domain out. -/
def remove (r : Registry) (key : DomainKey) : Registry :=
  { r with index := r.index.filter (fun e => e.1 ≠ key) }

/-- The number of presences that can be found. -/
def size (r : Registry) : Nat := r.index.length

/-! ## Pods -/

/-- Takes in a pod that was made or changed; one without the operator's labels is ignored. -/
def podApplied (r : Registry) (pod : Pod) : Registry :=
  match pod.identity? with
  | some (ns, uid, server) =>
    let (id, r) := r.findOrCreate (ns, uid)
    r.modify id (·.setPod server pod)
  | none => r

/-- Forgets a pod that was deleted, unless another pod has taken its place. -/
def podDeleted (r : Registry) (pod : Pod) : Registry :=
  match pod.identity? with
  | some (ns, uid, server) =>
    match r.find? (ns, uid) with
    | some id =>
      r.modify id (fun p =>
        if (p.pod? server).any (fun current => current.metadata.uid ≠ pod.metadata.uid) then p
        else p.removePod server)
    | none => r
  | none => r

/-- The pods of a list that belong to a domain, by server; of two pods of one server the later
counts. -/
def podsOf (key : DomainKey) (pods : List Pod) : NameMap Pod :=
  NameMap.ofList (pods.filterMap (fun pod =>
    match pod.identity? with
    | some (ns, uid, server) => if (ns, uid) = key then some (server, pod) else none
    | none => none))

def keysOf (pods : List Pod) : List DomainKey :=
  (pods.filterMap (fun pod => pod.identity?.map (fun (ns, uid, _) => (ns, uid)))).eraseDups

/-- Makes the listed pods all that are known, in every domain. -/
def replacePods (r : Registry) (pods : List Pod) : Registry :=
  let r := r.index.foldl (fun r (key, id) => r.modify id (·.replacePods (podsOf key pods))) r
  (keysOf pods).foldl (fun r key =>
    let (id, r) := r.findOrCreate key
    r.modify id (·.replacePods (podsOf key pods))) r

end Registry

end DomainSteward
