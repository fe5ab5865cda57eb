import Mathlib.Logic.Relation
import DomainSteward.Proofs.Exchange.Steps
import DomainSteward.Proofs.Fiber.Moves

/-! A machine of fibers at the API server that answers its calls. The server
keeps names of pods, deletes and makes them, and answers each call after it was
carried out, or instead. What it did reaches the presence of the domain by
itself, at any later time. -/
namespace DomainSteward.Sites
open Machine Moves Exchanges

variable {ε : Type}

/-- A machine, and what the server knows. -/
structure Site (ε : Type) where
  machine : ChainMachine ε
  /-- The names of the pods that there are. -/
  pods : List String
  /-- The names of the pods that were deleted and are still in the presence. -/
  leaving : List String := []
  /-- What pods were made from. -/
  made : List ApiObject := []
  /-- The fibers whose call was carried out and not answered yet. -/
  carried : List FiberId := []
  /-- The calls that succeeded, in the order of their answers. -/
  log : List Request := []

/-- A pod as the server makes it from a definition: name and labels are those
of the definition. -/
structure Made (body : ApiObject) (pod : Pod) : Prop where
  name : pod.metadata.name = body.metadata.name
  labels : pod.metadata.labels = body.metadata.labels

/-- What the server may answer to a call of a fiber. -/
inductive Replies (s : Site ε) (i : FiberId) (r : Request) : Response → Prop where
  /-- The call was carried out. -/
  | done (response : Response) (carried : i ∈ s.carried) (success : response.isFailure = false)
      (truthful : ∀ body, r.operation = .create body → ∀ pod,
        response.object?.bind Pod.ofObject? = some pod → Made body pod) :
      Replies s i r response
  /-- The call failed and may be made again. -/
  | failed (f : CallFailure) (idle : i ∉ s.carried) (retryable : isRetryable f.statusCode = true) :
      Replies s i r (.failure f)
  /-- There is no such pod. -/
  | missing (f : CallFailure) (name : String) (grace : Option UInt32) (idle : i ∉ s.carried)
      (deletes : r.operation = .delete name grace) (absent : name ∉ s.pods)
      (status : f.statusCode = some codeNotFound) : Replies s i r (.failure f)
  /-- There is such a pod already. -/
  | taken (f : CallFailure) (body : ApiObject) (name : String) (idle : i ∉ s.carried)
      (creates : r.operation = .create body) (named : body.metadata.name = some name)
      (present : name ∈ s.pods ∨ name ∈ s.leaving) (status : f.statusCode = some codeConflict) :
      Replies s i r (.failure f)

/-- Fiber `0` has done what a step was for and goes on with the next one. -/
def HandedOver (next : Option (Step ε)) (s : Site ε) : Prop :=
  ∃ p, s.machine.fiber? 0 = some ⟨p, standsAt next⟩

/-- The world of a site changes by itself. -/
def Site.outside (s : Site ε) (world : World) : Site ε :=
  { s with machine := { s.machine with world } }

/-- One thing that happens at a site while fiber `0` has not handed over. The
server is faithful, and all that changes in the presence are the pods that it
deleted or made. -/
inductive Happens (c : Conduct) (g : GuestRules ε) (id : PresenceId) (next : Option (Step ε))
    (s : Site ε) : Site ε → Prop where
  /-- A fiber makes a move of its own. -/
  | moves (i : FiberId) (move : Move Answer) (after : ChainMachine ε)
      (own : move = .run ∨ move = .wake ∨ move = .join) (before : i = 0 → ¬ HandedOver next s)
      (moved : s.machine.move? (chainDynamics c g) i move = some after) :
      Happens c g id next s { s with machine := after }
  /-- A pod is deleted. -/
  | deletes (i : FiberId) (p : Packet) (r : Request) (andThen : Option (Step ε)) (name : String)
      (grace : Option UInt32) (waits : s.machine.fiber? i = some ⟨p, .waiting (.call r) andThen⟩)
      (asks : r.operation = .delete name grace) (idle : i ∉ s.carried) (present : name ∈ s.pods) :
      Happens c g id next s
        { s with
          pods := s.pods.filter (· ≠ name)
          leaving := name :: s.leaving
          carried := i :: s.carried }
  /-- A pod is made. -/
  | creates (i : FiberId) (p : Packet) (r : Request) (andThen : Option (Step ε)) (body : ApiObject)
      (name : String) (waits : s.machine.fiber? i = some ⟨p, .waiting (.call r) andThen⟩)
      (asks : r.operation = .create body) (named : body.metadata.name = some name)
      (idle : i ∉ s.carried) (absent : name ∉ s.pods) (left : name ∉ s.leaving) :
      Happens c g id next s
        { s with
          pods := name :: s.pods
          made := body :: s.made
          carried := i :: s.carried }
  /-- A call is answered. -/
  | answers (i : FiberId) (p : Packet) (r : Request) (andThen : Option (Step ε))
      (response : Response) (after : ChainMachine ε)
      (waits : s.machine.fiber? i = some ⟨p, .waiting (.call r) andThen⟩)
      (replies : Replies s i r response)
      (moved : s.machine.move? (chainDynamics c g) i (.answer (.response response)) = some after) :
      Happens c g id next s
        { s with
          machine := after
          carried := s.carried.filter (· ≠ i)
          log := if response.isFailure then s.log else s.log ++ [r] }
  /-- A pod that was deleted leaves the presence. -/
  | leaves (now : Presence) (server : String) (pod : Pod) (name : String)
      (known : s.machine.world.presence? id = some now) (held : now.pod? server = some pod)
      (named : pod.metadata.name = some name) (deleted : name ∈ s.leaving) :
      Happens c g id next s
        { s.outside (s.machine.world.modifyPresence id (·.removePod server)) with
          leaving := s.leaving.filter (· ≠ name) }
  /-- A pod that was made enters the presence, or is seen to have changed. -/
  | enters (body : ApiObject) (name : String) (pod : Pod) (server : String) (made : body ∈ s.made)
      (named : body.metadata.name = some name) (present : name ∈ s.pods) (like : Made body pod)
      (serves : pod.serverName? = some server) :
      Happens c g id next s (s.outside (s.machine.world.modifyPresence id (·.setPod server pod)))
  /-- Time passes. -/
  | waits (now : Nat) (stamp : String) :
      Happens c g id next s (s.outside { s.machine.world with now, stamp })

/-! ## What a roll sees of the world -/

/-- The events of rolls. -/
def isRollEvent : DomainEvent → Bool
  | .failed .. => false
  | _ => true

/-- The events of rolls that were reported, latest first. -/
def rollEvents (w : World) : List DomainEvent :=
  w.notes.filterMap (fun
    | (_, .event e) => if isRollEvent e then some e else none
    | _ => none)

/-- What a roll sees of the world and leaves in it. -/
structure Sight where
  servers : NameMap Pod
  domain : Option Domain
  events : List DomainEvent
  stopping : Bool

/-- What a roll of a presence sees, if there is the presence. -/
def sight? (id : PresenceId) (w : World) : Option Sight :=
  (w.presence? id).map (fun p => ⟨p.servers, p.domain, rollEvents w, w.isStopping⟩)

variable {c : Conduct} {id other : PresenceId} {w w' : World} {p p' : Packet} {sight : Sight}

theorem sight_known (seen : sight? id w = some sight) :
    ∃ now, w.presence? id = some now ∧ now.servers = sight.servers ∧ now.domain = sight.domain ∧
      rollEvents w = sight.events ∧ w.isStopping = sight.stopping := by
  obtain ⟨now, known, rfl⟩ := Option.map_eq_some_iff.mp seen
  exact ⟨now, known, rfl, rfl, rfl, rfl⟩

@[simp] theorem sight_count (f : Metrics → Metrics) : sight? id (c.count f w) = sight? id w := by
  unfold Conduct.count
  split <;> rfl

@[simp] theorem sight_count_roll (f : Metrics → Metrics) :
    sight? id (c.countRoll f w) = sight? id w := by
  unfold Conduct.countRoll
  split <;> rfl

theorem sight_aside (aside : Aside p w p' w') : sight? id w' = sight? id w := by
  simp only [sight?, aside.known, rollEvents, aside.notes, aside.stopping]

/-- A change of a presence that is none of its pods and not its domain is not
seen. -/
theorem sight_modify_kept {f : Presence → Presence}
    (kept : ∀ now, (f now).servers = now.servers ∧ (f now).domain = now.domain) :
    sight? id (w.modifyPresence other f) = sight? id w := by
  have events : rollEvents (w.modifyPresence other f) = rollEvents w := rfl
  have stopping : (w.modifyPresence other f).isStopping = w.isStopping := rfl
  simp only [sight?, events, stopping, Worlds.presence_modify]
  split
  · cases w.presence? id with
    | none => rfl
    | some now => simp [(kept now).1, (kept now).2]
  · rfl

theorem sight_modify_of_kept {f : Presence → Presence}
    (kept : ∀ now, (f now).servers = now.servers ∧ (f now).domain = now.domain) :
    sight? id (w.modifyPresenceOf p f) = sight? id w := by
  unfold World.modifyPresenceOf
  split
  · exact sight_modify_kept kept
  · rfl

/-- A change of the pods is seen. -/
theorem sight_modify_servers (change : NameMap Pod → NameMap Pod) {f : Presence → Presence}
    (changes : ∀ now, (f now).servers = change now.servers ∧ (f now).domain = now.domain)
    (seen : sight? id w = some sight) :
    sight? id (w.modifyPresence id f) = some { sight with servers := change sight.servers } := by
  obtain ⟨now, known, same, domain, events, stopping⟩ := sight_known seen
  have events' : rollEvents (w.modifyPresence id f) = sight.events := events
  have stopping' : (w.modifyPresence id f).isStopping = sight.stopping := stopping
  rw [sight?, Worlds.presence_modify_same, known, events', stopping']
  simp [(changes now).1, (changes now).2, same, domain]

/-- An event of a roll is seen. -/
theorem sight_emit {e : DomainEvent} (ofRoll : isRollEvent e = true)
    (seen : sight? id w = some sight) :
    sight? id (w.emit e) = some { sight with events := e :: sight.events } := by
  obtain ⟨now, known, same, domain, events, stopping⟩ := sight_known seen
  have stopping' : (w.emit e).isStopping = sight.stopping := stopping
  have events' : rollEvents (w.emit e) = e :: rollEvents w := by
    simp [rollEvents, World.emit, World.note, ofRoll]
  rw [sight?, Worlds.presence_emit, known, events', stopping', events]
  simp [same, domain]

/-- Failures that are told are not seen. -/
theorem sight_tell (sink : FailureSink) (reason message : String) :
    sight? id (w.tell sink reason message) = sight? id w := by
  cases sink with
  | recorder own => rfl
  | domain told =>
    have recorded : sight? id (w.modifyPresence told (·.recordFailure reason message)) =
        sight? id w := sight_modify_kept (fun _ => ⟨rfl, rfl⟩)
    rw [← recorded]
    rfl

theorem sight_give_up (x : Exchange ε (Step ε)) (r : Option Response) :
    sight? id (x.giveUp r w) = sight? id w := by
  unfold Exchange.giveUp
  split
  · split
    · rfl
    · exact sight_tell _ _ _
  · rfl

end DomainSteward.Sites
