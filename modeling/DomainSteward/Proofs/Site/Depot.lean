import Mathlib.Logic.Relation
import DomainSteward.Reconcile
import DomainSteward.Proofs.Site.Errands
import DomainSteward.Proofs.Site.Server

/-! A reconcile at an API server that keeps pods. The server carries out exactly
the calls that it does not fail, and may fail any call with any status. Nobody
else deletes pods. What is known of them in the presence may lag behind and may
change in any way, as long as every pod stands under the server that its label
and its name belong to. -/
namespace DomainSteward.Depots
open Machine Moves Sites WaveLoop Errands

variable {ε : Type}

/-- A call that was answered. -/
structure Answered where
  call : Request
  succeeded : Bool

/-- A machine, and what the server has done for it. -/
structure Depot (ε : Type) where
  machine : ChainMachine ε
  /-- The pods that there are, but for those that are being taken down. -/
  pods : List Pod
  /-- The fibers whose call was carried out and not answered yet. -/
  carried : List FiberId := []
  /-- The calls that were answered, latest first. -/
  log : List Answered := []

/-- A pod of a server, by its label and by its name. -/
structure Owned (owner : String → String) (server : String) (pod : Pod) : Prop where
  serves : pod.serverName? = some server
  named : ∃ name, pod.metadata.name = some name ∧ owner name = server

/-- A server has a pod. -/
def Has (owner : String → String) (pods : List Pod) (server : String) : Prop :=
  ∃ pod ∈ pods, Owned owner server pod

/-- A server has a pod that was made for a restart version. -/
def Current (owner : String → String) (version : String) (pods : List Pod) (server : String) :
    Prop :=
  ∃ pod ∈ pods, Owned owner server pod ∧ pod.restartVersion? = some version

/-- All pods are still there, with the names and labels that they had. -/
def StillThere (pods pods' : List Pod) : Prop :=
  ∀ pod ∈ pods, ∃ pod' ∈ pods', pod'.metadata.name = pod.metadata.name ∧
    pod'.metadata.labels = pod.metadata.labels

/-- There is the presence, and every pod that it holds stands under its own
server. -/
def Tidy (owner : String → String) (id : PresenceId) (w : World) : Prop :=
  ∃ now, w.presence? id = some now ∧
    ∀ server pod, now.pod? server = some pod → Owned owner server pod

/-- What the server may answer to a call of a fiber. -/
inductive Replies (owner : String → String) (s : Depot ε) (i : FiberId) (q : Request) :
    Response → Prop where
  /-- The call was carried out. -/
  | done (response : Response) (carried : i ∈ s.carried) (success : response.isFailure = false) :
      Replies owner s i q response
  /-- The call fails, and nothing was done. -/
  | failed (f : CallFailure) (idle : i ∉ s.carried) : Replies owner s i q (.failure f)
  /-- A call that needs nothing to be done. -/
  | told (response : Response) (harmless : Harmless q) (success : response.isFailure = false)
      (listed : ∀ server pod, (server, pod) ∈ podsOnPage response → Owned owner server pod) :
      Replies owner s i q response

/-- One thing that happens at a depot. -/
inductive Happens (c : Conduct) (g : GuestRules ε) (owner : String → String) (id : PresenceId)
    (s : Depot ε) : Depot ε → Prop where
  /-- A fiber makes a move of its own. -/
  | moves (i : FiberId) (move : Move Answer) (after : ChainMachine ε)
      (own : move = .run ∨ move = .wake ∨ move = .join)
      (moved : s.machine.move? (chainDynamics c g) i move = some after) :
      Happens c g owner id s { s with machine := after }
  /-- A pod is deleted. -/
  | deletes (i : FiberId) (p : Packet) (q : Request) (next : Option (Step ε)) (name : String)
      (grace : Option UInt32) (waits : s.machine.fiber? i = some ⟨p, .waiting (.call q) next⟩)
      (asks : q.operation = .delete name grace) (idle : i ∉ s.carried)
      (present : ∃ pod ∈ s.pods, pod.metadata.name = some name) :
      Happens c g owner id s
        { s with
          pods := s.pods.filter (·.metadata.name ≠ some name)
          carried := i :: s.carried }
  /-- A pod is made. -/
  | makes (i : FiberId) (p : Packet) (q : Request) (next : Option (Step ε)) (body : ApiObject)
      (pod : Pod) (waits : s.machine.fiber? i = some ⟨p, .waiting (.call q) next⟩)
      (asks : q.operation = .create body) (idle : i ∉ s.carried) (like : Made body pod)
      (absent : ∀ other ∈ s.pods, other.metadata.name ≠ pod.metadata.name) :
      Happens c g owner id s { s with pods := pod :: s.pods, carried := i :: s.carried }
  /-- A call is answered. -/
  | answers (i : FiberId) (p : Packet) (q : Request) (next : Option (Step ε)) (response : Response)
      (after : ChainMachine ε) (waits : s.machine.fiber? i = some ⟨p, .waiting (.call q) next⟩)
      (replies : Replies owner s i q response)
      (moved : s.machine.move? (chainDynamics c g) i (.answer (.response response)) = some after) :
      Happens c g owner id s
        { s with
          machine := after
          carried := s.carried.filter (· ≠ i)
          log := ⟨q, !response.isFailure⟩ :: s.log }
  /-- The world changes by itself, and the pods in other ways than by going. -/
  | outside (world : World) (pods : List Pod) (stay : StillThere s.pods pods)
      (tidy : Tidy owner id world) :
      Happens c g owner id s { s with machine := { s.machine with world }, pods }

/-- The first fiber is about to look whether there is anything to roll. -/
def Looks (s : Depot ε) : Prop :=
  ∃ p sink next, s.machine.fiber? 0 = some ⟨p, .running (some (.rollIfNeeded sink next))⟩

/-- The presence shows the domain with a restart version, and the pods that
there are. -/
def Shows (owner : String → String) (id : PresenceId) (version : String) (s : Depot ε) : Prop :=
  ∃ now domain, s.machine.world.presence? id = some now ∧ now.domain = some domain ∧
    domain.restartVersion = version ∧
    (∀ server pod, now.pod? server = some pod → pod ∈ s.pods) ∧
    ∀ server, Has owner s.pods server → now.pod? server ≠ none

/-- One thing that happens while no stop is requested. If the pods are watched,
the fiber that looks finds them as they are. -/
structure Unfolds (c : Conduct) (g : GuestRules ε) (owner : String → String) (id : PresenceId)
    (version : String) (watched : Prop) (s s' : Depot ε) : Prop where
  goesOn : s.machine.world.isStopping = false
  shown : watched → Looks s → ¬ Looks s' → Shows owner id version s
  happens : Happens c g owner id s s'

/-- A reconcile of a domain runs from its beginning to its end. -/
structure Reconciles (c : Conduct) (g : GuestRules ε) (owner : String → String) (id : PresenceId)
    (domain : Domain) (watched : Prop) (start s : Depot ε) : Prop where
  begins : ∃ before head p,
    beginReconcile c domain before = .fiber id head p start.machine.world ∧
    start.machine.fibers = [⟨p, .created head⟩]
  tidy : Tidy owner id start.machine.world
  nothing : start.carried = [] ∧ start.log = []
  ran : Relation.ReflTransGen (Unfolds c g owner id domain.restartVersion watched) start s
  ended : Done s.machine 0

/-- Some reconciles one after another, each with calls that may fail, and the
pods before and after them. Between them pods may come, but none goes. -/
inductive Reconciled (c : Conduct) (g : GuestRules ε) (owner : String → String) :
    List Pod → List (Depot ε) → List Pod → Prop where
  | none (pods : List Pod) : Reconciled c g owner pods [] pods
  | next (pods pods' : List Pod) (id : PresenceId) (domain : Domain) (start s : Depot ε)
      (rest : List (Depot ε)) (stay : StillThere pods start.pods)
      (reconciles : Reconciles c g owner id domain False start s)
      (later : Reconciled c g owner s.pods rest pods') :
      Reconciled c g owner pods (s :: rest) pods'

/-- Whether a call makes a pod for a server. -/
def makesFor (owner : String → String) (server : String) (q : Request) : Bool :=
  match q.operation with
  | .create body => body.metadata.name.map owner = some server
  | _ => false

/-- The last call that should have made a pod for a server failed. -/
def LastMakingFailed (owner : String → String) (log : List Answered) (server : String) : Prop :=
  (log.find? (fun a => makesFor owner server a.call)).map (·.succeeded) = some false

/-- Some call failed. -/
def SomeFailed (log : List Answered) : Prop := ∃ a ∈ log, a.succeeded = false

variable {owner : String → String} {server other version : String} {pod pod' : Pod}
  {pods pods' : List Pod} {a : Answered} {log : List Answered} {q : Request}

/-! ## Pods that stay -/

theorem owned_alike (owned : Owned owner server pod)
    (name : pod'.metadata.name = pod.metadata.name)
    (labels : pod'.metadata.labels = pod.metadata.labels) : Owned owner server pod' := by
  obtain ⟨own, named, owns⟩ := owned.named
  refine ⟨?_, own, name.trans named, owns⟩
  rw [← owned.serves, Pod.serverName?, ObjectMeta.label?, labels]
  rfl

theorem version_alike (labels : pod'.metadata.labels = pod.metadata.labels) :
    pod'.restartVersion? = pod.restartVersion? := by
  rw [Pod.restartVersion?, ObjectMeta.label?, labels]
  rfl

theorem has_still (has : Has owner pods server) (stay : StillThere pods pods') :
    Has owner pods' server := by
  obtain ⟨pod, member, owned⟩ := has
  obtain ⟨pod', member', name, labels⟩ := stay pod member
  exact ⟨pod', member', owned_alike owned name labels⟩

theorem current_still (current : Current owner version pods server)
    (stay : StillThere pods pods') : Current owner version pods' server := by
  obtain ⟨pod, member, owned, upToDate⟩ := current
  obtain ⟨pod', member', name, labels⟩ := stay pod member
  exact ⟨pod', member', owned_alike owned name labels, (version_alike labels).trans upToDate⟩

theorem has_more (has : Has owner pods server) : Has owner (pod :: pods) server := by
  obtain ⟨own, member, owned⟩ := has
  exact ⟨own, List.mem_cons_of_mem _ member, owned⟩

theorem current_more (current : Current owner version pods server) :
    Current owner version (pod :: pods) server := by
  obtain ⟨own, member, owned⟩ := current
  exact ⟨own, List.mem_cons_of_mem _ member, owned⟩

/-- A pod stays when a pod of another server is deleted. -/
theorem owned_stays {name : String} (foreign : owner name ≠ server) (member : pod ∈ pods)
    (owned : Owned owner server pod) : pod ∈ pods.filter (·.metadata.name ≠ some name) := by
  refine List.mem_filter.mpr ⟨member, decide_eq_true fun same => ?_⟩
  obtain ⟨own, named, owns⟩ := owned.named
  cases named.symm.trans same
  exact foreign owns

/-! ## The log -/

theorem making_skipped (unmade : makesFor owner server a.call = false) :
    LastMakingFailed owner (a :: log) server ↔ LastMakingFailed owner log server := by
  rw [LastMakingFailed, List.find?_cons_of_neg (by simp [unmade]), LastMakingFailed]

theorem making_failed (makes : makesFor owner server a.call = true)
    (failed : a.succeeded = false) : LastMakingFailed owner (a :: log) server := by
  rw [LastMakingFailed, List.find?_cons_of_pos (by simpa using makes), Option.map_some, failed]

theorem harmless_makes_nothing (harmless : Harmless q) : makesFor owner server q = false := by
  unfold Harmless makesOrDeletes at harmless
  unfold makesFor
  split
  · rename_i body asks
    rw [asks] at harmless
    cases harmless
  · rfl

theorem some_failed_later (failed : SomeFailed log) : SomeFailed (a :: log) := by
  obtain ⟨answer, member, failure⟩ := failed
  exact ⟨answer, List.mem_cons_of_mem _ member, failure⟩

end DomainSteward.Depots
