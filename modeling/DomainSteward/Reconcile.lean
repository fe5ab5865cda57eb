import DomainSteward.Chain.Roll
import DomainSteward.Chain.Status

/-!
Bringing a domain to the state it should have.

A reconcile lists the pods of the domain, rolls those that are out of date, forgets a failure of an
earlier run, and writes the status. Afterwards the domain is looked at again in a while, sooner if
the reconcile failed; a domain that is being deleted is forgotten.
-/

namespace DomainSteward

/-- Why a reconcile failed. -/
inductive ReconcileError where
  | missingNamespace
  /-- Its fiber failed. -/
  | fiber (e : FiberError)
deriving Inhabited

/-- The wording of a failure. -/
def ReconcileError.message : ReconcileError → String
  | .missingNamespace => "Domain missing namespace"
  | .fiber e => "Reconcile fiber failed: " ++ e.message

/-- When a domain is looked at again. -/
inductive NextLook where
  /-- When it changes. -/
  | onChange
  /-- After a time at the latest. -/
  | after (wait : Duration)
deriving DecidableEq, Repr, Inhabited

/-- The panic of a wait that is too long. -/
def waitOverflow : Panic := .said "overflow when multiplying duration by scalar"

/-- How much longer than after other failures it takes to try again without authorization. -/
def unauthorizedFactor : Nat := 6

/-- When a domain is looked at again after a failure: not before it changes if the operator is
stopping, and after a long while if the operator lacks authorization. -/
def errorPolicy (errorRequeue : Duration) : ReconcileError → Except Panic NextLook
  | .missingNamespace => .ok (.after errorRequeue)
  | .fiber e =>
    if e.isCancelled then .ok .onChange
    else if e.isNotAuthorized then
      match errorRequeue.times? unauthorizedFactor with
      | some wait => .ok (.after wait)
      | none => .error waitOverflow
    else .ok (.after errorRequeue)

/-- How a reconcile begins. -/
inductive Opening (ε : Type) where
  /-- It fails at once. -/
  | refused (e : ReconcileError)
  /-- The domain is forgotten. -/
  | forgotten (w : World)
  /-- A fiber has to run for a presence. -/
  | fiber (id : PresenceId) (head : Step ε) (p : Packet) (w : World)

section

variable {ε : Type}

def reconcileChain (c : Conduct) (id : PresenceId) (presence : Presence) : Step ε :=
  let sink := some (FailureSink.domain id)
  let finish := Step.clearFailure (some (writeStatus c none))
  listPods c sink presence (some (.rollIfNeeded sink (some finish)))

def reconcilePacket (id : PresenceId) (domain : Domain) : Packet :=
  { presence := some id
    values := NameMap.ofList [(Packet.topologyKey, .topology (.ofSpec domain.spec))] }

def beginReconcile (c : Conduct) (domain : Domain) (w : World) : Opening ε :=
  match domain.metadata.namespaceName with
  | none => .refused .missingNamespace
  | some ns =>
    if domain.metadata.deletionTimestamp.isSome then
      .forgotten (w.withRegistry (·.remove (ns, domain.uid)))
    else
      let (id, registry) := w.registry.findOrCreate (ns, domain.uid)
      let w := (w.withRegistry (fun _ => registry)).modifyPresence id (·.setDomain domain)
      let presence := (w.presence? id).getD default
      .fiber id (reconcileChain c id presence) (reconcilePacket id domain) w

end

/-- What a reconcile comes to whose fiber has ended. -/
def reconcileResult (resync : Duration) : Option FiberError → Except ReconcileError NextLook
  | none => .ok (.after resync)
  | some e => .error (.fiber e)

/-- Closes a reconcile whose fiber has ended and that took some seconds. After a failure no roll is
under way any more. -/
def closeReconcile (c : Conduct) (id : PresenceId) (failure : Option FiberError) (seconds : Float)
    (w : World) : World :=
  let w := c.countRoll (·.reconcileTook seconds) w
  if failure.isSome then w.modifyPresence id (·.setRolling false) else w

end DomainSteward
