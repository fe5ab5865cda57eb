import DomainSteward.Chain.Exchange
import DomainSteward.Report.DomainStatus

/-!
Chains that write the status of a domain.

The status is written only if it differs from that of the domain as last read, and guarded by the
version of that domain. When somebody else was faster, the domain is read again and the status
computed anew, as often as the budget of conflicts allows.
-/

namespace DomainSteward

variable {ε : Type}

/-- The write of a status. -/
def patchStatusRequest (presence : Presence) (domain : Domain) (status : DomainStatus) : Request :=
  { resource := .domain
    namespaceName := some presence.namespaceName
    operation := .patchStatus domain.name
      { type := .merge, body := status.patch domain.metadata.resourceVersion } }

def readDomainRequest (presence : Presence) (domain : Domain) : Request :=
  { resource := .domain
    namespaceName := some presence.namespaceName
    operation := .get domain.name }

/-- Writes the status of the domain, then goes on with a step. -/
def writeStatus (c : Conduct) (next : Option (Step ε)) : Step ε :=
  .updateStatus c.conflictBudget next

/-- The exchange that writes a status. -/
def patchStatus (presence : Presence) (domain : Domain) (status : DomainStatus)
    (conflictsLeft : UInt32) (next : Option (Step ε)) : Step ε :=
  .request (patchStatusRequest presence domain status)
    { id := .patchStatus, request := none, handler := .statusPatched, sink := none, next
      conflict :=
        if 0 < conflictsLeft then some (.rereadDomain (conflictsLeft - 1) next) else none }

/-- Writes the status if there is anything new in it. -/
def updateStatus (conflictsLeft : UInt32) (next : Option (Step ε)) (p : Packet) (w : World) :
    StepApplied ε :=
  withPresence p w (fun _ presence =>
    match presence.domain with
    | none => .of (.goOn next) p w
    | some domain =>
      match presence.computeStatus domain w.stamp with
      | .error panic => .panicked panic p w
      | .ok status =>
        if domain.status = some status then .of (.goOn next) p w
        else .of (.next (patchStatus presence domain status conflictsLeft next)) p w)

/-- Holds the domain as it was written, so that the next write starts from its version. -/
def statusPatched (x : Exchange ε (Step ε)) (r : Response) (p : Packet) (w : World) : Judged ε :=
  .of x.goOn p (
    match r.object?.bind Domain.ofObject? with
    | some domain => w.modifyPresenceOf p (·.setDomain domain)
    | none => w)

/-- Reads the domain again and then writes its status. -/
def rereadDomain (conflictsLeft : UInt32) (next : Option (Step ε)) (p : Packet) (w : World) :
    StepApplied ε :=
  withPresence p w (fun _ presence =>
    match presence.domain with
    | none => .of (.goOn next) p w
    | some domain =>
      .of (.next (.request (readDomainRequest presence domain)
        { id := .readDomain, request := none, handler := .domainReread, sink := none
          next := some (.updateStatus conflictsLeft next) })) p w)

/-- Holds the domain as it was read. -/
def domainReread (x : Exchange ε (Step ε)) (r : Response) (p : Packet) (w : World) : Judged ε :=
  match r.object?.bind Domain.ofObject? with
  | some domain => .of x.goOn p (w.modifyPresenceOf p (·.setDomain domain))
  | none =>
    .of (.proceed (.terminate (.invalidState "re-read of the Domain returned no Domain"))) p w

/-- Forgets the recorded failure: a run that gets this far has overcome it. -/
def clearFailure (next : Option (Step ε)) (p : Packet) (w : World) : StepApplied ε :=
  .of (.goOn next) p (w.modifyPresenceOf p (·.clearFailure))

end DomainSteward
