import DomainSteward.Chain.World
import DomainSteward.Fiber.Machine
import DomainSteward.Roll.Partition
import DomainSteward.Roll.Wave

/-!
The steps of which chains are made.

A step holds what it works on and the step that follows it, so a chain is a value. Calls are made
in exchanges: the request step makes the call, and the response step that follows it says how to
go on. Steps of somebody else's have a type `ε` of their own and stand in chains like all others.
-/

namespace DomainSteward

/-- Whose task it is to say how to go on after a response. -/
inductive Handler (ε : Type) where
  /-- Takes the listed pods in, page after page. -/
  | podsListed
  | podDeleted (server : String)
  /-- The pod of a server was made. -/
  | podCreated (server : String)
  /-- The status of the domain was written. -/
  | statusPatched
  /-- The domain was read again. -/
  | domainReread
  /-- Somebody else's. -/
  | guest (e : ε)
deriving Inhabited

/-- Both sides of an exchange of request and response, with the steps `σ` that can follow. -/
structure Exchange (ε σ : Type) where
  id : ExchangeId
  /-- The request; absent if the response step stands alone. -/
  request : Option Request
  handler : Handler ε
  /-- Who is told of failures that are given up on. -/
  sink : Option FailureSink
  next : Option σ
  /-- The step that takes over when the call meets a conflict. -/
  conflict : Option σ := none
  /-- Steps that only the handler knows how to use. -/
  others : List σ := []
deriving Inhabited

inductive Step (ε : Type) where
  /-- Does nothing and ends. -/
  | idle
  /-- Somebody else's step, with the chains that it may fork. -/
  | guest (e : ε) (next : Option (Step ε)) (branches : List (Step ε))
  /-- Makes a call. -/
  | request (r : Request) (x : Exchange ε (Step ε))
  /-- Handles the response to a call. -/
  | response (x : Exchange ε (Step ε))
  /-- Rolls the servers whose pods were made for another restart version. -/
  | rollIfNeeded (sink : Option FailureSink) (next : Option (Step ε))
  /-- Restarts servers, each by a chain of its own. -/
  | rolling (members : List (String × Step ε × Packet)) (next : Option (Step ε))
  /-- Restarts servers all at once. -/
  | restartNow (members : List (String × Step ε × Packet))
  /-- Restarts the servers of a cluster in waves. -/
  | rollCluster (cluster : String) (queue : List (String × Step ε × Packet))
      (topology : Option Topology)
  /-- Closes a roll. -/
  | afterRoll (next : Option (Step ε))
  /-- Opens the restart of one server. -/
  | beginRestart (server restartVersion : String) (next : Option (Step ε))
  /-- Waits until the old pod of a server is gone. -/
  | waitRemoved (server : String) (oldUid : Option String) (next : Option (Step ε))
  /-- Waits until a server is Ready. -/
  | waitReady (server : String) (next : Option (Step ε))
  /-- Writes the status of the domain, with so many conflicts left to bear. -/
  | updateStatus (conflictsLeft : UInt32) (next : Option (Step ε))
  /-- Reads the domain again, then writes its status. -/
  | rereadDomain (conflictsLeft : UInt32) (next : Option (Step ε))
  /-- Forgets the recorded failure. -/
  | clearFailure (next : Option (Step ε))
deriving Inhabited

/-- A server with the chain that restarts it and the packet of that chain. -/
abbrev Member (ε : Type) := String × Step ε × Packet

/-- What a fiber can wait for. -/
inductive Pending (ε : Type) where
  /-- The answer to a call of the API. -/
  | call (r : Request)
  /-- Somebody else's errand. -/
  | guest (e : ε)
deriving Inhabited

/-- What a step of a chain asks for. -/
abbrev StepAction (ε : Type) := Action (Step ε) Packet (Pending ε)

/-- What came of applying a step of a chain. -/
abbrev StepApplied (ε : Type) := Applied (Step ε) Packet (Pending ε) World

namespace Step

variable {ε : Type}

/-- The name of a step; `guestName` names the steps of others. -/
def name (guestName : ε → String) : Step ε → String
  | .idle => "Noop"
  | .guest e _ _ => guestName e
  | .request _ _ => "RequestStep"
  | .response _ => "ResponseStep"
  | .rollIfNeeded _ _ => "RollIfNeededStep"
  | .rolling _ _ => "RollingStep"
  | .restartNow _ => "ServersThatCanRestartNowStep"
  | .rollCluster _ _ _ => "RollSpecificClusterStep"
  | .afterRoll _ => "AfterRollStep"
  | .beginRestart _ _ _ => "BeginPodRestartStep"
  | .waitRemoved _ _ _ => "WaitForPodRemovedStep"
  | .waitReady _ _ => "WaitForPodReadyStep"
  | .updateStatus _ _ => "DomainStatusUpdateStep"
  | .rereadDomain _ _ => "RereadDomainStep"
  | .clearFailure _ => "ClearFailureStep"

/-- The step that follows a step. -/
def next? : Step ε → Option (Step ε)
  | .idle => none
  | .guest _ next _ => next
  | .request r x => some (.response { x with request := some r })
  | .response x => x.next
  | .rollIfNeeded _ next => next
  | .rolling _ next => some (.afterRoll next)
  | .restartNow _ => none
  | .rollCluster _ _ _ => none
  | .afterRoll next => next
  | .beginRestart _ _ next => next
  | .waitRemoved _ _ next => next
  | .waitReady _ next => next
  | .updateStatus _ next => next
  | .rereadDomain _ next => next
  | .clearFailure next => next

/-- What a step works on. -/
def detail? : Step ε → Option String
  | .request r _ => some r.describe
  | .rolling members _ => some (toString members.length ++ " server(s)")
  | .restartNow members => some (String.intercalate "," (members.map (·.1)))
  | .rollCluster cluster _ _ => some cluster
  | .beginRestart server _ _ => some server
  | .waitRemoved server _ _ => some server
  | .waitReady server _ => some server
  | _ => none

end Step

end DomainSteward
