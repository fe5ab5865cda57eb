import DomainSteward.Chain.Roll
import DomainSteward.Chain.Status

/-!
What every step does.

`chainDynamics` makes a machine of fibers out of the steps of chains. Whoever brings steps of their
own says by `GuestRules` what those do.
-/

namespace DomainSteward

/-- What steps of others do. -/
structure GuestRules (ε : Type) where
  /-- The name of a step. -/
  name : ε → String
  /-- Applies a step that has a successor and branches. -/
  apply : ε → Option (Step ε) → List (Step ε) → Packet → World → StepApplied ε
  /-- Judges the response to a call of theirs. -/
  judge : ε → Exchange ε (Step ε) → Response → Packet → World → Judged ε
  /-- What an errand does to the world when it is done. -/
  finish : ε → World → World
  /-- What an errand leaves in the packet. -/
  deliver : ε → Packet → Packet

/-- The operator on its own, without steps of others. -/
def GuestRules.nobody : GuestRules Empty where
  name e := nomatch e
  apply e := nomatch e
  judge e := nomatch e
  finish e := nomatch e
  deliver e := nomatch e

namespace Step

variable {ε : Type}

def judge (c : Conduct) (g : GuestRules ε) (x : Exchange ε (Step ε)) (r : Response) (p : Packet)
    (w : World) : Judged ε :=
  match x.handler with
  | .guest e => g.judge e x r p w
  | .podsListed => if r.isFailure then x.retryOrEnd c r p w else podsListed x r p w
  | .podDeleted server =>
    if r.isFailure then podDeletionFailed c server x r p w else .of x.goOn p w
  | .podCreated server =>
    if r.isFailure then podCreationFailed c x r p w else podCreated server x r p w
  | .statusPatched => if r.isFailure then x.retryOrEnd c r p w else statusPatched x r p w
  | .domainReread => if r.isFailure then x.retryOrEnd c r p w else domainReread x r p w

def apply (c : Conduct) (g : GuestRules ε) (step : Step ε) (p : Packet) (w : World) :
    StepApplied ε :=
  match step with
  | .idle => .of .finish p w
  | .guest e next branches => g.apply e next branches p w
  | .request r x => x.send c r p w
  | .response x => x.settle c (judge c g x) p w
  | .rollIfNeeded sink next => DomainSteward.rollIfNeeded sink next p w
  | .rolling members next => DomainSteward.rolling members next p w
  | .restartNow members => DomainSteward.restartNow members p w
  | .rollCluster cluster queue topology => DomainSteward.rollCluster c cluster queue topology p w
  | .afterRoll next => DomainSteward.afterRoll c next p w
  | .beginRestart server version next => DomainSteward.beginRestart server version next p w
  | .waitRemoved server oldUid next => DomainSteward.waitRemoved c server oldUid next p w
  | .waitReady server next => DomainSteward.waitReady c server next p w
  | .updateStatus conflictsLeft next => DomainSteward.updateStatus conflictsLeft next p w
  | .rereadDomain conflictsLeft next => DomainSteward.rereadDomain conflictsLeft next p w
  | .clearFailure next => DomainSteward.clearFailure next p w

end Step

/-- What becomes of something that a fiber waited for. -/
inductive Answer where
  /-- The answer to a call. -/
  | response (r : Response)
  /-- An errand is done. -/
  | done
deriving Inhabited

section Dynamics

variable {ε : Type}

/-- Counts the outcome of a call and finishes an errand. -/
def receive (c : Conduct) (g : GuestRules ε) : Pending ε → Answer → World → World
  | .call r, .response response, w =>
    c.count (·.callMade r.operation.verb response.outcome) w
  | .guest e, .done, w => g.finish e w
  | _, _, w => w

/-- Puts the response into the packet, or what an errand brought. -/
def accept (g : GuestRules ε) : Pending ε → Answer → Packet → Packet
  | .call _, .response response, p => p.put Packet.responseKey (.response response)
  | .guest e, .done, p => g.deliver e p
  | _, _, p => p

/-- The machine that runs chains of steps. -/
def chainDynamics (c : Conduct) (g : GuestRules ε) :
    Dynamics (Step ε) Packet (Pending ε) Answer World :=
  { nameOf := Step.name g.name
    apply := Step.apply c g
    receive := receive c g
    accept := accept g
    keepFailure := fun e p => p.put Packet.failureKey (.failure e)
    isStopping := World.isStopping
    started := c.count (·.fiberStarted)
    ended := fun succeeded => c.count (·.fiberFinished succeeded) }

/-- The fibers that run chains of steps, and their world. -/
abbrev ChainMachine (ε : Type) := Machine (Step ε) Packet (Pending ε) World

end Dynamics

end DomainSteward
