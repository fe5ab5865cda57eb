import DomainSteward.Chain.Step

/-!
How the operator conducts itself.

The settings that all chains of one operator share, and the shapes in which steps report what they
did.
-/

namespace DomainSteward

/-- The settings that all chains share. -/
structure Conduct where
  tuning : RetryTuning := {}
  /-- How long a call may take. -/
  callTimeout : Duration := .ofSeconds 30
  /-- The most objects in one page of a list that sets no limit of its own. -/
  pageSize : Option UInt32 := none
  /-- The wait between two looks at something. -/
  pollDelay : Duration := .ofSeconds 1
  /-- The conflicts that a status update bears. -/
  conflictBudget : UInt32 := 5
  /-- Whether fibers and calls are counted. -/
  countsCalls : Bool := true
  /-- Whether rolls and reconciles are counted. -/
  countsRolls : Bool := true
deriving Inhabited

namespace Conduct

/-- Changes the counters of fibers and calls, if they are kept. -/
def count (c : Conduct) (f : Metrics → Metrics) (w : World) : World :=
  if c.countsCalls then w.count f else w

/-- Changes the counters of rolls and reconciles, if they are kept. -/
def countRoll (c : Conduct) (f : Metrics → Metrics) (w : World) : World :=
  if c.countsRolls then w.count f else w

/-- Sets the limit of a list that has none of its own. -/
def paged (c : Conduct) (r : Request) : Request :=
  match r.operation with
  | .list options =>
    { r with operation := .list { options with limit := options.limit.or c.pageSize } }
  | _ => r

end Conduct

namespace Applied

variable {σ π κ ω : Type}

/-- A step that did without a panic. -/
def of (action : Action σ π κ) (packet : π) (world : ω) : Applied σ π κ ω :=
  ⟨.ok action, packet, world⟩

/-- A step cut short by a panic. -/
def panicked (panic : Panic) (packet : π) (world : ω) : Applied σ π κ ω :=
  ⟨.error panic, packet, world⟩

end Applied

/-- The failure of a step that needs a presence and has none. -/
def missingPresence : FiberError := .missingComponent "DomainPresenceInfo"

/-- Does what a step does to the presence of its packet, or fails if there is none. -/
def withPresence {ε : Type} (p : Packet) (w : World)
    (f : PresenceId → Presence → StepApplied ε) : StepApplied ε :=
  match p.presence.bind (fun id => (w.presence? id).map (id, ·)) with
  | some (id, presence) => f id presence
  | none => .of (.terminate missingPresence) p w

end DomainSteward
