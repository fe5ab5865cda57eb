import DomainSteward.Fiber.Action

/-!
The machine that runs fibers.

A fiber applies one step after another to its packet and does what each of them asks for. All
fibers of a run stand in one list, where a fiber is known by its place; those that a step forks are
put behind the others. A `Move` is one thing that can happen to one fiber, and any order of moves
that are possible is a run, so who schedules the fibers is left open.
-/

namespace DomainSteward

/-- The place of a fiber among all fibers of a machine. -/
abbrev FiberId := Nat

/-- What came of applying a step. -/
structure Applied (σ π κ ω : Type) where
  outcome : Except Panic (Action σ π κ)
  packet : π
  world : ω

/-- What a machine has to know of steps `σ`, packets `π`, calls `κ`, answers `α` and the world `ω`
that all fibers share. -/
structure Dynamics (σ π κ α ω : Type) where
  /-- The name of a step, for failures. -/
  nameOf : σ → String
  /-- Applies a step. -/
  apply : σ → π → ω → Applied σ π κ ω
  /-- What an answer does to the world when it comes in, used or not. -/
  receive : κ → α → ω → ω
  /-- Hands an answer that is used to the packet. -/
  accept : κ → α → π → π
  /-- Keeps the failure that ended a fiber in its packet. -/
  keepFailure : FiberError → π → π
  /-- Whether answers are no longer used. -/
  isStopping : ω → Bool
  /-- Takes note of a fiber that starts. -/
  started : ω → ω
  /-- Takes note of a fiber that ends, successfully or not. -/
  ended : Bool → ω → ω

/-- Where a fiber stands. -/
inductive Phase (σ κ : Type) where
  /-- It has not started yet. -/
  | created (step : σ)
  /-- It is about to apply a step or, without one, to end. -/
  | running (step : Option σ)
  /-- It goes on after a time. -/
  | sleeping (wait : Duration) (andThen : Option σ)
  /-- It goes on once a call has been answered. -/
  | waiting (call : κ) (andThen : Option σ)
  /-- It goes on once all the fibers it forked are done. -/
  | joining (children : List FiberId) (join : Option σ)
  /-- It has ended, with a failure if there is one. -/
  | ended (failure : Option FiberError)
  /-- It was torn down by a call that panicked. -/
  | crashed (message : String)

structure Fiber (σ π κ : Type) where
  packet : π
  phase : Phase σ κ

namespace Fiber

variable {σ π κ : Type}

/-- How a fiber that is done fares in the eyes of the one that forked it: with a failure or
without; nothing is known before that. -/
def verdict? (f : Fiber σ π κ) : Option (Option FiberError) :=
  match f.phase with
  | .ended failure => some failure
  | .crashed message => some (some (.panicked "fiber" message))
  | _ => none

def isDone (f : Fiber σ π κ) : Bool := f.verdict?.isSome

end Fiber

/-- The fibers of a run and the world that they share. -/
structure Machine (σ π κ ω : Type) where
  fibers : List (Fiber σ π κ)
  world : ω

/-- What can happen to a fiber. -/
inductive Move (α : Type) where
  /-- It starts, or it applies its step. -/
  | run
  /-- Its sleep ends. -/
  | wake
  /-- Its call is answered. -/
  | answer (a : α)
  /-- The fibers it forked are all done. -/
  | join
  /-- Its call panics. -/
  | crash (message : String)
deriving Repr

namespace Machine

variable {σ π κ α ω : Type}

/-- The fiber at a place. -/
def fiber? (m : Machine σ π κ ω) (i : FiberId) : Option (Fiber σ π κ) := m.fibers[i]?

def replace (m : Machine σ π κ ω) (i : FiberId) (f : Fiber σ π κ) (world : ω) :
    Machine σ π κ ω :=
  { fibers := m.fibers.set i f, world }

/-- Adds a fiber that has not started. -/
def create (m : Machine σ π κ ω) (step : σ) (packet : π) : Machine σ π κ ω :=
  { m with fibers := m.fibers ++ [⟨packet, .created step⟩] }

/-- How fibers that are all done fared, in the order given; nothing while one of them is not. -/
def verdicts? (m : Machine σ π κ ω) (ids : List FiberId) : Option (List (Option FiberError)) :=
  ids.mapM (fun i => (m.fiber? i).bind Fiber.verdict?)

/-- Ends a fiber. -/
def conclude (d : Dynamics σ π κ α ω) (m : Machine σ π κ ω) (i : FiberId) (packet : π)
    (world : ω) (failure : Option FiberError) : Machine σ π κ ω :=
  m.replace i
    { packet := match failure with
        | some e => d.keepFailure e packet
        | none => packet
      phase := .ended failure }
    (d.ended failure.isNone world)

/-- Forks fibers; to fork none is to go on at once. -/
def fork (m : Machine σ π κ ω) (i : FiberId) (packet : π) (world : ω)
    (children : List (σ × π)) (join : Option σ) : Machine σ π κ ω :=
  match children with
  | [] => m.replace i ⟨packet, .running join⟩ world
  | children =>
    let ids := List.range' m.fibers.length children.length
    let m := m.replace i ⟨packet, .joining ids join⟩ world
    { m with fibers := m.fibers ++ children.map (fun c => ⟨c.2, .created c.1⟩) }

/-- Does what a step asks for. -/
def obey (d : Dynamics σ π κ α ω) (m : Machine σ π κ ω) (i : FiberId) (packet : π) (world : ω) :
    Action σ π κ → Machine σ π κ ω
  | .next step => m.replace i ⟨packet, .running (some step)⟩ world
  | .forkJoin children join => m.fork i packet world children join
  | .delay wait andThen => m.replace i ⟨packet, .sleeping wait andThen⟩ world
  | .suspend call andThen => m.replace i ⟨packet, .waiting call andThen⟩ world
  | .finish => m.conclude d i packet world none
  | .terminate e => m.conclude d i packet world (some e)

/-- Applies a step to a fiber; a panic ends the fiber. -/
def applyStep (d : Dynamics σ π κ α ω) (m : Machine σ π κ ω) (i : FiberId) (packet : π)
    (step : σ) : Machine σ π κ ω :=
  let applied := d.apply step packet m.world
  m.obey d i applied.packet applied.world (
    match applied.outcome with
    | .ok action => action
    | .error panic => .terminate (.panicked (d.nameOf step) panic.message))

/-- Takes in the answer of a fiber's call. Once answers are no longer used it cancels the fiber. -/
def takeAnswer (d : Dynamics σ π κ α ω) (m : Machine σ π κ ω) (i : FiberId) (packet : π)
    (call : κ) (a : α) (andThen : Option σ) : Machine σ π κ ω :=
  let world := d.receive call a m.world
  if d.isStopping world then m.conclude d i packet world (some .cancelled)
  else m.replace i ⟨d.accept call a packet, .running andThen⟩ world

/-- Goes on after forked fibers, unless some of them failed. -/
def afterJoin (d : Dynamics σ π κ α ω) (m : Machine σ π κ ω) (i : FiberId) (packet : π)
    (verdicts : List (Option FiberError)) (join : Option σ) : Machine σ π κ ω :=
  match verdicts.filterMap id with
  | [] => m.replace i ⟨packet, .running join⟩ m.world
  | failures => m.conclude d i packet m.world (some (.childrenFailed failures))

/-- Makes a move, if it is possible. -/
def move? (d : Dynamics σ π κ α ω) (m : Machine σ π κ ω) (i : FiberId) (move : Move α) :
    Option (Machine σ π κ ω) := do
  let f ← m.fiber? i
  match f.phase, move with
  | .created step, .run => some (m.replace i ⟨f.packet, .running (some step)⟩ (d.started m.world))
  | .running none, .run => some (m.conclude d i f.packet m.world none)
  | .running (some step), .run => some (m.applyStep d i f.packet step)
  | .sleeping _ andThen, .wake => some (m.replace i ⟨f.packet, .running andThen⟩ m.world)
  | .waiting call andThen, .answer a => some (m.takeAnswer d i f.packet call a andThen)
  | .waiting _ _, .crash message => some (m.replace i ⟨f.packet, .crashed message⟩ m.world)
  | .joining children join, .join =>
    (m.verdicts? children).map (fun verdicts => m.afterJoin d i f.packet verdicts join)
  | _, _ => none

end Machine

end DomainSteward
