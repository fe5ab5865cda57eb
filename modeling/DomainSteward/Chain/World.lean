import DomainSteward.Call.Retry
import DomainSteward.Fiber.Packet
import DomainSteward.Metrics.Basic
import DomainSteward.Presence.PodFeed
import DomainSteward.Report.Event
import DomainSteward.Shutdown

/-!
What all fibers share.

The `World` holds the presences, the retry budgets, the counters, the stopping flag and the notes
of what has happened. Fibers that nobody waits for are asked for by the domain whose status they
shall write.
-/

namespace DomainSteward

/-- Something that has happened. -/
inductive Note where
  /-- A call was made. -/
  | call (request : Request)
  /-- An event was reported. -/
  | event (event : DomainEvent)
  /-- A failure was handed to a recorder; `own` if it belongs to one response step. -/
  | condition (own : Bool) (reason message : String)
  /-- Somebody's own remark. -/
  | remark (author : String) (fields : List (String × Json))
deriving Inhabited

/-- Where failures that are given up on are told. -/
inductive FailureSink where
  /-- They are noted. -/
  | recorder (own : Bool)
  /-- They are recorded against a domain, reported, and published with its status. -/
  | domain (id : PresenceId)
deriving DecidableEq, Repr, Inhabited

/-- What all fibers share. -/
structure World where
  /-- The time in milliseconds. -/
  now : Nat := 0
  /-- The time as a status shows it. -/
  stamp : String := ""
  feed : PodFeed := {}
  /-- Every retry budget that was ever made, by its number. -/
  budgets : List RetryBudget := []
  metrics : Metrics := {}
  shutdown : Shutdown := {}
  /-- What has happened, latest first, each with its time. -/
  notes : List (Nat × Note) := []
  /-- The domains whose status is to be written by fibers that have not started yet. -/
  publications : List PresenceId := []
deriving Inhabited

namespace World

/-- All presences. -/
def registry (w : World) : Registry := w.feed.registry

/-- Changes the presences. -/
def withRegistry (w : World) (f : Registry → Registry) : World :=
  { w with feed := { w.feed with registry := f w.feed.registry } }

/-- The presence held by a number. -/
def presence? (w : World) (id : PresenceId) : Option Presence := w.registry.get? id

/-- Changes the presence held by a number. -/
def modifyPresence (w : World) (id : PresenceId) (f : Presence → Presence) : World :=
  w.withRegistry (·.modify id f)

/-- Takes a note. -/
def note (w : World) (n : Note) : World := { w with notes := (w.now, n) :: w.notes }

/-- Reports an event. -/
def emit (w : World) (e : DomainEvent) : World := w.note (.event e)

/-- Changes the counters. -/
def count (w : World) (f : Metrics → Metrics) : World := { w with metrics := f w.metrics }

/-- Whether the operator is stopping. -/
def isStopping (w : World) : Bool := w.shutdown.isStopping

/-- Makes a retry budget. -/
def newBudget (w : World) (tuning : RetryTuning) : BudgetId × World :=
  (w.budgets.length, { w with budgets := w.budgets ++ [.fresh tuning] })

def budget? (w : World) (p : Packet) : Option RetryBudget := p.budget.bind (w.budgets[·]?)

/-- Changes the retry budget of a packet, if it has one. -/
def modifyBudget (w : World) (p : Packet) (f : RetryBudget → RetryBudget) : World :=
  match p.budget with
  | some id => { w with budgets := w.budgets.modify id f }
  | none => w

/-- The presence of the domain that a packet works for. -/
def presenceOf? (w : World) (p : Packet) : Option Presence := p.presence.bind w.presence?

/-- Changes the presence that a packet works for, if it has one. -/
def modifyPresenceOf (w : World) (p : Packet) (f : Presence → Presence) : World :=
  match p.presence with
  | some id => w.modifyPresence id f
  | none => w

/-- Tells a sink of a failure that is given up on. -/
def tell (w : World) (sink : FailureSink) (reason message : String) : World :=
  match sink with
  | .recorder own => w.note (.condition own reason message)
  | .domain id =>
    let w := w.modifyPresence id (·.recordFailure reason message)
    let w := w.emit (.failed reason message)
    { w with publications := w.publications ++ [id] }

end World

end DomainSteward
