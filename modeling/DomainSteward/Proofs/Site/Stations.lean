import DomainSteward.Reconcile
import DomainSteward.Proofs.Site.Blame
import DomainSteward.Proofs.Site.Errands
import DomainSteward.Proofs.Site.Story

/-! How far a reconcile has come whose calls are answered in any way: it lists the pods, looks for
work, rolls, forgets an earlier failure, and writes the status. Wherever it stands, the flags of
its presence agree with what it has told so far. -/
namespace DomainSteward.Stations
open Machine Moves RollSteps WaveLoop Ledger Anatomy Lots Restarts Exchanges Packets Views Calm
  Paths Journeys Blame Errands Faces Orders Stories

variable {ε : Type} {c : Conduct} {g : GuestRules ε} {id : PresenceId}
  {before : Option RecordedFailure} {r r' : Roll ε} {s : Story} {h : Happening Answer World}
  {t : Mandate ε} {ready : NameSet} {m after : ChainMachine ε} {i : FiberId} {move : Move Answer}
  {p : Packet} {q : Request} {x : Exchange ε (Step ε)} {step : Step ε}
  {f f' : Fiber (Step ε) Packet (Pending ε)} {world : World} {robbed : Prop}

/-- What happens to a reconcile whose calls are answered in any way, while no stop is requested and
nobody else changes the flags of its presence. -/
structure Undisturbed (id : PresenceId) (r : Roll ε) (h : Happening Answer World) : Prop where
  proper : Proper r.machine h
  goesOn : r.machine.world.isStopping = false
  flags : ∀ world, h = .outside world → flags? id world = flags? id r.machine.world

/-- What follows the roll of a reconcile. -/
def finish (c : Conduct) : Step ε := .clearFailure (some (writeStatus c none))

/-- No roll has been opened. -/
structure Unrolled (r : Roll ε) : Prop where
  isHead : r.head = 0
  progress : r.progress = .unopened
  gates : r.gates = []
  chains : r.chains = []

/-- There is only the fiber that reconciles, and it has neither reported anything nor given a call
up. -/
structure Alone (id : PresenceId) (before : Option RecordedFailure) (r : Roll ε) (s : Story)
    (f : Fiber (Step ε) Packet (Pending ε)) : Prop where
  only : r.machine.fibers = [f]
  works : f.packet.presence = some id
  unmarked : mark? f.packet = none
  unrolled : Unrolled r
  flags : flags? id r.machine.world = some ⟨false, before⟩
  quiet : s.events = []
  gaveUp : s.givenUp = []

/-- The list that a reconcile begins with. -/
structure Agenda (c : Conduct) (id : PresenceId) (x : Exchange ε (Step ε)) : Prop where
  handler : x.handler = .podsListed
  plain : x.conflict = none
  next : x.next = some (.rollIfNeeded (some (.domain id)) (some (finish c)))

/-- A roll is under way. Who gave a call up is a restart chain that has failed. There is somebody to
blame for every failure, unless others have robbed a cluster of its floor. -/
structure Rolling (robbed : Prop) (c : Conduct) (id : PresenceId) (before : Option RecordedFailure)
    (t : Mandate ε) (ready : NameSet) (r : Roll ε) (s : Story) : Prop where
  place : t.id = id
  continues : t.next = some (finish c)
  isHead : r.head = 0
  notClosed : r.progress ≠ .closed
  unmarked : mark? t.packet = none
  travels : Travels t ready r
  covers : Covers r
  blamed : robbed ∨ Blamed t r
  flags : flags? id r.machine.world = some ⟨true, recorded before s.givenUp⟩
  begun : ∃ message, s.events = [.rollStarting message]
  gaveUp : s.givenUp = [] ∨ ∃ chain ∈ r.chains, Failed r.machine chain.id
  due : ∀ server, server ∈ s.due ↔ IsDue t server

/-- The roll is over or there was none, and only the first fiber is left. -/
structure Settled (r : Roll ε) (s : Story) : Prop where
  isHead : r.head = 0
  finished : ∀ i f, 0 < i → r.machine.fiber? i = some f → f.isDone
  gaveUp : s.givenUp = []
  forked : ∀ chain ∈ r.chains, chain.member.1 ∈ s.due
  told : s.events = [] ∨ ∃ message, s.events = [.rollStarting message, .rollCompleted] ∧
    (∀ server ∈ s.due, ∃ chain ∈ r.chains, chain.member.1 = server) ∧
    ∀ chain ∈ r.chains, Succeeded r.machine chain.id

/-- How far a reconcile has come. -/
inductive Stands (robbed : Prop) (c : Conduct) (id : PresenceId) (before : Option RecordedFailure)
    (r : Roll ε) (s : Story) : Prop where
  | lists (f : Fiber (Step ε) Packet (Pending ε)) (q : Request) (x : Exchange ε (Step ε))
      (alone : Alone id before r s f) (agenda : Agenda c id x)
      (lists : Lists q x (fun _ => True) f) (unsought : s.due = [])
  | looks (p : Packet) (alone : Alone id before r s
      ⟨p, .running (some (.rollIfNeeded (some (.domain id)) (some (finish c))))⟩)
      (unsought : s.due = [])
  | opens (t : Mandate ε) (place : t.id = id) (continues : t.next = some (finish c))
      (due : ∀ server, server ∈ s.due ↔ IsDue t server)
      (alone : Alone id before r s
        ⟨t.packet, .running (some (.rolling (plan t).members t.next))⟩)
  | rolls (t : Mandate ε) (ready : NameSet) (rolling : Rolling robbed c id before t ready r s)
  /-- The failure of an earlier run is about to be forgotten. -/
  | clears (p : Packet) (failure : Option RecordedFailure) (settled : Settled r s)
      (works : p.presence = some id)
      (found : r.machine.fiber? 0 = some ⟨p, .running (some (finish c))⟩)
      (flags : flags? id r.machine.world = some ⟨false, failure⟩)
  | late (settled : Settled r s) (writes : ∃ f, r.machine.fiber? 0 = some f ∧ Writes f.phase)
      (flags : flags? id r.machine.world = some ⟨false, none⟩)
  /-- The list has failed. -/
  | failed (p : Packet) (e : FiberError) (only : r.machine.fibers = [⟨p, .ended (some e)⟩])
      (flags : flags? id r.machine.world = some ⟨false, recorded before s.givenUp⟩)
      (quiet : s.events = []) (nobody : r.chains = [])
  | crashed (p : Packet) (message : String)
      (found : r.machine.fiber? 0 = some ⟨p, .crashed message⟩)

/-! ## Before the roll -/

private theorem alone_outside (alone : Alone id before r s f) (undisturbed : Undisturbed id r h)
    (outside : h = .outside world) :
    Alone id before { r with machine := { r.machine with world } } s f :=
  ⟨alone.only, alone.works, alone.unmarked,
    ⟨alone.unrolled.isHead, alone.unrolled.progress, alone.unrolled.gates, alone.unrolled.chains⟩,
    (undisturbed.flags world outside).trans alone.flags, alone.quiet, alone.gaveUp⟩

theorem lists_end (lists : Lists q x (fun _ => True) f) (e : Option FiberError) :
    f.phase ≠ .ended e := by
  cases lists <;> exact fun same => nomatch same

/-- A call comes to its end: it panics or is answered. -/
private theorem call_ends {next : Option (Step ε)}
    (found : r.machine.fiber? i = some ⟨p, .waiting (.call q) next⟩)
    (undisturbed : Undisturbed id r (.move i move))
    (moved : r.machine.move? (chainDynamics c g) i move = some after) :
    (∃ message, after.fiber? i = some ⟨p, .crashed message⟩) ∨
      ∃ response, after.fiber? i =
          some ⟨p.put Packet.responseKey (.response response), .running next⟩ ∧
        after.fibers.length = r.machine.fibers.length := by
  obtain ⟨_, found', shape⟩ := move_iff_moved.mp moved
  cases found.symm.trans found'
  cases shape with
  | crash _ _ _ message => exact .inl ⟨message, replace_fiber found⟩
  | cancel _ _ _ a | answer _ _ _ a =>
    obtain ⟨response, rfl⟩ := undisturbed.proper i a p _ _ rfl found
    obtain ⟨here, _, length⟩ := call_answered found undisturbed.goesOn moved
    exact .inr ⟨response, here, length⟩

end DomainSteward.Stations
