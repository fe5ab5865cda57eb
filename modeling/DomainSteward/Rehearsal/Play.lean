import DomainSteward.Reconcile
import DomainSteward.Rehearsal.Script
import DomainSteward.Rehearsal.Server

/-!
Rehearsals: fibers that run in made-up time against a played API server.

What can go on now stands in a queue and takes turns, first come first served. When the queue is
empty, time jumps to the next alarm; alarms of one moment ring in the order in which they were set.
A fiber on its turn makes moves until it has to wait.
-/

namespace DomainSteward

/-- Something that takes turns. -/
inductive Turn where
  | fiber (i : FiberId)
  | deed (d : Deed)
deriving Inhabited

/-- How far a call has come. -/
inductive CallStage where
  /-- On its way to the server. -/
  | sent (arrives : Nat)
  /-- Answered, but the answer is not there yet. -/
  | answered (arrives : Nat) (r : Response)
  /-- Never to be answered. -/
  | lost
deriving Inhabited

/-- What a fiber waits for. -/
inductive Wait where
  | until (due : Nat)
  | call (stage : CallStage) (deadline : Nat)
deriving Inhabited

/-- A reconcile under way. -/
structure OpenReconcile where
  fiber : FiberId
  presence : PresenceId
  began : Nat
deriving Inhabited

/-- A rehearsal under way. -/
structure Play where
  staging : Staging
  machine : ChainMachine Cue
  server : ApiServer
  /-- What can go on now. -/
  queue : List Turn := []
  /-- What goes on later, in the order in which it was set. -/
  alarms : List (Nat × Turn) := []
  waits : List (FiberId × Wait) := []
  /-- The reconciles whose fibers have not ended. -/
  reconciles : List OpenReconcile := []

namespace Play

/-! ## Small changes -/

/-- The rules by which the fibers move. -/
def dynamics (s : Play) : Dynamics (Step Cue) Packet (Pending Cue) Answer World :=
  chainDynamics s.staging.conduct s.staging.rules

def world (s : Play) : World := s.machine.world

/-- The time. -/
def now (s : Play) : Nat := s.world.now

/-- Changes the world. -/
def modifyWorld (s : Play) (f : World → World) : Play :=
  { s with machine := { s.machine with world := f s.machine.world } }

/-- Sets an alarm, unless its time has come. -/
def alarm (s : Play) (due : Nat) (t : Turn) : Play :=
  if due ≤ s.now then s else { s with alarms := s.alarms ++ [(due, t)] }

def wait? (s : Play) (i : FiberId) : Option Wait := s.waits.lookup i

/-- Says what a fiber waits for. -/
def setWait (s : Play) (i : FiberId) (w : Wait) : Play :=
  { s with waits := (i, w) :: s.waits.filter (·.1 ≠ i) }

/-- Forgets what a fiber waited for. -/
def dropWait (s : Play) (i : FiberId) : Play :=
  { s with waits := s.waits.filter (·.1 ≠ i) }

def fibersIn (s : Play) (p : Phase (Step Cue) (Pending Cue) → Bool) : List FiberId :=
  (s.machine.fibers.zipIdx.filter (fun (f, _) => p f.phase)).map (·.2)

/-- Lets fibers take turns. -/
def enqueue (s : Play) (ids : List FiberId) : Play :=
  { s with queue := s.queue ++ ids.map .fiber }

/-! ## Consequences -/

/-- Starts the fibers that write the statuses asked for. -/
def publish (s : Play) : Play :=
  let asked := s.world.publications
  let s := s.modifyWorld (fun w => { w with publications := [] })
  { s with
    machine := asked.foldl
      (fun m id => m.create (writeStatus s.staging.conduct none) { presence := some id })
      s.machine }

/-- Whether a phase is a sleep. -/
def isAsleep : Phase (Step Cue) (Pending Cue) → Bool
  | .sleeping _ _ => true
  | _ => false

/-- Whether a phase waits for a fiber. -/
def awaits (i : FiberId) : Phase (Step Cue) (Pending Cue) → Bool
  | .joining children _ => children.contains i
  | _ => false

/-- Lets take turns whoever can go on after a change: fibers that are new, and the sleepers once the
stopping flag is settled. -/
def follow (before after : Play) : Play :=
  let after := after.publish
  let fresh := List.range' before.machine.fibers.length
    (after.machine.fibers.length - before.machine.fibers.length)
  let after := after.enqueue fresh
  if after.world.shutdown.isSettled && !before.world.shutdown.isSettled then
    after.enqueue (after.fibersIn isAsleep)
  else after

/-- Makes a move of a fiber. -/
def move (s : Play) (i : FiberId) (m : Move Answer) : Play :=
  match s.machine.move? s.dynamics i m with
  | some machine => follow s { s with machine }
  | none => s

/-! ## Calls -/

/-- Sends a call on its way. -/
def send (s : Play) (i : FiberId) (r : Request) : Play :=
  let s := s.modifyWorld (·.note (.call r))
  let arrives := s.now + s.server.latency
  let deadline := s.now + s.staging.conduct.callTimeout.millis
  ((s.setWait i (.call (.sent arrives) deadline)).alarm arrives (.fiber i)).alarm deadline
    (.fiber i)

/-- Has the server take a call, with all that comes of it. -/
def serve (s : Play) (r : Request) : CallStage × Play :=
  let (reply, server) := s.server.takeReply r
  let s := { s with server }
  match reply with
  | some ⟨delay, some content⟩ => (.answered (s.now + delay) (content.response r), s)
  | some ⟨_, none⟩ => (.lost, s)
  | none =>
    let served := s.server.answer s.world r
    let after := { s with server := served.server }.modifyWorld (fun _ => served.world)
    let after := served.later.foldl (fun s (wait, d) => s.alarm (s.now + wait) (.deed d)) after
    (.answered s.now served.response, follow s after)

/-- Looks after a call. The answer counts if it is there in time; otherwise the call has timed
out. -/
def attend (s : Play) (i : FiberId) (r : Request) (stage : CallStage) (deadline : Nat) :
    Option Response × Play :=
  let (stage, s) :=
    match stage with
    | .sent arrives =>
      if arrives ≤ s.now then
        let (stage, s) := s.serve r
        (stage, match stage with
          | .answered arrives _ => s.alarm arrives (.fiber i)
          | _ => s)
      else (stage, s)
    | _ => (stage, s)
  let late : Option Response :=
    if deadline ≤ s.now then some (.failure (.timeout r s.staging.conduct.callTimeout)) else none
  match stage with
  | .answered arrives response => (if arrives ≤ s.now then some response else late,
      s.setWait i (.call stage deadline))
  | _ => (late, s.setWait i (.call stage deadline))

/-! ## Turns -/

/-- What a fiber on its turn does. -/
inductive Progress where
  | goesOn (s : Play)
  | waits (s : Play)

/-- Waits until some time has passed and then makes a move, or makes it at once if nothing is to
be waited for. -/
def pause (s : Play) (i : FiberId) (wait : Nat) (elapsed : Bool) (m : Move Answer) : Progress :=
  match s.wait? i with
  | some (.until due) =>
    if elapsed || due ≤ s.now then .goesOn ((s.dropWait i).move i m) else .waits s
  | _ =>
    if elapsed || wait = 0 then .goesOn (s.move i m)
    else .waits ((s.setWait i (.until (s.now + wait))).alarm (s.now + wait) (.fiber i))

/-- How long an errand takes. -/
def errandTime (cue : Cue) : Nat :=
  match cue.act with
  | .errand _ wait _ => wait
  | _ => 0

def phase? (s : Play) (i : FiberId) : Option (Phase (Step Cue) (Pending Cue)) :=
  (s.machine.fiber? i).map Fiber.phase

/-- Closes the reconcile of a fiber that has ended. -/
def close (s : Play) (i : FiberId) (failure : Option FiberError) : Play :=
  match s.reconciles.find? (·.fiber = i) with
  | some r =>
    { s with reconciles := s.reconciles.filter (·.fiber ≠ i) }.modifyWorld
      (closeReconcile s.staging.conduct r.presence failure (Float.ofNat (s.now - r.began) / 1000))
  | none => s

/-- One move of a fiber, if it can make one now. -/
def progress (s : Play) (i : FiberId) : Progress :=
  match s.phase? i with
  | some (.created _) => .goesOn (s.move i .run)
  | some (.running _) => .goesOn (s.move i .run)
  | some (.sleeping wait _) => s.pause i wait.millis s.world.shutdown.isSettled .wake
  | some (.waiting (.guest cue) _) => s.pause i (errandTime cue) false (.answer .done)
  | some (.waiting (.call r) _) =>
    match s.wait? i with
    | some (.call stage deadline) =>
      match s.attend i r stage deadline with
      | (some response, s) => .goesOn ((s.dropWait i).move i (.answer (.response response)))
      | (none, s) => .waits s
    | _ => .goesOn (s.send i r)
  | some (.joining children _) =>
    if (s.machine.verdicts? children).isSome then .goesOn (s.move i .join) else .waits s
  | some (.ended failure) => .waits ((s.close i failure).enqueue (s.fibersIn (awaits i)))
  | some (.crashed _) => .waits (s.enqueue (s.fibersIn (awaits i)))
  | none => .waits s

/-- Takes a turn of a fiber: as many moves as it can make. -/
def takeTurn : Nat → Play → FiberId → Play
  | 0, s, _ => s
  | fuel + 1, s, i =>
    match s.progress i with
    | .goesOn s => takeTurn fuel s i
    | .waits s => s

/-- More moves than any fiber of a rehearsal makes in one turn. -/
def turnFuel : Nat := 1000000000

def perform (s : Play) (d : Deed) : Play :=
  let (server, world) := d.perform s.server s.world
  follow s ({ s with server }.modifyWorld (fun _ => world))

/-- Takes a turn. -/
def take (s : Play) : Turn → Play
  | .fiber i => takeTurn turnFuel s i
  | .deed d => s.perform d

/-- The time of the next alarm. -/
def nextAlarm? (s : Play) : Option Nat := (s.alarms.map (·.1)).min?

/-- Lets time go on to a moment and the alarms of that moment ring. -/
def advance (s : Play) (time : Nat) : Play :=
  let s := s.modifyWorld (fun w => { w with now := time })
  { s with
    queue := s.queue ++ (s.alarms.filter (·.1 ≤ time)).map (·.2)
    alarms := s.alarms.filter (fun a => time < a.1) }

def isDone (s : Play) (i : FiberId) : Bool := (s.machine.fiber? i).any Fiber.isDone

/-- Goes on until a fiber is done, or until a time; without a fiber until that time alone. -/
def run : Nat → Option FiberId → Nat → Play → Play
  | 0, _, _, s => s
  | fuel + 1, main, limit, s =>
    match s.queue with
    | t :: rest => run fuel main limit ({ s with queue := rest }.take t)
    | [] =>
      if main.any s.isDone then s
      else
        match s.nextAlarm? with
        | some due =>
          if due ≤ limit then run fuel main limit (s.advance due) else s.advance limit
        | none => s.advance limit

/-- More turns than any rehearsal takes. -/
def runFuel : Nat := 1000000000

/-- Goes on until a fiber is done, or for a time. -/
def runFor (s : Play) (main : FiberId) (time : Nat) : Play :=
  s.run runFuel (some main) (s.now + time)

/-- Lets a time pass. -/
def settle (s : Play) (time : Nat) : Play :=
  Play.run runFuel none (s.now + time) s

/-- Starts a fiber and gives its number. -/
def start (s : Play) (step : Step Cue) (p : Packet) : FiberId × Play :=
  (s.machine.fibers.length, follow s { s with machine := s.machine.create step p })

end Play

end DomainSteward
