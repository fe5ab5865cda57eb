import Mathlib.Data.List.Nodup
import DomainSteward.Proofs.Roll.WaveLoop

/-! A machine with a ledger of one of its rolls. The ledger notes which fibers
the roll has forked, for which members, and which fibers have applied a step.
It is kept by reading along: the machine knows nothing of it. -/
namespace DomainSteward.Ledger
open Machine Moves RollSteps WaveLoop

variable {ε : Type}

/-- A restart chain that a roll has forked. -/
structure Chain (ε : Type) where
  id : FiberId
  /-- The cluster in whose waves the member restarts; none if it restarts at
  once. -/
  bucket : Option String
  member : Member ε

/-- How far the head of a roll has come. -/
inductive Progress where
  | unopened
  | opened
  | closed

/-- A machine with the ledger of a roll. -/
structure Roll (ε : Type) where
  machine : ChainMachine ε
  /-- The fiber that opens the roll and closes it. -/
  head : FiberId
  progress : Progress := .unopened
  /-- The fibers that fork restart chains, with their buckets. -/
  gates : List (FiberId × Option String) := []
  chains : List (Chain ε) := []
  /-- The fibers that have applied a step, latest first. -/
  begun : List FiberId := []

/-- The fiber that applies a step when something happens, with its packet and
the step. -/
def applied? (m : ChainMachine ε) :
    Happening Answer World → Option (FiberId × Packet × Step ε)
  | .move i .run =>
    match m.fiber? i with
    | some ⟨p, .running (some step)⟩ => some (i, p, step)
    | _ => none
  | _ => none

/-- The fibers of a machine that an earlier machine did not have. -/
def newborn (before after : ChainMachine ε) : List FiberId :=
  List.range' before.fibers.length (after.fibers.length - before.fibers.length)

/-- The bucket whose members a fiber restarts. -/
def bucketOf (f : Fiber (Step ε) Packet (Pending ε)) : Option String :=
  match f.phase with
  | .created (.rollCluster cluster _ _) => some cluster
  | _ => none

/-- The members whose chains the step of a gate forks, if it forks any. -/
def forkedBy (presence : Option Presence) : Step ε → List (Member ε)
  | .restartNow members => members
  | .rollCluster cluster queue topology =>
    presence.elim [] (fun presence => waveOf presence cluster topology queue)
  | _ => []

/-- The chains of some members, by the fibers that run them. -/
def chainsFor (bucket : Option String) (ids : List FiberId) (members : List (Member ε)) :
    List (Chain ε) :=
  ids.zipWith (fun id member => ⟨id, bucket, member⟩) members

namespace Roll

/-- All fibers that the ledger names. -/
def ids (r : Roll ε) : List FiberId := r.head :: r.gates.map (·.1) ++ r.chains.map (·.id)

/-- The chains of one bucket. -/
def chainsOf (r : Roll ε) (bucket : Option String) : List (Chain ε) :=
  r.chains.filter (fun chain => chain.bucket = bucket)

/-- Notes the step that a fiber has applied. -/
def note (r : Roll ε) (after : ChainMachine ε) (i : FiberId) (p : Packet) (step : Step ε) :
    Roll ε :=
  let noted := { r with machine := after, begun := i :: r.begun }
  if i = r.head then
    match r.progress, step with
    | .unopened, .rolling _ _ =>
      { noted with
        progress := .opened
        gates := (newborn r.machine after).zip
          ((after.fibers.drop r.machine.fibers.length).map bucketOf) }
    | .opened, .afterRoll _ => { noted with progress := .closed }
    | _, _ => noted
  else
    match r.gates.lookup i with
    | some bucket =>
      { noted with
        chains := r.chains ++ chainsFor bucket (newborn r.machine after)
          (forkedBy (r.machine.world.presenceOf? p) step) }
    | none => noted

/-- The machine and its ledger after something happened. -/
def follow? (c : Conduct) (g : GuestRules ε) (r : Roll ε) (h : Happening Answer World) :
    Option (Roll ε) :=
  (happen? (chainDynamics c g) r.machine h).map (fun after =>
    match applied? r.machine h with
    | some (i, p, step) => r.note after i p step
    | none => { r with machine := after })

/-- The machine and its ledger after one thing after another happened. -/
def course? (c : Conduct) (g : GuestRules ε) : Roll ε → List (Happening Answer World) →
    Option (Roll ε)
  | r, [] => some r
  | r, h :: rest => (r.follow? c g h).bind (fun r => course? c g r rest)

end Roll

variable {c : Conduct} {g : GuestRules ε} {r r' : Roll ε} {h : Happening Answer World}

theorem applied_iff {m : ChainMachine ε} {i : FiberId} {p : Packet} {step : Step ε} :
    applied? m h = some (i, p, step) ↔
      h = .move i .run ∧ m.fiber? i = some ⟨p, .running (some step)⟩ := by
  constructor
  · intro applied
    unfold applied? at applied
    split at applied
    · split at applied
      · rename_i found
        cases applied
        exact ⟨rfl, found⟩
      · cases applied
    · cases applied
  · rintro ⟨rfl, found⟩
    simp [applied?, found]

@[simp] theorem note_machine (r : Roll ε) (after : ChainMachine ε) (i : FiberId) (p : Packet)
    (step : Step ε) : (r.note after i p step).machine = after := by
  simp only [Roll.note]
  repeat' split
  all_goals rfl

theorem follow_machine (followed : r.follow? c g h = some r') :
    happen? (chainDynamics c g) r.machine h = some r'.machine := by
  obtain ⟨after, happened, rfl⟩ := Option.map_eq_some_iff.mp followed
  rw [happened]
  split
  · rw [note_machine]
  · rfl

/-- Nothing is noted while nobody applies a step. -/
theorem follow_quiet {after : ChainMachine ε}
    (happened : happen? (chainDynamics c g) r.machine h = some after)
    (quiet : applied? r.machine h = none) :
    r.follow? c g h = some { r with machine := after } := by
  rw [Roll.follow?, happened, Option.map_some, quiet]

/-- What can happen to a ledger: nobody applied a step, the head did, a gate
did, or a fiber did that is neither. -/
inductive Followed (c : Conduct) (g : GuestRules ε) (r : Roll ε) :
    Happening Answer World → Roll ε → Prop where
  | quiet (h : Happening Answer World) (after : ChainMachine ε) (none : applied? r.machine h = none)
      (happened : happen? (chainDynamics c g) r.machine h = some after) :
      Followed c g r h { r with machine := after }
  | head (p : Packet) (step : Step ε) (after : ChainMachine ε)
      (found : r.machine.fiber? r.head = some ⟨p, .running (some step)⟩)
      (happened : r.machine.move? (chainDynamics c g) r.head .run = some after) :
      Followed c g r (.move r.head .run) (r.note after r.head p step)
  | gate (i : FiberId) (bucket : Option String) (p : Packet) (step : Step ε)
      (after : ChainMachine ε) (other : i ≠ r.head) (listed : r.gates.lookup i = some bucket)
      (found : r.machine.fiber? i = some ⟨p, .running (some step)⟩)
      (happened : r.machine.move? (chainDynamics c g) i .run = some after) :
      Followed c g r (.move i .run)
        { r with
          machine := after
          begun := i :: r.begun
          chains := r.chains ++ chainsFor bucket (newborn r.machine after)
            (forkedBy (r.machine.world.presenceOf? p) step) }
  | aside (i : FiberId) (p : Packet) (step : Step ε) (after : ChainMachine ε) (other : i ≠ r.head)
      (unlisted : r.gates.lookup i = none)
      (found : r.machine.fiber? i = some ⟨p, .running (some step)⟩)
      (happened : r.machine.move? (chainDynamics c g) i .run = some after) :
      Followed c g r (.move i .run) { r with machine := after, begun := i :: r.begun }

theorem followed (followed : r.follow? c g h = some r') : Followed c g r h r' := by
  obtain ⟨after, happened, rfl⟩ := Option.map_eq_some_iff.mp followed
  split
  · rename_i i p step applied
    obtain ⟨rfl, found⟩ := applied_iff.mp applied
    by_cases isHead : i = r.head
    · subst isHead
      exact .head p step after found happened
    · cases listed : r.gates.lookup i with
      | some bucket =>
        simp only [Roll.note, isHead, ↓reduceIte, listed]
        exact .gate i bucket p step after isHead listed found happened
      | none =>
        simp only [Roll.note, isHead, ↓reduceIte, listed]
        exact .aside i p step after isHead listed found happened
  · rename_i none
    exact .quiet h after none happened

/-! ## What a gate forks -/

variable {bucket : Option String} {ids : List FiberId} {members : List (Member ε)}
  {chain : Chain ε} {m after : ChainMachine ε} {i : FiberId} {p : Packet} {step : Step ε}

theorem mem_chains_for (among : chain ∈ chainsFor bucket ids members) :
    ∃ k : Nat, ids[k]? = some chain.id ∧ members[k]? = some chain.member ∧
      chain.bucket = bucket := by
  obtain ⟨k, found⟩ := List.mem_iff_getElem?.mp among
  rw [chainsFor, List.getElem?_zipWith_eq_some] at found
  obtain ⟨id, member, first, second, rfl⟩ := found
  exact ⟨k, first, second, rfl⟩

theorem chains_for_members (each : ids.length = members.length) :
    (chainsFor bucket ids members).map (·.member) = members := by
  induction ids generalizing members with
  | nil => cases members <;> simp_all [chainsFor]
  | cons id rest ih =>
    cases members with
    | nil => simp at each
    | cons member others =>
      simp only [List.length_cons, Nat.add_right_cancel_iff] at each
      simpa [chainsFor] using ih each

theorem chains_for_all (each : ids.length = members.length) :
    (chainsFor bucket ids members).map (·.id) = ids := by
  induction ids generalizing members with
  | nil => rfl
  | cons id rest ih =>
    cases members with
    | nil => simp at each
    | cons member others =>
      simp only [List.length_cons, Nat.add_right_cancel_iff] at each
      simpa [chainsFor] using ih each

theorem chains_for_ids (bucket : Option String) (ids : List FiberId) (members : List (Member ε)) :
    ((chainsFor bucket ids members).map (·.id)).Sublist ids := by
  induction ids generalizing members with
  | nil => simp [chainsFor]
  | cons id rest ih =>
    cases members with
    | nil => simp [chainsFor]
    | cons member others => simpa [chainsFor] using ih others

theorem mem_newborn {id : FiberId} :
    id ∈ newborn m after ↔ m.fibers.length ≤ id ∧ id < after.fibers.length := by
  have bounds (n last id : Nat) : n ≤ id ∧ id < n + (last - n) ↔ n ≤ id ∧ id < last := by omega
  rw [newborn, List.mem_range'_1]
  exact bounds _ _ _

/-- The step of a fiber that forks restart chains. -/
inductive GateStep : Step ε → Prop where
  | together (members : List (Member ε)) : GateStep (.restartNow members)
  | waves (cluster : String) (queue : List (Member ε)) (topology : Option Topology) :
      GateStep (.rollCluster cluster queue topology)

/-- A gate forks all the chains that the ledger notes, or none. -/
theorem gate_forks (isGate : GateStep step)
    (found : m.fiber? i = some ⟨p, .running (some step)⟩)
    (moves : m.move? (chainDynamics c g) i .run = some after) :
    newborn m after = [] ∨ ∃ join, after = took (chainDynamics c g) m i p m.world
      (.forkJoin ((forkedBy (m.world.presenceOf? p) step).map (·.2)) join) := by
  have taken := run_step found moves
  cases isGate with
  | together members => exact .inr ⟨none, taken⟩
  | waves cluster queue topology =>
    obtain ⟨outcome, applied, looked⟩ :=
      roll_cluster_looks (c := c) (p := p) (w := m.world) cluster queue topology
    have applies : (chainDynamics c g).apply (.rollCluster cluster queue topology) p m.world =
        ⟨outcome, p, m.world⟩ := applied
    rw [applies] at taken
    cases looked with
    | wave presence goesOn seen split next nonempty =>
      refine .inr ⟨some (.rollCluster cluster split.held topology), ?_⟩
      rw [taken, forkedBy, seen, Option.elim_some, wave_of_split next]
      rfl
    | refused | floorless | complete | noSlack =>
      refine .inl ?_
      rw [taken, newborn, took_length]
      simp [born, actionOf]

/-- The chains that a gate forks have not started. -/
theorem forked_fresh (isGate : GateStep step)
    (found : m.fiber? i = some ⟨p, .running (some step)⟩)
    (moves : m.move? (chainDynamics c g) i .run = some after)
    (among : chain ∈ chainsFor bucket (newborn m after) (forkedBy (m.world.presenceOf? p) step)) :
    after.fiber? chain.id = some ⟨chain.member.2.2, .created chain.member.2.1⟩ := by
  obtain ⟨k, place, member, _⟩ := mem_chains_for among
  rcases gate_forks isGate found moves with nobody | ⟨join, taken⟩
  · rw [nobody] at place
    cases place
  · have within : k < after.fibers.length - m.fibers.length := by
      have bound := (List.getElem?_eq_some_iff.mp place).1
      rwa [newborn, List.length_range'] at bound
    rw [newborn, List.getElem?_range' within, Nat.one_mul] at place
    rw [← Option.some.inj place, taken, took_born]
    simp [born, member]

/-- The ledger names every fiber that a gate forks. -/
theorem forked_all (isGate : GateStep step)
    (found : m.fiber? i = some ⟨p, .running (some step)⟩)
    (moves : m.move? (chainDynamics c g) i .run = some after) :
    (chainsFor bucket (newborn m after) (forkedBy (m.world.presenceOf? p) step)).map (·.id) =
      newborn m after := by
  rcases gate_forks isGate found moves with nobody | ⟨join, taken⟩
  · rw [nobody]
    rfl
  · have each : (newborn m after).length = (forkedBy (m.world.presenceOf? p) step).length := by
      rw [newborn, List.length_range', taken, took_length]
      simp [born]
    exact chains_for_all each

end DomainSteward.Ledger
