import DomainSteward.Proofs.Site.Order

/-! What a course tells of a domain besides the flags of its presence: where
rolls begin and end, and which failed calls are given up. Whatever a fiber does,
it changes the flags only by giving a call up, but for the steps that open a
roll, close it, and forget a failure. -/
namespace DomainSteward.Stories
open Machine Moves RollSteps Exchanges Packets Faces Verdicts Ledger Paths Orders

variable {ε : Type} {c : Conduct} {g : GuestRules ε} {id : PresenceId} {w w' : World} {p : Packet}
  {m after : ChainMachine ε} {i : FiberId} {move : Move Answer}
  {f f' : Fiber (Step ε) Packet (Pending ε)} {next : Option (Step ε)}

/-! ## Flags and stories -/

/-- How a domain fares, as its presence shows it. -/
structure Flags where
  rolling : Bool
  failure : Option RecordedFailure

def flags? (id : PresenceId) (w : World) : Option Flags :=
  (w.presence? id).map (fun now => ⟨now.rolling, now.failure⟩)

/-- The beginnings and ends of rolls that are reported from one world to another, in order. -/
def news (before after : World) : List DomainEvent :=
  ((milestones after).take ((milestones after).length - (milestones before).length)).reverse

/-- Whether a handler judges the answer to a list of pods, to a deletion or to a making. -/
def isAboutPods : Handler ε → Bool
  | .podsListed | .podDeleted _ | .podCreated _ => true
  | _ => false

/-- Whether a fiber has ended with a failure. -/
def endedBadly (m : ChainMachine ε) (i : FiberId) : Bool :=
  match m.fiber? i with
  | some ⟨_, .ended (some _)⟩ => true
  | _ => false

/-- The failed list, deletion or making that is given up when something happens: the step that
judges its answer ends the fiber. -/
def gaveUp? (m : ChainMachine ε) (h : Happening Answer World) (after : ChainMachine ε) :
    Option CallFailure :=
  match applied? m h with
  | some (i, p, .response x) =>
    if isAboutPods x.handler && endedBadly after i then p.response?.bind (·.failure?) else none
  | _ => none

/-- The servers of a presence whose pods were made for another restart version than that of its
domain. -/
def outdated (now : Presence) : List String :=
  now.domain.elim [] fun d =>
    (now.servers.entries.filter (fun e => e.2.restartVersion? ≠ some d.restartVersion)).map (·.1)

/-- The servers that are out of date when a fiber looks for work. -/
def foundDue (m : ChainMachine ε) (h : Happening Answer World) : List String :=
  match applied? m h with
  | some (_, p, .rollIfNeeded _ _) => (m.world.presenceOf? p).elim [] outdated
  | _ => []

/-- What the fibers of a machine have done, in order. -/
structure Story where
  /-- The beginnings and ends of rolls that they reported. -/
  events : List DomainEvent := []
  /-- The failed lists, deletions and makings that they gave up. -/
  givenUp : List CallFailure := []
  /-- The servers that were found to be due for a restart. -/
  due : List String := []

/-- The story after something happened. What the world does by itself is no part of it. -/
def Story.tell (s : Story) (m : ChainMachine ε) (h : Happening Answer World)
    (after : ChainMachine ε) : Story where
  events := s.events ++
    match h with
    | .move .. => news m.world after.world
    | .outside _ => []
  givenUp := s.givenUp ++ (gaveUp? m h after).toList
  due := s.due ++ foundDue m h

/-- The failure that is recorded once some calls have been given up one after another. -/
def recorded (before : Option RecordedFailure) (givenUp : List CallFailure) :
    Option RecordedFailure :=
  givenUp.foldl
    (fun now f => if f.isBenign then now else some ⟨kubernetesFailureReason, f.message⟩) before

private theorem recorded_cons (before : Option RecordedFailure) (first : CallFailure)
    (rest : List CallFailure) : recorded before (first :: rest) =
      recorded (if first.isBenign then before else
        some ⟨kubernetesFailureReason, first.message⟩) rest := rfl

/-- It is the failure of one of the calls, unless all their failures are benign. -/
theorem recorded_failure (before : Option RecordedFailure) (givenUp : List CallFailure) :
    (∀ f ∈ givenUp, f.isBenign = true) ∧ recorded before givenUp = before ∨
      ∃ f ∈ givenUp, f.isBenign = false ∧
        recorded before givenUp = some ⟨kubernetesFailureReason, f.message⟩ := by
  induction givenUp generalizing before with
  | nil => exact .inl ⟨fun _ among => absurd among List.not_mem_nil, rfl⟩
  | cons first rest ih =>
    rw [recorded_cons]
    rcases ih (if first.isBenign then before else
        some ⟨kubernetesFailureReason, first.message⟩) with
      ⟨benign, same⟩ | ⟨f, among, severe, same⟩
    · cases severe : first.isBenign with
      | true =>
        refine .inl ⟨fun f among => ?_, ?_⟩
        · rcases List.mem_cons.mp among with rfl | among
          · exact severe
          · exact benign f among
        · simpa [severe] using same
      | false =>
        refine .inr ⟨first, List.mem_cons_self, severe, ?_⟩
        simpa [severe] using same
    · exact .inr ⟨f, List.mem_cons_of_mem _ among, severe, same⟩

theorem flags_shown :
    flags? id w = (face? id w).map (fun face => ⟨face.rolling, face.failure⟩) := by
  rw [flags?, face?, Option.map_map]
  rfl

/-- Whatever is shown of a domain, flags and milestones are shown with it. -/
theorem flags_change {flags : Flags} {change : Face → Face} (now : flags? id w = some flags)
    (shown : face? id w' = (face? id w).map change) :
    ∃ face : Face, face.rolling = flags.rolling ∧ face.failure = flags.failure ∧
      face.events = milestones w ∧
      flags? id w' = some ⟨(change face).rolling, (change face).failure⟩ ∧
      milestones w' = (change face).events := by
  obtain ⟨presence, known, rfl⟩ := Option.map_eq_some_iff.mp now
  have faced : face? id w = some (faceOf (milestones w) presence) := by rw [face?, known]; rfl
  rw [faced, Option.map_some] at shown
  refine ⟨faceOf (milestones w) presence, rfl, rfl, rfl, ?_, ?_⟩
  · rw [flags_shown, shown]
    rfl
  · obtain ⟨_, _, same⟩ := Option.map_eq_some_iff.mp shown
    rw [← same]
    rfl

variable {flags : Flags} {q : Request} {x : Exchange ε (Step ε)} {r : Response}
  {h : Happening Answer World} {failed : CallFailure}

/-- The mark that says in a packet that its roll was announced. -/
def mark? (p : Packet) : Option PacketValue := p.value? Packet.rollMarkKey

end DomainSteward.Stories
