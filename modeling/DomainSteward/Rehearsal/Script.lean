import DomainSteward.Rehearsal.Act

/-!
Scripts and the chains that they are cast into.

A script is a list of lines. A line is a cue, a call, or one of the operator's own steps, and may
carry a label and scripts that branch off. Casting numbers the cues and calls, so that no two are
taken for one another, and collects the labelled steps.
-/

namespace DomainSteward

structure ScriptedCall where
  /-- The request; absent for a response step that stands alone. -/
  request : Option Request
  onSuccess : OnSuccess := .next
  onFailure : OnFailure := .retryOrEnd
  /-- Whether the response step has a recorder of failures of its own. -/
  ownSink : Bool := false
deriving Inhabited

inductive LineKind where
  | cue (name : String) (act : Act)
  /-- A call; the first branch is its conflict chain, the second its other chain. -/
  | call (c : ScriptedCall)
  | listPods
  | rollIfNeeded
  | updateStatus
  /-- A roll of servers in clusters; each branch restarts one of them. -/
  | roll (members : List (String × Option String))
deriving Inhabited

/-- A line of a script. -/
inductive Line where
  | line (label : Option String) (kind : LineKind) (branches : List (List Line))
deriving Inhabited

abbrev Script := List Line

/-- What a script is cast with. -/
structure Cast where
  conduct : Conduct
  id : PresenceId
  presence : Presence
  sink : Option FailureSink

namespace Cast

def exchange (c : Cast) (n : Nat) (call : ScriptedCall) (next conflict other : Option (Step Cue)) :
    Exchange Cue (Step Cue) :=
  { id := .numbered n
    request := none
    handler := .guest ⟨n, "call", .judge call.onSuccess call.onFailure⟩
    sink :=
      if call.ownSink then some (.recorder true)
      else if call.request.isSome then c.sink
      else none
    next
    conflict
    others := other.toList }

/-- The members of a scripted roll. -/
def members (c : Cast) (servers : List (String × Option String))
    (branches : List (Option (Step Cue))) : NameMap (Step Cue × Packet) :=
  .ofList ((servers.zip branches).map (fun ((server, cluster), branch) =>
    let p : Packet := { presence := some c.id }
    (server, branch.getD .idle,
      memberPacket (p.put Act.fiberKey (.text server)) server cluster)))

def step (c : Cast) (n : Nat) (kind : LineKind) (next : Option (Step Cue))
    (branches : List (Option (Step Cue))) : Step Cue :=
  match kind with
  | .cue name act => .guest ⟨n, name, act⟩ next (branches.map (·.getD .idle))
  | .call call =>
    let x := c.exchange n call next branches.head?.join branches[1]?.join
    match call.request with
    | some r => .request (c.conduct.paged r) x
    | none => .response x
  | .listPods => DomainSteward.listPods c.conduct c.sink c.presence next
  | .rollIfNeeded => .rollIfNeeded c.sink next
  | .updateStatus => writeStatus c.conduct next
  | .roll servers => rollServers (c.members servers branches) next

/-- What came of casting: the first number not given yet and the labelled steps. -/
structure Sheet where
  free : Nat := 0
  labels : List (String × Step Cue) := []
deriving Inhabited

mutual

/-- Casts a line that a step follows. -/
def line (c : Cast) (next : Option (Step Cue)) (sheet : Sheet) : Line → Step Cue × Sheet
  | .line label kind branches =>
    let (branches, sheet) := chains c sheet branches
    let step := c.step sheet.free kind next branches
    (step,
      { free := sheet.free + 1
        labels := (label.map (·, step)).toList ++ sheet.labels })

/-- Casts a script into its first step. -/
def chain (c : Cast) (sheet : Sheet) : List Line → Option (Step Cue) × Sheet
  | [] => (none, sheet)
  | first :: rest =>
    let (next, sheet) := chain c sheet rest
    let (step, sheet) := line c next sheet first
    (some step, sheet)

/-- Casts several scripts. -/
def chains (c : Cast) (sheet : Sheet) : List (List Line) → List (Option (Step Cue)) × Sheet
  | [] => ([], sheet)
  | first :: rest =>
    let (others, sheet) := chains c sheet rest
    let (step, sheet) := chain c sheet first
    (step :: others, sheet)

end

end Cast

/-- How far a step is from the end of its chain. -/
def Step.distance {ε : Type} : Step ε → Nat
  | .guest _ (some next) _ => next.distance + 1
  | .request _ ⟨_, _, _, _, some next, _, _⟩ => next.distance + 2
  | .request _ ⟨_, _, _, _, none, _, _⟩ => 1
  | .response ⟨_, _, _, _, some next, _, _⟩ => next.distance + 1
  | .rollIfNeeded _ (some next) => next.distance + 1
  | .rolling _ (some next) => next.distance + 2
  | .rolling _ none => 1
  | .afterRoll (some next) => next.distance + 1
  | .beginRestart _ _ (some next) => next.distance + 1
  | .waitRemoved _ _ (some next) => next.distance + 1
  | .waitReady _ (some next) => next.distance + 1
  | .updateStatus _ (some next) => next.distance + 1
  | .rereadDomain _ (some next) => next.distance + 1
  | .clearFailure (some next) => next.distance + 1
  | _ => 0

def Step.castNumber? : Step Cue → Option Nat
  | .guest cue _ _ => some cue.number
  | .request _ x => numberOf x.id
  | .response x => numberOf x.id
  | _ => none
where
  numberOf : ExchangeId → Option Nat
    | .numbered n => some n
    | _ => none

/-- Whether two steps of a script are one and the same. -/
def Step.isSame (a b : Step Cue) : Bool :=
  a.name Cue.name = b.name Cue.name && a.castNumber? = b.castNumber? && a.distance = b.distance

end DomainSteward
