import DomainSteward.Chain.Conduct

/-!
Exchanges of request and response.

The request step makes sure of a retry budget, puts itself on record as the request in flight, and
waits for the answer. The response step takes the answer out of the packet and has its handler
judge it. Unless the request is sent again, the exchange is then over: the request in flight and the
continue token are forgotten, and so is the budget, which only the conflict step goes on with.
-/

namespace DomainSteward

variable {ε : Type}

/-- What a handler decides. -/
inductive Verdict (ε : Type) where
  /-- The request is sent again, at once or after a wait. -/
  | resend (wait : Option Duration)
  /-- The conflict step takes over. -/
  | reroute
  /-- The exchange is over. -/
  | proceed (action : StepAction ε)

/-- What a handler decided, and what it did meanwhile. -/
structure Judged (ε : Type) where
  verdict : Except Panic (Verdict ε)
  packet : Packet
  world : World

/-- A decision without a panic. -/
def Judged.of (verdict : Verdict ε) (packet : Packet) (world : World) : Judged ε :=
  ⟨.ok verdict, packet, world⟩

namespace Packet

/-- The exchange whose request is in flight. -/
def exchange? (p : Packet) : Option ExchangeId := (p.value? requestKey).bind (·.exchange?)

/-- The response that waits to be handled. -/
def response? (p : Packet) : Option Response := (p.value? responseKey).bind (·.response?)

/-- Where the list under way goes on. -/
def continueToken? (p : Packet) : Option String := p.text? continueKey

end Packet

namespace Exchange

/-- Goes on with the step that follows the exchange. -/
def goOn (x : Exchange ε (Step ε)) : Verdict ε := .proceed (.goOn x.next)

/-- Whether the request in flight belongs to this exchange. -/
def isPaired (x : Exchange ε (Step ε)) (p : Packet) : Bool :=
  x.request.isSome && p.exchange? = some x.id

/-- The failure of a response step that should send a request again and has none. -/
def unpaired : FiberError := .invalidState "response step is not paired with a request step"

/-- The failure of a response step without a response. -/
def unanswered : FiberError := .invalidState "no response to handle"

/-- Changes the counters on behalf of an exchange; a response step that stands alone has none. -/
def count (c : Conduct) (x : Exchange ε (Step ε)) (f : Metrics → Metrics) (w : World) : World :=
  if x.request.isSome then c.count f w else w

/-- Tells of a failure that is given up on, unless it is benign. -/
def giveUp (x : Exchange ε (Step ε)) (r : Option Response) (w : World) : World :=
  match r.bind (·.failure?), x.sink with
  | some f, some sink =>
    if f.isBenign then w else w.tell sink kubernetesFailureReason f.message
  | _, _ => w

/-- Consults the retry budget about a response, or about none at all; no verdict means that the
failure is final. -/
def retry? (c : Conduct) (x : Exchange ε (Step ε)) (r : Option Response) (p : Packet)
    (w : World) : Option (Verdict ε) × World :=
  match w.budget? p with
  | none => (none, x.giveUp r w)
  | some budget =>
    let (decision, budget) := budget.decide (r.bind (·.statusCode?)) x.conflict.isSome
    let w := w.modifyBudget p (fun _ => budget)
    match decision with
    | .retry wait =>
      if x.isPaired p then (some (.resend (some wait)), x.count c (·.callRetried "retry") w)
      else (none, w)
    | .conflict => (some .reroute, x.count c (·.callRetried "conflict") w)
    | .giveUp => (none, x.giveUp r w)

/-- The verdict on a failure that is not tried again. -/
def endWith (r : Response) : Verdict ε :=
  .proceed (.terminate (
    match r.failure? with
    | some f => f.toFiberError
    | none => .invalidState "response handler treated a successful response as a failure"))

/-- Tries again if the budget allows it, otherwise ends with the failure. -/
def retryOrEnd (c : Conduct) (x : Exchange ε (Step ε)) (r : Response) (p : Packet) (w : World) :
    Judged ε :=
  let (verdict, w) := x.retry? c (some r) p w
  .of (verdict.getD (endWith r)) p w

/-- Sends the request again with a budget as at the start. -/
def startOver (x : Exchange ε (Step ε)) (p : Packet) (w : World) : Judged ε :=
  let w := w.modifyBudget p (·.reset)
  .of (if x.isPaired p then .resend none else .proceed (.terminate unpaired)) p w

/-- Fetches the next page of a list, or goes on with a step after the last one. -/
def nextPageOr (x : Exchange ε (Step ε)) (r : Response) (andThen : Option (Step ε)) (p : Packet)
    (w : World) : Judged ε :=
  match r.continueToken? with
  | some token => x.startOver (p.put Packet.continueKey (.text token)) w
  | none => .of (.proceed (.goOn andThen)) p w

/-! ## The two steps -/

/-- Makes sure that an exchange has a retry budget. -/
def withBudget (c : Conduct) (p : Packet) (w : World) : Packet × World :=
  if p.budget.isSome then (p, w)
  else
    let (id, w) := w.newBudget c.tuning
    ({ p with budget := some id }, w)

/-- Makes the call of an exchange. A list goes on where the packet says, so that a page which has to
be fetched again is the same page. -/
def send (c : Conduct) (r : Request) (x : Exchange ε (Step ε)) (p : Packet) (w : World) :
    StepApplied ε :=
  let (p, w) := withBudget c p w
  let p := p.put Packet.requestKey (.exchange x.id)
  .of (.suspend (.call (r.continuedAt p.continueToken?))
    (some (.response { x with request := some r }))) p w

/-- What a verdict asks for. -/
def actionOf (x : Exchange ε (Step ε)) : Verdict ε → StepAction ε
  | .resend wait =>
    match x.request, wait with
    | some r, none => .next (.request r x)
    | some r, some wait => .delay wait (some (.request r x))
    | none, _ => .terminate unpaired
  | .reroute => .goOn x.conflict
  | .proceed action => action

/-- What stays in the packet after a verdict. -/
def tidy (verdict : Verdict ε) (p : Packet) : Packet :=
  match verdict with
  | .resend _ => p
  | .reroute => (p.remove Packet.requestKey).remove Packet.continueKey
  | .proceed _ =>
    { (p.remove Packet.requestKey).remove Packet.continueKey with budget := none }

/-- Takes the response out of the packet and has it judged. -/
def settle (c : Conduct) (judge : Response → Packet → World → Judged ε)
    (x : Exchange ε (Step ε)) (p : Packet) (w : World) : StepApplied ε :=
  let response := p.response?
  let p := p.remove Packet.responseKey
  let judged :=
    match response with
    | some r => judge r p w
    | none =>
      let (verdict, w) := x.retry? c none p w
      .of (verdict.getD (.proceed (.terminate unanswered))) p w
  match judged.verdict with
  | .ok verdict => .of (x.actionOf verdict) (tidy verdict judged.packet) judged.world
  | .error panic => ⟨.error panic, judged.packet, judged.world⟩

end Exchange

end DomainSteward
