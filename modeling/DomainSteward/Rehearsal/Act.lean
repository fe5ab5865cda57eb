import DomainSteward.Call.Summary
import DomainSteward.Chain.Rules

/-!
The steps of a rehearsal.

A `Cue` is a step of a script that is none of the operator's own. It does one small thing to its
packet, to the presence on stage or to the world, remarks on what it sees, or asks the machine for
something; and it can judge the responses to its own calls in every way that is open to a handler.
-/

namespace DomainSteward

/-- How a response to a call of a script is judged if the call succeeded. -/
inductive OnSuccess where
  /-- Go on. -/
  | next
  /-- Fetch the next page, or go on. -/
  | pages
  /-- Fetch the next page, or go on with the other chain. -/
  | pagesOrOther
  /-- Treat it as a failure. -/
  | reject
  /-- Try again, or go on. -/
  | retry
  /-- Start over twice, then go on. -/
  | startOver
  /-- Go on with the other chain. -/
  | other
  | finish
  | panic
deriving DecidableEq, Repr, Inhabited

/-- How a response is judged if the call failed. -/
inductive OnFailure where
  /-- Try again, or end with the failure. -/
  | retryOrEnd
  /-- Go on if the status is one of these; else try again, or end with the failure. -/
  | goOnIf (codes : List Int)
  /-- End with the failure. -/
  | finish
  /-- Go on. -/
  | next
  /-- Go on with the other chain. -/
  | other
deriving DecidableEq, Repr, Inhabited

/-- What a step of a script does. -/
inductive Act where
  | nothing
  /-- Remarks something. -/
  | say (text : String)
  | put (key : String) (value : PacketValue)
  /-- Remarks on a value of the packet. -/
  | look (key : String)
  | remove (key : String)
  /-- Adds to a text of the packet. -/
  | append (key text : String)
  /-- Remarks on the packet. -/
  | lookAtPacket
  | putToken (value : String)
  | lookAtToken
  | removeToken
  /-- Takes the presence out of the packet. -/
  | dropPresence
  /-- Asks the operator to stop. -/
  | stop (reason : String)
  /-- Remarks on whether the operator is stopping. -/
  | lookAtStopping
  /-- Puts a response into the packet as if a call had been answered. -/
  | putResponse (r : Response)
  /-- Puts a request on record that belongs to nobody. -/
  | putRequest
  | putBudget (tuning : RetryTuning)
  | dropBudget
  /-- Remarks on whether there is a retry budget. -/
  | lookAtBudget
  | setPod (server : String) (pod : Pod)
  | removePod (server : String)
  | mark (server : String)
  | unmark (server : String)
  /-- Has a pod report whether it is Ready, and perhaps carry another restart version. -/
  | setReadiness (server : String) (ready : Bool) (restartVersion : Option String)
  /-- Remarks on the servers that are Ready. -/
  | lookAtReady
  | recordFailure (reason message : String)
  /-- Tells of a failure as of a call that is given up on. -/
  | tellFailure (reason message : String)
  /-- Goes on after a time, or ends then. -/
  | sleep (wait : Nat) (last : Bool)
  | finish
  | fail (e : FiberError)
  | panic (p : Panic)
  /-- Has an errand done, and goes on or ends then. -/
  | suspend (wait : Nat) (brings : List (String × String)) (last : Bool)
  /-- An errand under way for a fiber. -/
  | errand (fiber : String) (wait : Nat) (brings : List (String × String))
  /-- Forks the branches, and goes on or ends then. -/
  | fork (last : Bool)
  /-- Goes on with a labelled step, so many times, and then with the next one. -/
  | jump (label : String) (times : Int64)
  /-- Comes back after a time, so many times, and then goes on. -/
  | poll (wait : Nat) (times : Int64)
  /-- Goes on with the restart of a server. -/
  | restart (server restartVersion : String)
  /-- Judges the response to a call; the first of the other steps is the other chain. -/
  | judge (onSuccess : OnSuccess) (onFailure : OnFailure)
deriving Inhabited

/-- A step of a script, with a number of its own. -/
structure Cue where
  number : Nat
  name : String
  act : Act
deriving Inhabited

/-- What the cues of a script work on. -/
structure Staging where
  conduct : Conduct := {}
  presence : PresenceId := 0
  /-- Who is told of failures of the calls that are made in a restart. -/
  sink : Option FailureSink := none
  /-- The labelled steps of the script. -/
  labels : List (String × Step Cue) := []
deriving Inhabited

namespace Act

/-- The name under which a packet holds the name of its fiber. -/
def fiberKey : String := "fiber"

/-- The name of the token that cues put into packets. -/
def tokenKey : String := "token"

/-- The name of the fiber that a packet belongs to. -/
def fiberOf (p : Packet) : String := (p.text? fiberKey).getD ""

/-- Adds one to an integer of the packet. -/
def bump (key : String) (p : Packet) : Int64 × Packet :=
  let n := (p.integer? key).getD 0 + 1
  (n, p.put key (.integer n))

/-- Remarks something in the name of a fiber. -/
def remark (w : World) (p : Packet) (fields : List (String × Json)) : World :=
  w.note (.remark (fiberOf p) ([("fiber", .text (fiberOf p))] ++ fields))

def remarkResponse (key : String) (x : Exchange Cue (Step Cue)) (r : Response) (p : Packet)
    (w : World) : World :=
  w.note (.remark (fiberOf p)
    [(key, r.summary), ("paired", if x.isPaired p then .text "RequestStep" else .null)])

/-- A pod that reports whether it is Ready. -/
def readied (ready : Bool) (restartVersion : Option String) (pod : Pod) : Pod :=
  { pod with
    metadata :=
      match restartVersion with
      | some v =>
        { pod.metadata with
          labels := some ((pod.metadata.labels.getD {}).insert Label.restartVersion v) }
      | none => pod.metadata
    status := some
      { conditions := some [{ type := "Ready", status := if ready then "True" else "False" }] } }

/-- The fibers that a fork begins. -/
def children (p : Packet) (branches : List (Step Cue)) : List (Step Cue × Packet) :=
  branches.mapIdx (fun i branch =>
    (branch, p.put fiberKey (.text (fiberOf p ++ "." ++ toString i))))

/-- Does what changes only packet and world. -/
def effect (s : Staging) (p : Packet) (w : World) : Act → Packet × World
  | .say text => (p, remark w p [("msg", .text text)])
  | .put key value => (p.put key value, w)
  | .look key =>
    (p, remark w p
      [("key", .text key), ("str", Json.ofText? (p.text? key)),
        ("int", Json.ofOption ((p.integer? key).map (fun n => Json.ofInt n.toInt))),
        ("has", .bool (p.contains key))])
  | .remove key => (p.remove key, w)
  | .append key text => (p.put key (.text ((p.text? key).getD "" ++ text)), w)
  | .lookAtPacket => (p, remark w p [("packet", .text p.text)])
  | .putToken value => ({ p with tokens := p.tokens.insert tokenKey value }, w)
  | .lookAtToken => (p, remark w p [("spi", Json.ofText? (p.tokens.get? tokenKey))])
  | .removeToken => ({ p with tokens := p.tokens.erase tokenKey }, w)
  | .dropPresence => ({ p with presence := none }, w)
  | .stop reason => (p, { w with shutdown := w.shutdown.stop reason })
  | .lookAtStopping => (p, remark w p [("stopping", .bool w.isStopping)])
  | .putResponse r => (p.put Packet.responseKey (.response r), w)
  | .putRequest => (p.put Packet.requestKey (.exchange .foreign), w)
  | .putBudget tuning =>
    let (id, w) := w.newBudget tuning
    ({ p with budget := some id }, w)
  | .dropBudget => ({ p with budget := none }, w)
  | .lookAtBudget => (p, remark w p [("strategy", .bool p.budget.isSome)])
  | .setPod server pod => (p, w.modifyPresence s.presence (·.setPod server pod))
  | .removePod server => (p, w.modifyPresence s.presence (·.removePod server))
  | .mark server => (p, w.modifyPresence s.presence (·.mark server))
  | .unmark server => (p, w.modifyPresence s.presence (·.unmark server))
  | .setReadiness server ready version =>
    (p, w.modifyPresence s.presence (fun presence =>
      match presence.pod? server with
      | some pod => presence.setPod server (readied ready version pod)
      | none => presence))
  | .lookAtReady =>
    let ready := (w.presence? s.presence).map (fun presence => presence.readyServers.toNames)
    (p, remark w p [("ready", .list ((ready.getD []).map .text))])
  | .recordFailure reason message =>
    (p, w.modifyPresence s.presence (·.recordFailure reason message))
  | .tellFailure reason message => (p, w.tell (.domain s.presence) reason message)
  | _ => (p, w)

end Act

namespace Staging

open Act

def apply (s : Staging) (cue : Cue) (next : Option (Step Cue)) (branches : List (Step Cue))
    (p : Packet) (w : World) : StepApplied Cue :=
  match cue.act with
  | .sleep wait last => .of (.delay (.ofMillis wait) (if last then none else next)) p w
  | .finish => .of .finish p w
  | .fail e => .of (.terminate e) p w
  | .panic why => ⟨.error why, p, w⟩
  | .suspend wait brings last =>
    .of (.suspend (.guest { cue with act := .errand (fiberOf p) wait brings })
      (if last then none else next)) p w
  | .fork last => .of (.forkJoin (children p branches) (if last then none else next)) p w
  | .jump label times =>
    let (n, p) := bump ("goto:" ++ label) p
    .of (.goOn (if n ≤ times then s.labels.lookup label else next)) p w
  | .poll wait times =>
    let (n, p) := bump "polls" p
    if n ≤ times then .of (.delay (.ofMillis wait) (some (.guest cue next branches))) p w
    else .of (.goOn next) p w
  | .restart server version =>
    match (w.presence? s.presence).bind (restartServer? s.sink · server version next) with
    | some chain => .of (.next chain) p w
    | none => .of (.goOn next) p (remark w p [("msg", .text "no chain")])
  | act =>
    let (p, w) := effect s p w act
    .of (.goOn next) p w

/-- Goes on with the other chain. -/
def goOther (x : Exchange Cue (Step Cue)) : Verdict Cue := .proceed (.goOn x.others.head?)

/-- Judges a response to a call that succeeded. -/
def judgeSuccess (s : Staging) (rule : OnSuccess) (x : Exchange Cue (Step Cue)) (r : Response)
    (p : Packet) (w : World) : Judged Cue :=
  match rule with
  | .next => .of x.goOn p w
  | .pages => x.nextPageOr r x.next p w
  | .pagesOrOther => x.nextPageOr r x.others.head? p w
  | .reject => x.retryOrEnd s.conduct r p w
  | .retry =>
    let (verdict, w) := x.retry? s.conduct (some r) p w
    .of (verdict.getD x.goOn) p w
  | .startOver =>
    let (n, p) := bump "reinvoked" p
    if n ≤ 2 then x.startOver p w else .of x.goOn p w
  | .other => .of (goOther x) p w
  | .finish => .of (.proceed .finish) p w
  | .panic => ⟨.error (.said "handler panic"), p, w⟩

/-- Judges a response to a call that failed. -/
def judgeFailure (s : Staging) (rule : OnFailure) (x : Exchange Cue (Step Cue)) (r : Response)
    (p : Packet) (w : World) : Judged Cue :=
  match rule with
  | .retryOrEnd => x.retryOrEnd s.conduct r p w
  | .goOnIf codes =>
    if r.statusCode?.any (fun code => codes.contains (code.toNat : Int)) then .of x.goOn p w
    else x.retryOrEnd s.conduct r p w
  | .finish => .of (Exchange.endWith r) p w
  | .next => .of x.goOn p w
  | .other => .of (goOther x) p w

/-- Remarks on a response to a call of a script and judges it. -/
def judge (s : Staging) (cue : Cue) (x : Exchange Cue (Step Cue)) (r : Response) (p : Packet)
    (w : World) : Judged Cue :=
  match cue.act with
  | .judge onSuccess onFailure =>
    if r.isFailure then
      s.judgeFailure onFailure x r p (remarkResponse "failed" x r p w)
    else s.judgeSuccess onSuccess x r p (remarkResponse "response" x r p w)
  | _ => .of x.goOn p w

/-- An errand that is done is remarked on. -/
def finish (cue : Cue) (w : World) : World :=
  match cue.act with
  | .errand fiber _ _ =>
    w.note (.remark fiber [("fiber", .text fiber), ("msg", .text "resolved")])
  | _ => w

/-- Puts what an errand brings into the packet. -/
def deliver (cue : Cue) (p : Packet) : Packet :=
  match cue.act with
  | .errand _ _ brings => brings.foldl (fun p (key, text) => p.put key (.text text)) p
  | _ => p

/-- What the cues of a script do. -/
def rules (s : Staging) : GuestRules Cue :=
  { name := Cue.name
    apply := s.apply
    judge := s.judge
    finish
    deliver }

end Staging

end DomainSteward
