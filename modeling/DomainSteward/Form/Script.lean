import DomainSteward.Form.Failure
import DomainSteward.Form.Request
import DomainSteward.Rehearsal.Reply
import DomainSteward.Rehearsal.Script

/-!
Scripts in forms.
-/

namespace DomainSteward.Form

/-! ## Replies -/

/-- Reads a page of objects; what is none is passed over. -/
def pageOf (j : Json) : ObjectPage :=
  { continueToken := textOf? j "continue", items := (listOf j "items").filterMap ApiObject.read }

/-- Reads what a reply says. -/
def contentOf (j : Json) : ReplyContent :=
  match intOf? j "error", field j "transport", field j "list", intOf? j "status_ok" with
  | some _, _, _, _ => .error ((code? j "error").getD 0) (textOf j "body")
  | none, .text what, _, _ => .transport what
  | none, _, .object fs, _ => .page (pageOf (.object fs))
  | none, _, _, some _ => .status ((code? j "status_ok").getD 0) (textOf j "body")
  | none, _, _, none =>
    match ApiObject.read (field j "object") with
    | some o => .object o ((code? j "code").getD 200)
    | none => .plain

/-- Reads a reply: a number is a fault, and `null` leaves the answer to the server. -/
def replyOf (j : Json) : Option Reply :=
  match j with
  | .null => none
  | .object _ =>
    some
      { delay := natOf j "delay"
        content := if boolOf j "hang" then none else some (contentOf j) }
  | j =>
    match j.int? with
    | some n => some { content := some (.fault n) }
    | none => some {}

/-- Reads a reply that comes at once. -/
def readyResponse (j : Json) : Response :=
  let r := requestOf (field j "request")
  match replyOf (field j "reply") with
  | some ⟨_, some content⟩ => content.response r
  | _ => ReplyContent.plain.response r

/-! ## Lines -/

/-- Reads how a response is judged if the call succeeded. -/
def onSuccessOf (j : Json) : OnSuccess :=
  match textOf j "ok" with
  | "list" => .pages
  | "list_or" => .pagesOrOther
  | "reject" => .reject
  | "retry" => .retry
  | "reinvoke" => .startOver
  | "other" => .other
  | "end" => .finish
  | "panic" => .panic
  | _ => .next

/-- Reads how a response is judged if the call failed. -/
def onFailureOf (j : Json) : OnFailure :=
  match field j "fail" with
  | .list codes => .goOnIf (codes.filterMap Json.int?)
  | .text "no_retry" => .finish
  | .text "next" => .next
  | .text "other" => .other
  | _ => .retryOrEnd

/-- Reads a call. -/
def callOf (j : Json) (request : Option Request) : ScriptedCall :=
  { request, onSuccess := onSuccessOf j, onFailure := onFailureOf j
    ownSink := boolOf j "own_sink" }

/-- Reads what a panic says. -/
def panicOf (j : Json) : Panic :=
  if textOf j "payload" = "other" then .wordless else .said (textOf j "message")

/-- Reads the texts that an errand brings. -/
def bringsOf (j : Json) : List (String × String) :=
  (fieldsOf j "put").filterMap (fun (key, v) => v.text?.map (key, ·))

/-- Reads what a cue does. -/
def actOf (j : Json) : Act :=
  let key := textOf j "key"
  let server := textOf j "server"
  let last := boolOf j "final"
  match textOf j "do" with
  | "log" => .say (textOf j "msg")
  | "put" =>
    match packetValue? (field j "value") with
    | some v => .put key v
    | none => .nothing
  | "get" => .look key
  | "remove" => .remove key
  | "append" => .append key (textOf j "value")
  | "packet" => .lookAtPacket
  | "put_spi" => .putToken (textOf j "value")
  | "spi" => .lookAtToken
  | "remove_spi" => .removeToken
  | "clear_presence" => .dropPresence
  | "stop" => .stop (textOf j "reason")
  | "stopping" => .lookAtStopping
  | "put_response" => .putResponse (readyResponse j)
  | "put_request" => .putRequest
  | "install_strategy" => .putBudget (tuningOf (field j "tuning"))
  | "clear_strategy" => .dropBudget
  | "strategy" => .lookAtBudget
  | "set_pod" =>
    match Pod.read (field j "pod") with
    | some pod => .setPod server pod
    | none => .nothing
  | "remove_pod" => .removePod server
  | "mark" => .mark server
  | "unmark" => .unmark server
  | "pod_ready" => .setReadiness server (boolOf j "ready" true) (textOf? j "version")
  | "ready" => .lookAtReady
  | "record_failure" => .recordFailure (textOf j "reason") (textOf j "message")
  | "sink_failure" => .tellFailure (textOf j "reason") (textOf j "message")
  | "delay" => .sleep (natOf j "ms") last
  | "end" => .finish
  | "terminate" => .fail (errorOf (field j "value"))
  | "panic" => .panic (panicOf j)
  | "suspend" => .suspend (natOf j "ms") (bringsOf j) last
  | "fork" => .fork last
  | "goto" => .jump (textOf j "to") (Int64.ofInt ((intOf? j "times").getD 0))
  | "poll" => .poll (natOf j "ms") (Int64.ofInt ((intOf? j "times").getD 0))
  | "restart" => .restart server (textOf j "version")
  | _ => .nothing

/-- Reads a line, given how to read the scripts that branch off. -/
def lineOf (script : Json → Script) (j : Json) : Line :=
  let make (kind : LineKind) (branches : List Script) : Line :=
    .line (textOf? j "label") kind branches
  let asides : List Script := [script (field j "conflict"), script (field j "other")]
  let members := listOf j "members"
  match textOf j "do" with
  | "call" => make (.call (callOf j (some (requestOf j)))) asides
  | "response" => make (.call (callOf j none)) asides
  | "list_pods" => make .listPods []
  | "roll_if_needed" => make .rollIfNeeded []
  | "update_status" => make .updateStatus []
  | "roll" =>
    make (.roll (members.map (fun m => (textOf m "name", textOf? m "cluster"))))
      (members.map (fun m => script (field m "steps")))
  | "fork" => make (.cue "fork" (actOf j)) ((listOf j "children").map script)
  | name => make (.cue name (actOf j)) []

/-- Reads a script whose branches nest no deeper than a number. -/
def readScript : Nat → Json → Script
  | 0, _ => []
  | depth + 1, j => (j.list?.getD []).map (lineOf (readScript depth))

def scriptOf (j : Json) : Script := readScript Json.maxDepth j

end DomainSteward.Form
