import DomainSteward.Chain.Pods
import DomainSteward.Presence.PodFeed
import DomainSteward.Wire.Http

/-!
The watch of pods over the wire.

The watch lists all pods, page by page, and then asks to be told of changes from the version of the
list on. When that answer ends it asks again from the version last seen; when the server no longer
knows a version, or tells of none, it starts over with a list.
-/

namespace DomainSteward

/-- How far a watch has come. -/
inductive WatchStage where
  /-- About to list a page, from a continue token on. -/
  | listing (token : Option String)
  /-- About to ask for changes since a version. -/
  | watching (version : String)
deriving DecidableEq, Repr, Inhabited

/-- A watch with what it feeds. -/
structure PodWatch where
  stage : WatchStage
  feed : PodFeed
deriving Inhabited

/-- A change as the server tells of it. -/
inductive WatchLine where
  | applied (pod : Pod)
  | deleted (pod : Pod)
  /-- Nothing changed up to a version. -/
  | bookmark (version : String)
  /-- The server complains. -/
  | fault (code : UInt16)
deriving Inhabited

namespace WatchLine

/-- Reads the version of a bookmark. -/
def readBookmark (j : Json) : Option String := do
  let fs ← j.object?
  let _ ← Json.required? fs "apiVersion" Json.text?
  let _ ← Json.required? fs "kind" Json.text?
  let metadata ← Json.required? fs "metadata" Json.object?
  Json.required? metadata "resourceVersion" Json.text?

/-- Reads the code of a complaint. -/
def readFault (j : Json) : Option UInt16 := do
  let fs ← j.object?
  let _ ← Json.required? fs "status" Json.text?
  let _ ← Json.defaulted? fs "message" "" Json.text?
  let _ ← Json.defaulted? fs "reason" "" Json.text?
  let code ← Json.required? fs "code" Json.int?
  if 0 ≤ code ∧ code < 65536 then return UInt16.ofNat code.toNat else none

/-- Reads a line; one that does not read is passed over. -/
def parse? (line : String) : Option WatchLine := do
  let fs ← (← Json.parse? line).object?
  let type ← Json.required? fs "type" Json.text?
  let object ← Json.fieldOf "object" fs
  match type with
  | "ADDED" => (Pod.read object).map .applied
  | "MODIFIED" => (Pod.read object).map .applied
  | "DELETED" => (Pod.read object).map .deleted
  | "BOOKMARK" => (readBookmark object).map .bookmark
  | "ERROR" => (readFault object).map .fault
  | _ => none

end WatchLine

namespace PodWatch

/-- The status of a version that is no longer known. -/
def codeGone : UInt16 := 410

/-- The most pods in one page. -/
def pageLimit : Nat := 500

/-- How long the server tells of changes in one answer, in seconds. -/
def watchSeconds : Nat := 290

/-- A watch before its first request. -/
def start (feed : PodFeed) : PodWatch := ⟨.listing none, feed.receive .listBegan⟩

/-- Starts over with a list. -/
def startOver (feed : PodFeed) : PodWatch := start feed

/-- What the next request asks with. -/
def query (w : PodWatch) : List (String × String) :=
  match w.stage with
  | .listing token =>
    [("labelSelector", operatorPodSelector), ("limit", toString pageLimit)] ++
      (token.map ("continue", ·)).toList
  | .watching version =>
    [("watch", "true"), ("timeoutSeconds", toString watchSeconds),
      ("labelSelector", operatorPodSelector), ("allowWatchBookmarks", "true"),
      ("resourceVersion", version)]

/-- Takes in a page of the list. A last page without a version is as good as none. -/
def takePage (feed : PodFeed) (page : Page Pod) : PodWatch :=
  let token := page.continueToken.filter (fun s => !s.isEmpty)
  let version := page.resourceVersion.filter (fun s => !s.isEmpty)
  let listed := page.items.foldl (fun f pod => f.receive (.listed pod)) feed
  match token, version with
  | some token, _ => ⟨.listing (some token), listed⟩
  | none, some version => ⟨.watching version, listed.receive .listDone⟩
  | none, none => startOver feed

/-- Takes in a change of a pod, which shows the version it brings. -/
def takeChange (feed : PodFeed) (pod : Pod) (e : PodEvent) (andThen : String → PodFeed → PodWatch) :
    PodWatch :=
  match pod.metadata.resourceVersion.filter (fun s => !s.isEmpty) with
  | some version => andThen version (feed.receive e)
  | none => startOver feed

/-- Takes in the lines of an answer from a version on. -/
def takeLines : String → PodFeed → List WatchLine → PodWatch
  | version, feed, [] => ⟨.watching version, feed⟩
  | version, feed, line :: rest =>
    match line with
    | .applied pod =>
      takeChange feed pod (.applied pod) (fun version feed => takeLines version feed rest)
    | .deleted pod =>
      takeChange feed pod (.deleted pod) (fun version feed => takeLines version feed rest)
    | .bookmark version => takeLines version feed rest
    | .fault code => if code = codeGone then startOver feed else takeLines version feed rest

/-- The lines of an answer that read. -/
def linesOf (body : String) : List WatchLine :=
  ((body.toList.splitOn '\n').map String.ofList).filterMap WatchLine.parse?

/-- Takes in a reply. -/
def receive (w : PodWatch) (reply : HttpReply) : PodWatch :=
  match w.stage, reply with
  | .listing _, .refused => startOver w.feed
  | .listing _, .answer code body =>
    if Response.isFault code then startOver w.feed
    else
      match (Json.parse? body).bind (Page.read Pod.read) with
      | some page => takePage w.feed page
      | none => startOver w.feed
  | .watching _, .refused => w
  | .watching version, .answer _ body => takeLines version w.feed (linesOf body)

/-- Takes in replies one after another; gives what was asked and where the watch ends up, waiting
for a reply that does not come. -/
def run (place : String) : PodWatch → List HttpReply → List (Option Address) × PodWatch
  | w, [] => ([Address.of? place w.query], w)
  | w, reply :: rest =>
    let (asked, last) := run place (w.receive reply) rest
    (Address.of? place w.query :: asked, last)

/-- Watches the pods of a namespace, or of all. A watch that is stopped from the start asks for
nothing. -/
def watchPods (namespaceName : Option String) (stopped : Bool) (feed : PodFeed)
    (replies : List HttpReply) : List (Option Address) × PodFeed :=
  if stopped then ([], feed)
  else
    let (asked, w) := run (Resource.pod.collection namespaceName) (start feed) replies
    (asked, w.feed)

end PodWatch

end DomainSteward
