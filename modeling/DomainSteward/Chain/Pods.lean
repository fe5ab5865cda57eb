import DomainSteward.Chain.Exchange

/-!
Chains that list and restart pods.

A restart deletes the pod of a server, waits until it is gone, makes its replacement and waits
until the server is Ready. While the old pod goes away its server is marked as being deleted.
-/

namespace DomainSteward

variable {ε : Type}

/-- Selects the pods that the operator made. -/
def operatorPodSelector : String := Label.createdByOperator ++ "=true"

/-- Selects the pods that the operator made for one domain. -/
def domainPodSelector (domainUid : String) : String :=
  operatorPodSelector ++ "," ++ Label.domainUid ++ "=" ++ domainUid

/-! ## Listing -/

def listPodsRequest (c : Conduct) (presence : Presence) : Request :=
  { resource := .pod
    namespaceName := some presence.namespaceName
    operation := .list
      { labelSelector := some (domainPodSelector presence.domainUid), limit := c.pageSize } }

/-- Lists the pods of a domain into its presence. -/
def listPods (c : Conduct) (sink : Option FailureSink) (presence : Presence)
    (next : Option (Step ε)) : Step ε :=
  .request (listPodsRequest c presence)
    { id := .listPods, request := none, handler := .podsListed, sink, next }

/-- The servers of a page with their pods; what is no pod of a server is passed over. -/
def podsOnPage (r : Response) : List (String × Pod) :=
  ((r.page?.map (·.items)).getD []).filterMap (fun o => do
    let pod ← Pod.ofObject? o
    let server ← pod.serverName?
    return (server, pod))

/-- Takes a page of pods in and goes on to the next page. -/
def podsListed (x : Exchange ε (Step ε)) (r : Response) (p : Packet) (w : World) : Judged ε :=
  match w.presenceOf? p with
  | none => .of (.proceed (.terminate missingPresence)) p w
  | some _ =>
    let w := (podsOnPage r).foldl
      (fun w (server, pod) => w.modifyPresenceOf p (·.setPod server pod)) w
    x.nextPageOr r x.next p w

/-! ## Restarting one server -/

def deletePodRequest (presence : Presence) (pod : Pod) : Request :=
  { resource := .pod
    namespaceName := some presence.namespaceName
    operation := .delete pod.metadata.bestName none }

/-- The making of the pod that takes a pod's place. -/
def createPodRequest (presence : Presence) (pod : Pod) (restartVersion : String) : Request :=
  { resource := .pod
    namespaceName := some presence.namespaceName
    operation := .create (pod.replacement restartVersion) }

/-- The chain that restarts a server from the pod it has now; none if it has no pod. -/
def restartServer? (sink : Option FailureSink) (presence : Presence)
    (server restartVersion : String) (next : Option (Step ε)) : Option (Step ε) :=
  (presence.pod? server).map (fun pod =>
    let create : Step ε := .request (createPodRequest presence pod restartVersion)
      { id := .createPod server, request := none, handler := .podCreated server, sink
        next := some (.waitReady server next) }
    let delete : Step ε := .request (deletePodRequest presence pod)
      { id := .deletePod server, request := none, handler := .podDeleted server, sink
        next := some (.waitRemoved server pod.metadata.uid (some create)) }
    .beginRestart server restartVersion (some delete))

/-- Marks the server and reports that its pod is replaced. -/
def beginRestart (server restartVersion : String) (next : Option (Step ε)) (p : Packet)
    (w : World) : StepApplied ε :=
  withPresence p w (fun id _ =>
    .of (.goOn next) p
      ((w.modifyPresence id (·.mark server)).emit
        (.podCycleStarting server ("restart version changed to " ++ restartVersion))))

/-- Whether a deletion that failed leaves the pod where it is, for good. -/
def Judged.isFailure (j : Judged ε) : Bool :=
  match j.verdict with
  | .ok (.proceed (.terminate _)) => true
  | _ => false

/-- A pod that is not there any more counts as deleted; when the deletion fails for good, the mark
is taken away. -/
def podDeletionFailed (c : Conduct) (server : String) (x : Exchange ε (Step ε)) (r : Response)
    (p : Packet) (w : World) : Judged ε :=
  if r.statusCode? = some codeNotFound then
    .of x.goOn p (w.modifyPresenceOf p (·.removePod server))
  else
    let judged := x.retryOrEnd c r p w
    if judged.isFailure then
      { judged with world := judged.world.modifyPresenceOf p (·.unmark server) }
    else judged

/-- Waits until the server has no pod or another pod than the old one; then the mark is taken
away. -/
def waitRemoved (c : Conduct) (server : String) (oldUid : Option String) (next : Option (Step ε))
    (p : Packet) (w : World) : StepApplied ε :=
  withPresence p w (fun id presence =>
    if (presence.pod? server).all (fun pod => pod.metadata.uid ≠ oldUid) then
      .of (.goOn next) p (w.modifyPresence id (·.unmark server))
    else if w.isStopping then .of (.terminate .cancelled) p w
    else .of (.delay c.pollDelay (some (.waitRemoved server oldUid next))) p w)

/-- Takes the new pod in, unless a newer view of it is already there. -/
def podCreated (server : String) (x : Exchange ε (Step ε)) (r : Response) (p : Packet)
    (w : World) : Judged ε :=
  .of x.goOn p (
    match r.object?.bind Pod.ofObject? with
    | some pod =>
      w.modifyPresenceOf p (fun presence =>
        if (presence.pod? server).isNone then presence.setPod server pod else presence)
    | none => w)

/-- A pod that is already there counts as made. -/
def podCreationFailed (c : Conduct) (x : Exchange ε (Step ε)) (r : Response) (p : Packet)
    (w : World) : Judged ε :=
  if r.statusCode? = some codeConflict then .of x.goOn p w else x.retryOrEnd c r p w

/-- Waits until the server is Ready. -/
def waitReady (c : Conduct) (server : String) (next : Option (Step ε)) (p : Packet) (w : World) :
    StepApplied ε :=
  withPresence p w (fun _ presence =>
    if presence.isServerReady server then .of (.goOn next) p w
    else if w.isStopping then .of (.terminate .cancelled) p w
    else .of (.delay c.pollDelay (some (.waitReady server next))) p w)

end DomainSteward
