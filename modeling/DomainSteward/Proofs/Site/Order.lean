import DomainSteward.Reconcile
import DomainSteward.Proofs.Chain.Verdict
import DomainSteward.Proofs.Fiber.Forks
import DomainSteward.Proofs.Site.Journeys

/-! The order that chains of the operator's own keep, whatever they are answered
and however the world changes: a fiber that waits has asked by the exchange that
will judge the answer, and an answer is judged before anything else is done with
it. So whatever such a fiber does to what is shown of a domain, it does by a
step of the roll, by forgetting a failure, or by settling an answer. -/
namespace DomainSteward.Orders
open Machine Moves RollSteps Exchanges Packets Faces Verdicts Lots Paths

variable {ε : Type}

/-- An exchange of the operator's own. Failures of status writes are not told; whoever else is
told must be one of those to whom failures may be told. -/
def IsNative (tells : Option FailureSink → Prop) (x : Exchange ε (Step ε)) : Prop :=
  match x.handler with
  | .guest _ => False
  | .statusPatched | .domainReread => x.sink = none
  | .podsListed | .podDeleted _ | .podCreated _ => tells x.sink

/-- A chain of the operator's own steps. No answer waits in the packets of the chains that it may
fork. -/
inductive Native (tells : Option FailureSink → Prop) : Step ε → Prop where
  | idle : Native tells .idle
  | request (q : Request) (x : Exchange ε (Step ε)) (own : IsNative tells x)
      (next : ∀ step, x.next = some step → Native tells step)
      (conflict : ∀ step, x.conflict = some step → Native tells step) :
      Native tells (.request q x)
  | rollIfNeeded (sink : Option FailureSink) (next : Option (Step ε)) (told : tells sink)
      (later : ∀ step, next = some step → Native tells step) :
      Native tells (.rollIfNeeded sink next)
  | rolling (members : List (Member ε)) (next : Option (Step ε))
      (chains : ∀ m ∈ members, Native tells m.2.1) (clear : ∀ m ∈ members, m.2.2.response? = none)
      (later : ∀ step, next = some step → Native tells step) : Native tells (.rolling members next)
  | restartNow (members : List (Member ε)) (chains : ∀ m ∈ members, Native tells m.2.1)
      (clear : ∀ m ∈ members, m.2.2.response? = none) : Native tells (.restartNow members)
  | rollCluster (cluster : String) (queue : List (Member ε)) (topology : Option Topology)
      (chains : ∀ m ∈ queue, Native tells m.2.1) (clear : ∀ m ∈ queue, m.2.2.response? = none) :
      Native tells (.rollCluster cluster queue topology)
  | afterRoll (next : Option (Step ε)) (later : ∀ step, next = some step → Native tells step) :
      Native tells (.afterRoll next)
  | beginRestart (server version : String) (next : Option (Step ε))
      (later : ∀ step, next = some step → Native tells step) :
      Native tells (.beginRestart server version next)
  | waitRemoved (server : String) (uid : Option String) (next : Option (Step ε))
      (later : ∀ step, next = some step → Native tells step) :
      Native tells (.waitRemoved server uid next)
  | waitReady (server : String) (next : Option (Step ε))
      (later : ∀ step, next = some step → Native tells step) : Native tells (.waitReady server next)
  | updateStatus (left : UInt32) (next : Option (Step ε))
      (later : ∀ step, next = some step → Native tells step) :
      Native tells (.updateStatus left next)
  | rereadDomain (left : UInt32) (next : Option (Step ε))
      (later : ∀ step, next = some step → Native tells step) :
      Native tells (.rereadDomain left next)
  | clearFailure (next : Option (Step ε)) (later : ∀ step, next = some step → Native tells step) :
      Native tells (.clearFailure next)

/-- Only the operator's own steps follow, if any. -/
def Follows (tells : Option FailureSink → Prop) (next : Option (Step ε)) : Prop :=
  ∀ step, next = some step → Native tells step

/-- Where a fiber of the operator's own stands while no answer waits to be judged. -/
inductive Calm (tells : Option FailureSink → Prop) : Fiber (Step ε) Packet (Pending ε) → Prop where
  | created (p : Packet) (step : Step ε) (native : Native tells step) (clear : p.response? = none) :
      Calm tells ⟨p, .created step⟩
  | running (p : Packet) (next : Option (Step ε)) (follows : Follows tells next)
      (clear : p.response? = none) : Calm tells ⟨p, .running next⟩
  | sleeping (p : Packet) (wait : Duration) (next : Option (Step ε)) (follows : Follows tells next)
      (clear : p.response? = none) : Calm tells ⟨p, .sleeping wait next⟩
  | joining (p : Packet) (children : List FiberId) (next : Option (Step ε))
      (follows : Follows tells next) (clear : p.response? = none) :
      Calm tells ⟨p, .joining children next⟩
  /-- It has made the call of an exchange. -/
  | waiting (p : Packet) (q : Request) (x : Exchange ε (Step ε)) (token : Option String)
      (native : Native tells (.request q x)) (clear : p.response? = none)
      (paired : p.exchange? = some x.id) :
      Calm tells ⟨p, .waiting (.call (q.continuedAt token)) (some (.response (sent q x)))⟩
  | ended (p : Packet) (failure : Option FiberError) : Calm tells ⟨p, .ended failure⟩
  | crashed (p : Packet) (message : String) : Calm tells ⟨p, .crashed message⟩

/-- A fiber has been answered and is about to judge the answer. -/
structure Told (tells : Option FailureSink → Prop) (p : Packet) (q : Request)
    (x : Exchange ε (Step ε)) (r : Response) : Prop where
  native : Native tells (.request q x)
  told : p.response? = some r
  paired : p.exchange? = some x.id

/-- Where a fiber of the operator's own can stand. -/
inductive InOrder (tells : Option FailureSink → Prop) :
    Fiber (Step ε) Packet (Pending ε) → Prop where
  | calm (f : Fiber (Step ε) Packet (Pending ε)) (calm : Calm tells f) : InOrder tells f
  | told (p : Packet) (q : Request) (x : Exchange ε (Step ε)) (r : Response)
      (told : Told tells p q x r) : InOrder tells ⟨p, .running (some (.response (sent q x)))⟩

/-- All fibers are in order. -/
def Ordered (tells : Option FailureSink → Prop) (m : ChainMachine ε) : Prop :=
  ∀ i f, m.fiber? i = some f → InOrder tells f

variable {tells : Option FailureSink → Prop} {c : Conduct} {g : GuestRules ε} {id : PresenceId}
  {w w' : World} {p p' : Packet} {x : Exchange ε (Step ε)} {q : Request} {r : Response}
  {step : Step ε} {next : Option (Step ε)} {m m' : ChainMachine ε} {i : FiberId}
  {move : Move Answer} {f f'' : Fiber (Step ε) Packet (Pending ε)}

theorem follows_none : Follows tells (none : Option (Step ε)) := nofun

theorem follows_with (native : Native tells step) : Follows tells (some step) := by
  rintro _ ⟨⟩
  exact native

theorem native_exchange (native : Native tells (.request q x)) :
    IsNative tells x ∧ Follows tells x.next ∧ Follows tells x.conflict := by
  cases native with
  | request _ _ own next conflict => exact ⟨own, next, conflict⟩

/-- Sending an exchange does not change whose it is. -/
theorem native_sent (native : Native tells (.request q x)) :
    Native tells (.request q (sent q x)) := by
  obtain ⟨own, next, conflict⟩ := native_exchange native
  exact .request q _ own next conflict

/-! ## What a step leads to -/

/-- What a step leads to: no answer waits with the fiber, nor with those that it forks. -/
def Leads (tells : Option FailureSink → Prop) (c : Conduct) (g : GuestRules ε) (p : Packet)
    (action : StepAction ε) : Prop :=
  (∀ n, Calm tells ⟨packetAfter (chainDynamics c g) p action, phaseAfter n action⟩) ∧
    ∀ f ∈ born action, Calm tells f

private theorem leads_go_on (follows : Follows tells next) (clear : p.response? = none) :
    Leads tells c g p (.goOn next) := by
  refine ⟨fun n => ?_, by simp [born_go_on]⟩
  rw [gone_on]
  cases next with
  | none => exact .ended p none
  | some step => exact .running p _ follows clear

private theorem leads_next (native : Native tells step) (clear : p.response? = none) :
    Leads tells c g p (.next step) :=
  ⟨fun _ => .running p _ (follows_with native) clear, by simp [born]⟩

private theorem leads_delay (wait : Duration) (follows : Follows tells next)
    (clear : p.response? = none) : Leads tells c g p (.delay wait next) :=
  ⟨fun _ => .sleeping p wait _ follows clear, by simp [born]⟩

private theorem leads_end (e : FiberError) : Leads tells c g p (.terminate e) :=
  ⟨fun _ => .ended _ _, by simp [born]⟩

private theorem leads_fork {children : List (Step ε × Packet)} (follows : Follows tells next)
    (clear : p.response? = none)
    (natives : ∀ child ∈ children, Native tells child.1 ∧ child.2.response? = none) :
    Leads tells c g p (.forkJoin children next) := by
  refine ⟨fun n => ?_, fun f among => ?_⟩
  · cases children with
    | nil => exact .running p _ follows clear
    | cons => exact .joining p _ _ follows clear
  · obtain ⟨child, listed, rfl⟩ := List.mem_map.mp among
    exact .created _ _ (natives child listed).1 (natives child listed).2

private theorem members_in_order {members : List (Member ε)}
    (chains : ∀ m ∈ members, Native tells m.2.1) (clear : ∀ m ∈ members, m.2.2.response? = none) :
    ∀ child ∈ members.map (·.2), Native tells child.1 ∧ child.2.response? = none := by
  intro child among
  obtain ⟨m, listed, rfl⟩ := List.mem_map.mp among
  exact ⟨chains m listed, clear m listed⟩

/-- The chain that restarts a server, told to whom failures may be told. -/
private theorem chain_native (t : Restarts.Mandate ε) (told : tells t.sink) (server : String)
    (old : Pod) : Native tells (t.chain server old) := by
  have create : Native tells (t.create server old) :=
    .request _ _ told (follows_with (.waitReady server none nofun)) nofun
  have removal : Native tells (t.removal server old) := .waitRemoved _ _ _ (follows_with create)
  exact .beginRestart _ _ _ (follows_with (.request _ _ told (follows_with removal) nofun))

private theorem put_clear {key : String} {value : PacketValue} (other : Packet.responseKey ≠ key)
    (clear : p.response? = none) : (p.put key value).response? = none := by
  rw [Packet.response?, value_put_other other]
  exact clear

private theorem member_clear (clear : p.response? = none) (server : String)
    (cluster : Option String) : (memberPacket p server cluster).response? = none := by
  have named : (p.put Packet.serverKey (.text server)).response? = none :=
    put_clear (by decide) clear
  cases cluster with
  | none => exact named
  | some cluster => exact put_clear (by decide) named

/-- The work of a roll is restarts by the operator's own chains. -/
private theorem work_native (t : Restarts.Mandate ε) (told : tells t.sink)
    (clear : t.packet.response? = none) (later : Follows tells next) :
    Native tells (.rolling (plan t).members next) := by
  refine .rolling _ _ (fun m among => ?_) (fun m among => ?_) later
  all_goals obtain ⟨old, _, _, same⟩ := member_due among
  · rw [same]
    exact chain_native t told m.1 old
  · rw [same]
    exact member_clear clear _ _

private theorem gates_in_order {members : List (Member ε)} (ready : NameSet)
    (chains : ∀ m ∈ members, Native tells m.2.1) (clear : ∀ m ∈ members, m.2.2.response? = none)
    (clear' : p.response? = none) :
    ∀ child ∈ rollFibers members ready p, Native tells child.1 ∧ child.2.response? = none := by
  obtain ⟨buckets, _, _, fibers⟩ := one_fiber_a_bucket members ready p
  rw [fibers]
  intro child among
  obtain ⟨b, _, rfl⟩ := List.mem_map.mp among
  have some' : ∀ m ∈ bucket members ready b, m ∈ members := fun m inside =>
    (List.mem_filter.mp inside).1
  refine ⟨?_, clear'⟩
  cases b with
  | none =>
    exact .restartNow _ (fun m inside => chains m (some' m inside))
      (fun m inside => clear m (some' m inside))
  | some cluster =>
    exact .rollCluster _ _ _ (fun m inside => chains m (some' m inside))
      (fun m inside => clear m (some' m inside))

private theorem asked_clear (clear : p.response? = none) :
    (asked c x p w).1.response? = none := by
  have other : Packet.responseKey ≠ Packet.requestKey := by decide
  rw [Packet.response?, asked, value_put_other other, with_budget_values]
  exact clear

private theorem marked_clear (clear : p.response? = none) : (marked p).response? = none := by
  unfold marked
  split
  · exact clear
  · exact put_clear (by decide) clear

/-- What is applied in order leads on in order. -/
private def Does (tells : Option FailureSink → Prop) (c : Conduct) (g : GuestRules ε)
    (applied : StepApplied ε) : Prop :=
  ∀ step, Leads tells c g applied.packet (actionOf (chainDynamics c g) step applied)

private theorem presence_does {act : PresenceId → Presence → StepApplied ε}
    (does : ∀ id now, Does tells c g (act id now)) : Does tells c g (withPresence p w act) := by
  unfold withPresence
  split
  · exact does _ _
  · exact fun _ => leads_end _

private theorem roll_if_needed_does {sink : Option FailureSink} (told : tells sink)
    (follows : Follows tells next) (clear : p.response? = none) :
    Does tells c g (rollIfNeeded sink next p w) := by
  refine presence_does fun id now => ?_
  split
  · exact fun _ => leads_go_on follows clear
  · rename_i domain _
    dsimp only
    split
    · exact fun _ => leads_go_on follows clear
    · exact fun _ =>
        leads_next (work_native ⟨p, id, now, domain, sink, next⟩ told clear follows) clear

private theorem rolling_does {members : List (Member ε)}
    (chains : ∀ m ∈ members, Native tells m.2.1) (each : ∀ m ∈ members, m.2.2.response? = none)
    (follows : Follows tells next) (clear : p.response? = none) :
    Does tells c g (rolling members next p w) := by
  refine presence_does fun id now => ?_
  have marks : (announce id (members.map (·.1)) p w).1 = marked p := announce_marks _
  dsimp only
  rw [marks]
  exact fun _ => leads_fork (follows_with (.afterRoll next follows)) (marked_clear clear)
    (gates_in_order now.readyServers chains each (marked_clear clear))

private theorem roll_cluster_does {cluster : String} {queue : List (Member ε)}
    {topology : Option Topology} (chains : ∀ m ∈ queue, Native tells m.2.1)
    (each : ∀ m ∈ queue, m.2.2.response? = none) (clear : p.response? = none) :
    Does tells c g (rollCluster c cluster queue topology p w) := by
  obtain ⟨outcome, applies, looked⟩ :=
    roll_cluster_looks (c := c) (p := p) (w := w) cluster queue topology
  rw [applies]
  intro step
  have again {held : List (Member ε)} (inside : ∀ m ∈ held, m ∈ queue) :
      Follows tells (some (.rollCluster cluster held topology)) :=
    follows_with (.rollCluster _ _ _ (fun m among => chains m (inside m among))
      (fun m among => each m (inside m among)))
  cases looked with
  | refused | floorless => exact leads_end _
  | complete => exact leads_go_on follows_none clear
  | wave presence goesOn seen split taken some =>
    obtain ⟨wave, held⟩ := split_queue_members taken
    exact leads_fork (again held) clear (members_in_order (fun m among => chains m (wave m among))
      (fun m among => each m (wave m among)))
  | noSlack presence goesOn seen split taken none some =>
    exact leads_delay _ (again (split_queue_members taken).2) clear

private theorem update_does {left : UInt32} (follows : Follows tells next)
    (clear : p.response? = none) : Does tells c g (updateStatus left next p w) := by
  refine presence_does fun id now => ?_
  split
  · exact fun _ => leads_go_on follows clear
  · split
    · exact fun _ => leads_end _
    · split
      · exact fun _ => leads_go_on follows clear
      · refine fun _ => leads_next (.request _ _ rfl follows fun step conflict => ?_) clear
        dsimp only at conflict
        split at conflict
        · cases conflict
          exact .rereadDomain _ _ follows
        · cases conflict

private theorem reread_does {left : UInt32} (follows : Follows tells next)
    (clear : p.response? = none) : Does tells c g (rereadDomain left next p w) := by
  refine presence_does fun id now => ?_
  split
  · exact fun _ => leads_go_on follows clear
  · exact fun _ =>
      leads_next (.request _ _ rfl (follows_with (.updateStatus left next follows)) nofun) clear

private theorem wait_removed_does {server : String} {uid : Option String}
    (follows : Follows tells next) (clear : p.response? = none) :
    Does tells c g (waitRemoved c server uid next p w) := by
  refine presence_does fun id now => ?_
  split
  · exact fun _ => leads_go_on follows clear
  · split
    · exact fun _ => leads_end _
    · exact fun _ => leads_delay _ (follows_with (.waitRemoved _ _ _ follows)) clear

private theorem wait_ready_does {server : String} (follows : Follows tells next)
    (clear : p.response? = none) : Does tells c g (waitReady c server next p w) := by
  refine presence_does fun id now => ?_
  split
  · exact fun _ => leads_go_on follows clear
  · split
    · exact fun _ => leads_end _
    · exact fun _ => leads_delay _ (follows_with (.waitReady _ _ follows)) clear

/-- Whatever step of the operator's own is applied while no answer waits leads on in order. -/
private theorem native_does (native : Native tells step) (clear : p.response? = none) :
    Does tells c g ((chainDynamics c g).apply step p w) := by
  cases native with
  | idle => exact fun _ => leads_go_on follows_none clear
  | request q x own next conflict =>
    have applies : (chainDynamics c g).apply (.request q x) p w = _ := send_asks c q x p w
    rw [applies]
    refine fun _ => ⟨fun n => ?_, by simp [actionOf, Applied.of, born]⟩
    exact .waiting _ q x _ (.request q x own next conflict) (asked_clear clear) asked_exchange
  | rollIfNeeded sink next told later => exact roll_if_needed_does told later clear
  | rolling members next chains each later => exact rolling_does chains each later clear
  | restartNow members chains each =>
    exact fun _ => leads_fork follows_none clear (members_in_order chains each)
  | rollCluster cluster queue topology chains each => exact roll_cluster_does chains each clear
  | afterRoll next later =>
    refine fun _ => leads_go_on later ?_
    have other : Packet.responseKey ≠ Packet.rollMarkKey := by decide
    exact (congrArg (·.bind (·.response?)) (value_remove_other other)).trans clear
  | beginRestart server version next later =>
    exact presence_does fun id now => fun _ => leads_go_on later clear
  | waitRemoved server uid next later => exact wait_removed_does later clear
  | waitReady server next later => exact wait_ready_does later clear
  | updateStatus left next later => exact update_does later clear
  | rereadDomain left next later => exact reread_does later clear
  | clearFailure next later => exact fun _ => leads_go_on later clear

theorem native_own (native : Native tells (.request q x)) (e : ε) : x.handler ≠ .guest e := by
  intro handler
  have own := (native_exchange native).1
  simp only [IsNative, handler] at own

/-- Settling an answer leads on in order. -/
private theorem settled_leads {before after : Option Face} {verdict : Verdict ε}
    {works : Option PresenceId} (native : Native tells (.request q x)) (clear : p.response? = none)
    (settles : Settles id (sent q x) r works before after verdict) :
    Leads tells c g p ((sent q x).actionOf verdict) := by
  obtain ⟨_, next, conflict⟩ := native_exchange native
  have again := follows_with (native_sent native)
  cases settles with
  | goesOn | holds => exact leads_go_on next clear
  | turns => exact leads_next (native_sent native) clear
  | again f failed wait => exact leads_delay wait again clear
  | reroutes => exact leads_go_on conflict clear
  | givesUp | breaks => exact leads_end _

/-- Whatever a fiber in order applies leads on in order. -/
private theorem step_leads (inOrder : InOrder tells ⟨p, .running (some step)⟩) :
    Does tells c g ((chainDynamics c g).apply step p w) := by
  cases inOrder with
  | calm _ calm =>
    cases calm with
    | running _ _ follows clear => exact native_does (follows step rfl) clear
  | told _ q x r told =>
    obtain ⟨verdict, p', w', applies, settles, clear, _⟩ := response_does (c := c) (g := g)
      (w := w) (q := q) 0 (native_own told.native) told.told told.paired
    rw [applies]
    exact fun _ => settled_leads told.native clear settles

/-- A fiber in order that is about to judge an answer has been told one. -/
theorem response_told (inOrder : InOrder tells ⟨p, .running (some (.response x))⟩) :
    ∃ q y r, x = sent q y ∧ Told tells p q y r := by
  cases inOrder with
  | calm _ calm =>
    cases calm with
    | running _ _ follows clear => cases follows _ rfl
  | told _ q y r told => exact ⟨q, y, r, rfl, told⟩

/-! ## What happens to a machine -/

/-- What a fiber is after a move: what it was, or at a place where no answer waits, or the mover
has just been answered. -/
inductive After (tells : Option FailureSink → Prop) (m : ChainMachine ε) (i : FiberId)
    (move : Move Answer) (j : FiberId) : Fiber (Step ε) Packet (Pending ε) → Prop where
  | stays (f : Fiber (Step ε) Packet (Pending ε)) (other : j ≠ i) (found : m.fiber? j = some f) :
      After tells m i move j f
  | calm (f : Fiber (Step ε) Packet (Pending ε)) (calm : Calm tells f) : After tells m i move j f
  | told (p : Packet) (q : Request) (x : Exchange ε (Step ε)) (r : Response) (mover : j = i)
      (answered : move = .answer (.response r)) (told : Told tells p q x r) :
      After tells m i move j ⟨p, .running (some (.response (sent q x)))⟩

private theorem after_replace {f' : Fiber (Step ε) Packet (Pending ε)} {j : FiberId}
    (found : m.fiber? i = some f) (changed : After tells m i move i f')
    (found' : (m.replace i f' w).fiber? j = some f'') : After tells m i move j f'' := by
  by_cases same : j = i
  · subst same
    cases (replace_fiber found).symm.trans found'
    exact changed
  · have kept : (m.replace i f' w).fiber? j = m.fiber? j := by
      simp [Machine.replace, Machine.fiber?, Ne.symm same]
    exact .stays _ same (kept ▸ found')

private theorem after_took {action : StepAction ε} {j : FiberId} (found : m.fiber? i = some f)
    (leads : Leads tells c g p action)
    (found' : (took (chainDynamics c g) m i p w action).fiber? j = some f'') :
    After tells m i move j f'' := by
  have within : i < m.fibers.length := (List.getElem?_eq_some_iff.mp found).1
  rw [took, fiber?_changed within] at found'
  split at found'
  · cases found'
    exact .calm _ (leads.1 _)
  · rename_i other
    split at found'
    · exact .stays _ other found'
    · exact .calm _ (leads.2 _ (List.mem_of_getElem? found'))

private theorem answer_told (native : Native tells (.request q x))
    (paired : p.exchange? = some x.id) (r : Response) :
    Told tells (p.put Packet.responseKey (.response r)) q x r := by
  have other : Packet.requestKey ≠ Packet.responseKey := by decide
  refine ⟨native, ?_, ?_⟩
  · rw [Packet.response?, value_put_same]
    rfl
  · rw [Packet.exchange?, value_put_other other]
    exact paired

/-- What a move makes of every fiber. -/
theorem after_move {j : FiberId} (ordered : Ordered tells m) (proper : Proper m (.move i move))
    (moves : m.move? (chainDynamics c g) i move = some m') (found' : m'.fiber? j = some f) :
    After tells m i move j f := by
  obtain ⟨_, found, moved⟩ := move_iff_moved.mp moves
  have inOrder := ordered i _ found
  cases moved with
  | start p step =>
    refine after_replace found (.calm _ ?_) found'
    cases inOrder with
    | calm _ calm =>
      cases calm with
      | created _ _ native clear => exact .running p _ (follows_with native) clear
  | finish p => exact after_took found ⟨fun _ => .ended _ _, by simp [born]⟩ found'
  | step p step =>
    have leads := step_leads (c := c) (g := g) (w := m.world) inOrder step
    exact after_took found leads found'
  | wake p wait next =>
    refine after_replace found (.calm _ ?_) found'
    cases inOrder with
    | calm _ calm =>
      cases calm with
      | sleeping _ _ _ follows clear => exact .running p _ follows clear
  | cancel => exact after_took found (leads_end _) found'
  | answer p call next a goesOn =>
    refine after_replace found ?_ found'
    cases inOrder with
    | calm _ calm =>
      cases calm with
      | waiting _ q x token native clear paired =>
        obtain ⟨r, rfl⟩ := proper i a p _ _ rfl found
        exact .told _ q x r rfl rfl (answer_told native paired r)
  | crash p => exact after_replace found (.calm _ (.crashed p _)) found'
  | join p children next =>
    refine after_replace found (.calm _ ?_) found'
    cases inOrder with
    | calm _ calm =>
      cases calm with
      | joining _ _ _ follows clear => exact .running p _ follows clear
  | fail => exact after_took found (leads_end _) found'

/-- Whatever happens, fibers stay in order. -/
theorem ordered_kept {h : Happening Answer World} (ordered : Ordered tells m) (proper : Proper m h)
    (happened : happen? (chainDynamics c g) m h = some m') : Ordered tells m' := by
  cases h with
  | outside world =>
    cases happened
    exact ordered
  | move i move =>
    intro j f found
    cases after_move ordered proper happened found with
    | stays _ _ found => exact ordered j f found
    | calm _ calm => exact .calm f calm
    | told p q x r _ _ told => exact .told p q x r told

theorem create_fiber {j : FiberId} (found : (m.create step p).fiber? j = some f) :
    m.fiber? j = some f ∨ f = ⟨p, .created step⟩ := by
  simp only [Machine.create, Machine.fiber?, List.getElem?_append] at found
  split at found
  · exact .inl found
  · rw [List.getElem?_singleton] at found
    split at found
    · exact .inr (Option.some.inj found).symm
    · cases found

theorem ordered_create (ordered : Ordered tells m) (native : Native tells step)
    (clear : p.response? = none) : Ordered tells (m.create step p) := by
  intro i f found
  rcases create_fiber found with found | rfl
  · exact ordered i f found
  · exact .calm _ (.created p step native clear)

/-- A reconcile is a chain of the operator's own, and no answer waits when it begins. -/
theorem reconcile_native {domain : Domain} {head : Step ε} (told : tells (some (.domain id)))
    (begins : beginReconcile c domain w = .fiber id head p w') :
    Native tells head ∧ p.response? = none := by
  unfold beginReconcile at begins
  split at begins
  · cases begins
  split at begins
  · cases begins
  injection begins with place chain packet _
  subst chain packet place
  have finish : Native tells (Step.clearFailure (some (writeStatus (ε := ε) c none))) :=
    .clearFailure _ (follows_with (.updateStatus _ _ nofun))
  have roll : Native tells (.rollIfNeeded _ (some (.clearFailure (some (writeStatus c none))))) :=
    .rollIfNeeded _ _ told (follows_with finish)
  exact ⟨.request _ _ told (follows_with roll) nofun, rfl⟩

/-! ## What is shown -/

theorem face_after (action : StepAction ε) :
    face? id (worldAfter (chainDynamics c g) w action) = face? id w := by
  cases action with
  | finish | terminate => exact face_count _
  | _ => rfl

/-- A move that applies no step shows nothing. -/
theorem quiet_shown (ordered : Ordered tells m) (proper : Proper m (.move i move))
    (moves : m.move? (chainDynamics c g) i move = some m')
    (quiet : Ledger.applied? m (.move i move) = none) : face? id m'.world = face? id m.world := by
  obtain ⟨f, found, moved⟩ := move_iff_moved.mp moves
  have inOrder := ordered i f found
  have received {p : Packet} {call : Pending ε} {next : Option (Step ε)} {a : Answer}
      (found : m.fiber? i = some ⟨p, .waiting call next⟩) (same : move = .answer a) :
      face? id ((chainDynamics c g).receive call a m.world) = face? id m.world := by
    subst same
    cases ordered i _ found with
    | calm _ calm =>
      cases calm with
      | waiting _ q x token =>
        obtain ⟨r, rfl⟩ := proper i a p _ _ rfl found
        exact face_count _
  cases moved with
  | start => exact face_count _
  | finish => exact face_count _
  | step => simp [Ledger.applied?, found] at quiet
  | wake | crash | join => rfl
  | cancel => exact (face_count _).trans (received found rfl)
  | answer => exact received found rfl
  | fail => exact face_count _

/-- What a step shows that is applied. -/
theorem step_shown (found : m.fiber? i = some ⟨p, .running (some step)⟩)
    (moves : m.move? (chainDynamics c g) i .run = some m') :
    face? id m'.world = face? id ((chainDynamics c g).apply step p m.world).world := by
  rw [run_step found moves]
  exact face_after _

end DomainSteward.Orders
