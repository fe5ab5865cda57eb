import DomainSteward.Proofs.Chain.Flag
import DomainSteward.Proofs.Site.Seclusion

/-! How little is left to each fiber once the operator is stopping. Every loop
of a chain comes to a wait, and a wait under the flag ends the fiber: a call is
not used any more, a look at a pod or at the slack of a cluster is the last one.
So the moves left to a fiber are counted along its chain, and those of the
fibers that it forks are fewer. -/
namespace DomainSteward.Brevity
open Machine Moves RollSteps Exchanges Packets Faces Verdicts Lots Paths Seclusion

variable {ε : Type}

/-- At most so many moves are left to a fiber that is about to apply a step, once the operator is
stopping, and fewer to the fibers that it forks. Until then the loops of the chain are as long as
they like, but they come back to where they were. -/
inductive Brief : Nat → Step ε → Prop where
  | idle {n : Nat} (room : 1 ≤ n) : Brief n .idle
  /-- The call is made, and its answer ends the fiber. An answer that was in time leads on. -/
  | request {n : Nat} (q : Request) (x : Exchange ε (Step ε))
      (next : ∀ step, x.next = some step → Brief 8 step)
      (conflict : ∀ step, x.conflict = some step → ∃ left, step = .rereadDomain left none)
      (room : 2 ≤ n) : Brief n (.request q x)
  | rollIfNeeded {n k : Nat} (sink : Option FailureSink) (next : Option (Step ε))
      (later : ∀ step, next = some step → Brief k step) (wide : 8 ≤ n) (room : k + 4 ≤ n) :
      Brief n (.rollIfNeeded sink next)
  | rolling {n k : Nat} (members : List (Member ε)) (next : Option (Step ε))
      (chains : ∀ m ∈ members, Brief 3 m.2.1) (later : ∀ step, next = some step → Brief k step)
      (wide : 7 ≤ n) (room : k + 3 ≤ n) : Brief n (.rolling members next)
  | restartNow {n : Nat} (members : List (Member ε)) (chains : ∀ m ∈ members, Brief 3 m.2.1)
      (wide : 5 ≤ n) : Brief n (.restartNow members)
  | rollCluster {n : Nat} (cluster : String) (queue : List (Member ε)) (topology : Option Topology)
      (chains : ∀ m ∈ queue, Brief 3 m.2.1) (room : 1 ≤ n) :
      Brief n (.rollCluster cluster queue topology)
  | afterRoll {n k : Nat} (next : Option (Step ε))
      (later : ∀ step, next = some step → Brief k step) (room : k + 1 ≤ n) :
      Brief n (.afterRoll next)
  | beginRestart {n k : Nat} (server version : String) (next : Option (Step ε))
      (later : ∀ step, next = some step → Brief k step) (room : k + 1 ≤ n) :
      Brief n (.beginRestart server version next)
  | waitRemoved {n k : Nat} (server : String) (uid : Option String) (next : Option (Step ε))
      (later : ∀ step, next = some step → Brief k step) (few : k ≤ 7) (room : k + 1 ≤ n) :
      Brief n (.waitRemoved server uid next)
  | waitReady {n k : Nat} (server : String) (next : Option (Step ε))
      (later : ∀ step, next = some step → Brief k step) (few : k ≤ 7) (room : k + 1 ≤ n) :
      Brief n (.waitReady server next)
  | updateStatus {n : Nat} (left : UInt32) (room : 3 ≤ n) : Brief n (.updateStatus left none)
  | rereadDomain {n : Nat} (left : UInt32) (room : 3 ≤ n) : Brief n (.rereadDomain left none)
  | clearFailure {n k : Nat} (next : Option (Step ε))
      (later : ∀ step, next = some step → Brief k step) (room : k + 1 ≤ n) :
      Brief n (.clearFailure next)

/-- At most so many moves are left to what follows, if anything does. -/
def Later (n : Nat) (next : Option (Step ε)) : Prop := ∀ step, next = some step → Brief n step

/-- At most so many moves are left to a fiber once the operator is stopping. -/
inductive Left : Nat → Fiber (Step ε) Packet (Pending ε) → Prop where
  | created {n k : Nat} (p : Packet) (step : Step ε) (brief : Brief k step) (room : k + 1 ≤ n) :
      Left n ⟨p, .created step⟩
  | running {n k : Nat} (p : Packet) (next : Option (Step ε)) (later : Later k next) (one : 1 ≤ n)
      (room : k ≤ n) : Left n ⟨p, .running next⟩
  | sleeping {n k : Nat} (p : Packet) (wait : Duration) (next : Option (Step ε))
      (later : Later k next) (two : 2 ≤ n) (room : k + 1 ≤ n) : Left n ⟨p, .sleeping wait next⟩
  | joining {n k : Nat} (p : Packet) (children : List FiberId) (next : Option (Step ε))
      (later : Later k next) (two : 2 ≤ n) (room : k + 1 ≤ n) :
      Left n ⟨p, .joining children next⟩
  | waiting {n : Nat} (p : Packet) (call q : Request) (x : Exchange ε (Step ε))
      (brief : Brief 2 (.request q x)) (one : 1 ≤ n) :
      Left n ⟨p, .waiting (.call call) (some (.response (sent q x)))⟩
  /-- It was answered in time. -/
  | told {n : Nat} (p : Packet) (q : Request) (x : Exchange ε (Step ε))
      (brief : Brief 2 (.request q x)) (nine : 9 ≤ n) :
      Left n ⟨p, .running (some (.response (sent q x)))⟩
  | ended {n : Nat} (p : Packet) (failure : Option FiberError) : Left n ⟨p, .ended failure⟩
  | crashed {n : Nat} (p : Packet) (message : String) : Left n ⟨p, .crashed message⟩

variable {c : Conduct} {g : GuestRules ε} {w w' : World} {p p' : Packet} {x : Exchange ε (Step ε)}
  {q : Request} {r : Response} {step : Step ε} {next : Option (Step ε)} {m m' : ChainMachine ε}
  {i j : FiberId} {move : Move Answer} {f f' : Fiber (Step ε) Packet (Pending ε)} {n k l : Nat}

theorem brief_pos (brief : Brief n step) : 1 ≤ n := by
  cases brief <;> omega

theorem later_none : Later n (none : Option (Step ε)) := nofun

theorem later_some (brief : Brief n step) : Later n (some step) := by
  rintro _ ⟨⟩
  exact brief

/-- A fiber that is not done has a move left. -/
theorem left_pos (left : Left n f) (busy : f.verdict? = none) : 1 ≤ n := by
  cases left with
  | created | running | sleeping | joining | waiting | told => omega
  | ended | crashed => cases busy

/-! ## What a step leaves -/

/-- What a step leaves to its fiber and to those that it forks. -/
def Leaves (c : Conduct) (g : GuestRules ε) (n : Nat) (p : Packet) (action : StepAction ε) : Prop :=
  (∀ k, Left n ⟨packetAfter (chainDynamics c g) p action, phaseAfter k action⟩) ∧
    ∀ f ∈ born action, Left n f

private theorem leaves_go_on (later : Later k next) (room : k ≤ n) :
    Leaves c g n p (.goOn next) := by
  refine ⟨fun _ => ?_, by simp [born_go_on]⟩
  rw [gone_on]
  cases next with
  | none => exact .ended p none
  | some step => exact .running p _ later (Nat.le_trans (brief_pos (later step rfl)) room) room

private theorem leaves_next (brief : Brief k step) (room : k ≤ n) : Leaves c g n p (.next step) :=
  leaves_go_on (later_some brief) room

private theorem leaves_delay (wait : Duration) (brief : Brief k step) (room : k + 1 ≤ n) :
    Leaves c g n p (.delay wait (some step)) := by
  have two : 2 ≤ n := Nat.le_trans (Nat.succ_le_succ (brief_pos brief)) room
  exact ⟨fun _ => .sleeping p wait _ (later_some brief) two room, by simp [born]⟩

private theorem leaves_end (e : FiberError) : Leaves c g n p (.terminate e) :=
  ⟨fun _ => .ended _ _, by simp [born]⟩

/-- A fork leaves less to the fibers that are forked than there was. -/
private theorem leaves_fork {children : List (Step ε × Packet)} (later : Later k next)
    (two : 2 ≤ n) (room : k + 1 ≤ n) (few : l + 1 ≤ n)
    (brief : ∀ child ∈ children, Brief l child.1) :
    Leaves c g n p (.forkJoin children next) := by
  refine ⟨fun _ => ?_, fun f among => ?_⟩
  · cases children with
    | nil => exact .running p next later (Nat.le_of_succ_le two) (Nat.le_of_succ_le room)
    | cons => exact .joining p _ next later two room
  · obtain ⟨child, listed, rfl⟩ := List.mem_map.mp among
    exact .created _ _ (brief child listed) few

private theorem members_brief {members : List (Member ε)}
    (chains : ∀ m ∈ members, Brief 3 m.2.1) : ∀ child ∈ members.map (·.2), Brief 3 child.1 := by
  intro child among
  obtain ⟨m, listed, rfl⟩ := List.mem_map.mp among
  exact chains m listed

/-- The chain that restarts a server. -/
private theorem chain_brief (t : Restarts.Mandate ε) (server : String) (old : Pod) :
    Brief 3 (t.chain server old) := by
  have ready : Brief 8 (.waitReady server none : Step ε) :=
    .waitReady server none (later_none (n := 0)) (by omega) (by omega)
  have create : Brief 2 (t.create server old) :=
    .request _ _ (later_some ready) nofun (Nat.le_refl 2)
  have removal : Brief 8 (t.removal server old) :=
    .waitRemoved _ _ _ (later_some create) (by omega) (by omega)
  have delete : Brief 2 (.request (t.deleteCall old) (t.deletion server old)) :=
    .request _ _ (later_some removal) nofun (Nat.le_refl 2)
  exact .beginRestart _ _ _ (later_some delete) (Nat.le_refl 3)

private theorem work_brief (t : Restarts.Mandate ε) (later : Later k next) (wide : 7 ≤ n)
    (room : k + 3 ≤ n) : Brief n (.rolling (plan t).members next) := by
  refine .rolling _ _ (fun m among => ?_) later wide room
  obtain ⟨old, _, _, same⟩ := member_due among
  rw [same]
  exact chain_brief t m.1 old

private theorem gates_brief {members : List (Member ε)} (ready : NameSet)
    (chains : ∀ m ∈ members, Brief 3 m.2.1) :
    ∀ child ∈ rollFibers members ready p, Brief 5 child.1 := by
  obtain ⟨buckets, _, _, fibers⟩ := one_fiber_a_bucket members ready p
  rw [fibers]
  intro child among
  obtain ⟨b, _, rfl⟩ := List.mem_map.mp among
  have inside : ∀ m ∈ bucket members ready b, Brief 3 m.2.1 := fun m listed =>
    chains m (List.mem_filter.mp listed).1
  cases b with
  | none => exact .restartNow _ inside (Nat.le_refl 5)
  | some cluster => exact .rollCluster _ _ _ inside (by omega)

/-! ## What each step leaves -/

/-- Enough is left for what a step comes to that had so many moves left: one move less, and as much
as ever while the operator is not stopping. -/
structure Enough (n : Nat) (w : World) (l : Nat) : Prop where
  less : n ≤ l + 1
  free : w.isStopping = false → 9 ≤ l

/-- What is applied leaves so much, whatever the name of the step. -/
private def Does (c : Conduct) (g : GuestRules ε) (l : Nat) (applied : StepApplied ε) : Prop :=
  ∀ step, Leaves c g l applied.packet (actionOf (chainDynamics c g) step applied)

private theorem presence_does {act : PresenceId → Presence → StepApplied ε}
    (does : ∀ id now, Does c g l (act id now)) : Does c g l (withPresence p w act) := by
  unfold withPresence
  split
  · exact does _ _
  · exact fun _ => leaves_end _

private theorem roll_if_needed_does {sink : Option FailureSink} (later : Later k next)
    (wide : 7 ≤ l) (room : k + 3 ≤ l) : Does c g l (rollIfNeeded sink next p w) := by
  refine presence_does fun id now => ?_
  split
  · exact fun _ => leaves_go_on later (by omega)
  · rename_i domain _
    have brief := work_brief ⟨p, id, now, domain, sink, next⟩ later wide room
    dsimp only
    split
    · exact fun _ => leaves_go_on later (by omega)
    · exact fun _ => leaves_next brief (Nat.le_refl l)

private theorem rolling_does {members : List (Member ε)} (chains : ∀ m ∈ members, Brief 3 m.2.1)
    (later : Later k next) (wide : 6 ≤ l) (room : k + 2 ≤ l) :
    Does c g l (rolling members next p w) := by
  refine presence_does fun id now _ => ?_
  have close : Later (k + 1) (some (.afterRoll next)) :=
    later_some (.afterRoll next later (Nat.le_refl _))
  exact leaves_fork close (by omega) room wide (gates_brief now.readyServers chains)

private theorem roll_cluster_does {cluster : String} {queue : List (Member ε)}
    {topology : Option Topology} (chains : ∀ m ∈ queue, Brief 3 m.2.1)
    (free : w.isStopping = false → 9 ≤ l) :
    Does c g l (rollCluster c cluster queue topology p w) := by
  obtain ⟨outcome, applies, looked⟩ :=
    roll_cluster_looks (c := c) (p := p) (w := w) cluster queue topology
  rw [applies]
  intro step
  have kept {presence : Presence} {split : WaveSplit (Step ε × Packet)}
      (taken : splitQueue presence cluster topology queue = .ok split) :
      (∀ m ∈ split.wave, Brief 3 m.2.1) ∧
        Brief 1 (.rollCluster cluster split.held topology) := by
    obtain ⟨wave, held⟩ := split_queue_members taken
    exact ⟨fun m inside => chains m (wave m inside),
      .rollCluster _ _ _ (fun m inside => chains m (held m inside)) (Nat.le_refl 1)⟩
  cases looked with
  | refused | floorless => exact leaves_end _
  | complete => exact leaves_go_on (later_none (n := 0)) (Nat.zero_le l)
  | wave presence goesOn seen split taken some =>
    obtain ⟨wave, again⟩ := kept taken
    have wide := free goesOn
    exact leaves_fork (later_some again) (by omega) (by omega) (l := 3) (by omega)
      (members_brief wave)
  | noSlack presence goesOn seen split taken none some =>
    have wide := free goesOn
    exact leaves_delay _ (kept taken).2 (by omega)

/-- A look is the last one once the operator is stopping. -/
private theorem look_does {seen : Prop} [Decidable seen] (later : Later k next) (few : k ≤ 7)
    (enough : Enough (k + 1) w l) (again : Brief (k + 1) step) (w' : World) :
    Does c g l (if seen then .of (.goOn next) p w'
      else if w.isStopping then .of (.terminate .cancelled) p w
      else .of (.delay c.pollDelay (some step)) p w) := by
  split
  · exact fun _ => leaves_go_on later (Nat.le_of_succ_le_succ enough.less)
  · split
    · exact fun _ => leaves_end _
    · rename_i runs
      have wide := enough.free (by simpa using runs)
      exact fun _ => leaves_delay _ again (by omega)

private theorem update_does {left : UInt32} (two : 2 ≤ l) :
    Does c g l (updateStatus left (none : Option (Step ε)) p w) := by
  refine presence_does fun id now => ?_
  split
  · exact fun _ => leaves_go_on (later_none (n := 0)) (Nat.zero_le l)
  · split
    · exact fun _ => leaves_end _
    · split
      · exact fun _ => leaves_go_on (later_none (n := 0)) (Nat.zero_le l)
      · refine fun _ => leaves_next (.request _ _ nofun (fun step conflict => ?_) two)
          (Nat.le_refl l)
        dsimp only at conflict
        split at conflict
        · cases conflict
          exact ⟨_, rfl⟩
        · cases conflict

private theorem reread_does {left : UInt32} (two : 2 ≤ l) :
    Does c g l (rereadDomain left (none : Option (Step ε)) p w) := by
  refine presence_does fun id now => ?_
  split
  · exact fun _ => leaves_go_on (later_none (n := 0)) (Nat.zero_le l)
  · have update : Brief 8 (.updateStatus left none : Step ε) := .updateStatus left (by omega)
    exact fun _ => leaves_next (.request _ _ (later_some update) nofun two) (Nat.le_refl l)

/-- Whatever step is applied, it leaves enough. -/
private theorem brief_does (brief : Brief n step) (enough : Enough n w l) :
    Does c g l ((chainDynamics c g).apply step p w) := by
  have less := enough.less
  cases brief with
  | idle => exact fun _ => leaves_go_on (later_none (n := 0)) (Nat.zero_le l)
  | request q x next conflict room =>
    have applies : (chainDynamics c g).apply (.request q x) p w = _ := send_asks c q x p w
    rw [applies]
    refine fun _ => ⟨fun _ => ?_, by simp [actionOf, Applied.of, born]⟩
    exact .waiting _ _ q x (.request q x next conflict (Nat.le_refl 2)) (by omega)
  | rollIfNeeded sink next later wide room =>
    exact roll_if_needed_does later (by omega) (by omega)
  | rolling members next chains later wide room =>
    exact rolling_does chains later (by omega) (by omega)
  | restartNow members chains wide =>
    exact fun _ => leaves_fork (later_none (n := 0)) (by omega) (by omega) (l := 3) (by omega)
      (members_brief chains)
  | rollCluster cluster queue topology chains room => exact roll_cluster_does chains enough.free
  | afterRoll next later room => exact fun _ => leaves_go_on later (by omega)
  | beginRestart server version next later room =>
    exact presence_does fun id now _ => leaves_go_on later (by omega)
  | waitRemoved server uid next later few room =>
    exact presence_does fun id now => look_does later few ⟨by omega, enough.free⟩
      (.waitRemoved server uid next later few (Nat.le_refl _)) _
  | waitReady server next later few room =>
    exact presence_does fun id now => look_does later few ⟨by omega, enough.free⟩
      (.waitReady server next later few (Nat.le_refl _)) _
  | updateStatus left room => exact update_does (by omega)
  | rereadDomain left room => exact reread_does (by omega)
  | clearFailure next later room => exact fun _ => leaves_go_on later (by omega)

private theorem brief_exchange (brief : Brief n (.request q x)) :
    Later 8 x.next ∧ ∀ step, x.conflict = some step → ∃ left, step = .rereadDomain left none := by
  cases brief with
  | request _ _ next conflict => exact ⟨next, conflict⟩

/-- An answer was in time, so that what follows the exchange has the moves that are left to it. -/
private theorem told_left {y : Exchange ε (Step ε)}
    (left : Left n ⟨p, .running (some (.response y))⟩) : 9 ≤ n ∧ Later 8 y.next ∧
      ∀ step, y.conflict = some step → ∃ left, step = .rereadDomain left none := by
  cases left with
  | running _ _ later => cases later _ rfl
  | told _ q x brief nine =>
    obtain ⟨later, conflict⟩ := brief_exchange brief
    exact ⟨nine, later, conflict⟩

private theorem told_stands {y : Exchange ε (Step ε)}
    (stands : Stands ⟨p, .running (some (.response y))⟩) :
    ∃ q x r, y = sent q x ∧ Engaged p q x ∧ p.response? = some r := by
  cases stands with
  | running _ _ ready => cases (ready _ rfl).1
  | told _ q x r engaged told => exact ⟨q, x, r, rfl, engaged, told⟩

private theorem settled_leaves {id : PresenceId} {before after : Option Face} {verdict : Verdict ε}
    {works : Option PresenceId} (later : Later 8 x.next)
    (conflict : ∀ step, x.conflict = some step → ∃ left, step = .rereadDomain left none)
    (settles : Settles id (sent q x) r works before after verdict) (eight : 8 ≤ l) :
    Leaves c g l p ((sent q x).actionOf verdict) := by
  have again : Brief 2 (.request q (sent q x)) := .request q _ later conflict (Nat.le_refl 2)
  cases settles with
  | goesOn | holds => exact leaves_go_on later eight
  | turns => exact leaves_next again (by omega)
  | again f failed wait => exact leaves_delay wait again (by omega)
  | reroutes =>
    refine leaves_go_on (k := 3) (fun step taken => ?_) (by omega)
    obtain ⟨left, rfl⟩ := conflict step taken
    exact .rereadDomain left (Nat.le_refl 3)
  | givesUp | breaks => exact leaves_end _

/-- Whatever a fiber applies leaves enough. -/
private theorem step_does (stands : Stands ⟨p, .running (some step)⟩)
    (left : Left n ⟨p, .running (some step)⟩) (enough : Enough n w l) :
    Does c g l ((chainDynamics c g).apply step p w) := by
  have less := enough.less
  by_cases response : ∃ y, step = .response y
  · obtain ⟨y, rfl⟩ := response
    obtain ⟨nine, later, conflict⟩ := told_left left
    obtain ⟨q, x, r, rfl, engaged, told⟩ := told_stands stands
    obtain ⟨verdict, p', w', applies, settles, _⟩ := response_settles (c := c) (g := g)
      (w := w) (q := q) 0 (clean_exchange engaged.clean).1 told engaged.paired
    rw [applies]
    exact fun _ => settled_leaves later conflict settles (by omega)
  · cases left with
    | running _ _ later one room =>
      exact brief_does (later step rfl) ⟨by omega, enough.free⟩
    | told => exact absurd ⟨_, rfl⟩ response

/-! ## What a move leaves -/

/-- Whatever move is made, it leaves enough to its fiber and to those that it forks. -/
theorem move_leaves (stands : Stands f) (left : Left n f) (found : m.fiber? i = some f)
    (moves : m.move? (chainDynamics c g) i move = some m') (enough : Enough n m.world l) :
    ∃ f' added, m'.fibers = m.fibers.set i f' ++ added ∧ Left l f' ∧ ∀ f ∈ added, Left l f := by
  have less := enough.less
  have alone {f' : Fiber (Step ε) Packet (Pending ε)} {w' : World} (left : Left l f') :
      ∃ f₁ added, (m.replace i f' w').fibers = m.fibers.set i f₁ ++ added ∧ Left l f₁ ∧
        ∀ f ∈ added, Left l f :=
    ⟨f', [], by simp [Machine.replace], left, fun _ among => absurd among List.not_mem_nil⟩
  have taken {p' : Packet} {w' : World} {action : StepAction ε} (leaves : Leaves c g l p' action) :
      ∃ f₁ added, (took (chainDynamics c g) m i p' w' action).fibers =
        m.fibers.set i f₁ ++ added ∧ Left l f₁ ∧ ∀ f ∈ added, Left l f :=
    ⟨_, _, rfl, leaves.1 _, leaves.2⟩
  obtain ⟨_, found', moved⟩ := move_iff_moved.mp moves
  cases found.symm.trans found'
  cases moved with
  | start p step =>
    cases left with
    | created _ _ brief room =>
      have one := brief_pos brief
      exact alone (.running p _ (later_some brief) (by omega) (by omega))
  | finish p => exact taken (leaves_go_on (later_none (n := 0)) (Nat.zero_le l))
  | step p step =>
    exact taken (step_does (c := c) (g := g) (w := m.world) stands left enough step)
  | wake p wait next =>
    cases left with
    | sleeping _ _ _ later two room => exact alone (.running p _ later (by omega) (by omega))
  | cancel => exact taken (leaves_end _)
  | answer p call next a goesOn =>
    cases left with
    | waiting _ call q x brief one =>
      have received : ((chainDynamics c g).receive (.call call) a m.world).isStopping =
          m.world.isStopping := congrArg Shutdown.isStopping (Flags.received_keeps_flag call a)
      have unstopped : m.world.isStopping = false := received.symm.trans goesOn
      cases a with
      | response r => exact alone (.told _ q x brief (enough.free unstopped))
      | done => exact alone (.told _ q x brief (enough.free unstopped))
  | crash => exact alone (.crashed _ _)
  | join p children next =>
    cases left with
    | joining _ _ _ later two room => exact alone (.running p _ later (by omega) (by omega))
  | fail => exact taken (leaves_end _)

/-! ## What begins -/

theorem write_brief : Brief 3 (writeStatus c none : Step ε) := .updateStatus _ (Nat.le_refl 3)

theorem reconcile_brief {domain : Domain} {id : PresenceId} {head : Step ε}
    (begins : beginReconcile c domain w = .fiber id head p w') : Brief 2 head := by
  unfold beginReconcile at begins
  split at begins
  · cases begins
  split at begins
  · cases begins
  injection begins with _ chain
  subst chain
  have finish : Brief 4 (.clearFailure (some (writeStatus c none)) : Step ε) :=
    .clearFailure _ (later_some write_brief) (Nat.le_refl 4)
  have roll (sink : Option FailureSink) :
      Brief 8 (.rollIfNeeded sink (some (.clearFailure (some (writeStatus c none)))) : Step ε) :=
    .rollIfNeeded _ _ (later_some finish) (Nat.le_refl 8) (Nat.le_refl 8)
  exact .request _ _ (later_some (roll _)) nofun (Nat.le_refl 2)

end DomainSteward.Brevity
