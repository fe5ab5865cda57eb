import Mathlib.Logic.Relation
import DomainSteward.Proofs.Site.Order

/-! What an exchange keeps for itself, and that nobody else finds it. The
answer, the request in flight and the token of a list are values of the packet,
and the retry budget is a component of it; all of them are gone when the
exchange is over, whoever judged its answers and however it ended. So a packet
is bare whenever a step is applied that takes no part in an exchange, and
whenever it is copied for a fiber that is forked. -/
namespace DomainSteward.Seclusion
open Machine Moves RollSteps Exchanges Packets Faces Verdicts Draws Lots Paths

variable {ε : Type}

/-! ## Bare packets -/

/-- An exchange has left none of its values behind. -/
structure Valueless (p : Packet) : Prop where
  response : p.value? Packet.responseKey = none
  request : p.value? Packet.requestKey = none
  token : p.value? Packet.continueKey = none

/-- An exchange has left nothing behind. -/
structure Bare (p : Packet) : Prop extends Valueless p where
  budget : p.budget = none

variable {c : Conduct} {g : GuestRules ε} {id : PresenceId} {w w' : World} {p p' : Packet}
  {x : Exchange ε (Step ε)} {q : Request} {r : Response} {step : Step ε} {next : Option (Step ε)}
  {m m' : ChainMachine ε} {i j : FiberId} {move : Move Answer}
  {f f' : Fiber (Step ε) Packet (Pending ε)} {key : String}

/-- Values under other names are nothing that an exchange leaves behind. -/
private theorem valueless_same (valueless : Valueless p)
    (same : ∀ key ∈ exchangeKeys, p'.value? key = p.value? key) : Valueless p' :=
  ⟨(same _ (by decide)).trans valueless.response, (same _ (by decide)).trans valueless.request,
    (same _ (by decide)).trans valueless.token⟩

private theorem bare_put {value : PacketValue} (bare : Bare p) (foreign : key ∉ exchangeKeys) :
    Bare (p.put key value) := by
  refine ⟨valueless_same bare.toValueless fun own among => value_put_other ?_, bare.budget⟩
  rintro rfl
  exact foreign among

private theorem bare_remove (bare : Bare p) (foreign : key ∉ exchangeKeys) :
    Bare (p.remove key) := by
  refine ⟨valueless_same bare.toValueless fun own among => value_remove_other ?_, bare.budget⟩
  rintro rfl
  exact foreign among

private theorem member_bare (bare : Bare p) (server : String) (cluster : Option String) :
    Bare (memberPacket p server cluster) := by
  have named : Bare (p.put Packet.serverKey (.text server)) := bare_put bare (by decide)
  cases cluster with
  | none => exact named
  | some cluster => exact bare_put named (by decide)

private theorem marked_bare (bare : Bare p) : Bare (marked p) := by
  unfold marked
  split
  · exact bare
  · exact bare_put bare (by decide)

/-- Unless a request is sent again, nothing but the budget stays in the packet. -/
private theorem tidied {verdict : Verdict ε} (gone : p.value? Packet.responseKey = none)
    (ends : ∀ wait, verdict ≠ .resend wait) : Valueless (Exchange.tidy verdict p) := by
  have clean : Valueless ((p.remove Packet.requestKey).remove Packet.continueKey) :=
    ⟨values_forgotten gone (by decide), values_forgotten gone (by decide),
      values_forgotten gone (by decide)⟩
  cases verdict with
  | resend wait => exact absurd rfl (ends wait)
  | reroute => exact clean
  | proceed => exact ⟨clean.response, clean.request, clean.token⟩

/-! ## Chains that keep to themselves -/

/-- A chain of the operator's own that hands bare packets to the chains it forks. What takes over
after a conflict reads the domain again, and nothing follows that but the write of the status. -/
inductive Clean : Step ε → Prop where
  | idle : Clean .idle
  | request (q : Request) (x : Exchange ε (Step ε)) (own : ∀ e, x.handler ≠ .guest e)
      (next : ∀ step, x.next = some step → Clean step)
      (conflict : ∀ step, x.conflict = some step → ∃ left, step = .rereadDomain left none) :
      Clean (.request q x)
  | rollIfNeeded (sink : Option FailureSink) (next : Option (Step ε))
      (later : ∀ step, next = some step → Clean step) : Clean (.rollIfNeeded sink next)
  | rolling (members : List (Member ε)) (next : Option (Step ε))
      (chains : ∀ m ∈ members, Clean m.2.1) (bare : ∀ m ∈ members, Bare m.2.2)
      (later : ∀ step, next = some step → Clean step) : Clean (.rolling members next)
  | restartNow (members : List (Member ε)) (chains : ∀ m ∈ members, Clean m.2.1)
      (bare : ∀ m ∈ members, Bare m.2.2) : Clean (.restartNow members)
  | rollCluster (cluster : String) (queue : List (Member ε)) (topology : Option Topology)
      (chains : ∀ m ∈ queue, Clean m.2.1) (bare : ∀ m ∈ queue, Bare m.2.2) :
      Clean (.rollCluster cluster queue topology)
  | afterRoll (next : Option (Step ε)) (later : ∀ step, next = some step → Clean step) :
      Clean (.afterRoll next)
  | beginRestart (server version : String) (next : Option (Step ε))
      (later : ∀ step, next = some step → Clean step) : Clean (.beginRestart server version next)
  | waitRemoved (server : String) (uid : Option String) (next : Option (Step ε))
      (later : ∀ step, next = some step → Clean step) : Clean (.waitRemoved server uid next)
  | waitReady (server : String) (next : Option (Step ε))
      (later : ∀ step, next = some step → Clean step) : Clean (.waitReady server next)
  | updateStatus (left : UInt32) : Clean (.updateStatus left none)
  | rereadDomain (left : UInt32) : Clean (.rereadDomain left none)
  | clearFailure (next : Option (Step ε)) (later : ∀ step, next = some step → Clean step) :
      Clean (.clearFailure next)

/-- Only clean steps follow, if any. -/
def Follows (next : Option (Step ε)) : Prop := ∀ step, next = some step → Clean step

/-- What the packet may hold when a step is about to be applied. Only the exchange that reads the
domain again after a conflict begins with the budget of another one. -/
def Fits : Step ε → Packet → Prop
  | .request q x, p => x.isPaired p = true ∨ Bare p ∨ Valueless p ∧ q.resource = .domain
  | .rereadDomain _ _, p => Valueless p
  | _, p => Bare p

/-- Only clean steps follow, if any, and the packet is fit for them. -/
def Ready (next : Option (Step ε)) (p : Packet) : Prop :=
  ∀ step, next = some step → Clean step ∧ Fits step p

/-- The exchange whose request is in flight, and that has a budget. -/
structure Engaged (p : Packet) (q : Request) (x : Exchange ε (Step ε)) : Prop where
  clean : Clean (.request q x)
  paired : p.exchange? = some x.id
  funded : p.budget.isSome = true

/-- Where a fiber can stand. -/
inductive Stands : Fiber (Step ε) Packet (Pending ε) → Prop where
  | created (p : Packet) (step : Step ε) (clean : Clean step) (bare : Bare p) :
      Stands ⟨p, .created step⟩
  | running (p : Packet) (next : Option (Step ε)) (ready : Ready next p) : Stands ⟨p, .running next⟩
  | sleeping (p : Packet) (wait : Duration) (next : Option (Step ε)) (ready : Ready next p) :
      Stands ⟨p, .sleeping wait next⟩
  | joining (p : Packet) (children : List FiberId) (next : Option (Step ε)) (ready : Ready next p) :
      Stands ⟨p, .joining children next⟩
  /-- It has made the call of an exchange. -/
  | waiting (p : Packet) (call : Request) (q : Request) (x : Exchange ε (Step ε))
      (engaged : Engaged p q x) : Stands ⟨p, .waiting (.call call) (some (.response (sent q x)))⟩
  /-- It has been answered. -/
  | told (p : Packet) (q : Request) (x : Exchange ε (Step ε)) (r : Response)
      (engaged : Engaged p q x) (told : p.response? = some r) :
      Stands ⟨p, .running (some (.response (sent q x)))⟩
  | ended (p : Packet) (failure : Option FiberError) : Stands ⟨p, .ended failure⟩
  | crashed (p : Packet) (message : String) : Stands ⟨p, .crashed message⟩

theorem bare_fits (clean : Clean step) (bare : Bare p) : Fits step p := by
  cases clean with
  | request => exact .inr (.inl bare)
  | rereadDomain => exact bare.toValueless
  | _ => exact bare

theorem ready_none (p : Packet) : Ready (none : Option (Step ε)) p := nofun

private theorem ready_bare (later : Follows next) (bare : Bare p) : Ready next p :=
  fun step follows => ⟨later step follows, bare_fits (later step follows) bare⟩

private theorem ready_with (clean : Clean step) (fits : Fits step p) : Ready (some step) p := by
  rintro _ ⟨⟩
  exact ⟨clean, fits⟩

private theorem follows_with (clean : Clean step) : Follows (some step) := by
  rintro _ ⟨⟩
  exact clean

/-! ## What a step leads to -/

/-- What a step leads to: its fiber stands somewhere, and so do those that it forks. -/
def Leads (c : Conduct) (g : GuestRules ε) (p : Packet) (action : StepAction ε) : Prop :=
  (∀ n, Stands ⟨packetAfter (chainDynamics c g) p action, phaseAfter n action⟩) ∧
    ∀ f ∈ born action, Stands f

private theorem leads_go_on (ready : Ready next p) : Leads c g p (.goOn next) := by
  refine ⟨fun n => ?_, by simp [born_go_on]⟩
  rw [gone_on]
  cases next with
  | none => exact .ended p none
  | some step => exact .running p _ ready

private theorem leads_next (clean : Clean step) (fits : Fits step p) : Leads c g p (.next step) :=
  leads_go_on (ready_with clean fits)

private theorem leads_delay (wait : Duration) (ready : Ready next p) :
    Leads c g p (.delay wait next) :=
  ⟨fun _ => .sleeping p wait _ ready, by simp [born]⟩

private theorem leads_end (e : FiberError) : Leads c g p (.terminate e) :=
  ⟨fun _ => .ended _ _, by simp [born]⟩

private theorem leads_fork {children : List (Step ε × Packet)} (ready : Ready next p)
    (clean : ∀ child ∈ children, Clean child.1 ∧ Bare child.2) :
    Leads c g p (.forkJoin children next) := by
  refine ⟨fun n => ?_, fun f among => ?_⟩
  · cases children with
    | nil => exact .running p _ ready
    | cons => exact .joining p _ _ ready
  · obtain ⟨child, listed, rfl⟩ := List.mem_map.mp among
    exact .created _ _ (clean child listed).1 (clean child listed).2

private theorem members_clean {members : List (Member ε)} (chains : ∀ m ∈ members, Clean m.2.1)
    (bare : ∀ m ∈ members, Bare m.2.2) :
    ∀ child ∈ members.map (·.2), Clean child.1 ∧ Bare child.2 := by
  intro child among
  obtain ⟨m, listed, rfl⟩ := List.mem_map.mp among
  exact ⟨chains m listed, bare m listed⟩

/-- The chain that restarts a server. -/
private theorem chain_clean (t : Restarts.Mandate ε) (server : String) (old : Pod) :
    Clean (t.chain server old) := by
  have create : Clean (t.create server old) :=
    .request _ _ nofun (follows_with (.waitReady server none nofun)) nofun
  have removal : Clean (t.removal server old) := .waitRemoved _ _ _ (follows_with create)
  exact .beginRestart _ _ _ (follows_with (.request _ _ nofun (follows_with removal) nofun))

/-- The work of a roll is restarts, and their packets are copies of a bare one. -/
private theorem work_clean (t : Restarts.Mandate ε) (bare : Bare t.packet) (later : Follows next) :
    Clean (.rolling (plan t).members next) := by
  refine .rolling _ _ (fun m among => ?_) (fun m among => ?_) later
  all_goals obtain ⟨old, _, _, same⟩ := member_due among
  · rw [same]
    exact chain_clean t m.1 old
  · rw [same]
    exact member_bare bare _ _

private theorem gates_clean {members : List (Member ε)} (ready : NameSet)
    (chains : ∀ m ∈ members, Clean m.2.1) (bare : ∀ m ∈ members, Bare m.2.2) (bare' : Bare p) :
    ∀ child ∈ rollFibers members ready p, Clean child.1 ∧ Bare child.2 := by
  obtain ⟨buckets, _, _, fibers⟩ := one_fiber_a_bucket members ready p
  rw [fibers]
  intro child among
  obtain ⟨b, _, rfl⟩ := List.mem_map.mp among
  have some' : ∀ m ∈ bucket members ready b, m ∈ members := fun m inside =>
    (List.mem_filter.mp inside).1
  refine ⟨?_, bare'⟩
  cases b with
  | none =>
    exact .restartNow _ (fun m inside => chains m (some' m inside))
      (fun m inside => bare m (some' m inside))
  | some cluster =>
    exact .rollCluster _ _ _ (fun m inside => chains m (some' m inside))
      (fun m inside => bare m (some' m inside))

/-! ## What becomes of the budgets -/

/-- Budgets are made with the tuning of the operator. -/
def Tuned (c : Conduct) (w : World) : Prop := ∀ b ∈ w.budgets, b.tuning = c.tuning

/-- What becomes of the budget of a fiber and of all budgets: it is kept or given up, and none is made,
or it is a new one. -/
inductive Books (c : Conduct) (p : Packet) (w : World) (p' : Packet) (w' : World) : Prop where
  | spends (kept : p'.budget = p.budget ∨ p'.budget = none)
      (length : w'.budgets.length = w.budgets.length) (tuned : Tuned c w → Tuned c w')
  | opens (nothing : p.budget = none) (place : p'.budget = some w.budgets.length)
      (budgets : w'.budgets = w.budgets ++ [.fresh c.tuning])

private theorem books_kept (budget : p'.budget = p.budget) (budgets : w'.budgets = w.budgets) :
    Books c p w p' w' := by
  refine .spends (.inl budget) (congrArg List.length budgets) fun tuned b among => ?_
  rw [budgets] at among
  exact tuned b among

/-- A call makes sure of a budget. -/
private theorem asked_books : Books c p w (asked c x p w).1 (asked c x p w).2 := by
  cases has : p.budget with
  | none =>
    have opened : (asked c x p w).1.budget = some w.budgets.length ∧
        (asked c x p w).2.budgets = w.budgets ++ [.fresh c.tuning] := by
      simp [asked, Exchange.withBudget, has, World.newBudget]
    exact .opens has opened.1 opened.2
  | some b =>
    have same : (asked c x p w).1.budget = p.budget ∧ (asked c x p w).2.budgets = w.budgets := by
      simp [asked, Exchange.withBudget, has]
    exact books_kept same.1 same.2

private theorem asked_funded : (asked c x p w).1.budget.isSome = true := by
  cases has : p.budget <;> simp [asked, Exchange.withBudget, has, World.newBudget]

/-- A new call has a full budget. -/
private theorem asked_full (nothing : p.budget = none) :
    (asked c x p w).2.budget? (asked c x p w).1 = some (.fresh c.tuning) := by
  simp [asked, Exchange.withBudget, nothing, World.newBudget, World.budget?]

private theorem spends_books {verdict : Verdict ε} (spends : Spends p w w' verdict)
    (kept : p'.budget = p.budget ∨ p'.budget = none) : Books c p w p' w' := by
  obtain ⟨f, budgets, tuning, _⟩ := spends
  rw [Worlds.budgets_modify_budget] at budgets
  cases has : p.budget with
  | none =>
    rw [has] at budgets
    refine .spends kept (congrArg List.length budgets) fun tuned b among => ?_
    rw [budgets] at among
    exact tuned b among
  | some place =>
    rw [has] at budgets
    refine .spends kept (by simp [budgets]) fun tuned b among => ?_
    obtain ⟨k, found⟩ := List.mem_iff_getElem?.mp among
    simp only [budgets, Option.elim_some, List.getElem?_modify] at found
    obtain ⟨before, held, rfl⟩ := Option.map_eq_some_iff.mp found
    have own : before.tuning = c.tuning := tuned before (List.mem_of_getElem? held)
    split
    · rename_i same
      subst same
      exact (tuning before (by simp [World.budget?, has, held])).trans own
    · exact own

/-! ## What each step does -/

/-- What is applied leads on, and keeps the books. -/
private structure Does (c : Conduct) (g : GuestRules ε) (p : Packet) (w : World)
    (applied : StepApplied ε) : Prop where
  leads : ∀ step, Leads c g applied.packet (actionOf (chainDynamics c g) step applied)
  books : Books c p w applied.packet applied.world

/-- A step that changes neither packet nor budgets leads on. -/
private theorem does_kept {applied : StepApplied ε} {action : StepAction ε}
    (applies : applied = .of action p w') (leads : Leads c g p action)
    (budgets : w'.budgets = w.budgets) : Does c g p w applied := by
  subst applies
  exact ⟨fun _ => leads, books_kept rfl budgets⟩

private theorem presence_does {act : PresenceId → Presence → StepApplied ε}
    (does : ∀ id now, Does c g p w (act id now)) : Does c g p w (withPresence p w act) := by
  unfold withPresence
  split
  · exact does _ _
  · exact does_kept rfl (leads_end _) rfl

private theorem roll_if_needed_does {sink : Option FailureSink} (later : Follows next)
    (bare : Bare p) : Does c g p w (rollIfNeeded sink next p w) := by
  refine presence_does fun id now => ?_
  split
  · exact does_kept rfl (leads_go_on (ready_bare later bare)) rfl
  · rename_i domain _
    have clean := work_clean ⟨p, id, now, domain, sink, next⟩ bare later
    dsimp only
    split
    · exact does_kept rfl (leads_go_on (ready_bare later bare)) rfl
    · exact does_kept rfl (leads_next clean (bare_fits clean bare)) rfl

private theorem rolling_does {members : List (Member ε)} (chains : ∀ m ∈ members, Clean m.2.1)
    (each : ∀ m ∈ members, Bare m.2.2) (later : Follows next) (bare : Bare p) :
    Does c g p w (rolling members next p w) := by
  refine presence_does fun id now => ?_
  have marks : (announce id (members.map (·.1)) p w).1 = marked p := announce_marks _
  have budgets : (announce id (members.map (·.1)) p w).2.budgets = w.budgets := by
    unfold announce
    split <;> rfl
  have bare' : Bare (marked p) := marked_bare bare
  dsimp only
  rw [marks]
  refine ⟨fun _ => ?_, books_kept (bare'.budget.trans bare.budget.symm) budgets⟩
  exact leads_fork (ready_bare (follows_with (.afterRoll next later)) bare')
    (gates_clean now.readyServers chains each bare')

private theorem roll_cluster_does {cluster : String} {queue : List (Member ε)}
    {topology : Option Topology} (chains : ∀ m ∈ queue, Clean m.2.1)
    (each : ∀ m ∈ queue, Bare m.2.2) (bare : Bare p) :
    Does c g p w (rollCluster c cluster queue topology p w) := by
  obtain ⟨outcome, applies, looked⟩ :=
    roll_cluster_looks (c := c) (p := p) (w := w) cluster queue topology
  rw [applies]
  refine ⟨fun step => ?_, books_kept rfl rfl⟩
  have again {held : List (Member ε)} (inside : ∀ m ∈ held, m ∈ queue) :
      Ready (some (.rollCluster cluster held topology)) p :=
    ready_with (.rollCluster _ _ _ (fun m among => chains m (inside m among))
      (fun m among => each m (inside m among))) bare
  cases looked with
  | refused | floorless => exact leads_end _
  | complete => exact leads_go_on (ready_none p)
  | wave presence goesOn seen split taken some =>
    obtain ⟨wave, held⟩ := split_queue_members taken
    exact leads_fork (again held) (members_clean (fun m among => chains m (wave m among))
      (fun m among => each m (wave m among)))
  | noSlack presence goesOn seen split taken none some =>
    exact leads_delay _ (again (split_queue_members taken).2)

private theorem wait_removed_does {server : String} {uid : Option String} (later : Follows next)
    (bare : Bare p) : Does c g p w (waitRemoved c server uid next p w) := by
  refine presence_does fun id now => ?_
  split
  · exact does_kept rfl (leads_go_on (ready_bare later bare)) rfl
  · split
    · exact does_kept rfl (leads_end _) rfl
    · exact does_kept rfl (leads_delay _ (ready_with (.waitRemoved _ _ _ later) bare)) rfl

private theorem wait_ready_does {server : String} (later : Follows next) (bare : Bare p) :
    Does c g p w (waitReady c server next p w) := by
  refine presence_does fun id now => ?_
  split
  · exact does_kept rfl (leads_go_on (ready_bare later bare)) rfl
  · split
    · exact does_kept rfl (leads_end _) rfl
    · exact does_kept rfl (leads_delay _ (ready_with (.waitReady _ _ later) bare)) rfl

private theorem update_does {left : UInt32} (bare : Bare p) :
    Does c g p w (updateStatus left (none : Option (Step ε)) p w) := by
  refine presence_does fun id now => ?_
  split
  · exact does_kept rfl (leads_go_on (ready_none p)) rfl
  · split
    · exact ⟨fun _ => leads_end _, books_kept rfl rfl⟩
    · split
      · exact does_kept rfl (leads_go_on (ready_none p)) rfl
      · refine does_kept rfl (leads_next (.request _ _ nofun nofun fun step conflict => ?_)
          (.inr (.inl bare))) rfl
        dsimp only at conflict
        split at conflict
        · cases conflict
          exact ⟨_, rfl⟩
        · cases conflict

/-- The domain is read again with the budget of the write that met the conflict. -/
private theorem reread_does {left : UInt32} (valueless : Valueless p) :
    Does c g p w (rereadDomain left (none : Option (Step ε)) p w) := by
  refine presence_does fun id now => ?_
  split
  · exact does_kept rfl (leads_go_on (ready_none p)) rfl
  · have clean : Clean (.updateStatus left none : Step ε) := .updateStatus left
    exact does_kept rfl (leads_next (.request _ _ nofun (follows_with clean) nofun)
      (.inr (.inr ⟨valueless, rfl⟩))) rfl

/-- Whatever step is applied to a packet that is fit for it leads on. -/
private theorem clean_does (clean : Clean step) (fits : Fits step p) :
    Does c g p w ((chainDynamics c g).apply step p w) := by
  cases clean with
  | idle => exact does_kept rfl (leads_go_on (ready_none p)) rfl
  | request q x own next conflict =>
    have applies : (chainDynamics c g).apply (.request q x) p w = _ := send_asks c q x p w
    rw [applies]
    refine ⟨fun _ => ⟨fun n => ?_, by simp [actionOf, Applied.of, born]⟩, asked_books⟩
    exact .waiting _ _ q x ⟨.request q x own next conflict, asked_exchange, asked_funded⟩
  | rollIfNeeded sink next later => exact roll_if_needed_does later fits
  | rolling members next chains each later => exact rolling_does chains each later fits
  | restartNow members chains each =>
    exact does_kept rfl (leads_fork (ready_none p) (members_clean chains each)) rfl
  | rollCluster cluster queue topology chains each => exact roll_cluster_does chains each fits
  | afterRoll next later =>
    have bare : Bare (p.remove Packet.rollMarkKey) := bare_remove fits (by decide)
    refine ⟨fun _ => leads_go_on (ready_bare later bare), books_kept rfl ?_⟩
    dsimp only [chainDynamics, Step.apply, afterRoll, Applied.of]
    split
    · unfold Conduct.countRoll
      split <;> exact Worlds.budgets_modify_presence_of _
    · rfl
  | beginRestart server version next later =>
    exact presence_does fun id now => does_kept rfl (leads_go_on (ready_bare later fits)) rfl
  | waitRemoved server uid next later => exact wait_removed_does later fits
  | waitReady server next later => exact wait_ready_does later fits
  | updateStatus left => exact update_does fits
  | rereadDomain left => exact reread_does fits
  | clearFailure next later =>
    exact does_kept rfl (leads_go_on (ready_bare later fits)) (Worlds.budgets_modify_presence_of _)

/-! ## Settling an answer -/

theorem clean_exchange (clean : Clean (.request q x)) :
    (∀ e, x.handler ≠ .guest e) ∧ Follows x.next ∧
      ∀ step, x.conflict = some step → ∃ left, step = .rereadDomain left none := by
  cases clean with
  | request _ _ own next conflict => exact ⟨own, next, conflict⟩

/-- Sending an exchange changes nothing of where it leads. -/
private theorem clean_sent (clean : Clean (.request q x)) : Clean (.request q (sent q x)) := by
  obtain ⟨own, next, conflict⟩ := clean_exchange clean
  exact .request q _ own next conflict

/-- What a handler has seen of the packet of its exchange. -/
private structure Handled (p p' : Packet) (x : Exchange ε (Step ε)) : Prop where
  gone : p'.value? Packet.responseKey = none
  paired : p'.exchange? = some x.id
  budget : p'.budget = p.budget

private theorem handled (engaged : Engaged p q x)
    (kept : p' = p.remove Packet.responseKey ∨
      ∃ token, p' = (p.remove Packet.responseKey).put Packet.continueKey (.text token)) :
    Handled p p' x := by
  have apart : Packet.requestKey ≠ Packet.responseKey := by decide
  have token : Packet.responseKey ≠ Packet.continueKey := by decide
  have other : Packet.requestKey ≠ Packet.continueKey := by decide
  have removed : Handled p (p.remove Packet.responseKey) x := by
    refine ⟨value_remove_same, ?_, rfl⟩
    rw [Packet.exchange?, value_remove_other apart]
    exact engaged.paired
  rcases kept with rfl | ⟨page, rfl⟩
  · exact removed
  · refine ⟨?_, ?_, rfl⟩
    · rw [value_put_other token]
      exact removed.gone
    · rw [Packet.exchange?, value_put_other other]
      exact removed.paired

/-- Settling an answer leads on: what follows the exchange finds a bare packet, and what takes over
after a conflict finds no value in it. -/
private theorem settled_leads {before after : Option Face} {verdict : Verdict ε}
    {works : Option PresenceId} (engaged : Engaged p q x) (handled : Handled p p' x)
    (settles : Settles id (sent q x) r works before after verdict) :
    Leads c g (Exchange.tidy verdict p') ((sent q x).actionOf verdict) := by
  obtain ⟨_, next, conflict⟩ := clean_exchange engaged.clean
  have paired : (sent q x).isPaired p' = true := decide_eq_true handled.paired
  have again : Ready (some (.request q (sent q x))) p' :=
    ready_with (clean_sent engaged.clean) (.inl paired)
  cases settles with
  | goesOn | holds =>
    have bare : Bare (Exchange.tidy (.proceed (.goOn x.next)) p') :=
      ⟨tidied handled.gone nofun, rfl⟩
    exact leads_go_on (ready_bare next bare)
  | turns => exact leads_go_on again
  | again f failed wait => exact leads_delay wait again
  | reroutes =>
    refine leads_go_on fun step taken => ?_
    obtain ⟨left, rfl⟩ := conflict step taken
    exact ⟨.rereadDomain left, tidied handled.gone nofun⟩
  | givesUp | breaks => exact leads_end _

private theorem tidy_budget (verdict : Verdict ε) (p : Packet) :
    (Exchange.tidy verdict p).budget = p.budget ∨ (Exchange.tidy verdict p).budget = none := by
  cases verdict with
  | resend | reroute => exact .inl rfl
  | proceed => exact .inr rfl

/-- Whatever answer is settled leads on. -/
private theorem told_does (engaged : Engaged p q x) (told : p.response? = some r) :
    Does c g p w ((chainDynamics c g).apply (.response (sent q x)) p w) := by
  obtain ⟨verdict, p', w', applies, settles, kept, spends⟩ := response_settles (c := c) (g := g)
    (w := w) (q := q) 0 (clean_exchange engaged.clean).1 told engaged.paired
  have seen := handled engaged kept
  rw [applies]
  refine ⟨fun _ => settled_leads engaged seen settles, spends_books spends ?_⟩
  exact (tidy_budget verdict p').imp_left (·.trans seen.budget)

/-- Whatever a fiber applies leads on. -/
private theorem step_does (stands : Stands ⟨p, .running (some step)⟩) :
    Does c g p w ((chainDynamics c g).apply step p w) := by
  cases stands with
  | running _ _ ready => exact clean_does (ready step rfl).1 (ready step rfl).2
  | told _ q x r engaged told => exact told_does engaged told

/-! ## What happens to a machine -/

/-- Fibers stand where they can, and no two of them have the same budget. -/
structure Secluded (c : Conduct) (m : ChainMachine ε) : Prop where
  stands : ∀ i f, m.fiber? i = some f → Stands f
  tuned : Tuned c m.world
  known : ∀ i f b, m.fiber? i = some f → f.packet.budget = some b → b < m.world.budgets.length
  apart : ∀ i j f f' b, m.fiber? i = some f → m.fiber? j = some f' → f.packet.budget = some b →
    f'.packet.budget = some b → i = j

/-- A fiber of a machine that has changed is its mover, one of the others, or one that was added and
has no budget. -/
private theorem found_after {added : List (Fiber (Step ε) Packet (Pending ε))}
    (found : m.fiber? i = some f)
    (found' : Machine.fiber? ⟨m.fibers.set i f' ++ added, w⟩ j = some f'') :
    j = i ∧ f'' = f' ∨ j ≠ i ∧ m.fiber? j = some f'' ∨ f'' ∈ added := by
  have within : i < m.fibers.length := (List.getElem?_eq_some_iff.mp found).1
  rw [fiber?_changed within] at found'
  split at found'
  · exact .inl ⟨‹_›, (Option.some.inj found').symm⟩
  · split at found'
    · exact .inr (.inl ⟨‹_›, found'⟩)
    · exact .inr (.inr (List.mem_of_getElem? found'))

/-- What a move makes of one fiber keeps all of them secluded. -/
private theorem secluded_changed {added : List (Fiber (Step ε) Packet (Pending ε))}
    (secluded : Secluded c m) (found : m.fiber? i = some f)
    (books : Books c f.packet m.world f'.packet w) (stands : Stands f')
    (young : ∀ f ∈ added, Stands f ∧ f.packet.budget = none) :
    Secluded c ⟨m.fibers.set i f' ++ added, w⟩ := by
  -- A budget that somebody else has is no new one, so it is not that of the mover.
  have foreign : ∀ j f₀ b, j ≠ i → m.fiber? j = some f₀ → f₀.packet.budget = some b →
      f'.packet.budget ≠ some b := by
    intro j f₀ b other found₀ has has'
    cases books with
    | spends kept =>
      rcases kept with kept | gone
      · exact other (secluded.apart j i f₀ f b found₀ found has (kept ▸ has'))
      · cases gone.symm.trans has'
    | opens nothing place =>
      cases place.symm.trans has'
      exact Nat.lt_irrefl _ (secluded.known j f₀ _ found₀ has)
  have grows : m.world.budgets.length ≤ w.budgets.length := by
    cases books with
    | spends _ length => exact Nat.le_of_eq length.symm
    | opens _ _ budgets => simp [budgets]
  refine ⟨fun j f₀ found₀ => ?_, ?_, fun j f₀ b found₀ has => ?_,
    fun j k f₁ f₂ b found₁ found₂ has₁ has₂ => ?_⟩
  · rcases found_after found found₀ with ⟨_, rfl⟩ | ⟨_, before⟩ | among
    · exact stands
    · exact secluded.stands j f₀ before
    · exact (young f₀ among).1
  · cases books with
    | spends _ _ tuned => exact tuned secluded.tuned
    | opens _ _ budgets =>
      intro b among
      simp only [budgets, List.mem_append, List.mem_singleton] at among
      rcases among with among | rfl
      · exact secluded.tuned b among
      · rfl
  · rcases found_after found found₀ with ⟨_, rfl⟩ | ⟨_, before⟩ | among
    · cases books with
      | spends kept length =>
        rcases kept with kept | gone
        · exact length ▸ secluded.known i f b found (kept ▸ has)
        · cases gone.symm.trans has
      | opens nothing place budgets =>
        cases place.symm.trans has
        simp [budgets]
    · exact Nat.lt_of_lt_of_le (secluded.known j f₀ b before has) grows
    · cases (young f₀ among).2.symm.trans has
  · rcases found_after found found₁ with ⟨rfl, rfl⟩ | ⟨other₁, before₁⟩ | among₁
    · rcases found_after found found₂ with ⟨rfl, _⟩ | ⟨other₂, before₂⟩ | among₂
      · rfl
      · exact absurd has₁ (foreign k f₂ b other₂ before₂ has₂)
      · cases (young f₂ among₂).2.symm.trans has₂
    · rcases found_after found found₂ with ⟨rfl, rfl⟩ | ⟨other₂, before₂⟩ | among₂
      · exact absurd has₂ (foreign j f₁ b other₁ before₁ has₁)
      · exact secluded.apart j k f₁ f₂ b before₁ before₂ has₁ has₂
      · cases (young f₂ among₂).2.symm.trans has₂
    · cases (young f₁ among₁).2.symm.trans has₁

private theorem secluded_replace (secluded : Secluded c m) (found : m.fiber? i = some f)
    (budget : f'.packet.budget = f.packet.budget) (budgets : w.budgets = m.world.budgets)
    (stands : Stands f') : Secluded c (m.replace i f' w) := by
  have changed : Secluded c ⟨m.fibers.set i f' ++ [], w⟩ :=
    secluded_changed secluded found (books_kept budget budgets) stands
      fun _ among => absurd among List.not_mem_nil
  rwa [List.append_nil] at changed

private theorem world_after_budgets (w : World) (action : StepAction ε) :
    (worldAfter (chainDynamics c g) w action).budgets = w.budgets := by
  cases action with
  | finish | terminate => exact count_budgets _
  | _ => rfl

private theorem packet_after_budget (p : Packet) (action : StepAction ε) :
    (packetAfter (chainDynamics c g) p action).budget = p.budget := by
  cases action <;> rfl

private theorem books_after {action : StepAction ε} (books : Books c p w p' w') :
    Books c p w (packetAfter (chainDynamics c g) p' action)
      (worldAfter (chainDynamics c g) w' action) := by
  have packet := packet_after_budget (c := c) (g := g) p' action
  have world := world_after_budgets (c := c) (g := g) w' action
  cases books with
  | spends kept length tuned =>
    refine .spends (packet.symm ▸ kept) (world.symm ▸ length) fun before b among => ?_
    exact tuned before b (world ▸ among)
  | opens nothing place budgets =>
    exact .opens nothing (packet.trans place) (world.trans budgets)

private theorem born_young {action : StepAction ε} (leads : Leads c g p action)
    (among : f ∈ born action) : Stands f ∧ f.packet.budget = none := by
  have stands := leads.2 f among
  refine ⟨stands, ?_⟩
  cases action with
  | forkJoin children join =>
    obtain ⟨child, _, rfl⟩ := List.mem_map.mp among
    cases stands with
    | created _ _ _ bare => exact bare.budget
  | _ => cases among

private theorem secluded_took {action : StepAction ε} (secluded : Secluded c m)
    (found : m.fiber? i = some f) (leads : Leads c g p action)
    (books : Books c f.packet m.world p w) :
    Secluded c (took (chainDynamics c g) m i p w action) :=
  secluded_changed secluded found (books_after books) (leads.1 _) fun _ => born_young leads

/-- An answer that comes in is handed to the one who judges it. -/
private theorem answer_told (engaged : Engaged p q x) (r : Response) :
    Stands ⟨p.put Packet.responseKey (.response r), .running (some (.response (sent q x)))⟩ := by
  have other : Packet.requestKey ≠ Packet.responseKey := by decide
  refine .told _ q x r ⟨engaged.clean, ?_, engaged.funded⟩ ?_
  · rw [Packet.exchange?, value_put_other other]
    exact engaged.paired
  · rw [Packet.response?, value_put_same]
    rfl

/-- Whatever move is made, fibers stay secluded. -/
private theorem secluded_move (secluded : Secluded c m) (proper : Proper m (.move i move))
    (moves : m.move? (chainDynamics c g) i move = some m') : Secluded c m' := by
  obtain ⟨_, found, moved⟩ := move_iff_moved.mp moves
  have stands := secluded.stands i _ found
  have received (call : Pending ε) (r : Response) :
      ((chainDynamics c g).receive call (.response r) m.world).budgets = m.world.budgets := by
    cases call with
    | call q => exact count_budgets _
    | guest e => rfl
  cases moved with
  | start p step =>
    refine secluded_replace secluded found rfl (count_budgets _) ?_
    cases stands with
    | created _ _ clean bare => exact .running p _ (ready_with clean (bare_fits clean bare))
  | finish p =>
    exact secluded_took secluded found (leads_go_on (ready_none p)) (books_kept rfl rfl)
  | step p step =>
    have does := step_does (c := c) (g := g) (w := m.world) stands
    exact secluded_took secluded found (does.leads step) does.books
  | wake p wait next =>
    refine secluded_replace secluded found rfl rfl ?_
    cases stands with
    | sleeping _ _ _ ready => exact .running p _ ready
  | cancel p call next a stopping =>
    cases stands with
    | waiting _ call q x engaged =>
      obtain ⟨r, rfl⟩ := proper i a p _ _ rfl found
      exact secluded_took secluded found (leads_end _) (books_kept rfl (received _ r))
  | answer p call next a goesOn =>
    cases stands with
    | waiting _ call q x engaged =>
      obtain ⟨r, rfl⟩ := proper i a p _ _ rfl found
      exact secluded_replace secluded found rfl (received _ r) (answer_told engaged r)
  | crash p => exact secluded_replace secluded found rfl rfl (.crashed p _)
  | join p children next =>
    refine secluded_replace secluded found rfl rfl ?_
    cases stands with
    | joining _ _ _ ready => exact .running p _ ready
  | fail => exact secluded_took secluded found (leads_end _) (books_kept rfl rfl)

private theorem secluded_world (secluded : Secluded c m) (same : w.budgets = m.world.budgets) :
    Secluded c { m with world := w } := by
  refine ⟨secluded.stands, fun b among => secluded.tuned b (same ▸ among), ?_, secluded.apart⟩
  exact fun i f b found has => same ▸ secluded.known i f b found has

private theorem secluded_create (secluded : Secluded c m) (clean : Clean step) (bare : Bare p) :
    Secluded c (m.create step p) := by
  have settled : ∀ {j f b}, (m.create step p).fiber? j = some f → f.packet.budget = some b →
      m.fiber? j = some f := by
    intro j f b found has
    rcases Orders.create_fiber found with found | rfl
    · exact found
    · cases bare.budget.symm.trans has
  refine ⟨fun j f found => ?_, secluded.tuned,
    fun j f b found has => secluded.known j f b (settled found has) has, ?_⟩
  · rcases Orders.create_fiber found with found | rfl
    · exact secluded.stands j f found
    · exact .created p step clean bare
  · exact fun j k f f' b found found' has has' =>
      secluded.apart j k f f' b (settled found has) (settled found' has') has has'

/-! ## Runs -/

/-- What can happen: a reconcile begins, a fiber is begun that writes a status, a fiber makes a
move, its calls being answered as the server likes, or the world changes by itself. -/
inductive Unfolds (c : Conduct) (g : GuestRules ε) (m : ChainMachine ε) : ChainMachine ε → Prop where
  | reconciles (domain : Domain) (id : PresenceId) (head : Step ε) (p : Packet) (w : World)
      (begins : beginReconcile c domain m.world = .fiber id head p w) :
      Unfolds c g m ({ m with world := w }.create head p)
  | publishes (id : PresenceId) :
      Unfolds c g m (m.create (writeStatus c none) { presence := some id })
  | moves (i : FiberId) (move : Move Answer) (after : ChainMachine ε)
      (proper : Proper m (.move i move))
      (moved : m.move? (chainDynamics c g) i move = some after) : Unfolds c g m after
  /-- Nobody but the fibers draws from their budgets. -/
  | outside (world : World) (same : world.budgets = m.world.budgets) :
      Unfolds c g m { m with world }

private theorem reconcile_clean {domain : Domain} {head : Step ε}
    (begins : beginReconcile c domain w = .fiber id head p w') :
    Clean head ∧ Bare p ∧ w'.budgets = w.budgets := by
  unfold beginReconcile at begins
  split at begins
  · cases begins
  split at begins
  · cases begins
  injection begins with place chain packet world
  subst chain packet world
  have write : Clean (writeStatus c none : Step ε) := .updateStatus _
  have finish : Clean (.clearFailure (some (writeStatus c none)) : Step ε) :=
    .clearFailure _ (follows_with write)
  have roll (sink : Option FailureSink) :
      Clean (.rollIfNeeded sink (some (.clearFailure (some (writeStatus c none)))) : Step ε) :=
    .rollIfNeeded _ _ (follows_with finish)
  exact ⟨.request _ _ nofun (follows_with (roll _)) nofun, ⟨⟨rfl, rfl, rfl⟩, rfl⟩, rfl⟩

theorem secluded_unfolds (secluded : Secluded c m) (unfolds : Unfolds c g m m') :
    Secluded c m' := by
  cases unfolds with
  | reconciles domain id head p w begins =>
    obtain ⟨clean, bare, same⟩ := reconcile_clean begins
    exact secluded_create (secluded_world secluded same) clean bare
  | publishes id =>
    exact secluded_create secluded (.updateStatus _) ⟨⟨rfl, rfl, rfl⟩, rfl⟩
  | moves i move after proper moved => exact secluded_move secluded proper moved
  | outside world same => exact secluded_world secluded same

/-! ## What nobody finds -/

/-- A step that takes part in an exchange, or takes one over. -/
def InExchange : Step ε → Prop
  | .request _ _ | .response _ | .rereadDomain _ _ => True
  | _ => False

/-- The packets that an action has for fibers that it forks, or that will be forked for the members
of a roll. -/
def copiesOf : StepAction ε → List Packet
  | .next (.rolling members _) => members.map (·.2.2)
  | .forkJoin children _ => children.map (·.2)
  | _ => []

/-- What an exchange keeps for itself is found by nobody else. -/
structure Sealed (c : Conduct) (g : GuestRules ε) (m : ChainMachine ε) : Prop where
  /-- A step that takes no part in exchanges, as those that copy packets, is applied to a bare
  packet. -/
  steps : ∀ i p step, m.fiber? i = some ⟨p, .running (some step)⟩ → ¬ InExchange step → Bare p
  /-- When the domain is read again after a conflict, nothing is left but the budget. -/
  rereads : ∀ i p left next, m.fiber? i = some ⟨p, .running (some (.rereadDomain left next))⟩ →
    Valueless p
  /-- The copies that a step makes for other fibers are bare. -/
  copies : ∀ i p step, m.fiber? i = some ⟨p, .running (some step)⟩ →
    ∀ copy ∈ copiesOf (actionOf (chainDynamics c g) step
      ((chainDynamics c g).apply step p m.world)), Bare copy
  /-- Every fiber starts with a bare packet. -/
  created : ∀ i p step, m.fiber? i = some ⟨p, .created step⟩ → Bare p
  /-- A call for pods is made once more by its own exchange, or it gets a full budget. -/
  calls : ∀ i p q x, m.fiber? i = some ⟨p, .running (some (.request q x))⟩ → q.resource = .pod →
    x.isPaired p = true ∨ Bare p ∧
      ((chainDynamics c g).apply (.request q x) p m.world).world.budget?
        ((chainDynamics c g).apply (.request q x) p m.world).packet = some (.fresh c.tuning)
  /-- A call that is made once more at once, as for the next page of a list, has a full budget. -/
  pages : ∀ i p x q y p' w', m.fiber? i = some ⟨p, .running (some (.response x))⟩ →
    (chainDynamics c g).apply (.response x) p m.world = .of (.next (.request q y)) p' w' →
    y.isPaired p' = true → w'.budget? p' = some (.fresh c.tuning)
  /-- No two fibers have the same budget. -/
  apart : ∀ i j f f' b, m.fiber? i = some f → m.fiber? j = some f' → f.packet.budget = some b →
    f'.packet.budget = some b → i = j

private theorem valueless_unpaired (valueless : Valueless p) : x.isPaired p = false := by
  simp [Exchange.isPaired, Packet.exchange?, valueless.request]

private theorem steps_bare (stands : Stands ⟨p, .running (some step)⟩)
    (apart : ¬ InExchange step) : Bare p := by
  cases stands with
  | running _ _ ready =>
    obtain ⟨clean, fits⟩ := ready step rfl
    cases clean with
    | request | rereadDomain => exact absurd trivial apart
    | _ => exact fits
  | told => exact absurd trivial apart

private theorem copies_bare {action : StepAction ε} (leads : Leads c g p action) :
    ∀ copy ∈ copiesOf action, Bare copy := by
  intro copy among
  cases action with
  | next step =>
    cases step with
    | rolling members next =>
      obtain ⟨member, listed, rfl⟩ := List.mem_map.mp among
      cases leads.1 0 with
      | running _ _ ready =>
        cases (ready _ rfl).1 with
        | rolling _ _ _ bare => exact bare member listed
    | _ => cases among
  | forkJoin children join =>
    obtain ⟨child, listed, rfl⟩ := List.mem_map.mp among
    cases leads.2 _ (List.mem_map_of_mem listed) with
    | created _ _ _ bare => exact bare
  | _ => cases among

private theorem calls_full (stands : Stands ⟨p, .running (some (.request q x))⟩)
    (pod : q.resource = .pod) :
    x.isPaired p = true ∨ Bare p ∧
      ((chainDynamics c g).apply (.request q x) p w).world.budget?
        ((chainDynamics c g).apply (.request q x) p w).packet = some (.fresh c.tuning) := by
  have applies : (chainDynamics c g).apply (.request q x) p w = _ := send_asks c q x p w
  cases stands with
  | running _ _ ready =>
    rcases (ready _ rfl).2 with paired | bare | ⟨_, domain⟩
    · exact .inl paired
    · rw [applies]
      exact .inr ⟨bare, asked_full bare.budget⟩
    · exact absurd (pod.symm.trans domain) (by decide)

private theorem pages_full {y : Exchange ε (Step ε)} {b : RetryBudget}
    (stands : Stands ⟨p, .running (some (.response x))⟩)
    (held : w.budget? p = some b) (tuned : b.tuning = c.tuning)
    (applies : (chainDynamics c g).apply (.response x) p w = .of (.next (.request q y)) p' w')
    (again : y.isPaired p' = true) : w'.budget? p' = some (.fresh c.tuning) := by
  cases stands with
  | running _ _ ready => cases (ready _ rfl).1
  | told _ r x answer engaged told =>
    obtain ⟨verdict, seen, w₁, applies', settles, kept, spends⟩ := response_settles (c := c) (g := g)
      (w := w) (q := r) 0 (clean_exchange engaged.clean).1 told engaged.paired
    have seen := handled engaged kept
    injection applies'.symm.trans applies with outcome packet world
    injection outcome with action
    subst packet world
    cases verdict with
    | resend wait =>
      cases wait with
      | some wait => cases action
      | none =>
        obtain ⟨f, budgets, _, reset⟩ := spends
        obtain ⟨place, has, there⟩ := Option.bind_eq_some_iff.mp held
        rw [Worlds.budgets_modify_budget, reset rfl] at budgets
        simp only [budget_remove, has, Option.elim_some] at budgets
        simp [World.budget?, Exchange.tidy, seen.budget, has, budgets, there, RetryBudget.reset,
          tuned]
    | reroute | proceed =>
      cases again.symm.trans (valueless_unpaired (tidied seen.gone (by rintro _ ⟨⟩)))

private theorem secluded_sealed (secluded : Secluded c m) : Sealed c g m where
  steps i p step found apart := steps_bare (secluded.stands i _ found) apart
  rereads i p left next found := by
    cases secluded.stands i _ found with
    | running _ _ ready => exact (ready _ rfl).2
  copies i p step found :=
    copies_bare ((step_does (w := m.world) (secluded.stands i _ found)).leads step)
  created i p step found := by
    cases secluded.stands i _ found with
    | created _ _ _ bare => exact bare
  calls i p q x found pod := calls_full (secluded.stands i _ found) pod
  pages i p x q y p' w' found applies again := by
    have stands := secluded.stands i _ found
    have funded : p.budget.isSome = true := by
      cases stands with
      | running _ _ ready => cases (ready _ rfl).1
      | told _ _ _ _ engaged => exact engaged.funded
    obtain ⟨place, has⟩ := Option.isSome_iff_exists.mp funded
    have within := secluded.known i _ place found has
    refine pages_full stands (b := m.world.budgets[place]) ?_ ?_ applies again
    · simp [World.budget?, has, within]
    · exact secluded.tuned _ (List.getElem_mem within)
  apart := secluded.apart

/-- Whatever calls are answered and in whatever order fibers move, what an exchange keeps for itself
never leaks out of it: packets are bare whenever a step is applied that takes no part in exchanges
and whenever they are copied for other fibers. So calls for pods start with a full budget, and no
two fibers share one. -/
theorem call_state_never_leaks {start : ChainMachine ε} (nobody : start.fibers = [])
    (tuned : Tuned c start.world) (ran : Relation.ReflTransGen (Unfolds c g) start m) :
    Sealed c g m := by
  have secluded : Secluded c m := by
    induction ran with
    | refl =>
      have none (i : FiberId) : start.fiber? i = none := by simp [Machine.fiber?, nobody]
      refine ⟨fun i f found => ?_, tuned, fun i f b found => ?_, fun i j f f' b found => ?_⟩
      all_goals cases (none i).symm.trans found
    | tail _ unfolds ih => exact secluded_unfolds ih unfolds
  exact secluded_sealed secluded

/-! ## A pod on the second page -/

/-- A domain that wants its pods to be of the second restart version. -/
def paged : Domain :=
  { metadata := { name := some "d", namespaceName := some "ns" }
    spec := { restartVersion := some "2" } }

/-- The last page of its pods, with one that is out of date. -/
def lastPage : Response :=
  .list { items := [
    { types := some ⟨"v1", "Pod"⟩
      metadata :=
        { name := some "d-ms1", uid := some "u1"
          labels := some (({} : NameMap String).insert Label.serverName "ms1") } }] }

private theorem runs {m m' : ChainMachine Empty}
    (moved : m.move? (chainDynamics {} .nobody) i .run = some m') : Unfolds {} .nobody m m' :=
  .moves i .run m' (proper_of_no_answer fun _ _ same => nomatch same) moved

private theorem told {m m' : ChainMachine Empty} (r : Response)
    (moved : m.move? (chainDynamics {} .nobody) i (.answer (.response r)) = some m') :
    Unfolds {} .nobody m m' :=
  .moves i _ m' (proper_of_response i r) moved

/-- The pods are listed page by page and rolled, and the fiber of the roll has forked that of a
restart. -/
private theorem paged_runs : ∃ m : ChainMachine Empty,
    Relation.ReflTransGen (Unfolds {} .nobody) (⟨[], {}⟩ : ChainMachine Empty) m ∧
      m.fibers.length = 3 := by
  refine ⟨?m, ?rolls, ?_⟩
  case rolls =>
    refine .head (.reconciles paged _ _ _ _ rfl) ?_
    refine .head (runs (i := 0) rfl) ?_
    refine .head (runs (i := 0) rfl) ?_
    refine .head (told (i := 0) (.list { continueToken := some "more" }) rfl) ?_
    refine .head (runs (i := 0) rfl) ?_
    refine .head (runs (i := 0) rfl) ?_
    refine .head (told (i := 0) lastPage rfl) ?_
    refine .head (runs (i := 0) rfl) ?_
    refine .head (runs (i := 0) rfl) ?_
    refine .head (runs (i := 0) rfl) ?_
    refine .head (runs (i := 1) rfl) ?_
    refine .head (runs (i := 1) rfl) ?_
    exact .refl
  rfl

/-- Whatever the pages have left is gone when the restart begins. -/
theorem paged_restart_begins_bare : ∃ m : ChainMachine Empty,
    Tuned {} (⟨[], {}⟩ : ChainMachine Empty).world ∧
      Relation.ReflTransGen (Unfolds {} .nobody) (⟨[], {}⟩ : ChainMachine Empty) m ∧
      m.fibers.length = 3 ∧ Sealed {} .nobody m := by
  obtain ⟨m, ran, three⟩ := paged_runs
  have tuned : Tuned {} (⟨[], {}⟩ : ChainMachine Empty).world := fun b among => nomatch among
  exact ⟨m, tuned, ran, three, call_state_never_leaks rfl tuned ran⟩

end DomainSteward.Seclusion
