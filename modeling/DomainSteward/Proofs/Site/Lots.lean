import DomainSteward.Proofs.Roll.Anatomy
import DomainSteward.Proofs.Site.Stage

/-! A roll under way at a site: every server of the presence has its lot, which
is to be left alone, to wait for its restart, or to be in some stage of it.
Whatever happens at the site keeps it so. -/
namespace DomainSteward.Lots
open Machine Moves RollSteps Ledger Anatomy Exchanges Sites Restarts Stages

variable {ε : Type}

/-- Every pod of a presence has a name of its own and says which server it
runs. -/
structure WellNamed (presence : Presence) : Prop where
  serves : ∀ server pod, presence.pod? server = some pod → pod.serverName? = some server
  named : ∀ server pod, presence.pod? server = some pod → pod.metadata.name ≠ none
  apart : ∀ server pod other pod', presence.pod? server = some pod →
    presence.pod? other = some pod' → pod.metadata.name = pod'.metadata.name → server = other

/-- The roll that a mandate asks for. -/
def plan (t : Mandate ε) : Plan ε where
  packet := t.packet
  members := (workOf t.sink t.presence t.version t.packet).entries
  next := t.next

/-- The servers whose restart is due. -/
def due (t : Mandate ε) : List (String × Option String) := t.presence.serversToRoll t.version

variable {t : Mandate ε} {server : String} {old : Pod} {name : String}

theorem mem_due :
    (server, cluster) ∈ due t ↔ ∃ old, t.presence.pod? server = some old ∧
      old.restartVersion? ≠ some t.version ∧ old.clusterName? = cluster := by
  simp only [due, Presence.serversToRoll, List.mem_map, List.mem_filter, decide_eq_true_eq,
    Prod.exists, Prod.mk.injEq]
  constructor
  · rintro ⟨_, old, ⟨entry, outdated⟩, rfl, same⟩
    exact ⟨old, NameMaps.mem_entries.mp entry, outdated, same⟩
  · rintro ⟨old, held, outdated, same⟩
    exact ⟨server, old, ⟨NameMaps.mem_entries.mpr held, outdated⟩, rfl, same⟩

/-- What the work of a roll is made from: every server that is due, with its
chain. -/
private theorem work_found (t : Mandate ε) {m : Member ε}
    (among : m ∈ (due t).filterMap (fun (server, cluster) =>
      (restartServer? t.sink t.presence server t.version none).map (fun chain =>
        (server, chain, memberPacket t.packet server cluster)))) :
    ∃ old, t.presence.pod? m.1 = some old ∧ old.restartVersion? ≠ some t.version ∧
      m.2 = (t.chain m.1 old, memberPacket t.packet m.1 old.clusterName?) := by
  obtain ⟨⟨server, cluster⟩, isDue, found⟩ := List.mem_filterMap.mp among
  obtain ⟨old, held, outdated, rfl⟩ := mem_due.mp isDue
  simp only [restart_server, held, Option.map_some, Option.some.injEq] at found
  subst found
  exact ⟨old, held, outdated, rfl⟩

/-- Every member of a roll is a server that is due, with its chain. -/
theorem member_due {m : Member ε} (among : m ∈ (plan t).members) :
    ∃ old, t.presence.pod? m.1 = some old ∧ old.restartVersion? ≠ some t.version ∧
      m.2 = (t.chain m.1 old, memberPacket t.packet m.1 old.clusterName?) :=
  work_found t (NameMaps.mem_of_mem_ofList among)

/-- Every server that is due is a member of the roll. -/
theorem due_member (held : t.presence.pod? server = some old)
    (outdated : old.restartVersion? ≠ some t.version) : ∃ m ∈ (plan t).members, m.1 = server := by
  have isDue : (server, old.clusterName?) ∈ due t := mem_due.mpr ⟨old, held, outdated, rfl⟩
  have key : server ∈ (workOf (ε := ε) t.sink t.presence t.version t.packet).keys := by
    rw [workOf, NameMaps.mem_keys_ofList]
    refine List.mem_map.mpr
      ⟨(server, t.chain server old, memberPacket t.packet server old.clusterName?), ?_, rfl⟩
    refine List.mem_filterMap.mpr ⟨_, isDue, ?_⟩
    simp only [restart_server, held, Option.map_some]
  exact List.mem_map.mp key

/-- The restart of a server is due. -/
def IsDue (t : Mandate ε) (server : String) : Prop :=
  ∃ old, t.presence.pod? server = some old ∧ old.restartVersion? ≠ some t.version

theorem members_due : (∃ m ∈ (plan t).members, m.1 = server) ↔ IsDue t server := by
  constructor
  · rintro ⟨m, among, rfl⟩
    obtain ⟨old, held, outdated, _⟩ := member_due among
    exact ⟨old, held, outdated⟩
  · rintro ⟨old, held, outdated⟩
    exact due_member held outdated

theorem members_distinct (t : Mandate ε) : ((plan t).members.map (·.1)).Nodup :=
  NameMaps.keys_nodup _

/-- The packet of a chain works for the presence of the roll. -/
theorem member_presence (p : Packet) (server : String) (cluster : Option String) :
    (memberPacket p server cluster).presence = p.presence := by
  cases cluster <;> rfl

/-! ## Lots -/

/-- The trace of a pod at a site. -/
def traceOf (s : Site ε) (servers : NameMap Pod) (server name : String) : Trace where
  present := decide (name ∈ s.pods)
  leaving := decide (name ∈ s.leaving)
  held := servers.get? server
  made := s.made.filter (·.metadata.name = some name)
  calls := s.log.filter (·.name? = some name)

/-- The lot of a server whose pod has left a trace. -/
inductive Lot (t : Mandate ε) (r : Roll ε) (s : Site ε) (server : String) (old : Pod) :
    Trace → Prop where
  /-- It is left alone. -/
  | current (upToDate : old.restartVersion? = some t.version) : Lot t r s server old (untouched old)
  /-- Its restart is due and has not been forked. -/
  | due (outdated : old.restartVersion? ≠ some t.version)
      (nobody : ∀ chain ∈ r.chains, chain.member.1 ≠ server) : Lot t r s server old (untouched old)
  /-- Its restart is in some stage. -/
  | restarts (trace : Trace) (outdated : old.restartVersion? ≠ some t.version) (chain : Chain ε)
      (among : chain ∈ r.chains) (serves : chain.member.1 = server)
      (f : Fiber (Step ε) Packet (Pending ε)) (found : s.machine.fiber? chain.id = some f)
      (stage : Stage t server old trace (decide (chain.id ∈ s.carried))
        (decide (chain.id ∈ r.begun)) f) : Lot t r s server old trace

/-- What an opened roll has reported so far, latest first. -/
def closing : Progress → List DomainEvent
  | .closed => [.rollCompleted]
  | _ => []

/-- A roll has been announced, and then every restart by its first step. -/
structure Reported (t : Mandate ε) (r : Roll ε) (before events : List DomainEvent)
    (message : String) (started : List String) : Prop where
  events : events = closing r.progress ++ started.map t.reported ++ [.rollStarting message] ++ before
  once : started.Nodup
  begun : ∀ server, server ∈ started ↔ ∃ chain ∈ r.chains, chain.member.1 = server ∧
    chain.id ∈ r.begun

/-- An opened roll at a site, with the pods of its presence. -/
structure Sound (t : Mandate ε) (before : List DomainEvent) (r : Roll ε) (s : Site ε)
    (ready : NameSet) (servers : NameMap Pod) (events : List DomainEvent) : Prop where
  machine : r.machine = s.machine
  head : r.head = 0
  opened : Opened (plan t) ready r
  covered : ∀ i, i < s.machine.fibers.length → i ∈ r.ids
  seen : sight? t.id s.machine.world = some ⟨servers, some t.domain, events, false⟩
  lots : ∀ server old name, t.presence.pod? server = some old → old.metadata.name = some name →
    Lot t r s server old (traceOf s servers server name)
  /-- Every pod has the name of the pod that the server had before. -/
  holds : ∀ server pod, servers.get? server = some pod →
    ∃ old, t.presence.pod? server = some old ∧ pod.metadata.name = old.metadata.name
  bodies : ∀ body ∈ s.made, ∃ server old, t.presence.pod? server = some old ∧ body = t.body old
  logged : ∀ q ∈ s.log, ∃ server old, t.presence.pod? server = some old ∧
    (q = t.deleteCall old ∨ q = t.createCall old)
  within : (∀ i ∈ s.carried, i < s.machine.fibers.length) ∧
    ∀ i ∈ r.begun, i < s.machine.fibers.length
  reported : ∃ message started, Reported t r before events message started
  handed : r.progress = .closed → HandedOver t.next s

variable {c : Conduct} {g : GuestRules ε} {r r' : Roll ε} {s s' : Site ε} {ready : NameSet}
  {servers servers' : NameMap Pod} {before events : List DomainEvent} {i : FiberId} {p : Packet}
  {q : Request} {andThen : Option (Step ε)} {trace : Trace} {move : Move Answer}
  {after : ChainMachine ε}

/-! ## What a sound roll says of its fibers -/

theorem chain_not_first (sound : Sound t before r s ready servers events) {chain : Chain ε}
    (among : chain ∈ r.chains) : chain.id ≠ 0 := by
  rw [← sound.head]
  exact chain_not_head sound.opened among

theorem gate_not_first (sound : Sound t before r s ready servers events)
    {gate : FiberId × Option String} (member : gate ∈ r.gates) : gate.1 ≠ 0 := by
  rw [← sound.head]
  exact gate_not_head sound.opened member

theorem other_chain (sound : Sound t before r s ready servers events)
    {chain other : Chain ε} (among : chain ∈ r.chains) (among' : other ∈ r.chains)
    (different : other.member.1 ≠ chain.member.1) : other.id ≠ chain.id :=
  fun same => different (congrArg (·.member.1) (chain_of_id sound.opened among among' same))

/-- Every fiber is the head, a gate or a chain. -/
theorem whose_fiber (sound : Sound t before r s ready servers events)
    (within : i < s.machine.fibers.length) :
    i = 0 ∨ (∃ gate ∈ r.gates, gate.1 = i) ∨ ∃ chain ∈ r.chains, chain.id = i := by
  have listed := sound.covered i within
  simp only [Roll.ids, List.cons_append, List.mem_cons, List.mem_append, List.mem_map] at listed
  rcases listed with isHead | isGate | isChain
  · exact .inl (isHead.trans sound.head)
  · exact .inr (.inl isGate)
  · exact .inr (.inr isChain)

/-- A move at the site is one of the roll. -/
theorem happens_to_roll (sound : Sound t before r s ready servers events)
    (moved : s.machine.move? (chainDynamics c g) i move = some after) :
    happen? (chainDynamics c g) r.machine (.move i move) = some after := by
  rw [happen?, sound.machine]
  exact moved

/-- Every move at the site can be followed, and the roll stays opened. -/
theorem roll_follows (sound : Sound t before r s ready servers events)
    (moved : s.machine.move? (chainDynamics c g) i move = some after) :
    ∃ r', r.follow? c g (.move i move) = some r' ∧ r'.machine = after ∧
      Opened (plan t) ready r' := by
  have happened := happens_to_roll sound moved
  obtain ⟨r', follows⟩ : ∃ r', r.follow? c g (.move i move) = some r' := by
    rw [Roll.follow?, happened]
    exact ⟨_, rfl⟩
  have machine := Option.some.inj ((follow_machine follows).symm.trans happened)
  exact ⟨r', follows, machine, opened_follow sound.opened follows⟩

/-- A head that has handed over has done so for good. -/
theorem handed_stays (sound : Sound t before r s ready servers events) (other : i ≠ 0)
    (moved : s.machine.move? (chainDynamics c g) i move = some after)
    (closed : r.progress = .closed) : HandedOver t.next { s with machine := after } := by
  obtain ⟨p, head⟩ := sound.handed closed
  exact ⟨p, others_stay moved (Ne.symm other) head⟩

/-! ## What is kept -/

/-- A lot is a matter of the trace and of the chain of the server alone. -/
theorem lot_kept (lot : Lot t r s server old trace)
    (chains : ∀ chain, chain.member.1 = server → (chain ∈ r'.chains ↔ chain ∈ r.chains))
    (stays : ∀ chain ∈ r.chains, chain.member.1 = server → ∀ f,
      s.machine.fiber? chain.id = some f → s'.machine.fiber? chain.id = some f ∧
        (chain.id ∈ s'.carried ↔ chain.id ∈ s.carried) ∧
        (chain.id ∈ r'.begun ↔ chain.id ∈ r.begun)) : Lot t r' s' server old trace := by
  cases lot with
  | current upToDate => exact .current upToDate
  | due outdated nobody =>
    refine .due outdated ?_
    intro chain among serves
    exact nobody chain ((chains chain serves).mp among) serves
  | restarts trace outdated chain among serves f found stage =>
    obtain ⟨found', carried, begun⟩ := stays chain among serves f found
    refine .restarts trace outdated chain ((chains chain serves).mpr among) serves f found' ?_
    simp only [carried, begun]
    exact stage

/-- Chains that have not begun change nothing of what was reported. -/
theorem reported_grown {new : List (Chain ε)}
    (told : ∃ message started, Reported t r before events message started)
    (progress : r'.progress = r.progress) (chains : r'.chains = r.chains ++ new)
    (begun : ∀ chain ∈ r.chains, chain.id ∈ r'.begun ↔ chain.id ∈ r.begun)
    (idle : ∀ chain ∈ new, chain.id ∉ r'.begun) :
    ∃ message started, Reported t r' before events message started := by
  obtain ⟨message, started, reported⟩ := told
  refine ⟨message, started, ?_, reported.once, fun server => ?_⟩
  · rw [progress]
    exact reported.events
  · rw [reported.begun server, chains]
    constructor
    · rintro ⟨chain, among, serves, early⟩
      exact ⟨chain, List.mem_append_left _ among, serves, (begun chain among).mpr early⟩
    · rintro ⟨chain, among, serves, early⟩
      rcases List.mem_append.mp among with among | among
      · exact ⟨chain, among, serves, (begun chain among).mp early⟩
      · exact absurd early (idle chain among)

theorem reported_kept (told : ∃ message started, Reported t r before events message started)
    (progress : r'.progress = r.progress) (chains : r'.chains = r.chains)
    (begun : ∀ chain ∈ r.chains, chain.id ∈ r'.begun ↔ chain.id ∈ r.begun) :
    ∃ message started, Reported t r' before events message started :=
  reported_grown told progress (chains.trans (List.append_nil _).symm) begun
    (fun _ among => absurd among List.not_mem_nil)

/-- The chain of a member of a roll and the pod that it replaces. -/
theorem chain_due (opened : Opened (plan t) ready r) {chain : Chain ε} (among : chain ∈ r.chains) :
    ∃ old, t.presence.pod? chain.member.1 = some old ∧ old.restartVersion? ≠ some t.version ∧
      chain.member.2 =
        (t.chain chain.member.1 old, memberPacket t.packet chain.member.1 old.clusterName?) :=
  member_due (List.mem_filter.mp (chain_in_bucket opened among)).1

/-- A chain of a sound roll is in a stage. -/
theorem chain_stage (wellNamed : WellNamed t.presence)
    (sound : Sound t before r s ready servers events) {chain : Chain ε} (among : chain ∈ r.chains) :
    ∃ old name f, t.presence.pod? chain.member.1 = some old ∧ old.metadata.name = some name ∧
      old.restartVersion? ≠ some t.version ∧ s.machine.fiber? chain.id = some f ∧
      Stage t chain.member.1 old (traceOf s servers chain.member.1 name)
        (decide (chain.id ∈ s.carried)) (decide (chain.id ∈ r.begun)) f := by
  obtain ⟨old, held, outdated, _⟩ := chain_due sound.opened among
  obtain ⟨name, named⟩ := Option.ne_none_iff_exists'.mp (wellNamed.named _ old held)
  have lot := sound.lots _ old name held named
  refine ⟨old, name, ?_⟩
  generalize traceOf s servers chain.member.1 name = trace at lot
  cases lot with
  | current upToDate => exact absurd upToDate outdated
  | due _ nobody => exact absurd rfl (nobody chain among)
  | restarts _ _ other among' serves f found stage =>
    have same := one_chain_a_server sound.opened (members_distinct t) among' among serves
    subst same
    exact ⟨f, held, named, outdated, found, stage⟩

/-- Only a restart waits for the answer to a call. -/
theorem caller_is_chain (sound : Sound t before r s ready servers events)
    (waits : s.machine.fiber? i = some ⟨p, .waiting (.call q) andThen⟩) :
    ∃ chain ∈ r.chains, chain.id = i := by
  have within : i < s.machine.fibers.length := (List.getElem?_eq_some_iff.mp waits).1
  have waits' : r.machine.fiber? i = some ⟨p, .waiting (.call q) andThen⟩ := by
    rw [sound.machine]
    exact waits
  rcases whose_fiber sound within with isHead | ⟨gate, member, rfl⟩ | isChain
  · have head := sound.opened.head
    rw [sound.head, ← isHead] at head
    generalize progress : r.progress = stand at head
    cases head with
    | waits found | closing found _ | failed _ _ found => cases found.symm.trans waits'
    | closed =>
      obtain ⟨_, found⟩ := sound.handed progress
      rw [isHead, found] at waits
      rcases stands_at_shape (κ := Pending ε) t.next with gone | ⟨_, _, gone⟩
      · rw [gone] at waits
        cases waits
      · rw [gone] at waits
        cases waits
  · obtain ⟨_, phase, found, never⟩ := gate_phase (sound.opened.gates gate member)
    cases found.symm.trans waits'
    exact absurd rfl (never _ _)
  · exact isChain

/-- What concerns the pod of one server leaves all other lots as they are. -/
theorem lots_but_one (wellNamed : WellNamed t.presence)
    (sound : Sound t before r s ready servers events) (held : t.presence.pod? server = some old)
    (named : old.metadata.name = some name)
    (own : Lot t r' s' server old (traceOf s' servers' server name))
    (foreign : ∀ other name', other ≠ server → name' ≠ name →
      traceOf s' servers' other name' = traceOf s servers other name')
    (chains : ∀ chain, chain.member.1 ≠ server → (chain ∈ r'.chains ↔ chain ∈ r.chains))
    (stays : ∀ chain ∈ r.chains, chain.member.1 ≠ server → ∀ f,
      s.machine.fiber? chain.id = some f → s'.machine.fiber? chain.id = some f ∧
        (chain.id ∈ s'.carried ↔ chain.id ∈ s.carried) ∧
        (chain.id ∈ r'.begun ↔ chain.id ∈ r.begun)) :
    ∀ server old name, t.presence.pod? server = some old → old.metadata.name = some name →
      Lot t r' s' server old (traceOf s' servers' server name) := by
  intro other old' name' held' named'
  by_cases same : other = server
  · subst same
    cases held.symm.trans held'
    cases named.symm.trans named'
    exact own
  · have different : name' ≠ name := by
      rintro rfl
      exact same (wellNamed.apart _ _ _ _ held' held (named'.trans named.symm))
    rw [foreign other name' same different]
    refine lot_kept (sound.lots other old' name' held' named') ?_ ?_
    · intro chain serves
      exact chains chain (fun owns => same (serves.symm.trans owns))
    · intro chain among serves
      exact stays chain among (fun owns => same (serves.symm.trans owns))

theorem best_name {m : ObjectMeta} (named : m.name = some name) : m.bestName = name := by
  rw [ObjectMeta.bestName, named]
  rfl

/-! ## What the server does -/

/-- The server carries a deletion out. -/
theorem sound_deletes {grace : Option UInt32} {name : String}
    (wellNamed : WellNamed t.presence) (sound : Sound t before r s ready servers events)
    (waits : s.machine.fiber? i = some ⟨p, .waiting (.call q) andThen⟩)
    (asks : q.operation = .delete name grace) (idle : i ∉ s.carried) :
    Sound t before r
      { s with
        pods := s.pods.filter (· ≠ name)
        leaving := name :: s.leaving
        carried := i :: s.carried }
      ready servers events := by
  obtain ⟨chain, among, rfl⟩ := caller_is_chain sound waits
  obtain ⟨old, named, f, held, isNamed, outdated, found, stage⟩ :=
    chain_stage wellNamed sound among
  cases found.symm.trans waits
  rw [decide_eq_false idle] at stage
  obtain ⟨rfl, stage⟩ := stage_deletes stage asks
  have same : named = name := by
    cases asks
    exact (best_name isNamed).symm
  subst same
  have within : chain.id < s.machine.fibers.length := (List.getElem?_eq_some_iff.mp waits).1
  refine ⟨sound.machine, sound.head, sound.opened, sound.covered, sound.seen, ?_, sound.holds,
    sound.bodies, sound.logged, ⟨?_, sound.within.2⟩, sound.reported, sound.handed⟩
  · refine lots_but_one wellNamed sound held isNamed ?_ ?_ (fun _ _ => Iff.rfl) ?_
    · refine .restarts _ outdated chain among rfl _ waits ?_
      have trace : traceOf { s with
          pods := s.pods.filter (· ≠ named)
          leaving := named :: s.leaving
          carried := chain.id :: s.carried } servers chain.member.1 named =
          { traceOf s servers chain.member.1 named with present := false, leaving := true } := by
        simp [traceOf]
      rw [trace, decide_eq_true List.mem_cons_self]
      exact stage
    · intro other name' _ different
      simp [traceOf, different]
    · intro other among' foreign f found
      have apart := other_chain sound among among' foreign
      exact ⟨found, by simp [apart], Iff.rfl⟩
  · intro j carried
    rcases List.mem_cons.mp carried with rfl | carried
    · exact within
    · exact sound.within.1 j carried

/-- The server makes a pod. -/
theorem sound_creates {body : ApiObject} {name : String} (wellNamed : WellNamed t.presence)
    (sound : Sound t before r s ready servers events)
    (waits : s.machine.fiber? i = some ⟨p, .waiting (.call q) andThen⟩)
    (asks : q.operation = .create body) (isNamed : body.metadata.name = some name)
    (idle : i ∉ s.carried) :
    Sound t before r
      { s with
        pods := name :: s.pods
        made := body :: s.made
        carried := i :: s.carried }
      ready servers events := by
  obtain ⟨chain, among, rfl⟩ := caller_is_chain sound waits
  obtain ⟨old, named, f, held, isNamed', outdated, found, stage⟩ :=
    chain_stage wellNamed sound among
  cases found.symm.trans waits
  rw [decide_eq_false idle] at stage
  obtain ⟨rfl, rfl, stage⟩ := stage_creates stage asks
  have same : named = name := Option.some.inj (isNamed'.symm.trans isNamed)
  subst same
  have within : chain.id < s.machine.fibers.length := (List.getElem?_eq_some_iff.mp waits).1
  refine ⟨sound.machine, sound.head, sound.opened, sound.covered, sound.seen, ?_, sound.holds,
    ?_, sound.logged, ⟨?_, sound.within.2⟩, sound.reported, sound.handed⟩
  · refine lots_but_one wellNamed sound held isNamed' ?_ ?_ (fun _ _ => Iff.rfl) ?_
    · refine .restarts _ outdated chain among rfl _ waits ?_
      have trace : traceOf { s with
          pods := named :: s.pods
          made := t.body old :: s.made
          carried := chain.id :: s.carried } servers chain.member.1 named =
          { traceOf s servers chain.member.1 named with
            present := true
            made := t.body old :: (traceOf s servers chain.member.1 named).made } := by
        simp [traceOf, isNamed]
      rw [trace, decide_eq_true List.mem_cons_self]
      exact stage
    · intro other name' _ different
      simp [traceOf, different, isNamed, Ne.symm different]
    · intro other among' foreign f found
      have apart := other_chain sound among among' foreign
      exact ⟨found, by simp [apart], Iff.rfl⟩
  · intro made member
    rcases List.mem_cons.mp member with rfl | member
    · exact ⟨_, old, held, rfl⟩
    · exact sound.bodies made member
  · intro j carried
    rcases List.mem_cons.mp carried with rfl | carried
    · exact within
    · exact sound.within.1 j carried

/-- A call is answered: the fiber goes on with the answer, and nobody else
notices. -/
private theorem answer_unseen {response : Response} {after : ChainMachine ε}
    (sound : Sound t before r s ready servers events)
    (waits : s.machine.fiber? i = some ⟨p, .waiting (.call q) andThen⟩)
    (moved : s.machine.move? (chainDynamics c g) i (.answer (.response response)) = some after) :
    after.fiber? i = some ⟨p.put Packet.responseKey (.response response), .running andThen⟩ ∧
      sight? t.id after.world = some ⟨servers, some t.domain, events, false⟩ ∧
      after.fibers.length = s.machine.fibers.length := by
  have counted : (chainDynamics c g).receive (.call q) (.response response) s.machine.world =
      c.count (·.callMade q.operation.verb response.outcome) s.machine.world := rfl
  have seen : sight? t.id (c.count (·.callMade q.operation.verb response.outcome)
      s.machine.world) = some ⟨servers, some t.domain, events, false⟩ :=
    (sight_count _).trans sound.seen
  obtain ⟨_, _, _, _, _, goesOn⟩ := sight_known seen
  obtain ⟨f, found, shape⟩ := move_iff_moved.mp moved
  cases waits.symm.trans found
  cases shape with
  | cancel _ _ _ _ stopping =>
    have runs : World.isStopping ((chainDynamics c g).receive (.call q) (.response response)
        s.machine.world) = false := goesOn
    exact absurd (runs.symm.trans stopping) Bool.false_ne_true
  | answer => exact ⟨replace_fiber waits, seen, by simp [replace]⟩

/-- A call that is answered is answered as the stage of its restart has it. -/
private theorem replied {response : Response} {begun : Bool} (replies : Replies s i q response)
    (isNamed : old.metadata.name = some name)
    (stage : Stage t server old (traceOf s servers server name) (decide (i ∈ s.carried)) begun
      ⟨p, .waiting (.call q) andThen⟩) :
    Stage t server old
        { traceOf s servers server name with
          calls := (traceOf s servers server name).calls ++
            if response.isFailure then [] else [q] }
        false begun ⟨p.put Packet.responseKey (.response response), .running andThen⟩ ∧
      (response.isFailure = false → q = t.deleteCall old ∨ q = t.createCall old) := by
  generalize left : traceOf s servers server name = trace at stage ⊢
  cases replies with
  | done _ carried success truthful =>
    rw [decide_eq_true carried] at stage
    obtain ⟨call, stage⟩ := stage_succeeds stage success
      (fun body asks pod answer => truthful body asks pod answer)
    refine ⟨?_, fun _ => call⟩
    rw [success]
    exact stage
  | failed failure idle retryable =>
    rw [decide_eq_false idle] at stage
    refine ⟨?_, fun success => nomatch success⟩
    simp only [Response.isFailure, ↓reduceIte, List.append_nil]
    exact stage_refused stage retryable
  | missing failure absent grace idle asks notThere =>
    rw [decide_eq_false idle] at stage
    cases stage_calling stage with
    | delete =>
      cases asks
      rw [best_name isNamed] at notThere
      exact absurd (of_decide_eq_true (congrArg Trace.present left)) notThere
    | create => cases asks
  | taken failure body taken idle asks named there =>
    rw [decide_eq_false idle] at stage
    cases stage_calling stage with
    | delete => cases asks
    | create =>
      cases asks
      have same : taken = name := Option.some.inj (named.symm.trans isNamed)
      subst same
      rcases there with present | leaving
      · exact absurd present (of_decide_eq_false (congrArg Trace.present left))
      · exact absurd leaving (of_decide_eq_false (congrArg Trace.leaving left))

theorem call_named (call : q = t.deleteCall old ∨ q = t.createCall old)
    (isNamed : old.metadata.name = some name) : q.name? = some name := by
  rcases call with rfl | rfl
  · exact congrArg some (best_name isNamed)
  · exact isNamed

/-- The server answers a call. -/
theorem sound_answers {response : Response} {after : ChainMachine ε}
    (wellNamed : WellNamed t.presence) (sound : Sound t before r s ready servers events)
    (waits : s.machine.fiber? i = some ⟨p, .waiting (.call q) andThen⟩)
    (replies : Replies s i q response)
    (moved : s.machine.move? (chainDynamics c g) i (.answer (.response response)) = some after) :
    Sound t before { r with machine := after }
      { s with
        machine := after
        carried := s.carried.filter (· ≠ i)
        log := if response.isFailure then s.log else s.log ++ [q] }
      ready servers events := by
  obtain ⟨chain, among, rfl⟩ := caller_is_chain sound waits
  obtain ⟨old, name, f, held, isNamed, outdated, found, stage⟩ :=
    chain_stage wellNamed sound among
  cases found.symm.trans waits
  obtain ⟨stands, seen, length⟩ := answer_unseen sound waits moved
  obtain ⟨stage, call⟩ := replied replies isNamed stage
  have happened := happens_to_roll sound moved
  have opened := opened_follow sound.opened (follow_quiet happened rfl)
  have log : (if response.isFailure then s.log else s.log ++ [q]) =
      s.log ++ if response.isFailure then [] else [q] := by
    split <;> simp
  rw [log]
  refine ⟨rfl, sound.head, opened, ?_, seen, ?_, sound.holds, sound.bodies, ?_, ⟨?_, ?_⟩,
    reported_kept sound.reported rfl rfl (fun _ _ => Iff.rfl),
    handed_stays (r := r) sound (chain_not_first sound among) moved⟩
  · intro j within
    exact sound.covered j (length ▸ within)
  · refine lots_but_one wellNamed sound held isNamed ?_ ?_ (fun _ _ => Iff.rfl) ?_
    · refine .restarts _ outdated chain among rfl _ stands ?_
      have idle : chain.id ∉ s.carried.filter (· ≠ chain.id) := by simp
      have calls : (if response.isFailure then [] else [q]).filter (·.name? = some name) =
          if response.isFailure then [] else [q] := by
        cases success : response.isFailure with
        | true => rfl
        | false => simp [call_named (call success) isNamed]
      have trace : traceOf { s with
          machine := after
          carried := s.carried.filter (· ≠ chain.id)
          log := s.log ++ if response.isFailure then [] else [q] } servers chain.member.1 name =
          { traceOf s servers chain.member.1 name with
            calls := (traceOf s servers chain.member.1 name).calls ++
              if response.isFailure then [] else [q] } := by
        simp only [traceOf, List.filter_append, calls]
      rw [trace, decide_eq_false idle]
      exact stage
    · intro other name' _ different
      have none : (if response.isFailure then [] else [q]).filter (·.name? = some name') = [] := by
        cases success : response.isFailure with
        | true => rfl
        | false => simp [call_named (call success) isNamed, Ne.symm different]
      simp only [traceOf, List.filter_append, none, List.append_nil]
    · intro other among' foreign f found
      have apart := other_chain sound among among' foreign
      exact ⟨others_stay moved apart found, by simp [apart], Iff.rfl⟩
  · intro done member
    rcases List.mem_append.mp member with member | member
    · exact sound.logged done member
    · cases success : response.isFailure with
      | true =>
        rw [success] at member
        cases member
      | false =>
        rw [success] at member
        cases List.mem_singleton.mp member
        exact ⟨_, old, held, call success⟩
  · intro j carried
    rw [length]
    exact sound.within.1 j (List.mem_of_mem_filter carried)
  · intro j begun
    rw [length]
    exact sound.within.2 j begun

/-! ## What becomes known of the pods -/

theorem made_version {pod : Pod} (made : Made (t.body old) pod) :
    pod.restartVersion? = some t.version := by
  have labels : pod.metadata.labels =
      some ((old.metadata.labels.getD {}).insert Label.restartVersion t.version) := made.labels
  rw [Pod.restartVersion?, ObjectMeta.label?, labels, Option.bind_some, NameMap.get?_insert,
    if_pos rfl]

theorem made_serves {pod : Pod} (made : Made (t.body old) pod) :
    pod.serverName? = old.serverName? := by
  have labels : pod.metadata.labels =
      some ((old.metadata.labels.getD {}).insert Label.restartVersion t.version) := made.labels
  have other : Label.serverName ≠ Label.restartVersion := by decide
  rw [Pod.serverName?, ObjectMeta.label?, labels, Option.bind_some, NameMap.get?_insert,
    if_neg other, Pod.serverName?, ObjectMeta.label?]
  cases old.metadata.labels <;> rfl

theorem made_name {pod : Pod} (made : Made (t.body old) pod) :
    pod.metadata.name = old.metadata.name := made.name

/-- The world changes by itself. -/
private theorem sound_outside (c : Conduct) (g : GuestRules ε) {world : World}
    (leaving : List String) (sound : Sound t before r s ready servers events)
    (seen : sight? t.id world = some ⟨servers', some t.domain, events, false⟩)
    (lots : ∀ server old name, t.presence.pod? server = some old → old.metadata.name = some name →
      Lot t { r with machine := { s.machine with world } } { s.outside world with leaving } server
        old (traceOf { s.outside world with leaving } servers' server name))
    (holds : ∀ server pod, servers'.get? server = some pod →
      ∃ old, t.presence.pod? server = some old ∧ pod.metadata.name = old.metadata.name) :
    Sound t before { r with machine := { s.machine with world } }
      { s.outside world with leaving } ready servers' events := by
  have happened : happen? (chainDynamics c g) r.machine (.outside world) =
      some { s.machine with world } := by
    rw [happen?, sound.machine]
  have opened := opened_follow sound.opened (follow_quiet happened rfl)
  exact ⟨rfl, sound.head, opened, sound.covered, seen, lots, holds, sound.bodies, sound.logged,
    sound.within, reported_kept sound.reported rfl rfl (fun _ _ => Iff.rfl), sound.handed⟩

/-- Time passes. -/
theorem sound_waits (c : Conduct) (g : GuestRules ε)
    (sound : Sound t before r s ready servers events) (now : Nat) (stamp : String) :
    ∃ r', Sound t before r' (s.outside { s.machine.world with now, stamp }) ready servers events := by
  refine ⟨_, sound_outside c g _ sound sound.seen ?_ sound.holds⟩
  intro server old name held named
  exact lot_kept (sound.lots server old name held named) (fun _ _ => Iff.rfl)
    (fun _ _ _ _ found => ⟨found, Iff.rfl, Iff.rfl⟩)

/-- A pod that was deleted leaves the presence. -/
theorem sound_leaves (c : Conduct) (g : GuestRules ε) {now : Presence} {pod : Pod}
    (wellNamed : WellNamed t.presence) (sound : Sound t before r s ready servers events)
    (known : s.machine.world.presence? t.id = some now) (held : now.pod? server = some pod)
    (named : pod.metadata.name = some name) (deleted : name ∈ s.leaving) :
    ∃ r' servers', Sound t before r'
      { s.outside (s.machine.world.modifyPresence t.id (·.removePod server)) with
        leaving := s.leaving.filter (· ≠ name) } ready servers' events := by
  obtain ⟨_, known', same, _⟩ := sight_known sound.seen
  cases known.symm.trans known'
  have held : servers.get? server = some pod := by
    rw [← show now.servers = servers from same]
    exact held
  obtain ⟨old, before', sameName⟩ := sound.holds server pod held
  have isNamed : old.metadata.name = some name := sameName.symm.trans named
  have seen := sight_modify_servers (·.erase server) (f := (·.removePod server))
    (fun _ => ⟨rfl, rfl⟩) sound.seen
  refine ⟨_, servers.erase server, sound_outside c g _ sound seen ?_ ?_⟩
  · refine lots_but_one wellNamed sound before' isNamed ?_ ?_ (fun _ _ => Iff.rfl)
      (fun _ _ _ _ found => ⟨found, Iff.rfl, Iff.rfl⟩)
    · have trace : traceOf { s.outside (s.machine.world.modifyPresence t.id (·.removePod server)) with
          leaving := s.leaving.filter (· ≠ name) } (servers.erase server) server name =
          { traceOf s servers server name with leaving := false, held := none } := by
        have gone : (servers.erase server).get? server = none := by
          rw [NameMap.get?_erase, if_pos rfl]
        have left : decide (name ∈ s.leaving.filter (· ≠ name)) = false := by simp
        rw [traceOf, gone, left]
        rfl
      have leaving : (traceOf s servers server name).leaving = true := decide_eq_true deleted
      have lot := sound.lots server old name before' isNamed
      rw [trace]
      generalize traceOf s servers server name = trace at lot leaving ⊢
      cases lot with
      | current => cases leaving
      | due => cases leaving
      | restarts _ outdated chain among serves f found stage =>
        exact .restarts _ outdated chain among serves f found (stage_leaves stage leaving)
    · intro other name' foreign different
      have now : (servers.erase server).get? other = servers.get? other := by
        rw [NameMap.get?_erase, if_neg foreign]
      have leaving : decide (name' ∈ s.leaving.filter (· ≠ name)) = decide (name' ∈ s.leaving) := by
        simp [different]
      rw [traceOf, now, leaving]
      rfl
  · intro other pod' held'
    rw [NameMap.get?_erase] at held'
    split at held'
    · cases held'
    · exact sound.holds other pod' held'

/-- A pod that was made enters the presence. -/
theorem sound_enters (c : Conduct) (g : GuestRules ε) {body : ApiObject} {pod : Pod}
    (wellNamed : WellNamed t.presence) (sound : Sound t before r s ready servers events)
    (made : body ∈ s.made) (like : Made body pod) (serves : pod.serverName? = some server) :
    ∃ r' servers', Sound t before r'
      (s.outside (s.machine.world.modifyPresence t.id (·.setPod server pod))) ready servers'
      events := by
  obtain ⟨owner, old, held, rfl⟩ := sound.bodies body made
  obtain ⟨name, isNamed⟩ := Option.ne_none_iff_exists'.mp (wellNamed.named _ old held)
  have same : owner = server := by
    have own := (made_serves like).symm.trans serves
    exact Option.some.inj ((wellNamed.serves _ old held).symm.trans own)
  subst same
  have seen := sight_modify_servers (·.insert owner pod) (f := (·.setPod owner pod))
    (fun _ => ⟨rfl, rfl⟩) sound.seen
  refine ⟨_, servers.insert owner pod,
    sound_outside c g _ sound seen ?_ ?_⟩
  · refine lots_but_one wellNamed sound held isNamed ?_ ?_ (fun _ _ => Iff.rfl)
      (fun _ _ _ _ found => ⟨found, Iff.rfl, Iff.rfl⟩)
    · have trace : traceOf { s.outside (s.machine.world.modifyPresence t.id (·.setPod owner pod)) with
          leaving := s.leaving } (servers.insert owner pod) owner name =
          { traceOf s servers owner name with held := some pod } := by
        have now : (servers.insert owner pod).get? owner = some pod := by
          rw [NameMap.get?_insert, if_pos rfl]
        rw [traceOf, now]
        rfl
      have among : t.body old ∈ (traceOf s servers owner name).made := by
        refine List.mem_filter.mpr ⟨made, decide_eq_true ?_⟩
        exact isNamed
      have lot := sound.lots owner old name held isNamed
      rw [trace]
      generalize traceOf s servers owner name = trace at lot among ⊢
      cases lot with
      | current => cases among
      | due => cases among
      | restarts _ outdated chain among' serves f found stage =>
        exact .restarts _ outdated chain among' serves f found (stage_enters stage among like)
    · intro other name' foreign different
      have now : (servers.insert owner pod).get? other = servers.get? other := by
        rw [NameMap.get?_insert, if_neg foreign]
      rw [traceOf, now]
      rfl
  · intro other pod' held'
    rw [NameMap.get?_insert] at held'
    split at held'
    · rename_i isOwner
      subst isOwner
      cases held'
      exact ⟨old, held, made_name like⟩
    · exact sound.holds other pod' held'

end DomainSteward.Lots
