import DomainSteward.Proofs.Site.Upkeep

/-! A roll that ends successfully leaves no server out of date. It restarts
every server that was due, once and no other, and reports itself once. -/
namespace DomainSteward.Convergence
open Machine Moves RollSteps Ledger Anatomy Sites Restarts Stages Lots Upkeep

variable {ε : Type}

/-- A site where one fiber is to roll a presence if needed. The server has all
its pods. -/
structure Begins (t : Mandate ε) (s : Site ε) : Prop where
  fibers : s.machine.fibers = [⟨t.packet, .created (.rollIfNeeded t.sink t.next)⟩]
  known : s.machine.world.presence? t.id = some t.presence
  domain : t.presence.domain = some t.domain
  goesOn : s.machine.world.isStopping = false
  pods : ∀ server pod name, t.presence.pod? server = some pod →
    pod.metadata.name = some name → name ∈ s.pods
  nothing : s.leaving = [] ∧ s.made = [] ∧ s.carried = [] ∧ s.log = []

/-- What a roll leaves behind that has ended successfully. -/
structure Converged (t : Mandate ε) (start s : Site ε) : Prop where
  /-- The domain and the servers are the same, and no server is out of date. -/
  known : ∃ now, s.machine.world.presence? t.id = some now ∧ now.domain = some t.domain ∧
    now.serversToRoll t.version = [] ∧
    ∀ server, (now.pod? server).isSome = (t.presence.pod? server).isSome
  /-- The pod of a server that was due was deleted once and then made once; those
  of the others were not touched. -/
  calls : ∀ server pod, t.presence.pod? server = some pod →
    s.log.filter (·.name? = pod.metadata.name) =
      if pod.restartVersion? = some t.version then [] else [t.deleteCall pod, t.createCall pod]
  only : ∀ q ∈ s.log, ∃ server pod, t.presence.pod? server = some pod ∧
    q.name? = pod.metadata.name
  idle : due t = [] → rollEvents s.machine.world = rollEvents start.machine.world
  /-- Latest first: the roll was announced, every restart was reported, and the
  roll was closed. -/
  busy : due t ≠ [] → ∃ (message : String) (started : List String),
    rollEvents s.machine.world = .rollCompleted :: started.map t.reported ++
      .rollStarting message :: rollEvents start.machine.world ∧
    started.Perm ((due t).map (·.1))

variable {c : Conduct} {g : GuestRules ε} {t : Mandate ε} {start s s' : Site ε}
  {before : List DomainEvent} {move : Move Answer} {after : ChainMachine ε}
  {phase : Phase (Step ε) (Pending ε)}

/-! ## Before the roll opens -/

/-- Where the head stands before the roll is opened, or when there is none to
open. -/
inductive Early (t : Mandate ε) : Phase (Step ε) (Pending ε) → Prop where
  | created : Early t (.created (.rollIfNeeded t.sink t.next))
  | looks : Early t (.running (some (.rollIfNeeded t.sink t.next)))
  | opens (somebody : due t ≠ []) :
      Early t (.running (some (.rolling (plan t).members (plan t).next)))
  | complete (nobody : due t = []) : Early t (standsAt t.next)

/-- A site where nothing has been done yet. -/
structure Still (t : Mandate ε) (before : List DomainEvent) (s : Site ε)
    (phase : Phase (Step ε) (Pending ε)) : Prop where
  fibers : s.machine.fibers = [⟨t.packet, phase⟩]
  known : s.machine.world.presence? t.id = some t.presence
  domain : t.presence.domain = some t.domain
  events : rollEvents s.machine.world = before
  goesOn : s.machine.world.isStopping = false
  pods : ∀ server pod name, t.presence.pod? server = some pod →
    pod.metadata.name = some name → name ∈ s.pods
  nothing : s.leaving = [] ∧ s.made = [] ∧ s.carried = [] ∧ s.log = []

private theorem still_seen (still : Still t before s phase) :
    sight? t.id s.machine.world =
      some ⟨t.presence.servers, some t.domain, before, false⟩ := by
  rw [sight?, still.known, Option.map_some, still.domain, still.events, still.goesOn]

/-- The work is empty when nothing is due, and only then. -/
private theorem work_empty :
    (workOf (ε := ε) t.sink t.presence t.version t.packet).isEmpty = true ↔ due t = [] := by
  constructor
  · intro empty
    refine List.eq_nil_iff_forall_not_mem.mpr ?_
    rintro ⟨server, cluster⟩ isDue
    obtain ⟨old, held, outdated, _⟩ := mem_due.mp isDue
    obtain ⟨m, member, _⟩ := due_member held outdated
    have none : (plan t).members = [] := List.isEmpty_iff.mp empty
    rw [none] at member
    cases member
  · intro nobody
    have none : t.presence.serversToRoll t.version = [] := nobody
    rw [workOf, none]
    rfl

/-- A site stays still while nothing but the counters changes. -/
private theorem still_moves {phase' : Phase (Step ε) (Pending ε)}
    (still : Still t before s phase) (found : after.fiber? 0 = some ⟨t.packet, phase'⟩)
    (length : after.fibers.length = s.machine.fibers.length)
    (aside : Exchanges.Aside t.packet s.machine.world t.packet after.world) :
    Still t before { s with machine := after } phase' := by
  refine ⟨lone_after still.fibers found length, ?_, still.domain, ?_, ?_, still.pods,
    still.nothing⟩
  · rw [aside.known]
    exact still.known
  · show rollEvents after.world = before
    rw [rollEvents, aside.notes]
    exact still.events
  · exact aside.stopping.trans still.goesOn

/-- The head finds out whether there is anything to do. -/
private theorem head_looks (underWay : UnderWay t)
    (still : Still t before s (.running (some (.rollIfNeeded t.sink t.next))))
    (moved : s.machine.move? (chainDynamics c g) 0 .run = some after) :
    ∃ phase, Early t phase ∧ Still t before { s with machine := after } phase := by
  have found := lone_found still.fibers
  have applies : (chainDynamics c g).apply (.rollIfNeeded t.sink t.next) t.packet
      s.machine.world = _ :=
    roll_if_needed_found t.sink t.next underWay.works still.known still.domain
  by_cases empty : (workOf (ε := ε) t.sink t.presence t.version t.packet).isEmpty = true
  · have applies := applies.trans (if_pos empty)
    obtain ⟨stands, world, length⟩ := step_goes_on found moved applies
    refine ⟨_, .complete (work_empty.mp empty), still_moves still stands length ?_⟩
    rw [world]
    cases t.next with
    | none => exact .count
    | some step => exact .refl
  · have applies := applies.trans (if_neg empty)
    obtain ⟨stands, world, length⟩ := step_alone found moved applies rfl
    refine ⟨_, .opens (fun nobody => empty (work_empty.mpr nobody)),
      still_moves still stands length ?_⟩
    rw [world]
    exact .refl

/-- No pod has left a trace yet. -/
private theorem still_untouched (still : Still t before s phase) {server name : String} {old : Pod}
    (held : t.presence.pod? server = some old) (named : old.metadata.name = some name) :
    traceOf s t.presence.servers server name = untouched old := by
  obtain ⟨noLeaving, noMade, _, noLog⟩ := still.nothing
  have present := decide_eq_true (still.pods server old name held named)
  have holds : t.presence.servers.get? server = some old := held
  simp only [traceOf, untouched, present, holds, noLeaving, noMade, noLog, List.filter_nil,
    List.not_mem_nil, decide_false]

/-- The head opens the roll. -/
private theorem head_opens (underWay : UnderWay t)
    (still : Still t before s (.running (some (.rolling (plan t).members (plan t).next))))
    (moved : s.machine.move? (chainDynamics c g) 0 .run = some after) :
    ∃ r ready servers events,
      Sound t before r { s with machine := after } ready servers events := by
  have found := lone_found still.fibers
  have one : s.machine.fibers.length = 1 := by rw [still.fibers]; rfl
  obtain ⟨_, noMade, noCarried, noLog⟩ := still.nothing
  let r : Roll ε := { machine := s.machine, head := 0 }
  have unopened : Unopened (plan t) r := ⟨rfl, rfl, rfl, .inr found⟩
  have finds : r.machine.world.presenceOf? (plan t).packet = some t.presence :=
    presence_found underWay.works still.known
  have opened := opens_with_gates (c := c) (g := g) unopened finds found moved
  have noted : r.note after 0 (plan t).packet (.rolling (plan t).members (plan t).next) = _ :=
    note_rolling (r := r) rfl
  have opened : Opened (plan t) t.presence.readyServers
      (r.note after 0 (plan t).packet (.rolling (plan t).members (plan t).next)) := opened
  rw [noted] at opened
  have applies : (chainDynamics c g).apply (.rolling (plan t).members (plan t).next) (plan t).packet
      s.machine.world = _ :=
    rolling_found (plan t).members (plan t).next underWay.works still.known
  have taken := run_step found moved
  have applies' : (chainDynamics c g).apply (.rolling (plan t).members (plan t).next) t.packet
      s.machine.world = _ := applies
  rw [applies'] at taken
  obtain ⟨message, announced⟩ :=
    announce_does underWay.unmarked (still_seen still) ((plan t).members.map (·.1))
  have longer := length_le moved
  refine ⟨_, t.presence.readyServers, t.presence.servers, .rollStarting message :: before, rfl, rfl,
    opened, ?_, ?_, ?_, ?_, ?_, ?_, ⟨?_, ?_⟩, ⟨message, [], ?_⟩, ?_⟩
  · intro j within
    have gates : ((newborn s.machine after).zip
        ((after.fibers.drop s.machine.fibers.length).map bucketOf)).map (·.1) =
        newborn s.machine after := by
      refine List.map_fst_zip ?_
      simp [newborn]
    cases j with
    | zero => exact List.mem_append_left _ List.mem_cons_self
    | succ n =>
      refine List.mem_append_left _ (List.mem_cons_of_mem _ ?_)
      rw [gates]
      refine mem_newborn.mpr ⟨?_, within⟩
      rw [one]
      exact Nat.le_add_left 1 n
  · rw [taken]
    exact announced
  · intro server old name held named
    have trace : traceOf { s with machine := after } t.presence.servers server name =
        untouched old := still_untouched still held named
    rw [trace]
    by_cases upToDate : old.restartVersion? = some t.version
    · exact .current upToDate
    · exact .due upToDate (fun _ among => absurd among List.not_mem_nil)
  · intro server pod held
    exact ⟨pod, held, rfl⟩
  · intro body member
    rw [noMade] at member
    cases member
  · intro q member
    rw [noLog] at member
    cases member
  · intro i carried
    rw [noCarried] at carried
    cases carried
  · intro i begun
    rw [List.mem_singleton.mp begun]
    exact Nat.lt_of_lt_of_le (one ▸ Nat.one_pos) longer
  · refine ⟨rfl, List.nodup_nil, ?_⟩
    intro server
    constructor
    · intro member
      cases member
    · rintro ⟨chain, among, _⟩
      cases among
  · intro closed
    cases closed

/-! ## Runs -/

/-- How far the run of a roll has come: it has not been opened, or it is
sound. -/
inductive Stands (t : Mandate ε) (before : List DomainEvent) (s : Site ε) : Prop where
  | early (phase : Phase (Step ε) (Pending ε)) (stage : Early t phase)
      (still : Still t before s phase) : Stands t before s
  | opened (somebody : due t ≠ []) (r : Roll ε) (ready : NameSet) (servers : NameMap Pod)
      (events : List DomainEvent) (sound : Sound t before r s ready servers events) : Stands t before s

private theorem early_not_waiting (stage : Early t phase) {call : Pending ε}
    {andThen : Option (Step ε)} : phase ≠ .waiting call andThen := by
  rintro rfl
  generalize shape : (Phase.waiting call andThen : Phase (Step ε) (Pending ε)) = phase at stage
  cases stage with
  | created | looks | opens => cases shape
  | complete =>
    rcases stands_at_shape (κ := Pending ε) t.next with gone | ⟨_, _, gone⟩
    · rw [gone] at shape
      cases shape
    · rw [gone] at shape
      cases shape

/-- What happens before a roll is opened. -/
private theorem early_happens (underWay : UnderWay t) (stage : Early t phase)
    (still : Still t before s phase) (happens : Happens c g t.id t.next s s') :
    Stands t before s' := by
  have found := lone_found still.fibers
  obtain ⟨noLeaving, noMade, _, _⟩ := still.nothing
  have nobodyWaits {i : FiberId} {p : Packet} {call : Pending ε} {andThen : Option (Step ε)}
      (waits : s.machine.fiber? i = some ⟨p, .waiting call andThen⟩) : False := by
    have same := congrArg (·.phase) (lone_only still.fibers waits).2
    exact early_not_waiting stage same.symm
  cases happens with
  | moves i move after own busy moved =>
    obtain ⟨f, found', shape⟩ := move_iff_moved.mp moved
    obtain ⟨rfl, rfl⟩ := lone_only still.fibers found'
    cases stage with
    | created =>
      cases shape with
      | start =>
        refine .early _ .looks (still_moves still (replace_fiber found) (by simp [replace]) ?_)
        exact .count
    | looks =>
      cases shape with
      | step =>
        obtain ⟨phase, stage, still⟩ := head_looks underWay still moved
        exact .early phase stage still
    | opens somebody =>
      cases shape with
      | step =>
        obtain ⟨r, ready, servers, events, sound⟩ := head_opens underWay still moved
        exact .opened somebody r ready servers events sound
    | complete => exact absurd ⟨_, found⟩ (busy rfl)
  | deletes i p q andThen name grace waits => exact (nobodyWaits waits).elim
  | creates i p q andThen body name waits => exact (nobodyWaits waits).elim
  | answers i p q andThen response after waits => exact (nobodyWaits waits).elim
  | leaves now server pod name known held named deleted =>
    rw [noLeaving] at deleted
    cases deleted
  | enters body name pod server made =>
    rw [noMade] at made
    cases made
  | waits now stamp =>
    exact .early phase stage ⟨still.fibers, still.known, still.domain, still.events, still.goesOn,
      still.pods, still.nothing⟩

/-- Wherever a run has come to, the roll stands somewhere. -/
private theorem run_stands (underWay : UnderWay t) (begins : Begins t start)
    (ran : Relation.ReflTransGen (Happens c g t.id t.next) start s) :
    Stands t (rollEvents start.machine.world) s := by
  induction ran with
  | refl =>
    exact .early _ .created ⟨begins.fibers, begins.known, begins.domain, rfl, begins.goesOn,
      begins.pods, begins.nothing⟩
  | tail _ happens ih =>
    cases ih with
    | early phase stage still => exact early_happens underWay stage still happens
    | opened somebody r ready servers events sound =>
      obtain ⟨r', servers', events', sound'⟩ := sound_happens underWay sound happens
      exact .opened somebody r' ready servers' events' sound'

/-! ## The end -/

/-- No chain goes on with a step that has the chain's own rest within it. -/
private theorem not_handed {step : Step ε} (inner : step.next? = t.next)
    (smaller : ∀ next, step.next? = some next → sizeOf next < sizeOf step) :
    (Phase.running (some step) : Phase (Step ε) (Pending ε)) ≠ standsAt t.next := by
  intro same
  rcases stands_at_shape (κ := Pending ε) t.next with gone | ⟨follower, next, gone⟩
  · rw [gone] at same
    cases same
  · rw [gone] at same
    cases same
    exact Nat.lt_irrefl _ (smaller step (inner.trans next))

/-- A sound roll that has handed over is closed. -/
private theorem handed_closed {r : Roll ε} {ready : NameSet} {servers : NameMap Pod}
    {events : List DomainEvent} (sound : Sound t before r s ready servers events)
    (handed : HandedOver t.next s) : r.progress = .closed := by
  obtain ⟨p, found⟩ := handed
  rw [← sound.machine, ← sound.head] at found
  have shape := stands_at_shape (κ := Pending ε) t.next
  have head := sound.opened.head
  generalize progress : r.progress = stand at head
  cases head with
  | waits found' =>
    have same := congrArg (·.phase) (Option.some.inj (found'.symm.trans found))
    rcases shape with gone | ⟨_, _, gone⟩
    · cases same.trans gone
    · cases same.trans gone
  | closing found' =>
    have same := congrArg (·.phase) (Option.some.inj (found'.symm.trans found))
    refine absurd same (not_handed rfl ?_)
    intro next inner
    have inner : t.next = some next := inner
    simp only [plan, inner, Step.afterRoll.sizeOf_spec, Option.some.sizeOf_spec]
    omega
  | failed _ e found' =>
    have same := congrArg (·.phase) (Option.some.inj (found'.symm.trans found))
    rcases shape with gone | ⟨_, _, gone⟩
    · cases same.trans gone
    · cases same.trans gone
  | closed => rfl

variable {r : Roll ε} {ready : NameSet} {servers : NameMap Pod} {events : List DomainEvent}
  {server name : String} {old : Pod}

/-- A stage in which the fiber has succeeded is the last one. -/
private theorem succeeded_done {trace : Trace} {carried begun : Bool} {p : Packet}
    (stage : Stage t server old trace carried begun ⟨p, .ended none⟩) :
    begun = true ∧ ∃ pod, Made (t.body old) pod ∧
      trace = ⟨true, false, some pod, [t.body old], [t.deleteCall old, t.createCall old]⟩ := by
  cases stage with
  | fresh _ _ next => rcases next with next | next <;> cases next
  | deleting _ _ asks | creating _ _ asks => cases asks
  | removing _ _ _ _ _ awaits | starting _ _ _ _ awaits => cases awaits
  | done _ pod like => exact ⟨rfl, pod, like, rfl⟩

/-- Once a roll is closed every server that was due has been restarted. -/
private theorem due_restarted (sound : Sound t before r s ready servers events)
    (closed : r.progress = .closed) (held : t.presence.pod? server = some old)
    (named : old.metadata.name = some name) (outdated : old.restartVersion? ≠ some t.version) :
    (∃ chain ∈ r.chains, chain.member.1 = server ∧ chain.id ∈ r.begun) ∧
      ∃ pod, Made (t.body old) pod ∧ traceOf s servers server name =
        ⟨true, false, some pod, [t.body old], [t.deleteCall old, t.createCall old]⟩ := by
  have lot := sound.lots server old name held named
  generalize traceOf s servers server name = trace at lot ⊢
  cases lot with
  | current upToDate => exact absurd upToDate outdated
  | due _ nobody =>
    obtain ⟨m, member, serves⟩ := due_member held outdated
    obtain ⟨chain, among, rfl⟩ := closed_restarted sound.opened closed member
    exact absurd serves (nobody chain among)
  | restarts _ _ chain among serves f found stage =>
    obtain ⟨p, ended⟩ := closed_succeeded sound.opened closed among
    rw [sound.machine] at ended
    cases ended.symm.trans found
    obtain ⟨begun, pod, like, rfl⟩ := succeeded_done stage
    exact ⟨⟨chain, among, serves, of_decide_eq_true begun⟩, pod, like, rfl⟩

/-- The pod of a server that was not due is the one that was there. -/
private theorem current_kept (sound : Sound t before r s ready servers events)
    (held : t.presence.pod? server = some old) (named : old.metadata.name = some name)
    (upToDate : old.restartVersion? = some t.version) :
    traceOf s servers server name = untouched old := by
  have lot := sound.lots server old name held named
  generalize traceOf s servers server name = trace at lot ⊢
  cases lot with
  | current => rfl
  | due outdated => exact absurd upToDate outdated
  | restarts _ outdated => exact absurd upToDate outdated

private theorem due_distinct (t : Mandate ε) : ((due t).map (·.1)).Nodup := by
  have shape : (due t).map (·.1) = ((t.presence.servers.entries.filter
      (fun e => e.2.restartVersion? ≠ some t.version)).map (·.1)) := by
    simp [due, Presence.serversToRoll, Function.comp_def]
  rw [shape]
  exact (NameMaps.keys_nodup t.presence.servers).sublist (List.filter_sublist.map _)

/-- Once a roll is closed every server has a pod that is made for the version
of the roll. -/
private theorem closed_holds (sound : Sound t before r s ready servers events)
    (closed : r.progress = .closed) (held : t.presence.pod? server = some old)
    (named : old.metadata.name = some name) :
    ∃ pod, servers.get? server = some pod ∧ pod.restartVersion? = some t.version := by
  by_cases upToDate : old.restartVersion? = some t.version
  · have kept := congrArg Trace.held (current_kept sound held named upToDate)
    exact ⟨old, kept, upToDate⟩
  · obtain ⟨_, pod, like, trace⟩ := due_restarted sound closed held named upToDate
    exact ⟨pod, congrArg Trace.held trace, made_version like⟩

/-- Once a roll is closed the restarts it has reported are those that were
due. -/
private theorem closed_started (wellNamed : WellNamed t.presence) {message : String}
    {started : List String} (sound : Sound t before r s ready servers events)
    (closed : r.progress = .closed) (reported : Reported t r before events message started) :
    started.Perm ((due t).map (·.1)) := by
  refine (List.perm_ext_iff_of_nodup reported.once (due_distinct t)).mpr ?_
  intro server
  rw [reported.begun server]
  constructor
  · rintro ⟨chain, among, rfl, _⟩
    obtain ⟨old, held, outdated, _⟩ := chain_due sound.opened among
    exact List.mem_map.mpr ⟨_, mem_due.mpr ⟨old, held, outdated, rfl⟩, rfl⟩
  · intro isDue
    obtain ⟨⟨_, cluster⟩, member, rfl⟩ := List.mem_map.mp isDue
    obtain ⟨old, held, outdated, _⟩ := mem_due.mp member
    obtain ⟨name, named⟩ := Option.ne_none_iff_exists'.mp (wellNamed.named _ old held)
    exact (due_restarted sound closed held named outdated).1

/-- A roll that is closed has converged. -/
private theorem closed_converged (wellNamed : WellNamed t.presence)
    (sound : Sound t (rollEvents start.machine.world) r s ready servers events)
    (closed : r.progress = .closed) (somebody : due t ≠ []) : Converged t start s := by
  obtain ⟨now, known, same, domain, told, _⟩ := sight_known sound.seen
  have same : now.servers = servers := same
  have name? := fun server pod held =>
    Option.ne_none_iff_exists'.mp (wellNamed.named server pod held)
  refine ⟨⟨now, known, domain, ?_, ?_⟩, ?_, ?_, ?_, ?_⟩
  · refine List.map_eq_nil_iff.mpr (List.filter_eq_nil_iff.mpr ?_)
    rintro ⟨server, pod⟩ entry
    rw [same] at entry
    have held := NameMaps.mem_entries.mp entry
    obtain ⟨old, before, _⟩ := sound.holds server pod held
    obtain ⟨name, named⟩ := name? server old before
    obtain ⟨current, held', upToDate⟩ := closed_holds sound closed before named
    cases held.symm.trans held'
    simp [upToDate]
  · intro server
    rw [Presence.pod?, same]
    cases before : t.presence.pod? server with
    | none =>
      cases held : servers.get? server with
      | none => rfl
      | some pod =>
        obtain ⟨old, found, _⟩ := sound.holds server pod held
        cases before.symm.trans found
    | some old =>
      obtain ⟨name, named⟩ := name? server old before
      obtain ⟨pod, held, _⟩ := closed_holds sound closed before named
      rw [held]
      rfl
  · intro server pod before
    obtain ⟨name, named⟩ := name? server pod before
    rw [named]
    by_cases upToDate : pod.restartVersion? = some t.version
    · rw [if_pos upToDate]
      exact congrArg Trace.calls (current_kept sound before named upToDate)
    · obtain ⟨_, new, _, trace⟩ := due_restarted sound closed before named upToDate
      rw [if_neg upToDate]
      exact congrArg Trace.calls trace
  · intro q member
    obtain ⟨server, old, before, call⟩ := sound.logged q member
    obtain ⟨name, named⟩ := name? server old before
    exact ⟨server, old, before, (call_named call named).trans named.symm⟩
  · exact fun nobody => absurd nobody somebody
  · intro _
    obtain ⟨message, started, reported⟩ := sound.reported
    refine ⟨message, started, ?_, closed_started wellNamed sound closed reported⟩
    rw [told, reported.events, closed]
    simp [closing]

/-- A roll that finds nothing due has converged. -/
private theorem still_converged (still : Still t (rollEvents start.machine.world) s phase)
    (nobody : due t = []) : Converged t start s := by
  obtain ⟨_, _, _, noLog⟩ := still.nothing
  refine ⟨⟨t.presence, still.known, still.domain, nobody, fun _ => rfl⟩, ?_, ?_, fun _ => still.events,
    fun somebody => absurd nobody somebody⟩
  · intro server pod held
    have upToDate : pod.restartVersion? = some t.version := by
      by_contra outdated
      have isDue := mem_due.mpr ⟨pod, held, outdated, rfl⟩
      rw [nobody] at isDue
      cases isDue
    rw [noLog, if_pos upToDate]
    rfl
  · intro q member
    rw [noLog] at member
    cases member

/-- The first fiber has not handed over before the roll is opened. -/
private theorem early_handed (stage : Early t phase) (still : Still t before s phase)
    (handed : HandedOver t.next s) : due t = [] := by
  obtain ⟨p, found⟩ := handed
  have same := congrArg (·.phase) (lone_only still.fibers found).2
  have shape := stands_at_shape (κ := Pending ε) t.next
  generalize stands : standsAt t.next = last at same shape
  cases stage with
  | complete nobody => exact nobody
  | created =>
    rcases shape with gone | ⟨_, _, gone⟩
    · cases same.symm.trans gone
    · cases same.symm.trans gone
  | looks =>
    refine absurd (same.symm.trans stands.symm) (not_handed rfl ?_)
    intro next inner
    have inner : t.next = some next := inner
    simp only [inner, Step.rollIfNeeded.sizeOf_spec, Option.some.sizeOf_spec]
    omega
  | opens =>
    rcases shape with gone | ⟨step, next, gone⟩
    · cases same.symm.trans gone
    · have same : Step.rolling (plan t).members (plan t).next = step :=
        Option.some.inj (Phase.running.inj (same.symm.trans gone))
      have smaller := congrArg sizeOf same
      simp only [plan, next, Step.rolling.sizeOf_spec, Option.some.sizeOf_spec] at smaller
      omega

/-- A roll converges: once the fiber that was to roll has handed over, no server
is out of date, each server that was due was restarted once and no other one,
and the roll was announced before its restarts and closed after them. When it is
closed, all other fibers have succeeded. -/
theorem rolls_converge (underWay : UnderWay t) (begins : Begins t start)
    (ran : Relation.ReflTransGen (Happens c g t.id t.next) start s) :
    (∃ new, rollEvents s.machine.world = new ++ rollEvents start.machine.world ∧
      (.rollCompleted ∈ new → ∀ i, i ≠ 0 → i < s.machine.fibers.length →
        Succeeded s.machine i)) ∧
    (HandedOver t.next s → Converged t start s) := by
  cases run_stands underWay begins ran with
  | early phase stage still =>
    refine ⟨⟨[], still.events, fun among => nomatch among⟩, fun handed => ?_⟩
    exact still_converged still (early_handed stage still handed)
  | opened somebody r ready servers events sound =>
    obtain ⟨_, _, _, _, told, _⟩ := sight_known sound.seen
    obtain ⟨message, started, reported⟩ := sound.reported
    refine ⟨⟨closing r.progress ++ started.map t.reported ++ [.rollStarting message], ?_, ?_⟩,
      fun handed => ?_⟩
    · exact told.trans reported.events
    · intro completed i other within
      have closed : r.progress = .closed := by
        cases progress : r.progress with
        | closed => rfl
        | unopened | opened => simp [progress, closing, Mandate.reported] at completed
      rw [← sound.machine]
      rcases whose_fiber sound within with isHead | ⟨gate, member, rfl⟩ | ⟨chain, among, rfl⟩
      · exact absurd isHead other
      · exact closed_gates sound.opened closed member
      · exact closed_succeeded sound.opened closed among
    · exact closed_converged underWay.wellNamed sound (handed_closed sound handed) somebody

/-! ## A roll of one server -/

def loneOld : Pod :=
  { metadata :=
      { name := some "d-ms1", uid := some "u1"
        labels := some (({} : NameMap String).insert Label.serverName "ms1") } }

def lone : Presence :=
  { namespaceName := "ns", domainUid := "d", domain := some default
    servers := ({} : NameMap Pod).insert "ms1" loneOld }

def loneRoll : Mandate Empty :=
  { packet := { presence := some 0 }, id := 0, presence := lone, domain := default, sink := none
    next := none }

def loneStart : Site Empty :=
  { machine :=
      { fibers := [⟨loneRoll.packet, .created (.rollIfNeeded none none)⟩]
        world := { feed := { registry := { presences := [lone] } } } }
    pods := ["d-ms1"] }

/-- The new pod as the server answers with it. -/
def loneMade : ApiObject :=
  { loneRoll.body loneOld with
    metadata := { (loneRoll.body loneOld).metadata with uid := some "u2" } }

def loneNew : Pod := { metadata := loneMade.metadata }

def loneReady : Pod :=
  { loneNew with status := some { conditions := some [{ type := "Ready", status := "True" }] } }

private theorem lone_pod {pod : Pod} (held : lone.pod? server = some pod) :
    server = "ms1" ∧ pod = loneOld := by
  have inserted : lone.pod? server = if server = "ms1" then some loneOld else none :=
    NameMap.get?_insert _ "ms1" server loneOld
  rw [inserted] at held
  split at held
  · rename_i same
    exact ⟨same, (Option.some.inj held).symm⟩
  · cases held

private theorem lone_told {body : ApiObject} {pod : Pod}
    (asks : (loneRoll.createCall loneOld).operation = .create body)
    (told : Pod.ofObject? loneMade = some pod) : Made body pod := by
  cases asks
  have made : Pod.ofObject? loneMade = some loneNew := rfl
  cases told.symm.trans made
  exact ⟨rfl, rfl⟩

private theorem not_yet {s : Site Empty} {p : Packet} {phase : Phase (Step Empty) (Pending Empty)}
    (stands : s.machine.fiber? 0 = some ⟨p, phase⟩) (busy : phase ≠ .ended none) :
    (0 : FiberId) = 0 → ¬ HandedOver none s := by
  rintro _ ⟨q, found⟩
  cases stands.symm.trans found
  exact busy rfl

private theorem lone_runs :
    ∃ s, Relation.ReflTransGen (Happens {} .nobody 0 none) loneStart s ∧ HandedOver none s := by
  have free : "d-ms1" ∉ ["d-ms1"].filter (· ≠ "d-ms1") := by decide
  have idle : 2 ∉ [2].filter (· ≠ 2) := by decide
  refine ⟨?s, ?_, ?_⟩
  case refine_1 =>
    -- The head opens the roll, its one gate forks the restart, and the restart begins.
    refine .head (.moves 0 .run _ (.inl rfl) (not_yet rfl nofun) rfl) ?_
    refine .head (.moves 0 .run _ (.inl rfl) (not_yet rfl nofun) rfl) ?_
    refine .head (.moves 0 .run _ (.inl rfl) (not_yet rfl nofun) rfl) ?_
    refine .head (.moves 1 .run _ (.inl rfl) nofun rfl) ?_
    refine .head (.moves 1 .run _ (.inl rfl) nofun rfl) ?_
    refine .head (.moves 2 .run _ (.inl rfl) nofun rfl) ?_
    refine .head (.moves 2 .run _ (.inl rfl) nofun rfl) ?_
    refine .head (.moves 2 .run _ (.inl rfl) nofun rfl) ?_
    -- The old pod is deleted and leaves.
    refine .head (.deletes 2 _ _ _ "d-ms1" none rfl rfl nofun (List.Mem.head _)) ?_
    refine .head (.answers 2 _ _ _ (.status default) _ rfl
      (.done _ (List.Mem.head _) rfl (fun _ _ _ told => nomatch told)) rfl) ?_
    refine .head (.leaves _ "ms1" loneOld "d-ms1" rfl rfl rfl (List.Mem.head _)) ?_
    refine .head (.moves 2 .run _ (.inl rfl) nofun rfl) ?_
    refine .head (.moves 2 .run _ (.inl rfl) nofun rfl) ?_
    refine .head (.moves 2 .run _ (.inl rfl) nofun rfl) ?_
    -- The new one is made and becomes Ready.
    refine .head (.creates 2 _ _ _ _ "d-ms1" rfl rfl rfl idle free free) ?_
    refine .head (.answers 2 _ _ _ (.object loneMade 201) _ rfl
      (.done _ (List.Mem.head _) rfl (fun _ asks _ told => lone_told asks told)) rfl) ?_
    refine .head (.moves 2 .run _ (.inl rfl) nofun rfl) ?_
    refine .head (.enters (loneRoll.body loneOld) "d-ms1" loneReady "ms1" (List.Mem.head _) rfl
      (List.Mem.head _) ⟨rfl, rfl⟩ rfl) ?_
    refine .head (.moves 2 .run _ (.inl rfl) nofun rfl) ?_
    -- Everybody has ended, and the roll is closed.
    refine .head (.moves 1 .join _ (.inr (.inr rfl)) nofun rfl) ?_
    refine .head (.moves 1 .run _ (.inl rfl) nofun rfl) ?_
    refine .head (.moves 0 .join _ (.inr (.inr rfl)) (not_yet rfl nofun) rfl) ?_
    refine .head (.moves 0 .run _ (.inl rfl) (not_yet rfl nofun) rfl) ?_
    exact .refl
  · exact ⟨_, rfl⟩

theorem lone_roll_converges :
    due loneRoll ≠ [] ∧ ∃ s, HandedOver none s ∧ Converged loneRoll loneStart s := by
  have wellNamed : WellNamed loneRoll.presence := by
    refine ⟨?_, ?_, ?_⟩
    · intro server pod held
      obtain ⟨rfl, rfl⟩ := lone_pod held
      rfl
    · intro server pod held
      obtain ⟨rfl, rfl⟩ := lone_pod held
      exact Option.some_ne_none "d-ms1"
    · intro server pod other pod' held held' _
      exact (lone_pod held).1.trans (lone_pod held').1.symm
  have underWay : UnderWay loneRoll := ⟨rfl, rfl, wellNamed⟩
  have pods : ∀ server pod name, loneRoll.presence.pod? server = some pod →
      pod.metadata.name = some name → name ∈ loneStart.pods := by
    intro server pod name held named
    obtain ⟨rfl, rfl⟩ := lone_pod held
    cases named
    exact List.Mem.head _
  have begins : Begins loneRoll loneStart := ⟨rfl, rfl, rfl, rfl, pods, rfl, rfl, rfl, rfl⟩
  obtain ⟨s, ran, handed⟩ := lone_runs
  exact ⟨nofun, s, handed, (rolls_converge underWay begins ran).2 handed⟩

end DomainSteward.Convergence
