import DomainSteward.Proofs.Site.Lots

/-! Every move of a fiber keeps a roll sound: those of restarts, of the gates
that fork them, and of the head that closes the roll. -/
namespace DomainSteward.Upkeep
open Machine Moves RollSteps Ledger Anatomy Sites Restarts Stages Lots

variable {ε : Type} {c : Conduct} {g : GuestRules ε} {t : Mandate ε} {r r' : Roll ε} {s : Site ε}
  {ready : NameSet} {servers : NameMap Pod} {before events : List DomainEvent} {i : FiberId}
  {move : Move Answer} {m after : ChainMachine ε} {id : PresenceId} {w : World}

/-! ## Moves that nobody sees -/

private theorem taken_unseen (c : Conduct) (g : GuestRules ε) (id : PresenceId) (w : World)
    (action : StepAction ε) :
    sight? id (worldAfter (chainDynamics c g) w action) = sight? id w := by
  cases action with
  | finish | terminate => exact sight_count _
  | _ => rfl

/-- A move by which no step is applied is not seen. -/
private theorem quiet_move (id : PresenceId) (own : move = .run ∨ move = .wake ∨ move = .join)
    (quiet : applied? m (.move i move) = none)
    (moved : m.move? (chainDynamics c g) i move = some after) :
    sight? id after.world = sight? id m.world ∧ after.fibers.length = m.fibers.length := by
  obtain ⟨f, found, shape⟩ := move_iff_moved.mp moved
  cases shape with
  | start => exact ⟨sight_count _, by simp [replace]⟩
  | finish => exact ⟨sight_count _, by rw [took_length]; rfl⟩
  | step => simp [applied?, found] at quiet
  | wake | join => exact ⟨rfl, by simp [replace]⟩
  | fail => exact ⟨sight_count _, by rw [took_length]; rfl⟩
  | cancel | answer | crash => rcases own with own | own | own <;> cases own

/-- A gate changes nothing that is seen. -/
private theorem gate_unseen (id : PresenceId) {p : Packet} {step : Step ε} (isGate : GateStep step)
    (found : m.fiber? i = some ⟨p, .running (some step)⟩)
    (moved : m.move? (chainDynamics c g) i .run = some after) :
    sight? id after.world = sight? id m.world := by
  have taken := run_step found moved
  cases isGate with
  | together members =>
    rw [taken]
    exact taken_unseen c g id m.world (.forkJoin (members.map (·.2)) none)
  | waves cluster queue topology =>
    obtain ⟨outcome, applied, _⟩ :=
      roll_cluster_looks (c := c) (p := p) (w := m.world) cluster queue topology
    have applies : (chainDynamics c g).apply (.rollCluster cluster queue topology) p m.world =
        ⟨outcome, p, m.world⟩ := applied
    rw [applies] at taken
    rw [taken]
    exact taken_unseen c g id m.world _

/-- A move that applies no step and is none of a restart. -/
private theorem sound_quiet (sound : Sound t before r s ready servers events)
    (own : move = .run ∨ move = .wake ∨ move = .join)
    (busy : i = 0 → ¬ HandedOver t.next s) (foreign : ∀ chain ∈ r.chains, chain.id ≠ i)
    (quiet : applied? r.machine (.move i move) = none)
    (moved : s.machine.move? (chainDynamics c g) i move = some after) :
    Sound t before { r with machine := after } { s with machine := after } ready servers events := by
  have happened := happens_to_roll sound moved
  have opened := opened_follow sound.opened (follow_quiet happened quiet)
  rw [sound.machine] at quiet
  obtain ⟨unseen, length⟩ := quiet_move t.id own quiet moved
  refine ⟨rfl, sound.head, opened, ?_, unseen.trans sound.seen, ?_, sound.holds, sound.bodies,
    sound.logged, ?_, reported_kept sound.reported rfl rfl (fun _ _ => Iff.rfl), ?_⟩
  · intro j within
    exact sound.covered j (length ▸ within)
  · intro server old name held named
    refine lot_kept (sound.lots server old name held named) (fun _ _ => Iff.rfl) ?_
    intro chain among _ f found
    exact ⟨others_stay moved (foreign chain among) found, Iff.rfl, Iff.rfl⟩
  · have same : (({ s with machine := after } : Site ε).machine.fibers.length) =
        s.machine.fibers.length := length
    rw [same]
    exact sound.within
  · intro closed
    by_cases isHead : i = 0
    · exact absurd (sound.handed closed) (busy isHead)
    · exact handed_stays (r := r) sound isHead moved closed

/-! ## Moves of restarts -/

/-- The ledger after a restart has made a move. -/
private theorem restart_noted (sound : Sound t before r s ready servers events) {chain : Chain ε}
    (among : chain ∈ r.chains) (follows : r.follow? c g (.move chain.id move) = some r') :
    r'.head = r.head ∧ r'.progress = r.progress ∧ r'.gates = r.gates ∧ r'.chains = r.chains ∧
      r'.begun = if (applied? r.machine (.move chain.id move)).isSome then chain.id :: r.begun
        else r.begun := by
  generalize happens : (Happening.move chain.id move : Happening Answer World) = h at follows
  cases followed follows with
  | quiet _ after quiet =>
    subst happens
    exact ⟨rfl, rfl, rfl, rfl, by rw [quiet]; rfl⟩
  | head =>
    have same : chain.id = r.head := (Happening.move.inj happens).1
    exact absurd (same.trans sound.head) (chain_not_first sound among)
  | gate j bucket p step after other listed =>
    have same : chain.id = j := (Happening.move.inj happens).1
    obtain ⟨_, _, shape, _⟩ := List.lookup_eq_some_iff.mp listed
    have member : (j, bucket) ∈ r.gates := by simp [shape]
    exact absurd same (chain_no_gate sound.opened among member)
  | aside j p step after other unlisted found =>
    obtain ⟨rfl, rfl⟩ := Happening.move.inj happens
    refine ⟨rfl, rfl, rfl, rfl, ?_⟩
    rw [applied_iff.mpr ⟨rfl, found⟩]
    rfl

/-- The first step of a restart is reported. -/
private theorem reported_begins {message : String} {started : List String}
    (sound : Sound t before r s ready servers events)
    (reported : Reported t r before events message started) {chain : Chain ε}
    (among : chain ∈ r.chains) (late : chain.id ∉ r.begun) (open' : r.progress ≠ .closed)
    (progress : r'.progress = r.progress) (chains : r'.chains = r.chains)
    (noted : r'.begun = chain.id :: r.begun) :
    Reported t r' before (t.reported chain.member.1 :: events) message
      (chain.member.1 :: started) := by
  refine ⟨?_, List.nodup_cons.mpr ⟨?_, reported.once⟩, fun server => ?_⟩
  · have nothing : closing r.progress = [] := by
      cases progress : r.progress with
      | closed => exact absurd progress open'
      | unopened | opened => rfl
    rw [reported.events, progress, nothing]
    rfl
  · intro already
    obtain ⟨other, among', serves, begun⟩ := (reported.begun _).mp already
    have same := one_chain_a_server sound.opened (members_distinct t) among' among serves
    subst same
    exact late begun
  · rw [List.mem_cons, reported.begun, chains, noted]
    constructor
    · rintro (rfl | ⟨other, among', serves, begun⟩)
      · exact ⟨chain, among, rfl, List.mem_cons_self⟩
      · exact ⟨other, among', serves, List.mem_cons_of_mem _ begun⟩
    · rintro ⟨other, among', serves, begun⟩
      rcases List.mem_cons.mp begun with isChain | begun
      · have same := chain_of_id sound.opened among among' isChain
        subst same
        exact .inl serves.symm
      · exact .inr ⟨other, among', serves, begun⟩

/-- What a move of a restart makes of the reports. -/
private theorem restart_reported {old : Pod} {sight sight' : Sight} {trace : Trace}
    {carried begun' : Bool} (sound : Sound t before r s ready servers events) {chain : Chain ε}
    (among : chain ∈ r.chains)
    (advanced : Advanced t chain.member.1 old chain.id s.machine move sight trace carried
      (decide (chain.id ∈ r.begun)) after sight' begun')
    (open' : r.progress ≠ .closed) (events' : sight.events = events)
    (progress : r'.progress = r.progress) (chains : r'.chains = r.chains)
    (noted : r'.begun = if (applied? r.machine (.move chain.id move)).isSome then chain.id :: r.begun
      else r.begun) :
    begun' = decide (chain.id ∈ r'.begun) ∧
      ∃ message started, Reported t r' before sight'.events message started := by
  have foreign : ∀ other ∈ r.chains, other ≠ chain →
      (other.id ∈ r'.begun ↔ other.id ∈ r.begun) := by
    intro other among' different
    have apart : other.id ≠ chain.id := fun same =>
      different (chain_of_id sound.opened among among' same)
    rw [noted]
    split
    · simp [apart]
    · exact Iff.rfl
  rw [sound.machine] at noted
  rcases advanced.reported with ⟨late, early, applied, told⟩ | ⟨same, told, stays⟩
  · rw [applied] at noted
    have noted : r'.begun = chain.id :: r.begun := noted
    obtain ⟨message, started, reported⟩ := sound.reported
    have reported := reported_begins sound reported among (of_decide_eq_false late) open' progress
      chains noted
    refine ⟨?_, message, chain.member.1 :: started, ?_⟩
    · rw [early, noted, decide_eq_true List.mem_cons_self]
    · rw [told, events']
      exact reported
  · have kept : chain.id ∈ r'.begun ↔ chain.id ∈ r.begun := by
      rw [noted]
      rcases stays with begun | quiet
      · have begun := of_decide_eq_true begun
        split
        · simp [begun]
        · exact Iff.rfl
      · rw [quiet]
        exact Iff.rfl
    refine ⟨by rw [same]; simp only [kept], ?_⟩
    rw [told, events']
    refine reported_kept sound.reported progress chains ?_
    intro other among'
    by_cases isChain : other = chain
    · rw [isChain]
      exact kept
    · exact foreign other among' isChain

/-- A restart makes a move of its own. -/
private theorem sound_restarts (wellNamed : WellNamed t.presence)
    (sound : Sound t before r s ready servers events) {chain : Chain ε} (among : chain ∈ r.chains)
    (own : move = .run ∨ move = .wake ∨ move = .join)
    (moved : s.machine.move? (chainDynamics c g) chain.id move = some after) :
    ∃ r' servers' events',
      Sound t before r' { s with machine := after } ready servers' events' := by
  obtain ⟨old, name, f, held, isNamed, outdated, found, stage⟩ :=
    chain_stage wellNamed sound among
  have holds : (traceOf s servers chain.member.1 name).held = servers.get? chain.member.1 := rfl
  obtain ⟨sight', begun', advanced⟩ := stage_moves stage found sound.seen rfl holds own moved
  obtain ⟨servers', domain', events', stopping'⟩ := sight'
  have domain : domain' = some t.domain := advanced.domain
  have stopping : stopping' = false := advanced.stopping
  subst domain stopping
  obtain ⟨r', follows, machine, opened⟩ := roll_follows sound moved
  obtain ⟨head, progress, gates, chains, noted⟩ := restart_noted sound among follows
  have open' : r.progress ≠ .closed := by
    intro closed
    obtain ⟨p, ended⟩ := closed_succeeded sound.opened closed among
    rw [sound.machine] at ended
    obtain ⟨_, found', shape⟩ := move_iff_moved.mp moved
    cases ended.symm.trans found'
    cases shape
  obtain ⟨early, reported⟩ :=
    restart_reported sound among advanced open' rfl progress chains noted
  obtain ⟨f', stands, stage'⟩ := advanced.stage
  have ids : r'.ids = r.ids := by rw [Roll.ids, Roll.ids, head, gates, chains]
  refine ⟨r', servers', events', machine, head.trans sound.head, opened, ?_, advanced.seen, ?_, ?_,
    sound.bodies, sound.logged, ⟨?_, ?_⟩, reported, ?_⟩
  · intro j within
    rw [ids]
    exact sound.covered j (advanced.length ▸ within)
  · refine lots_but_one wellNamed sound held isNamed ?_ ?_ (fun _ _ => by rw [chains]) ?_
    · refine .restarts _ outdated chain (chains ▸ among) rfl f' stands ?_
      rw [← early]
      exact stage'
    · intro other name' foreign _
      have same : servers'.get? other = servers.get? other := advanced.others other foreign
      rw [traceOf, same]
      rfl
    · intro other among' foreign f found
      have apart := other_chain sound among among' foreign
      refine ⟨others_stay moved apart found, Iff.rfl, ?_⟩
      rw [noted]
      split
      · simp [apart]
      · exact Iff.rfl
  · intro server pod now
    by_cases isOwn : server = chain.member.1
    · subst isOwn
      rcases advanced.own pod now with same | made
      · exact sound.holds _ pod same
      · exact ⟨old, held, made_name made⟩
    · have same : servers'.get? server = servers.get? server := advanced.others server isOwn
      exact sound.holds server pod (same.symm.trans now)
  · intro j carried
    have within := sound.within.1 j carried
    exact advanced.length.symm ▸ within
  · intro j begun
    have length : after.fibers.length = s.machine.fibers.length := advanced.length
    have isChain : chain.id < s.machine.fibers.length := (List.getElem?_eq_some_iff.mp found).1
    rw [noted] at begun
    show j < after.fibers.length
    rw [length]
    split at begun
    · rcases List.mem_cons.mp begun with rfl | begun
      · exact isChain
      · exact sound.within.2 j begun
    · exact sound.within.2 j begun
  · intro closed
    rw [progress] at closed
    exact absurd closed open'

/-! ## Moves of gates -/

/-- Chains that are forked are in the first stage, and all other servers have
the lot they had. -/
private theorem forked_lot {s' : Site ε} {new : List (Chain ε)} {server : String} {old : Pod}
    {trace : Trace} (works : t.packet.presence = some t.id) (opened : Opened (plan t) ready r')
    (held : t.presence.pod? server = some old) (chains : r'.chains = r.chains ++ new)
    (stays : ∀ chain ∈ r.chains, ∀ f, s.machine.fiber? chain.id = some f →
      s'.machine.fiber? chain.id = some f)
    (carried : s'.carried = s.carried)
    (begun : ∀ chain ∈ r.chains, chain.id ∈ r'.begun ↔ chain.id ∈ r.begun)
    (fresh : ∀ chain ∈ new,
      s'.machine.fiber? chain.id = some ⟨chain.member.2.2, .created chain.member.2.1⟩)
    (idle : ∀ chain ∈ new, chain.id ∉ s.carried ∧ chain.id ∉ r'.begun)
    (lot : Lot t r s server old trace) : Lot t r' s' server old trace := by
  cases lot with
  | current upToDate => exact .current upToDate
  | restarts _ outdated chain among serves f found stage =>
    have among' : chain ∈ r'.chains := by
      rw [chains]
      exact List.mem_append_left _ among
    refine .restarts _ outdated chain among' serves f (stays chain among f found) ?_
    simp only [carried, begun chain among]
    exact stage
  | due outdated nobody =>
    by_cases forked : ∃ chain ∈ new, chain.member.1 = server
    · obtain ⟨chain, among, rfl⟩ := forked
      have among' : chain ∈ r'.chains := by
        rw [chains]
        exact List.mem_append_right _ among
      have created := fresh chain among
      obtain ⟨old', held', _, shape⟩ := chain_due opened among'
      cases held.symm.trans held'
      rw [shape] at created
      refine .restarts _ outdated chain among' rfl _ created ?_
      rw [carried, decide_eq_false (idle chain among).1, decide_eq_false (idle chain among).2]
      exact .fresh _ ((member_presence _ _ _).trans works) (.inl rfl)
    · refine .due outdated ?_
      intro chain among serves
      rw [chains] at among
      rcases List.mem_append.mp among with among | among
      · exact nobody chain among serves
      · exact forked ⟨chain, among, serves⟩

/-- A gate applies its step: the servers whose chains it forks are in the first
stage, and all others have the lot they had. -/
private theorem sound_forks {p : Packet} {step : Step ε} {b : Option String}
    (works : t.packet.presence = some t.id) (sound : Sound t before r s ready servers events)
    (member : (i, b) ∈ r.gates) (found : r.machine.fiber? i = some ⟨p, .running (some step)⟩)
    (moved : r.machine.move? (chainDynamics c g) i .run = some after)
    (opened : Opened (plan t) ready
      { r with
        machine := after
        begun := i :: r.begun
        chains := r.chains ++ chainsFor b (newborn r.machine after)
          (forkedBy (r.machine.world.presenceOf? p) step) }) :
    Sound t before
      { r with
        machine := after
        begun := i :: r.begun
        chains := r.chains ++ chainsFor b (newborn r.machine after)
          (forkedBy (r.machine.world.presenceOf? p) step) }
      { s with machine := after } ready servers events := by
  have isGate := (gate_finds (sound.opened.gates _ member) found).gate_step
  have fresh : ∀ chain ∈ chainsFor b (newborn r.machine after)
      (forkedBy (r.machine.world.presenceOf? p) step),
      after.fiber? chain.id = some ⟨chain.member.2.2, .created chain.member.2.1⟩ :=
    fun chain among => forked_fresh isGate found moved among
  have all : (chainsFor b (newborn r.machine after)
      (forkedBy (r.machine.world.presenceOf? p) step)).map (·.id) = newborn r.machine after :=
    forked_all isGate found moved
  have unseen := gate_unseen t.id isGate found moved
  generalize chainsFor b (newborn r.machine after)
    (forkedBy (r.machine.world.presenceOf? p) step) = new at fresh all opened ⊢
  rw [sound.machine] at found moved all unseen
  have isWithin : i < s.machine.fibers.length := (List.getElem?_eq_some_iff.mp found).1
  have longer := length_le moved
  have young : ∀ chain ∈ new, s.machine.fibers.length ≤ chain.id := by
    intro chain among
    have born := List.mem_map_of_mem (f := (·.id)) among
    rw [all] at born
    exact (mem_newborn.mp born).1
  have idle : ∀ chain ∈ new, chain.id ∉ s.carried ∧ chain.id ∉ i :: r.begun := by
    intro chain among
    have late := young chain among
    refine ⟨fun carried => ?_, fun begun => ?_⟩
    · exact absurd (sound.within.1 _ carried) (Nat.not_lt_of_le late)
    · rcases List.mem_cons.mp begun with same | begun
      · exact absurd isWithin (Nat.not_lt_of_le (same ▸ late))
      · exact absurd (sound.within.2 _ begun) (Nat.not_lt_of_le late)
  have others : ∀ chain ∈ r.chains, chain.id ≠ i := fun chain among =>
    chain_no_gate sound.opened among member
  have begun : ∀ chain ∈ r.chains, chain.id ∈ i :: r.begun ↔ chain.id ∈ r.begun := by
    intro chain among
    simp [others chain among]
  refine ⟨rfl, sound.head, opened, ?_, unseen.trans sound.seen, ?_, sound.holds, sound.bodies,
    sound.logged, ⟨?_, ?_⟩, ?_, handed_stays (r := r) sound (gate_not_first sound member) moved⟩
  · intro j within
    by_cases old : j < s.machine.fibers.length
    · have listed := sound.covered j old
      simp only [Roll.ids, List.map_append, ← List.append_assoc]
      exact List.mem_append_left _ listed
    · have born : j ∈ newborn s.machine after :=
        mem_newborn.mpr ⟨Nat.le_of_not_lt old, within⟩
      rw [← all] at born
      simp only [Roll.ids, List.map_append, ← List.append_assoc]
      exact List.mem_append_right _ born
  · intro server old name held named
    refine forked_lot (s := s) works opened held rfl ?_ rfl begun fresh idle
      (sound.lots server old name held named)
    exact fun chain among f found => others_stay moved (others chain among) found
  · exact fun j carried => Nat.lt_of_lt_of_le (sound.within.1 j carried) longer
  · intro j begun
    rcases List.mem_cons.mp begun with rfl | begun
    · exact Nat.lt_of_lt_of_le isWithin longer
    · exact Nat.lt_of_lt_of_le (sound.within.2 j begun) longer
  · exact reported_grown sound.reported rfl rfl begun (fun chain among => (idle chain among).2)

/-- A gate makes a move. -/
private theorem sound_gates (works : t.packet.presence = some t.id)
    (sound : Sound t before r s ready servers events) {gate : FiberId × Option String}
    (member : gate ∈ r.gates) (own : move = .run ∨ move = .wake ∨ move = .join)
    (moved : s.machine.move? (chainDynamics c g) gate.1 move = some after) :
    ∃ r', Sound t before r' { s with machine := after } ready servers events := by
  obtain ⟨r', follows, machine, opened⟩ := roll_follows sound moved
  refine ⟨r', ?_⟩
  generalize happens : (Happening.move gate.1 move : Happening Answer World) = h at follows
  cases followed follows with
  | quiet _ _ quiet =>
    subst happens machine
    exact sound_quiet sound own (fun isHead => absurd isHead (gate_not_first sound member))
      (fun chain among => chain_no_gate sound.opened among member) quiet moved
  | head =>
    have same : gate.1 = r.head := (Happening.move.inj happens).1
    exact absurd (same.trans sound.head) (gate_not_first sound member)
  | gate j b p step _ other listed found moved' =>
    subst machine
    obtain ⟨before', others, shape, _⟩ := List.lookup_eq_some_iff.mp listed
    have member' : (j, b) ∈ r.gates := by simp [shape]
    exact sound_forks works sound member' found moved' opened
  | aside j p step _ other unlisted =>
    have same : gate.1 = j := (Happening.move.inj happens).1
    have absent := List.lookup_eq_none_iff.mp unlisted gate member
    simp [same] at absent

/-! ## Moves of the head -/

/-- The head closes the roll. -/
private theorem sound_closes (unmarked : t.packet.contains Packet.rollMarkKey = false)
    (sound : Sound t before r s ready servers events) (progress : r.progress = .opened)
    (found : s.machine.fiber? 0 =
      some ⟨marked t.packet, .running (some (.afterRoll t.next))⟩)
    (moved : s.machine.move? (chainDynamics c g) 0 .run = some after)
    (opened : Opened (plan t) ready
      { r with machine := after, begun := r.head :: r.begun, progress := .closed }) :
    Sound t before { r with machine := after, begun := r.head :: r.begun, progress := .closed }
      { s with machine := after } ready servers (.rollCompleted :: events) := by
  obtain ⟨p', w', applies, seen⟩ :=
    after_roll_does (c := c) (g := g) unmarked sound.seen t.next
  obtain ⟨stands, world, length⟩ := step_goes_on found moved applies
  have isWithin : 0 < s.machine.fibers.length := (List.getElem?_eq_some_iff.mp found).1
  have foreign : ∀ chain ∈ r.chains, (chain.id ∈ r.head :: r.begun ↔ chain.id ∈ r.begun) := by
    intro chain among
    have apart := chain_not_head sound.opened among
    simp [apart]
  refine ⟨rfl, sound.head, opened, ?_, ?_, ?_, sound.holds, sound.bodies, sound.logged, ⟨?_, ?_⟩,
    ?_, fun _ => ⟨p', stands⟩⟩
  · intro j within
    exact sound.covered j (length ▸ within)
  · have unseen := taken_unseen c g t.id w' (.goOn t.next)
    rw [← world] at unseen
    exact unseen.trans seen
  · intro server old name held named
    refine lot_kept (sound.lots server old name held named) (fun _ _ => Iff.rfl) ?_
    intro chain among _ f found
    exact ⟨others_stay moved (chain_not_first sound among) found, Iff.rfl, foreign chain among⟩
  · intro j carried
    exact length.symm ▸ sound.within.1 j carried
  · intro j begun
    have old : j < s.machine.fibers.length := by
      rcases List.mem_cons.mp begun with rfl | begun
      · rw [sound.head]
        exact isWithin
      · exact sound.within.2 j begun
    exact length.symm ▸ old
  · obtain ⟨message, started, reported⟩ := sound.reported
    refine ⟨message, started, ?_, reported.once, ?_⟩
    · rw [reported.events, progress]
      rfl
    · intro server
      rw [reported.begun server]
      refine exists_congr fun chain => and_congr_right fun among => and_congr_right fun _ => ?_
      exact (foreign chain among).symm

/-- The head makes a move, unless it has handed over. -/
private theorem sound_heads (unmarked : t.packet.contains Packet.rollMarkKey = false)
    (sound : Sound t before r s ready servers events)
    (own : move = .run ∨ move = .wake ∨ move = .join) (busy : ¬ HandedOver t.next s)
    (moved : s.machine.move? (chainDynamics c g) 0 move = some after) :
    ∃ r' events', Sound t before r' { s with machine := after } ready servers events' := by
  obtain ⟨r', follows, machine, opened⟩ := roll_follows sound moved
  refine ⟨r', ?_⟩
  generalize happens : (Happening.move 0 move : Happening Answer World) = h at follows
  cases followed follows with
  | quiet _ _ quiet =>
    subst happens machine
    exact ⟨events, sound_quiet sound own (fun _ => busy)
      (fun chain among => chain_not_first sound among) quiet moved⟩
  | head p step later found moved' =>
    have head := sound.opened.head
    generalize progress : r.progress = stand at head
    cases head with
    | waits found' | failed _ _ found' => cases found.symm.trans found'
    | closed => exact absurd (sound.handed progress) busy
    | closing found' =>
      cases found.symm.trans found'
      rw [note_machine] at machine
      subst machine
      have closes : r.note later r.head (marked (plan t).packet) (.afterRoll (plan t).next) =
          { r with machine := later, begun := r.head :: r.begun, progress := .closed } := by
        simp only [Roll.note, ↓reduceIte, progress]
      rw [closes] at opened ⊢
      rw [sound.machine, sound.head] at found moved'
      exact ⟨_, sound_closes unmarked sound progress found moved' opened⟩
  | gate j _ _ _ _ other =>
    have same : 0 = j := (Happening.move.inj happens).1
    exact absurd (same.symm.trans sound.head.symm) other
  | aside j _ _ _ other =>
    have same : 0 = j := (Happening.move.inj happens).1
    exact absurd (same.symm.trans sound.head.symm) other

/-! ## Everything that happens -/

/-- A site where a roll of a mandate is under way. -/
structure UnderWay (t : Mandate ε) : Prop where
  works : t.packet.presence = some t.id
  unmarked : t.packet.contains Packet.rollMarkKey = false
  wellNamed : WellNamed t.presence

/-- Whatever happens at the site of a sound roll keeps the roll sound. -/
theorem sound_happens {s' : Site ε} (underWay : UnderWay t)
    (sound : Sound t before r s ready servers events) (happens : Happens c g t.id t.next s s') :
    ∃ r' servers' events', Sound t before r' s' ready servers' events' := by
  cases happens with
  | moves i move after own busy moved =>
    obtain ⟨f, found, _⟩ := move_iff_moved.mp moved
    have within : i < s.machine.fibers.length := (List.getElem?_eq_some_iff.mp found).1
    rcases whose_fiber sound within with rfl | ⟨gate, member, rfl⟩ | ⟨chain, among, rfl⟩
    · obtain ⟨r', events', sound'⟩ :=
        sound_heads underWay.unmarked sound own (busy rfl) moved
      exact ⟨r', servers, events', sound'⟩
    · obtain ⟨r', sound'⟩ := sound_gates underWay.works sound member own moved
      exact ⟨r', servers, events, sound'⟩
    · exact sound_restarts underWay.wellNamed sound among own moved
  | deletes i p q andThen name grace waits asks idle =>
    exact ⟨r, servers, events, sound_deletes underWay.wellNamed sound waits asks idle⟩
  | creates i p q andThen body name waits asks named idle =>
    exact ⟨r, servers, events, sound_creates underWay.wellNamed sound waits asks named idle⟩
  | answers i p q andThen response after waits replies moved =>
    exact ⟨_, servers, events, sound_answers underWay.wellNamed sound waits replies moved⟩
  | leaves now server pod name known held named deleted =>
    obtain ⟨r', servers', sound'⟩ :=
      sound_leaves c g underWay.wellNamed sound known held named deleted
    exact ⟨r', servers', events, sound'⟩
  | enters body name pod server made _ _ like serves =>
    obtain ⟨r', servers', sound'⟩ := sound_enters c g underWay.wellNamed sound made like serves
    exact ⟨r', servers', events, sound'⟩
  | waits now stamp =>
    obtain ⟨r', sound'⟩ := sound_waits c g sound now stamp
    exact ⟨r', servers, events, sound'⟩

end DomainSteward.Upkeep
