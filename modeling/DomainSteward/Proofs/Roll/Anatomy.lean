import DomainSteward.Proofs.Roll.Ledger

/-! How a roll is built: its head opens it and forks one gate for each bucket
of members, the gates fork the restart chains, and the head closes the roll
once all gates have succeeded. All of this holds whatever the chains and the
rest of the world do. -/
namespace DomainSteward.Anatomy
open Machine Moves RollSteps WaveLoop Ledger

variable {ε : Type}

/-- What a roll sets out to do. -/
structure Plan (ε : Type) where
  /-- The packet of the fiber that opens the roll. -/
  packet : Packet
  members : List (Member ε)
  next : Option (Step ε)

/-- The chains that a look forks. -/
def chainsOfLook (l : Look ε) : List (Chain ε) := chainsFor (some l.cluster) l.forked l.wave

/-- Where the fiber stands that restarts the members of a bucket all at
once. -/
inductive Together (r : Roll ε) (members : List (Member ε)) :
    Phase (Step ε) (Pending ε) → Prop where
  | idle (phase : Phase (Step ε) (Pending ε)) (next : Idle (.restartNow members) phase)
      (nobody : r.chainsOf none = []) : Together r members phase
  | waits (ids : List FiberId) (forked : r.chainsOf none = chainsFor none ids members)
      (each : ids.length = members.length) : Together r members (.joining ids none)
  | done (phase : Phase (Step ε) (Pending ε)) (last : phase = .running none ∨ phase = .ended none)
      (forked : (r.chainsOf none).map (·.member) = members)
      (all : ∀ chain ∈ r.chainsOf none, Succeeded r.machine chain.id) : Together r members phase
  | failed (e : FiberError) (forked : (r.chainsOf none).map (·.member) = members) :
      Together r members (.ended (some e))

/-- Where the gate of a bucket stands. -/
inductive GateStands (plan : Plan ε) (ready : NameSet) (r : Roll ε) (i : FiberId) :
    Option String → Prop where
  | waves (cluster : String) (past : List (Look ε))
      (inv : Inv i plan.packet.presence cluster plan.packet.topology?
        (bucket plan.members ready (some cluster)) past r.machine)
      (forked : r.chainsOf (some cluster) = past.flatMap chainsOfLook) :
      GateStands plan ready r i (some cluster)
  | together (p : Packet) (phase : Phase (Step ε) (Pending ε))
      (found : r.machine.fiber? i = some ⟨p, phase⟩)
      (stands : Together r (bucket plan.members ready none) phase) :
      GateStands plan ready r i none

/-- Where the head of an opened roll stands. -/
inductive HeadStands (plan : Plan ε) (head : FiberId) (gates : List (FiberId × Option String))
    (m : ChainMachine ε) : Progress → Prop where
  | waits (found : m.fiber? head =
        some ⟨marked plan.packet, .joining (gates.map (·.1)) (some (.afterRoll plan.next))⟩) :
      HeadStands plan head gates m .opened
  | closing (found : m.fiber? head =
        some ⟨marked plan.packet, .running (some (.afterRoll plan.next))⟩)
      (all : ∀ gate ∈ gates, Succeeded m gate.1) : HeadStands plan head gates m .opened
  | failed (p : Packet) (e : FiberError) (found : m.fiber? head = some ⟨p, .ended (some e)⟩) :
      HeadStands plan head gates m .opened
  | closed (all : ∀ gate ∈ gates, Succeeded m gate.1) : HeadStands plan head gates m .closed

/-- A chain that has not applied a step yet. -/
def Fresh (m : ChainMachine ε) (chain : Chain ε) : Prop :=
  m.fiber? chain.id = some ⟨chain.member.2.2, .created chain.member.2.1⟩ ∨
    m.fiber? chain.id = some ⟨chain.member.2.2, .running (some chain.member.2.1)⟩

/-- The roll has not been opened yet. -/
structure Unopened (plan : Plan ε) (r : Roll ε) : Prop where
  progress : r.progress = .unopened
  gates : r.gates = []
  chains : r.chains = []
  head : r.machine.fiber? r.head =
      some ⟨plan.packet, .created (.rolling plan.members plan.next)⟩ ∨
    r.machine.fiber? r.head =
      some ⟨plan.packet, .running (some (.rolling plan.members plan.next))⟩

/-- The roll was refused for want of a presence. -/
structure Refused (r : Roll ε) : Prop where
  progress : r.progress = .opened
  gates : r.gates = []
  chains : r.chains = []
  head : ∃ p e, r.machine.fiber? r.head = some ⟨p, .ended (some e)⟩

/-- The roll has been opened when the given servers were Ready. -/
structure Opened (plan : Plan ε) (ready : NameSet) (r : Roll ε) : Prop where
  within : ∀ id ∈ r.ids, id < r.machine.fibers.length
  apart : r.ids.Nodup
  /-- There is one gate for each bucket with somebody in it, and no other. -/
  once : (r.gates.map (·.2)).Nodup
  filled : ∀ b, b ∈ r.gates.map (·.2) ↔
    ∃ m ∈ plan.members, queueOf Member.cluster? ready m = b
  listed : ∀ chain ∈ r.chains, chain.bucket ∈ r.gates.map (·.2)
  gates : ∀ gate ∈ r.gates, GateStands plan ready r gate.1 gate.2
  fresh : ∀ chain ∈ r.chains, chain.id ∉ r.begun → Fresh r.machine chain
  head : HeadStands plan r.head r.gates r.machine r.progress

variable {c : Conduct} {g : GuestRules ε} {r r' : Roll ε} {h : Happening Answer World}
  {plan : Plan ε} {ready : NameSet} {m m' : ChainMachine ε} {i j : FiberId} {p : Packet}
  {step : Step ε} {b : Option String}

/-! ## No fiber of an opened roll is two things -/

theorem gate_not_head (opened : Opened plan ready r) {gate : FiberId × Option String}
    (member : gate ∈ r.gates) : gate.1 ≠ r.head := by
  intro same
  refine (List.nodup_cons.mp opened.apart).1 (List.mem_append_left _ ?_)
  rw [← same]
  exact List.mem_map_of_mem (f := (·.1)) member

theorem chain_not_head (opened : Opened plan ready r) {chain : Chain ε}
    (among : chain ∈ r.chains) : chain.id ≠ r.head := by
  intro same
  refine (List.nodup_cons.mp opened.apart).1 (List.mem_append_right _ ?_)
  rw [← same]
  exact List.mem_map_of_mem (f := (·.id)) among

theorem chain_no_gate (opened : Opened plan ready r) {chain : Chain ε} (among : chain ∈ r.chains)
    {gate : FiberId × Option String} (member : gate ∈ r.gates) : chain.id ≠ gate.1 := by
  have apart := (List.nodup_cons.mp opened.apart).2
  exact Ne.symm ((List.nodup_append.mp apart).2.2 gate.1
    (List.mem_map_of_mem (f := (·.1)) member) chain.id (List.mem_map_of_mem (f := (·.id)) among))

theorem gate_of_id (opened : Opened plan ready r) {gate other : FiberId × Option String}
    (member : gate ∈ r.gates) (member' : other ∈ r.gates) (same : other.1 = gate.1) :
    other = gate := by
  have distinct : (r.gates.map (·.1)).Nodup :=
    (List.nodup_append.mp (List.nodup_cons.mp opened.apart).2).1
  exact List.inj_on_of_nodup_map distinct member' member same

theorem chain_of_id (opened : Opened plan ready r) {chain other : Chain ε}
    (among : chain ∈ r.chains) (among' : other ∈ r.chains) (same : other.id = chain.id) :
    other = chain := by
  have distinct : (r.chains.map (·.id)).Nodup :=
    (List.nodup_append.mp (List.nodup_cons.mp opened.apart).2).2.1
  exact List.inj_on_of_nodup_map distinct among' among same

/-! ## Opening -/

/-- The roll as its head leaves it when it opens it. -/
theorem note_rolling {after : ChainMachine ε} {members : List (Member ε)}
    {next : Option (Step ε)} (progress : r.progress = .unopened) :
    r.note after r.head p (.rolling members next) =
      { r with
        machine := after
        begun := r.head :: r.begun
        progress := .opened
        gates := (newborn r.machine after).zip
          ((after.fibers.drop r.machine.fibers.length).map bucketOf) } := by
  simp only [Roll.note, ↓reduceIte, progress]

private theorem gate_step_bucket (members : List (Member ε)) (ready : NameSet)
    (topology : Option Topology) (p : Packet) (b : Option String) :
    bucketOf ⟨p, .created (gateStep members ready topology b)⟩ = b := by
  cases b <;> rfl

private theorem mem_range_zip {n : Nat} {l : List α} {a : α}
    (member : (i, a) ∈ (List.range' n l.length).zip l) : ∃ k, i = n + k ∧ l[k]? = some a := by
  obtain ⟨k, found⟩ := List.mem_iff_getElem?.mp member
  obtain ⟨first, second⟩ := List.getElem?_zip_eq_some.mp found
  have within : k < l.length := (List.getElem?_eq_some_iff.mp second).1
  rw [List.getElem?_range' within] at first
  exact ⟨k, by simpa using (Option.some.inj first).symm, second⟩

/-- Forking the gates opens the roll. -/
theorem opens_with_gates {presence : Presence} {after : ChainMachine ε}
    (unopened : Unopened plan r) (seen : r.machine.world.presenceOf? plan.packet = some presence)
    (found : r.machine.fiber? r.head =
      some ⟨plan.packet, .running (some (.rolling plan.members plan.next))⟩)
    (happened : r.machine.move? (chainDynamics c g) r.head .run = some after) :
    Opened plan presence.readyServers
      (r.note after r.head plan.packet (.rolling plan.members plan.next)) := by
  obtain ⟨id, works, known⟩ := Option.bind_eq_some_iff.mp seen
  obtain ⟨buckets, distinct, filled, fibers⟩ :=
    one_fiber_a_bucket plan.members presence.readyServers (marked plan.packet)
  have applies : (chainDynamics c g).apply (.rolling plan.members plan.next) plan.packet
      r.machine.world = _ := rolling_found plan.members plan.next works known
  have taken := run_step found happened
  rw [applies] at taken
  simp only [Applied.of, actionOf] at taken
  rw [note_rolling unopened.progress]
  have length : after.fibers.length = r.machine.fibers.length + buckets.length := by
    rw [taken, took_length]
    simp [born, fibers]
  have kids : (after.fibers.drop r.machine.fibers.length).map bucketOf = buckets := by
    rw [taken, took_drop]
    simp [born, fibers, Function.comp_def, gate_step_bucket]
  have gates : (newborn r.machine after).zip buckets =
      (List.range' r.machine.fibers.length buckets.length).zip buckets := by
    simp [newborn, length]
  have names : ((List.range' r.machine.fibers.length buckets.length).zip buckets).map (·.1) =
      List.range' r.machine.fibers.length buckets.length := List.map_fst_zip (by simp)
  have values : ((List.range' r.machine.fibers.length buckets.length).zip buckets).map (·.2) =
      buckets := List.map_snd_zip (by simp)
  have within : r.head < r.machine.fibers.length := (List.getElem?_eq_some_iff.mp found).1
  rw [kids, gates]
  refine ⟨?_, ?_, ?_, ?_, ?_, ?_, ?_, ?_⟩
  · intro id member
    simp only [Roll.ids, names, unopened.chains, List.map_nil, List.append_nil, List.mem_cons,
      List.mem_range'_1] at member
    rcases member with rfl | ⟨_, bound⟩
    · exact Nat.lt_of_lt_of_le within (length_le happened)
    · exact length ▸ bound
  · simp only [Roll.ids, names, unopened.chains, List.map_nil, List.append_nil]
    refine List.nodup_cons.mpr ⟨?_, List.nodup_range'⟩
    rw [List.mem_range'_1]
    exact fun among => Nat.not_le_of_lt within among.1
  · rw [values]
    exact distinct
  · rw [values]
    exact filled
  · simp [unopened.chains]
  · rintro ⟨i, b⟩ gate
    obtain ⟨k, rfl, place⟩ := mem_range_zip gate
    have created : after.fiber? (r.machine.fibers.length + k) =
        some ⟨marked plan.packet, .created (gateStep plan.members presence.readyServers
          plan.packet.topology? b)⟩ := by
      rw [taken, took_born, ← marked_topology plan.packet]
      simp [born, fibers, place]
    cases b with
    | none =>
      exact .together _ _ created (.idle _ .created (by simp [Roll.chainsOf, unopened.chains]))
    | some cluster =>
      refine .waves cluster [] ?_ (by simp [Roll.chainsOf, unopened.chains])
      rw [← marked_presence]
      exact inv_begins created
  · simp [unopened.chains]
  · have stands : after.fiber? r.head = some ⟨marked plan.packet,
        phaseAfter r.machine.fibers.length (.forkJoin (rollFibers plan.members
          presence.readyServers (marked plan.packet)) (some (.afterRoll plan.next)))⟩ := by
      rw [taken]
      exact took_fiber found
    rw [fibers] at stands
    cases buckets with
    | nil => exact .closing stands (by simp)
    | cons first rest =>
      refine .waits ?_
      simp only [names]
      simpa [phaseAfter] using stands

/-- A refusal leaves the roll without fibers. -/
private theorem refused_without_presence {after : ChainMachine ε} (unopened : Unopened plan r)
    (missing : r.machine.world.presenceOf? plan.packet = none)
    (found : r.machine.fiber? r.head =
      some ⟨plan.packet, .running (some (.rolling plan.members plan.next))⟩)
    (happened : r.machine.move? (chainDynamics c g) r.head .run = some after) :
    Refused (r.note after r.head plan.packet (.rolling plan.members plan.next)) := by
  have applies : (chainDynamics c g).apply (.rolling plan.members plan.next) plan.packet
      r.machine.world = _ := rolling_missing plan.members plan.next missing
  have taken := run_step found happened
  rw [applies] at taken
  simp only [Applied.of, actionOf] at taken
  rw [note_rolling unopened.progress]
  have kids : (after.fibers.drop r.machine.fibers.length).map bucketOf = [] := by
    rw [taken, took_drop]
    rfl
  have ended : ∃ p e, after.fiber? r.head = some ⟨p, .ended (some e)⟩ := by
    rw [taken]
    exact ⟨_, _, took_fiber found⟩
  exact ⟨rfl, by simp [kids], unopened.chains, ended⟩

/-- The next thing that happens to a roll that is not open leaves it so, or
opens it, or the roll is refused. -/
theorem unopened_follow (unopened : Unopened plan r) (follows : r.follow? c g h = some r') :
    Unopened plan r' ∨ Refused r' ∨ ∃ presence,
      r.machine.world.presenceOf? plan.packet = some presence ∧ r'.chains = [] ∧
      Opened plan presence.readyServers r' := by
  obtain ⟨progress, gates, chains, head⟩ := unopened
  cases followed follows with
  | quiet _ after quiet happened =>
    refine .inl ⟨progress, gates, chains, ?_⟩
    by_cases own : ∃ move, h = .move r.head move
    · obtain ⟨move, rfl⟩ := own
      obtain ⟨f, found, moved⟩ := move_iff_moved.mp happened
      rcases head with head | head
      · cases head.symm.trans found
        cases moved with
        | start => exact .inr (replace_fiber found)
      · cases head.symm.trans found
        cases moved with
        | step => simp [applied?, found] at quiet
    · have bystander := not_exists.mp own
      exact head.imp (bystander_stays happened bystander) (bystander_stays happened bystander)
  | head p step after found happened =>
    rcases head with head | head
    · cases head.symm.trans found
    · cases head.symm.trans found
      refine .inr ?_
      cases seen : r.machine.world.presenceOf? plan.packet with
      | none =>
        exact .inl (refused_without_presence ⟨progress, gates, chains, .inr found⟩ seen found
          happened)
      | some presence =>
        have opened := opens_with_gates ⟨progress, gates, chains, .inr found⟩ seen found happened
        refine .inr ⟨presence, rfl, ?_, opened⟩
        rw [note_rolling progress]
        exact chains
  | gate i bucket p step after other listed =>
    rw [gates] at listed
    cases listed
  | aside i p step after other unlisted found happened =>
    have bystander : ∀ move, (.move i .run : Happening Answer World) ≠ .move r.head move := by
      intro move same
      cases same
      exact other rfl
    exact .inl ⟨progress, gates, chains, head.imp
      (bystander_stays (h := .move i .run) happened bystander)
      (bystander_stays (h := .move i .run) happened bystander)⟩

theorem refused_follow (refused : Refused r) (follows : r.follow? c g h = some r') :
    Refused r' := by
  obtain ⟨progress, gates, chains, p, e, head⟩ := refused
  have stays := done_stays_done (follow_machine follows) head rfl
  cases followed follows with
  | quiet _ after => exact ⟨progress, gates, chains, p, e, stays⟩
  | head p step after found =>
    cases head.symm.trans found
  | gate i bucket p step after other listed =>
    rw [gates] at listed
    cases listed
  | aside => exact ⟨progress, gates, chains, p, e, stays⟩

/-! ## Gates -/

private theorem no_look_of_quiet (quiet : applied? m h = none) : look? c g i m h = none := by
  cases taken : look? c g i m h with
  | none => rfl
  | some l =>
    unfold look? at taken
    split at taken
    · split at taken
      · rename_i own
        subst own
        split at taken
        · rename_i found
          simp [applied?, found] at quiet
        · cases taken
      · cases taken
    · cases taken

/-- What a look forks is what the ledger notes. -/
private theorem look_noted {cluster : String} {queue : List (Member ε)}
    {topology : Option Topology}
    (found : m.fiber? i = some ⟨p, .running (some (loop cluster queue topology))⟩)
    (moves : m.move? (chainDynamics c g) i .run = some m') :
    chainsFor (some cluster) (newborn m m')
        (forkedBy (m.world.presenceOf? p) (loop cluster queue topology)) =
      (look? c g i m (.move i .run)).toList.flatMap chainsOfLook := by
  by_cases stopping : m.world.isStopping = true
  · have taken := run_step found moves
    have applies : (chainDynamics c g).apply (loop cluster queue topology) p m.world =
        .of (.terminate .cancelled) p m.world :=
      roll_cluster_stopping stopping cluster queue topology
    rw [applies] at taken
    have nobody : newborn m m' = [] := by
      rw [taken, newborn, took_length]
      simp [Applied.of, Moves.actionOf, born]
    rw [no_look_refused found (.inl stopping), nobody]
    rfl
  · have goesOn : m.world.isStopping = false := by simpa using stopping
    cases seen : m.world.presenceOf? p with
    | none =>
      rw [no_look_refused found (.inr seen)]
      simp [forkedBy, chainsFor]
    | some presence =>
      rw [look_taken found goesOn seen moves]
      simp [chainsOfLook, forkedBy, Look.forked, Look.wave, newborn]

private theorem waves_stay {cluster : String} {past : List (Look ε)}
    (inv : Inv i plan.packet.presence cluster plan.packet.topology?
      (bucket plan.members ready (some cluster)) past r.machine)
    (forked : r.chainsOf (some cluster) = past.flatMap chainsOfLook)
    (happened : happen? (chainDynamics c g) r.machine h = some r'.machine)
    (noLook : look? c g i r.machine h = none)
    (same : r'.chainsOf (some cluster) = r.chainsOf (some cluster)) :
    GateStands plan ready r' i (some cluster) := by
  have inv := inv_happen inv happened
  rw [noLook, Option.toList_none, List.append_nil] at inv
  exact .waves cluster past inv (same.trans forked)

/-- A gate stands as it did while others act. -/
private theorem gate_stays (stands : GateStands plan ready r i b)
    (happened : happen? (chainDynamics c g) r.machine h = some r'.machine)
    (bystander : ∀ move, h ≠ .move i move) (same : r'.chainsOf b = r.chainsOf b) :
    GateStands plan ready r' i b := by
  cases stands with
  | waves cluster past inv forked =>
    exact waves_stay inv forked happened (no_look_of_bystander bystander) same
  | together p phase found stands =>
    refine .together p phase (bystander_stays happened bystander found) ?_
    cases stands with
    | idle _ next nobody => exact .idle _ next (same.trans nobody)
    | waits ids forked each => exact .waits ids (same.trans forked) each
    | done _ last forked all =>
      refine .done _ last (same ▸ forked) ?_
      rw [same]
      exact fun chain among => success_lasts happened (all chain among)
    | failed e forked => exact .failed e (same ▸ forked)

/-- A move of a gate that applies no step. -/
private theorem gate_quiet {move : Move Answer} {after : ChainMachine ε}
    (stands : GateStands plan ready r i b)
    (happened : happen? (chainDynamics c g) r.machine (.move i move) = some after)
    (quiet : applied? r.machine (.move i move) = none) :
    GateStands plan ready { r with machine := after } i b := by
  cases stands with
  | waves cluster past inv forked =>
    exact waves_stay inv forked happened (no_look_of_quiet quiet) rfl
  | together p phase found stands =>
    obtain ⟨f, found', moved⟩ := move_iff_moved.mp happened
    cases found.symm.trans found'
    cases stands with
    | idle _ next nobody =>
      cases next with
      | created =>
        cases moved with
        | start => exact .together p _ (replace_fiber found) (.idle _ .running nobody)
      | running =>
        cases moved with
        | step => simp [applied?, found] at quiet
      | sleeping =>
        cases moved with
        | wake => exact .together p _ (replace_fiber found) (.idle _ .running nobody)
    | waits ids forked each =>
      have members : (r.chainsOf none).map (·.member) = bucket plan.members ready none := by
        rw [forked]
        exact chains_for_members each
      cases moved with
      | join _ _ _ verdicts known clean =>
        refine .together p _ (replace_fiber found) (.done _ (.inl rfl) members ?_)
        intro chain among
        have among : chain ∈ r.chainsOf none := among
        rw [forked] at among
        obtain ⟨k, place, _⟩ := mem_chains_for among
        exact success_lasts happened
          (joined_succeeded known clean (List.mem_iff_getElem?.mpr ⟨k, place⟩))
      | fail =>
        exact .together _ _ (took_fiber found) (.failed _ members)
    | done _ last forked all =>
      rcases last with rfl | rfl
      · cases moved with
        | finish =>
          refine .together _ _ (took_fiber found) (.done _ (.inr rfl) forked ?_)
          exact fun chain among => success_lasts happened (all chain among)
      · cases moved
    | failed e forked => cases moved

/-- What a gate finds when it applies its step: none of its chains is still on
its way. -/
inductive GateFinds (plan : Plan ε) (ready : NameSet) (r : Roll ε) (p : Packet) :
    Option String → Step ε → Prop where
  | together (nobody : r.chainsOf none = []) :
      GateFinds plan ready r p none (.restartNow (bucket plan.members ready none))
  | waves (cluster : String) (queue : List (Member ε)) (works : p.presence = plan.packet.presence)
      (queued : ∀ m ∈ queue, m ∈ bucket plan.members ready (some cluster))
      (all : ∀ chain ∈ r.chainsOf (some cluster), Succeeded r.machine chain.id) :
      GateFinds plan ready r p (some cluster)
        (.rollCluster cluster queue plan.packet.topology?)

theorem gate_finds (stands : GateStands plan ready r i b)
    (found : r.machine.fiber? i = some ⟨p, .running (some step)⟩) :
    GateFinds plan ready r p b step := by
  cases stands with
  | waves cluster past inv forked =>
    obtain ⟨_, _, held, found', works, members, stage⟩ := inv.stands
    cases found.symm.trans found'
    cases stage with
    | idle _ next all =>
      cases next with
      | running =>
        refine .waves cluster held works ?_ ?_
        · exact fun m member => members.subset (List.mem_append_right _ member)
        · intro chain among
          rw [forked] at among
          obtain ⟨l, member, among⟩ := List.mem_flatMap.mp among
          obtain ⟨k, place, _⟩ := mem_chains_for among
          exact (all l member).2 chain.id (List.mem_iff_getElem?.mpr ⟨k, place⟩)
  | together _ _ found' stands =>
    cases found.symm.trans found'
    cases stands with
    | idle _ next nobody =>
      cases next with
      | running => exact .together nobody
    | done _ last =>
      rcases last with last | last <;> cases last

theorem GateFinds.gate_step (finds : GateFinds plan ready r p b step) : GateStep step := by
  cases finds with
  | together => exact .together _
  | waves => exact .waves ..

/-- A gate that applies its step forks what the ledger notes. -/
private theorem gate_steps {after : ChainMachine ε} (stands : GateStands plan ready r i b)
    (found : r.machine.fiber? i = some ⟨p, .running (some step)⟩)
    (moves : r.machine.move? (chainDynamics c g) i .run = some after)
    (same : r'.machine = after)
    (chains : r'.chainsOf b = r.chainsOf b ++ chainsFor b (newborn r.machine after)
      (forkedBy (r.machine.world.presenceOf? p) step)) :
    GateStands plan ready r' i b := by
  have finds := gate_finds stands found
  cases stands with
  | waves cluster past inv forked =>
    have inv' := inv_happen inv (h := .move i .run) moves
    cases finds with
    | waves _ queue =>
      refine .waves cluster _ (same ▸ inv') ?_
      rw [chains, forked, look_noted found moves, List.flatMap_append]
  | together _ _ found' stands =>
    cases finds with
    | together nobody =>
      have taken : after = took (chainDynamics c g) r.machine i p r.machine.world
          (.forkJoin ((bucket plan.members ready none).map (·.2)) none) := run_step found moves
      have forks : r'.chainsOf none =
          chainsFor none (newborn r.machine after) (bucket plan.members ready none) := by
        rw [chains, nobody]
        rfl
      have each : (newborn r.machine after).length = (bucket plan.members ready none).length := by
        rw [newborn, List.length_range', taken, took_length]
        simp [born]
      have found : r'.machine.fiber? i = some ⟨p, phaseAfter r.machine.fibers.length
          (.forkJoin ((bucket plan.members ready none).map (·.2)) none)⟩ := by
        rw [same, taken]
        exact took_fiber found
      by_cases empty : bucket plan.members ready none = []
      · rw [empty] at found forks
        refine .together p _ found (.done _ (.inl rfl) ?_ ?_)
        · rw [forks, empty]
          simp [chainsFor]
        · rw [forks]
          simp [chainsFor]
      · have somebody : (bucket plan.members ready none).map (·.2) ≠ [] := by simpa using empty
        rw [phase_after_fork _ somebody, List.length_map] at found
        refine .together p _ found (.waits _ ?_ (by simp))
        rw [forks, newborn, ← each, newborn, List.length_range']

/-- A gate never waits for an answer. -/
theorem gate_phase (stands : GateStands plan ready r i b) :
    ∃ p phase, r.machine.fiber? i = some ⟨p, phase⟩ ∧ ∀ call next, phase ≠ .waiting call next := by
  cases stands with
  | waves cluster past inv forked =>
    obtain ⟨p, phase, held, found, _, _, stage⟩ := inv.stands
    refine ⟨p, phase, found, ?_⟩
    rintro call next rfl
    cases stage with
    | idle _ next => cases next
  | together p phase found stands =>
    refine ⟨p, phase, found, ?_⟩
    rintro call next rfl
    cases stands with
    | idle _ next => cases next
    | done _ last => rcases last with last | last <;> cases last

/-! ## The roll as a whole -/

private theorem fresh_stays {chain : Chain ε} (fresh : Fresh m chain)
    (happened : happen? (chainDynamics c g) m h = some m')
    (waits : ∀ p step, applied? m h ≠ some (chain.id, p, step)) : Fresh m' chain := by
  by_cases own : ∃ move, h = .move chain.id move
  · obtain ⟨move, rfl⟩ := own
    obtain ⟨f, found, moved⟩ := move_iff_moved.mp happened
    rcases fresh with fresh | fresh
    · cases fresh.symm.trans found
      cases moved with
      | start => exact .inr (replace_fiber found)
    · cases fresh.symm.trans found
      cases moved with
      | step => exact absurd (applied_iff.mpr ⟨rfl, found⟩) (waits _ _)
  · have bystander := not_exists.mp own
    exact fresh.imp (bystander_stays happened bystander) (bystander_stays happened bystander)

/-- The head stands as it did, or is done waiting, unless it applies a step. -/
private theorem head_stays {head : FiberId} {gates : List (FiberId × Option String)}
    {progress : Progress} (stands : HeadStands plan head gates m progress)
    (happened : happen? (chainDynamics c g) m h = some m')
    (waits : ∀ p step, applied? m h ≠ some (head, p, step)) :
    HeadStands plan head gates m' progress := by
  cases stands with
  | waits found =>
    by_cases own : ∃ move, h = .move head move
    · obtain ⟨move, rfl⟩ := own
      obtain ⟨f, found', moved⟩ := move_iff_moved.mp happened
      cases found.symm.trans found'
      cases moved with
      | join _ _ _ verdicts known clean =>
        refine .closing (replace_fiber found) ?_
        intro gate member
        exact success_lasts happened
          (joined_succeeded known clean (List.mem_map_of_mem (f := (·.1)) member))
      | fail => exact .failed _ _ (took_fiber found)
    · exact .waits (bystander_stays happened (not_exists.mp own) found)
  | closing found all =>
    by_cases own : ∃ move, h = .move head move
    · obtain ⟨move, rfl⟩ := own
      obtain ⟨f, found', moved⟩ := move_iff_moved.mp happened
      cases found.symm.trans found'
      cases moved with
      | step => exact absurd (applied_iff.mpr ⟨rfl, found⟩) (waits _ _)
    · refine .closing (bystander_stays happened (not_exists.mp own) found) ?_
      exact fun gate member => success_lasts happened (all gate member)
  | failed p e found => exact .failed p e (done_stays_done happened found rfl)
  | closed all => exact .closed (fun gate member => success_lasts happened (all gate member))

private theorem not_own (other : i ≠ j) :
    ∀ move, (.move i .run : Happening Answer World) ≠ .move j move :=
  fun _ same => other (Happening.move.inj same).1

/-- A step of a fiber that is no gate leaves gates and chains as they are. -/
private theorem step_aside (opened : Opened plan ready r)
    (happened : happen? (chainDynamics c g) r.machine (.move i .run) = some r'.machine)
    (ungated : ∀ gate ∈ r.gates, i ≠ gate.1) (sameHead : r'.head = r.head)
    (gates : r'.gates = r.gates) (chains : r'.chains = r.chains) (begun : r'.begun = i :: r.begun)
    (head : HeadStands plan r'.head r'.gates r'.machine r'.progress) : Opened plan ready r' := by
  have ids : r'.ids = r.ids := by rw [Roll.ids, Roll.ids, sameHead, gates, chains]
  refine ⟨?_, ids ▸ opened.apart, gates ▸ opened.once, gates ▸ opened.filled, ?_, ?_, ?_, head⟩
  · rw [ids]
    exact fun id member => Nat.lt_of_lt_of_le (opened.within id member) (happen_length happened)
  · rw [chains, gates]
    exact opened.listed
  · rw [gates]
    intro gate member
    refine gate_stays (opened.gates gate member) happened (not_own (ungated gate member)) ?_
    rw [Roll.chainsOf, chains, Roll.chainsOf]
  · rw [chains, begun]
    intro chain member late
    have waits : chain.id ≠ i ∧ chain.id ∉ r.begun := by simpa using late
    refine fresh_stays (opened.fresh chain member waits.2) happened ?_
    exact fun p step applied => waits.1 (Happening.move.inj (applied_iff.mp applied).1).1.symm

/-- The head applies a step of an opened roll only to close it. -/
private theorem step_head {after : ChainMachine ε} (opened : Opened plan ready r)
    (found : r.machine.fiber? r.head = some ⟨p, .running (some step)⟩)
    (happened : r.machine.move? (chainDynamics c g) r.head .run = some after) :
    Opened plan ready (r.note after r.head p step) := by
  have ungated : ∀ gate ∈ r.gates, r.head ≠ gate.1 :=
    fun gate member => Ne.symm (gate_not_head opened member)
  have later : ∀ gate ∈ r.gates, Succeeded r.machine gate.1 → Succeeded after gate.1 :=
    fun gate _ succeeded => success_lasts (h := .move r.head .run) happened succeeded
  have head := opened.head
  cases progress : r.progress with
  | unopened =>
    rw [progress] at head
    cases head
  | opened =>
    rw [progress] at head
    cases head with
    | waits found' => cases found.symm.trans found'
    | failed p e found' => cases found.symm.trans found'
    | closing found' all =>
      cases found.symm.trans found'
      simp only [Roll.note, ↓reduceIte, progress]
      exact step_aside opened happened ungated rfl rfl rfl rfl
        (.closed (fun gate member => later gate member (all gate member)))
  | closed =>
    rw [progress] at head
    cases head with
    | closed all =>
      simp only [Roll.note, ↓reduceIte, progress]
      exact step_aside opened happened ungated rfl rfl rfl rfl
        (.closed (fun gate member => later gate member (all gate member)))

/-- A gate applies its step. -/
private theorem step_gate {after : ChainMachine ε} (opened : Opened plan ready r)
    (other : i ≠ r.head) (member : (i, b) ∈ r.gates)
    (found : r.machine.fiber? i = some ⟨p, .running (some step)⟩)
    (happened : r.machine.move? (chainDynamics c g) i .run = some after) :
    Opened plan ready
      { r with
        machine := after
        begun := i :: r.begun
        chains := r.chains ++ chainsFor b (newborn r.machine after)
          (forkedBy (r.machine.world.presenceOf? p) step) } := by
  have isGate := (gate_finds (opened.gates _ member) found).gate_step
  have longer := length_le happened
  have born : ∀ chain ∈ chainsFor b (newborn r.machine after)
      (forkedBy (r.machine.world.presenceOf? p) step),
      r.machine.fibers.length ≤ chain.id ∧ chain.id < after.fibers.length ∧ chain.bucket = b := by
    intro chain among
    obtain ⟨k, place, _, same⟩ := mem_chains_for among
    obtain ⟨least, bound⟩ := mem_newborn.mp (List.mem_iff_getElem?.mpr ⟨k, place⟩)
    exact ⟨least, bound, same⟩
  generalize newborns : chainsFor b (newborn r.machine after)
    (forkedBy (r.machine.world.presenceOf? p) step) = new at born
  have ids : Roll.ids { r with machine := after, begun := i :: r.begun, chains := r.chains ++ new } =
      r.ids ++ new.map (·.id) := by
    simp [Roll.ids]
  refine ⟨?_, ?_, opened.once, opened.filled, ?_, ?_, ?_, ?_⟩
  · rw [ids]
    intro id among
    rcases List.mem_append.mp among with among | among
    · exact Nat.lt_of_lt_of_le (opened.within id among) longer
    · obtain ⟨chain, late, rfl⟩ := List.mem_map.mp among
      exact (born chain late).2.1
  · rw [ids]
    refine List.nodup_append.mpr ⟨opened.apart, ?_, ?_⟩
    · rw [← newborns]
      exact (chains_for_ids b _ _).nodup List.nodup_range'
    · rintro id among _ late rfl
      obtain ⟨chain, late, same⟩ := List.mem_map.mp late
      have least := (born chain late).1
      rw [same] at least
      exact Nat.not_lt_of_le least (opened.within id among)
  · intro chain among
    rcases List.mem_append.mp among with among | among
    · exact opened.listed chain among
    · rw [(born chain among).2.2]
      exact List.mem_map_of_mem (f := (·.2)) member
  · rintro ⟨j, b'⟩ gate
    by_cases own : j = i
    · subst own
      have same : b' = b := congrArg Prod.snd (gate_of_id opened member gate rfl)
      subst same
      refine gate_steps (opened.gates _ gate) found happened rfl ?_
      have all : new.filter (fun chain => chain.bucket = b') = new :=
        List.filter_eq_self.mpr (fun chain among => by simp [(born chain among).2.2])
      rw [newborns, Roll.chainsOf, List.filter_append, all, Roll.chainsOf]
    · have different : b' ≠ b := fun same =>
        own (congrArg Prod.fst (List.inj_on_of_nodup_map opened.once gate member same))
      refine gate_stays (opened.gates _ gate) (h := .move i .run) happened
        (not_own (Ne.symm own)) ?_
      have none : new.filter (fun chain => chain.bucket = b') = [] :=
        List.filter_eq_nil_iff.mpr
          (fun chain among => by simp [(born chain among).2.2, Ne.symm different])
      rw [Roll.chainsOf, List.filter_append, none, List.append_nil, Roll.chainsOf]
  · intro chain among late
    have waits : chain.id ≠ i ∧ chain.id ∉ r.begun := by simpa using late
    rcases List.mem_append.mp among with among | among
    · refine fresh_stays (h := .move i .run) (opened.fresh chain among waits.2) happened ?_
      exact fun p step applied => waits.1 (Happening.move.inj (applied_iff.mp applied).1).1.symm
    · rw [← newborns] at among
      exact .inl (forked_fresh isGate found happened among)
  · refine head_stays (h := .move i .run) opened.head happened ?_
    exact fun p step applied => other (Happening.move.inj (applied_iff.mp applied).1).1

/-- Whatever happens to an opened roll leaves it built as it is. -/
theorem opened_follow (opened : Opened plan ready r) (follows : r.follow? c g h = some r') :
    Opened plan ready r' := by
  cases followed follows with
  | quiet _ after quiet happened =>
    refine ⟨?_, opened.apart, opened.once, opened.filled, opened.listed, ?_, ?_, ?_⟩
    · exact fun id member => Nat.lt_of_lt_of_le (opened.within id member) (happen_length happened)
    · intro gate member
      by_cases own : ∃ move, h = .move gate.1 move
      · obtain ⟨move, rfl⟩ := own
        exact gate_quiet (opened.gates gate member) happened quiet
      · exact gate_stays (opened.gates gate member) happened (not_exists.mp own) rfl
    · intro chain member late
      exact fresh_stays (opened.fresh chain member late) happened (by simp [quiet])
    · exact head_stays opened.head happened (by simp [quiet])
  | head p step after found happened => exact step_head opened found happened
  | gate i bucket p step after other listed found happened =>
    obtain ⟨before, others, shape, _⟩ := List.lookup_eq_some_iff.mp listed
    exact step_gate opened other (by simp [shape]) found happened
  | aside i p step after other unlisted found happened =>
    refine step_aside opened happened ?_ rfl rfl rfl rfl ?_
    · intro gate member same
      simpa [same] using List.lookup_eq_none_iff.mp unlisted gate member
    · refine head_stays (h := .move i .run) opened.head happened ?_
      exact fun p step applied => other (Happening.move.inj (applied_iff.mp applied).1).1

/-! ## Who has been forked -/

private theorem members_of_looks {past : List (Look ε)}
    (forks : ∀ l ∈ past, l.after.fibers.drop l.before.fibers.length =
      l.wave.map (fun member => ⟨member.2.2, .created member.2.1⟩)) :
    (past.flatMap chainsOfLook).map (·.member) = past.flatMap Look.wave := by
  rw [List.map_flatMap]
  refine List.flatMap_congr ?_
  intro l member
  refine chains_for_members ?_
  have lengths := congrArg List.length (forks l member)
  simpa [Look.forked] using lengths

/-- Nobody is forked twice and nobody is lost: the members whose chains a gate
has forked and those it holds are its bucket. -/
theorem gate_keeps_members (stands : GateStands plan ready r i b) :
    ∃ held, ((r.chainsOf b).map (·.member) ++ held).Perm (bucket plan.members ready b) := by
  cases stands with
  | waves cluster past inv forked =>
    obtain ⟨_, _, held, _, _, members, _⟩ := inv.stands
    refine ⟨held, ?_⟩
    rw [forked, members_of_looks inv.forks]
    exact members
  | together p phase found stands =>
    cases stands with
    | idle _ _ nobody => exact ⟨_, by rw [nobody]; exact .refl _⟩
    | waits ids forked each =>
      refine ⟨[], ?_⟩
      rw [forked, chains_for_members each, List.append_nil]
    | done _ _ forked | failed _ forked =>
      refine ⟨[], ?_⟩
      rw [forked, List.append_nil]

/-- A gate that has succeeded has forked its whole bucket, and all chains have
succeeded. -/
theorem gate_succeeded (stands : GateStands plan ready r i b)
    (succeeded : Succeeded r.machine i) :
    ((r.chainsOf b).map (·.member)).Perm (bucket plan.members ready b) ∧
      ∀ chain ∈ r.chainsOf b, Succeeded r.machine chain.id := by
  obtain ⟨p, ended⟩ := succeeded
  cases stands with
  | waves cluster past inv forked =>
    obtain ⟨_, _, held, found, _, members, stage⟩ := inv.stands
    cases found.symm.trans ended
    cases stage with
    | idle _ next => cases next
    | complete nobody all =>
      rw [nobody, List.append_nil] at members
      rw [forked]
      refine ⟨(members_of_looks inv.forks).symm ▸ members, ?_⟩
      intro chain among
      obtain ⟨l, member, among⟩ := List.mem_flatMap.mp among
      obtain ⟨k, place, _⟩ := mem_chains_for among
      exact (all l member).2 chain.id (List.mem_iff_getElem?.mpr ⟨k, place⟩)
  | together p phase found stands =>
    cases found.symm.trans ended
    cases stands with
    | idle _ next => cases next
    | done _ _ forked all => exact ⟨.of_eq forked, all⟩

/-- When a roll is closed all its gates have succeeded. -/
theorem closed_gates (opened : Opened plan ready r) (closed : r.progress = .closed)
    {gate : FiberId × Option String} (member : gate ∈ r.gates) :
    Succeeded r.machine gate.1 := by
  have head := opened.head
  rw [closed] at head
  cases head with
  | closed all => exact all gate member

/-- When a roll is closed all its chains have succeeded. -/
theorem closed_succeeded (opened : Opened plan ready r) (closed : r.progress = .closed)
    {chain : Chain ε} (among : chain ∈ r.chains) : Succeeded r.machine chain.id := by
  obtain ⟨⟨i, b⟩, gate, same⟩ := List.mem_map.mp (opened.listed chain among)
  have inBucket : chain ∈ r.chainsOf b := List.mem_filter.mpr ⟨among, by simpa using same.symm⟩
  exact (gate_succeeded (opened.gates _ gate) (closed_gates opened closed gate)).2 chain inBucket

/-- When a roll is closed every member has been restarted. -/
theorem closed_restarted (opened : Opened plan ready r) (closed : r.progress = .closed)
    {m : Member ε} (member : m ∈ plan.members) :
    ∃ chain ∈ r.chains, chain.member = m := by
  have filled := (opened.filled (queueOf Member.cluster? ready m)).mpr ⟨m, member, rfl⟩
  obtain ⟨⟨i, b⟩, gate, same⟩ := List.mem_map.mp filled
  have inBucket : m ∈ bucket plan.members ready b :=
    List.mem_filter.mpr ⟨member, by simpa using same.symm⟩
  have succeeded := gate_succeeded (opened.gates _ gate) (closed_gates opened closed gate)
  obtain ⟨chain, among, rfl⟩ := List.mem_map.mp (succeeded.1.mem_iff.mpr inBucket)
  exact ⟨chain, (List.mem_filter.mp among).1, rfl⟩

/-- The chain of a member stands in the bucket of the member. -/
theorem chain_in_bucket (opened : Opened plan ready r) {chain : Chain ε}
    (among : chain ∈ r.chains) : chain.member ∈ bucket plan.members ready chain.bucket := by
  obtain ⟨⟨i, b⟩, gate, same⟩ := List.mem_map.mp (opened.listed chain among)
  obtain ⟨held, members⟩ := gate_keeps_members (opened.gates _ gate)
  have inBucket : chain ∈ r.chainsOf b := List.mem_filter.mpr ⟨among, by simpa using same.symm⟩
  have forked := members.subset
    (List.mem_append_left held (List.mem_map_of_mem (f := (·.member)) inBucket))
  exact same ▸ forked

/-- A chain that was not there before has just been forked by a gate, and has
not started. -/
theorem chain_forked (opened : Opened plan ready r) (follows : r.follow? c g h = some r')
    {chain : Chain ε} (among : chain ∈ r'.chains) (new : chain ∉ r.chains) :
    ∃ gate ∈ r.gates, ∃ p step, GateStep step ∧
      r.machine.fiber? gate.1 = some ⟨p, .running (some step)⟩ ∧ h = .move gate.1 .run ∧
      chain ∈ chainsFor gate.2 (newborn r.machine r'.machine)
        (forkedBy (r.machine.world.presenceOf? p) step) ∧
      r'.machine.fiber? chain.id = some ⟨chain.member.2.2, .created chain.member.2.1⟩ := by
  cases followed follows with
  | quiet | aside => exact absurd among new
  | head p step after =>
    have same : (r.note after r.head p step).chains = r.chains := by
      simp only [Roll.note, ↓reduceIte]
      split <;> rfl
    exact absurd (same ▸ among) new
  | gate i b p step after other listed found happened =>
    obtain ⟨_, _, shape, _⟩ := List.lookup_eq_some_iff.mp listed
    have member : (i, b) ∈ r.gates := by simp [shape]
    have isGate := (gate_finds (opened.gates _ member) found).gate_step
    have late := (List.mem_append.mp among).resolve_left new
    exact ⟨(i, b), member, p, step, isGate, found, rfl, late,
      forked_fresh isGate found happened late⟩

/-- No chain is ever forgotten. -/
theorem chains_grow (follows : r.follow? c g h = some r') : ∀ chain ∈ r.chains, chain ∈ r'.chains := by
  intro chain among
  cases followed follows with
  | quiet | aside => exact among
  | gate => exact List.mem_append_left _ among
  | head p step after =>
    have same : (r.note after r.head p step).chains = r.chains := by
      simp only [Roll.note, ↓reduceIte]
      split <;> rfl
    exact same ▸ among

/-- A server has one chain at most. -/
theorem one_chain_a_server (opened : Opened plan ready r)
    (distinct : (plan.members.map (·.1)).Nodup) {chain other : Chain ε} (among : chain ∈ r.chains)
    (among' : other ∈ r.chains) (same : chain.member.1 = other.member.1) : chain = other := by
  obtain ⟨member, inBucket⟩ := List.mem_filter.mp (chain_in_bucket opened among)
  obtain ⟨member', inBucket'⟩ := List.mem_filter.mp (chain_in_bucket opened among')
  have sameMember : chain.member = other.member :=
    List.inj_on_of_nodup_map distinct member member' same
  have sameBucket : chain.bucket = other.bucket := by
    rw [← of_decide_eq_true inBucket, ← of_decide_eq_true inBucket', sameMember]
  obtain ⟨⟨i, b⟩, gate, named⟩ := List.mem_map.mp (opened.listed chain among)
  obtain ⟨held, members⟩ := gate_keeps_members (opened.gates _ gate)
  have once : ((r.chainsOf b).map (·.member)).Nodup := by
    have whole : (bucket plan.members ready b).Nodup :=
      (List.Nodup.of_map _ distinct).filter _
    exact (members.nodup_iff.mpr whole).sublist (List.sublist_append_left _ _)
  refine List.inj_on_of_nodup_map once ?_ ?_ sameMember
  · exact List.mem_filter.mpr ⟨among, by simpa using named.symm⟩
  · exact List.mem_filter.mpr ⟨among', by simpa [← sameBucket] using named.symm⟩

end DomainSteward.Anatomy
