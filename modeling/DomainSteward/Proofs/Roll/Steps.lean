import DomainSteward.Chain.Rules
import DomainSteward.Proofs.Roll.Wave

/-! What the steps of a roll do when they are applied, one statement for each
step. Everything proved about rolls rests on these and not on the bodies of
the steps. -/
namespace DomainSteward.RollSteps

variable {ε : Type} {c : Conduct} {p : Packet} {w : World} {id : PresenceId} {presence : Presence}

theorem presence_found (works : p.presence = some id) (known : w.presence? id = some presence) :
    w.presenceOf? p = some presence := by
  simp [World.presenceOf?, works, known]

theorem with_presence_found (works : p.presence = some id) (known : w.presence? id = some presence)
    (f : PresenceId → Presence → StepApplied ε) : withPresence p w f = f id presence := by
  simp [withPresence, works, known]

theorem with_presence_missing (missing : w.presenceOf? p = none)
    (f : PresenceId → Presence → StepApplied ε) :
    withPresence p w f = .of (.terminate missingPresence) p w := by
  unfold World.presenceOf? at missing
  unfold withPresence
  cases works : p.presence with
  | none => rfl
  | some id =>
    simp only [works, Option.bind_some] at missing
    simp [missing]

/-- A queue is split by the floor of its cluster. -/
theorem split_queue_iff {cluster : String} {topology : Option Topology} {queue : List (Member ε)}
    {split : WaveSplit (Step ε × Packet)} :
    splitQueue presence cluster topology queue = .ok split ↔
      ∃ floor, presence.minAvailable cluster = .ok floor ∧
        nextWave queue (presence.readyInCluster cluster topology) floor = split := by
  unfold splitQueue
  cases presence.minAvailable cluster with
  | error panic => simp [Except.map]
  | ok floor => simp [Except.map]

theorem split_queue_panics {cluster : String} {topology : Option Topology}
    {queue : List (Member ε)} {panic : Panic} :
    splitQueue presence cluster topology queue = .error panic ↔
      presence.minAvailable cluster = .error panic := by
  unfold splitQueue
  cases presence.minAvailable cluster with
  | error panic => simp [Except.map]
  | ok floor => simp [Except.map]

/-- Splitting a queue loses nobody. -/
theorem split_queue_keeps_members {cluster : String} {topology : Option Topology}
    {queue : List (Member ε)} {split : WaveSplit (Step ε × Packet)}
    (taken : splitQueue presence cluster topology queue = .ok split) :
    (split.wave ++ split.held).Perm queue := by
  obtain ⟨floor, -, rfl⟩ := split_queue_iff.mp taken
  exact Waves.next_wave_keeps_members ..

theorem split_queue_members {cluster : String} {topology : Option Topology}
    {queue : List (Member ε)} {split : WaveSplit (Step ε × Packet)}
    (taken : splitQueue presence cluster topology queue = .ok split) :
    (∀ m ∈ split.wave, m ∈ queue) ∧ ∀ m ∈ split.held, m ∈ queue := by
  have members := (split_queue_keeps_members taken).subset
  exact ⟨fun m inside => members (List.mem_append_left _ inside),
    fun m inside => members (List.mem_append_right _ inside)⟩

/-- The members of a cluster that the next wave takes; nobody without a floor. -/
def waveOf (presence : Presence) (cluster : String) (topology : Option Topology)
    (queue : List (Member ε)) : List (Member ε) :=
  match presence.minAvailable cluster with
  | .ok floor => (nextWave queue (presence.readyInCluster cluster topology) floor).wave
  | .error _ => []

theorem wave_of_split {cluster : String} {topology : Option Topology} {queue : List (Member ε)}
    {split : WaveSplit (Step ε × Packet)}
    (taken : splitQueue presence cluster topology queue = .ok split) :
    waveOf presence cluster topology queue = split.wave := by
  obtain ⟨floor, given, rfl⟩ := split_queue_iff.mp taken
  simp only [waveOf, given]

/-- A wave takes nobody who is not in the queue. -/
theorem wave_of_members {cluster : String} {topology : Option Topology} {queue : List (Member ε)}
    {m : Member ε} (taken : m ∈ waveOf presence cluster topology queue) : m ∈ queue := by
  unfold waveOf at taken
  split at taken
  · exact (Waves.next_wave_keeps_members ..).subset (List.mem_append_left _ taken)
  · cases taken

/-- What one look at the queue of a cluster comes to. -/
inductive Looked (c : Conduct) (cluster : String) (queue : List (Member ε))
    (topology : Option Topology) (p : Packet) (w : World) :
    Except Panic (StepAction ε) → Prop where
  /-- It is refused, once the operator is stopping or for want of a presence. -/
  | refused (e : FiberError) (why : w.isStopping = true ∨ w.presenceOf? p = none) :
      Looked c cluster queue topology p w (.ok (.terminate e))
  /-- The cluster has no floor. -/
  | floorless (presence : Presence) (goesOn : w.isStopping = false)
      (seen : w.presenceOf? p = some presence) (panic : Panic)
      (panics : splitQueue presence cluster topology queue = .error panic) :
      Looked c cluster queue topology p w (.error panic)
  /-- A wave starts. -/
  | wave (presence : Presence) (goesOn : w.isStopping = false)
      (seen : w.presenceOf? p = some presence) (split : WaveSplit (Step ε × Packet))
      (taken : splitQueue presence cluster topology queue = .ok split) (some : split.wave ≠ []) :
      Looked c cluster queue topology p w
        (.ok (.forkJoin (split.wave.map (·.2)) (.some (.rollCluster cluster split.held topology))))
  /-- Nobody is left. -/
  | complete (presence : Presence) (goesOn : w.isStopping = false)
      (seen : w.presenceOf? p = some presence) (split : WaveSplit (Step ε × Packet))
      (taken : splitQueue presence cluster topology queue = .ok split) (nobody : queue = []) :
      Looked c cluster queue topology p w (.ok .finish)
  /-- Nobody can be spared, so everybody stays in the queue. -/
  | noSlack (presence : Presence) (goesOn : w.isStopping = false)
      (seen : w.presenceOf? p = some presence) (split : WaveSplit (Step ε × Packet))
      (taken : splitQueue presence cluster topology queue = .ok split) (none : split.wave = [])
      (some : split.held ≠ []) :
      Looked c cluster queue topology p w
        (.ok (.delay c.pollDelay (.some (.rollCluster cluster split.held topology))))

/-- A look at the queue changes neither packet nor world. -/
theorem roll_cluster_looks (cluster : String) (queue : List (Member ε))
    (topology : Option Topology) :
    ∃ outcome, rollCluster c cluster queue topology p w = ⟨outcome, p, w⟩ ∧
      Looked c cluster queue topology p w outcome := by
  unfold rollCluster
  by_cases stopping : w.isStopping = true
  · exact ⟨_, by simp [stopping]; rfl, .refused .cancelled (.inl stopping)⟩
  · have goesOn : w.isStopping = false := by simpa using stopping
    simp only [goesOn, Bool.false_eq_true, ↓reduceIte]
    cases seen : w.presenceOf? p with
    | none => exact ⟨_, with_presence_missing seen _, .refused _ (.inr seen)⟩
    | some presence =>
      obtain ⟨id, works, known⟩ := Option.bind_eq_some_iff.mp seen
      rw [with_presence_found works known]
      cases taken : splitQueue presence cluster topology queue with
      | error panic => exact ⟨_, rfl, .floorless presence goesOn seen panic taken⟩
      | ok split =>
        by_cases wave : split.wave = []
        · by_cases held : split.held = []
          · have nobody : queue = [] := by
              have kept := split_queue_keeps_members taken
              rw [wave, held] at kept
              exact kept.nil_eq.symm
            exact ⟨_, by simp [wave, held]; rfl, .complete presence goesOn seen split taken nobody⟩
          · exact ⟨_, by simp [wave, held]; rfl, .noSlack presence goesOn seen split taken wave held⟩
        · exact ⟨_, by simp [wave]; rfl, .wave presence goesOn seen split taken wave⟩

theorem roll_cluster_stopping (stopping : w.isStopping = true) (cluster : String)
    (queue : List (Member ε)) (topology : Option Topology) :
    rollCluster c cluster queue topology p w = .of (.terminate .cancelled) p w := by
  simp [rollCluster, stopping]

/-! ## Opening and closing -/

/-- The members of a roll that wait for the same: for the waves of a cluster,
or for nothing. -/
def bucket (members : List (Member ε)) (ready : NameSet) (b : Option String) :
    List (Member ε) :=
  members.filter (fun m => queueOf Member.cluster? ready m = b)

/-- The step that restarts the members of a bucket. -/
def gateStep (members : List (Member ε)) (ready : NameSet) (topology : Option Topology) :
    Option String → Step ε
  | none => .restartNow (bucket members ready none)
  | some cluster => .rollCluster cluster (bucket members ready (some cluster)) topology

/-- A roll has one fiber for each bucket that is not empty. -/
theorem one_fiber_a_bucket (members : List (Member ε)) (ready : NameSet) (p : Packet) :
    ∃ buckets : List (Option String), buckets.Nodup ∧
      (∀ b, b ∈ buckets ↔ ∃ m ∈ members, queueOf Member.cluster? ready m = b) ∧
      rollFibers members ready p =
        buckets.map (fun b => (gateStep members ready p.topology? b, p)) := by
  let split := partition Member.cluster? ready members
  have queues : split.clustered.entries.map
      (fun entry => ((.rollCluster entry.1 entry.2 p.topology? : Step ε), p)) =
      (split.clustered.keys.map some).map
        (fun b => (gateStep members ready p.topology? b, p)) := by
    simp only [NameMap.keys, List.map_map]
    refine List.map_congr_left ?_
    rintro ⟨cluster, queue⟩ entry
    simp [gateStep, bucket, Waves.clustered_queue entry]
  have distinct : (split.clustered.keys.map some).Nodup :=
    (NameMaps.keys_nodup _).map (fun _ _ => Option.some.inj)
  have clusters : ∀ cluster, some cluster ∈ split.clustered.keys.map some ↔
      ∃ m ∈ members, queueOf Member.cluster? ready m = some cluster := by
    intro cluster
    have keys : cluster ∈ split.clustered.keys ↔
        ∃ m ∈ members, queueOf Member.cluster? ready m = some cluster := Waves.clustered_keys
    rw [← keys]
    simp
  by_cases nobody : split.unconstrained = []
  · refine ⟨_, distinct, ?_, ?_⟩
    · intro b
      cases b with
      | some cluster => exact clusters cluster
      | none =>
        have : ∀ m ∈ members, queueOf Member.cluster? ready m ≠ none := by
          simpa [split, partition, List.filter_eq_nil_iff] using nobody
        simpa using this
    · simp [rollFibers, split, nobody, queues]
  · refine ⟨none :: split.clustered.keys.map some, ?_, ?_, ?_⟩
    · exact List.nodup_cons.mpr ⟨by simp, distinct⟩
    · intro b
      cases b with
      | some cluster => simpa using clusters cluster
      | none =>
        have somebody : ∃ m ∈ members, queueOf Member.cluster? ready m = none := by
          obtain ⟨m, member⟩ := List.exists_mem_of_ne_nil _ nobody
          obtain ⟨among, now⟩ := List.mem_filter.mp member
          exact ⟨m, among, by simpa using now⟩
        exact ⟨fun _ => somebody, fun _ => List.mem_cons_self⟩
    · have some : split.unconstrained.isEmpty = false := by simpa using nobody
      simp only [rollFibers, some, List.map_cons, ← queues, split]
      rfl

/-- A packet with the mark that its roll has been announced. -/
def marked (p : Packet) : Packet :=
  if p.contains Packet.rollMarkKey then p else p.put Packet.rollMarkKey (.flag true)

theorem announce_marks (servers : List String) : (announce id servers p w).1 = marked p := by
  unfold announce marked
  split <;> rfl

theorem marked_presence (p : Packet) : (marked p).presence = p.presence := by
  unfold marked
  split <;> rfl

theorem marked_topology (p : Packet) : (marked p).topology? = p.topology? := by
  unfold marked
  split
  · rfl
  · have other : Packet.topologyKey ≠ Packet.rollMarkKey := by decide
    simp [Packet.topology?, Packet.value?, Packet.put, NameMap.get?_insert, other]

theorem roll_if_needed_found (sink : Option FailureSink) (next : Option (Step ε))
    (works : p.presence = some id) (known : w.presence? id = some presence)
    (domain : presence.domain = some d) :
    rollIfNeeded sink next p w =
      if (workOf (ε := ε) sink presence d.restartVersion p).isEmpty then .of (.goOn next) p w
      else .of (.next (rollServers (workOf sink presence d.restartVersion p) next)) p w := by
  rw [rollIfNeeded, with_presence_found works known]
  simp only [domain]

theorem rolling_missing (members : List (Member ε)) (next : Option (Step ε))
    (missing : w.presenceOf? p = none) :
    rolling members next p w = .of (.terminate missingPresence) p w :=
  with_presence_missing missing _

theorem rolling_found (members : List (Member ε)) (next : Option (Step ε))
    (works : p.presence = some id) (known : w.presence? id = some presence) :
    rolling members next p w =
      .of (.forkJoin (rollFibers members presence.readyServers (marked p))
        (some (.afterRoll next))) (marked p) (announce id (members.map (·.1)) p w).2 := by
  have marks : (announce id (members.map (·.1)) p w).1 = marked p := announce_marks _
  rw [rolling, with_presence_found works known, ← marks]

end DomainSteward.RollSteps
