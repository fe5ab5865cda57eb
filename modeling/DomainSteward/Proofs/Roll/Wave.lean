import DomainSteward.Proofs.Data.NameMap
import DomainSteward.Roll.Partition
import DomainSteward.Roll.Wave

/-! A wave takes as much off a queue as it may: who is not Ready, and of the
Ready ones the first for which there is slack. Nothing is lost or repeated, and
both parts keep the order of the queue. A partition puts every member where its
readiness and its cluster say. -/
namespace DomainSteward.Waves

variable {α β : Type} {ready : NameSet}

/-! ## Places -/

/-- The elements of a list at the places that pass a test, in the order of the list. -/
def atPlaces (test : Nat → Bool) : List β → List β
  | [] => []
  | b :: rest =>
    let later := atPlaces (fun place => test (place + 1)) rest
    if test 0 then b :: later else later

theorem places_sublist (test : Nat → Bool) (l : List β) : (atPlaces test l).Sublist l := by
  induction l generalizing test with
  | nil => exact .slnil
  | cons b rest ih =>
    have later := ih (fun place => test (place + 1))
    rw [atPlaces]
    split
    · exact later.cons_cons b
    · exact later.cons b

/-- What is at some places and what is at the others are the list again. -/
theorem places_perm (test : Nat → Bool) (l : List β) :
    (atPlaces test l ++ atPlaces (fun place => !test place) l).Perm l := by
  induction l generalizing test with
  | nil => exact .refl _
  | cons b rest ih =>
    have later := ih (fun place => test (place + 1))
    cases first : test 0 with
    | true => simpa [atPlaces, first] using later
    | false =>
      simp only [atPlaces, first, Bool.not_false, if_true, Bool.false_eq_true, if_false]
      exact List.perm_middle.trans (later.cons _)

/-! ## Waves -/

/-- The Ready members of a list. -/
def readyOnes (ready : NameSet) (members : List (String × α)) : List (String × α) :=
  members.filter (fun m => ready.contains m.1)

/-- Whether the member at a place of a queue goes with a wave: it is not Ready, or the Ready ones
before it have not used up the slack. -/
def goes (ready : NameSet) (slack : Nat) (queue : List (String × α)) (place : Nat) : Bool :=
  queue[place]?.all (fun m => !ready.contains m.1) ||
    decide ((readyOnes ready (queue.take place)).length < slack)

section Goes

variable {m : String × α} {rest : List (String × α)} {slack place : Nat}

private theorem goes_first : goes ready slack (m :: rest) 0 =
    (!ready.contains m.1 || decide (0 < slack)) := rfl

private theorem goes_after_absent (absent : ready.contains m.1 = false) :
    goes ready slack (m :: rest) (place + 1) = goes ready slack rest place := by
  have before : readyOnes ready ((m :: rest).take (place + 1)) =
      readyOnes ready (rest.take place) := by
    simp [readyOnes, absent]
  rw [goes, before]
  rfl

private theorem goes_after_ready (isReady : ready.contains m.1 = true) :
    goes ready slack (m :: rest) (place + 1) = goes ready (slack - 1) rest place := by
  have before : readyOnes ready ((m :: rest).take (place + 1)) =
      m :: readyOnes ready (rest.take place) := by
    simp [readyOnes, isReady]
  have used : (readyOnes ready (rest.take place)).length + 1 < slack ↔
      (readyOnes ready (rest.take place)).length < slack - 1 := by omega
  rw [goes, before, List.length_cons, decide_eq_decide.mpr used]
  rfl

end Goes

/-- The wave and what stays behind are what goes and what does not. -/
theorem take_wave_places (ready : NameSet) (slack : Nat) (queue : List (String × α)) :
    takeWave ready slack queue =
      ⟨atPlaces (goes ready slack queue) queue,
        atPlaces (fun place => !goes ready slack queue place) queue⟩ := by
  induction queue generalizing slack with
  | nil => rfl
  | cons m rest ih =>
    cases isReady : ready.contains m.1 with
    | false => simp [takeWave, atPlaces, goes_first, goes_after_absent isReady, isReady, ih]
    | true =>
      simp only [takeWave, atPlaces, goes_first, goes_after_ready isReady, isReady, ih]
      cases slack with
      | zero => simp
      | succ slack => simp

/-- The Ready ones of a wave are the first of the queue. -/
theorem take_wave_ready (ready : NameSet) (slack : Nat) (queue : List (String × α)) :
    readyOnes ready (takeWave ready slack queue).wave = (readyOnes ready queue).take slack := by
  induction queue generalizing slack with
  | nil => simp [takeWave, readyOnes]
  | cons m rest ih =>
    have first := ih slack
    have next := ih (slack - 1)
    cases isReady : ready.contains m.1 with
    | false => simpa [takeWave, readyOnes, isReady] using first
    | true =>
      cases slack with
      | zero => simpa [takeWave, readyOnes, isReady] using first
      | succ slack => simpa [takeWave, readyOnes, isReady] using next

/-- Who stays behind are the other Ready ones. -/
theorem take_wave_held (ready : NameSet) (slack : Nat) (queue : List (String × α)) :
    (takeWave ready slack queue).held = (readyOnes ready queue).drop slack := by
  induction queue generalizing slack with
  | nil => simp [takeWave, readyOnes]
  | cons m rest ih =>
    cases isReady : ready.contains m.1 with
    | false => simpa [takeWave, readyOnes, isReady] using ih slack
    | true =>
      cases slack with
      | zero => simpa [takeWave, readyOnes, isReady] using ih 0
      | succ slack => simpa [takeWave, readyOnes, isReady] using ih slack

/-- A wave and what stays behind are the queue again. -/
theorem next_wave_keeps_members (queue : List (String × α)) (ready : NameSet) (floor : Nat) :
    ((nextWave queue ready floor).wave ++ (nextWave queue ready floor).held).Perm queue := by
  rw [nextWave, take_wave_places]
  exact places_perm _ queue

/-- Each Ready member of a wave is paid for by the slack. -/
theorem next_wave_within_slack (queue : List (String × α)) (ready : NameSet) (floor : Nat) :
    ((nextWave queue ready floor).wave.filter (fun m => ready.contains m.1)).length ≤
      ready.size - floor := by
  have first := take_wave_ready ready (ready.size - floor) queue
  rw [readyOnes] at first
  rw [nextWave, first]
  exact List.length_take_le _ _

/-- The Ready servers that do not go with a wave. -/
def spared (ready : NameSet) (wave : List (String × α)) : List String :=
  ready.toNames.filter (fun name => decide (name ∉ wave.map (·.1)))

/-- Every Ready server goes with a wave as one of its Ready members or is spared. -/
theorem ready_spared (ready : NameSet) (wave : List (String × α)) :
    ready.size ≤ (readyOnes ready wave).length + (spared ready wave).length := by
  have taken : (ready.toNames.filter (fun name => !decide (name ∉ wave.map (·.1)))).length ≤
      ((readyOnes ready wave).map (·.1)).length := by
    refine ((NameMaps.keys_nodup ready).filter _).length_le_of_subset fun name among => ?_
    obtain ⟨isReady, goes⟩ := List.mem_filter.mp among
    obtain ⟨m, member, rfl⟩ := List.mem_map.mp (by simpa using goes : name ∈ wave.map (·.1))
    exact List.mem_map_of_mem (List.mem_filter.mpr ⟨member, NameMaps.mem_keys.mp isReady⟩)
  have all : ready.size = ready.toNames.length := (List.length_map _).symm
  have parts := List.length_eq_length_filter_add (l := ready.toNames)
    (fun name => decide (name ∉ wave.map (·.1)))
  rw [List.length_map] at taken
  rw [spared]
  omega

/-- A split that takes as much off a queue as it may, first come first served. -/
structure Maximal (queue : List (String × α)) (ready : NameSet) (floor : Nat)
    (split : WaveSplit α) : Prop where
  /-- Both parts keep the order of the queue. -/
  ordered : split.wave.Sublist queue ∧ split.held.Sublist queue
  /-- Nothing is lost or repeated. -/
  whole : (split.wave ++ split.held).Perm queue
  /-- The wave is what stands at some places of the queue, and the rest what stands at the others.
  Who is not Ready goes, and who is Ready if fewer Ready ones stand before it than there is
  slack. -/
  places : ∃ test : Nat → Bool, split.wave = atPlaces test queue ∧
    split.held = atPlaces (fun place => !test place) queue ∧
    ∀ place m, queue[place]? = some m → (test place = true ↔ ready.contains m.1 = false ∨
      (readyOnes ready (queue.take place)).length < ready.size - floor)
  /-- So many Ready ones go as the slack allows. -/
  count : (readyOnes ready split.wave).length =
    min (ready.size - floor) (readyOnes ready queue).length
  /-- Only Ready ones stay behind. -/
  waits : ∀ m ∈ split.held, ready.contains m.1 = true
  /-- Nobody stays behind unless the slack is used up. -/
  spent : split.held ≠ [] → (readyOnes ready split.wave).length = ready.size - floor
  /-- Enough Ready ones for the floor are spared. -/
  enough : min ready.size floor ≤ (spared ready split.wave).length

/-- The next wave is the largest that the slack allows. -/
theorem next_wave_is_maximal (queue : List (String × α)) (ready : NameSet) (floor : Nat) :
    Maximal queue ready floor (nextWave queue ready floor) := by
  have first : readyOnes ready (nextWave queue ready floor).wave =
    (readyOnes ready queue).take (ready.size - floor) := take_wave_ready ready _ queue
  have behind : (nextWave queue ready floor).held =
    (readyOnes ready queue).drop (ready.size - floor) := take_wave_held ready _ queue
  have parts : nextWave queue ready floor =
      ⟨atPlaces (goes ready (ready.size - floor) queue) queue,
        atPlaces (fun place => !goes ready (ready.size - floor) queue place) queue⟩ :=
    take_wave_places ready _ queue
  exact {
    ordered := parts ▸ ⟨places_sublist _ queue, places_sublist _ queue⟩
    whole := next_wave_keeps_members queue ready floor
    places := by
      refine ⟨goes ready (ready.size - floor) queue, by rw [parts], by rw [parts], ?_⟩
      intro place m here
      simp [goes, here]
    count := by rw [first, List.length_take]
    waits := by
      intro m among
      rw [behind] at among
      exact (List.mem_filter.mp (List.mem_of_mem_drop among)).2
    spent := by
      intro somebody
      rw [behind, ne_eq, List.drop_eq_nil_iff] at somebody
      rw [first, List.length_take]
      omega
    enough := by
      have spares := ready_spared ready (nextWave queue ready floor).wave
      have within := next_wave_within_slack queue ready floor
      rw [readyOnes] at spares
      omega }

/-! ## Partitions -/

variable {clusterOf : α → Option String} {work : List (String × α)} {cluster : String}

/-- The queue of a cluster is its part of the work, in the order of the work. -/
theorem clustered_queue {queue : List (String × α)}
    (entry : (cluster, queue) ∈ (partition clusterOf ready work).clustered.entries) :
    queue = work.filter (fun m => queueOf clusterOf ready m = some cluster) := by
  obtain ⟨_, _, same⟩ := List.mem_map.mp (NameMaps.mem_of_mem_ofList entry)
  cases same
  rfl

/-- There is a queue for every cluster with work, and for no other. -/
theorem clustered_keys :
    cluster ∈ (partition clusterOf ready work).clustered.keys ↔
      ∃ m ∈ work, queueOf clusterOf ready m = some cluster := by
  rw [partition, NameMaps.mem_keys_ofList, List.map_map, List.mem_map]
  constructor
  · rintro ⟨_, member, rfl⟩
    exact List.mem_filterMap.mp member
  · intro queued
    exact ⟨cluster, List.mem_filterMap.mpr queued, rfl⟩

/-- Who waits in the queue of a cluster. -/
theorem mem_clustered {m : String × α} :
    (∃ queue, (partition clusterOf ready work).clustered.get? cluster = some queue ∧ m ∈ queue) ↔
      m ∈ work ∧ queueOf clusterOf ready m = some cluster := by
  constructor
  · rintro ⟨queue, entry, waits⟩
    rw [clustered_queue (NameMaps.mem_entries.mpr entry)] at waits
    simpa using List.mem_filter.mp waits
  · rintro ⟨among, queued⟩
    obtain ⟨queue, entry⟩ := Option.isSome_iff_exists.mp
      (NameMaps.mem_keys.mp (clustered_keys.mpr ⟨m, among, queued⟩))
    refine ⟨queue, entry, ?_⟩
    rw [clustered_queue (NameMaps.mem_entries.mpr entry)]
    exact List.mem_filter.mpr ⟨among, decide_eq_true queued⟩

end DomainSteward.Waves
