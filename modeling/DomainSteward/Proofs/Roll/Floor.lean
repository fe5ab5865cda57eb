import Mathlib.Data.Finset.Card
import DomainSteward.Proofs.Roll.Calm

/-! The availability floor of a roll. While restart chains take servers down
and bring them back, every cluster keeps as many Ready servers as it has to,
or as many as it had if those were fewer. -/
namespace DomainSteward.Floor
open Machine Moves RollSteps WaveLoop Ledger Anatomy Views Calm

variable {ε : Type}

/-! ## How servers stand -/

/-- The cluster that the pod of a server names. -/
def labelOf (p : Presence) (server : String) : Option String :=
  (p.pod? server).bind Pod.clusterName?

/-- How a server stands: if it is Ready, with the cluster of its pod. -/
def standing? (p : Presence) (server : String) : Option (Option String) :=
  if p.isServerReady server then some (labelOf p server) else none

/-- The servers that stand in a cluster. -/
def lineup (p : Presence) (cluster : String) : Finset String :=
  (p.readyInCluster cluster none).keys.toFinset

/-- A topology lists no servers of a cluster, or exactly those of the label. -/
def Truthful (labels : String → Option String) (topology : Option Topology) : Prop :=
  ∀ t, topology = some t → ∀ cluster names, t.members? cluster = some names →
    names = [] ∨ ∀ server, server ∈ names ↔ labels server = some cluster

variable {now : Presence} {cluster server : String} {labels : String → Option String}
  {topology : Option Topology}

theorem standing_some {label : Option String} :
    standing? now server = some label ↔
      ∃ pod, now.pod? server = some pod ∧ now.isReadyWith server pod = true ∧
        pod.clusterName? = label := by
  simp only [standing?, Presence.isServerReady, labelOf]
  rcases Option.eq_none_or_eq_some (now.pod? server) with held | ⟨pod, held⟩
  · simp [held]
  · simp [held]

theorem ready_contains :
    (now.readyInCluster cluster topology).contains server = true ↔
      ∃ pod, now.pod? server = some pod ∧ now.isReadyWith server pod = true ∧
        Presence.isMember topology cluster server pod = true := by
  rw [Presence.readyInCluster, NameMaps.contains_names_filter, Option.any_eq_true]
  refine exists_congr fun pod => ?_
  rw [Bool.and_eq_true, and_comm (a := Presence.isMember _ _ _ _ = true)]
  rfl

/-- Where the labels are those of old, the Ready members of a cluster are the
servers that stand in it. -/
theorem ready_iff_standing (truthful : Truthful labels topology)
    (labelled : ∀ server label, standing? now server = some label → label = labels server) :
    (now.readyInCluster cluster topology).contains server = true ↔
      standing? now server = some (some cluster) := by
  rw [ready_contains, standing_some]
  refine exists_congr fun pod => and_congr_right fun held => and_congr_right fun isReady => ?_
  have label : pod.clusterName? = labels server :=
    labelled server _ (standing_some.mpr ⟨pod, held, isReady, rfl⟩)
  unfold Presence.isMember
  split
  · rename_i names listed
    obtain ⟨listed, some⟩ := Option.filter_eq_some_iff.mp listed
    obtain ⟨t, known, listed⟩ := Option.bind_eq_some_iff.mp listed
    rcases truthful t known cluster names listed with nobody | exact
    · simp [nobody] at some
    · rw [List.contains_iff_mem, exact server, label]
  · simp

theorem mem_lineup : server ∈ lineup now cluster ↔ standing? now server = some (some cluster) := by
  rw [lineup, List.mem_toFinset, NameMaps.mem_keys, ready_contains, standing_some]
  simp [Presence.isMember]

/-- The Ready members of a cluster are as many as the servers that stand in it. -/
theorem ready_size (truthful : Truthful labels topology)
    (labelled : ∀ server label, standing? now server = some label → label = labels server) :
    (now.readyInCluster cluster topology).size = (lineup now cluster).card := by
  have same : lineup now cluster = (now.readyInCluster cluster topology).keys.toFinset := by
    ext server
    rw [mem_lineup, List.mem_toFinset, NameMaps.mem_keys, ready_iff_standing truthful labelled]
  rw [same, List.toFinset_card_of_nodup (NameMaps.keys_nodup _)]
  exact (List.length_map _).symm

/-! ## Orderly rolls -/

/-- The chain of a server has applied a step. -/
def UnderWay (r : Roll ε) (server : String) : Prop :=
  ∃ chain ∈ r.chains, chain.member.1 = server ∧ chain.id ∈ r.begun

/-- The chain of a server applies its first step between two moments. -/
def Starts (r r' : Roll ε) (server : String) : Prop :=
  ∃ chain ∈ r.chains, chain.member.1 = server ∧ chain.id ∉ r.begun ∧ chain.id ∈ r'.begun

/-- The domain of a presence stays as it is, and a server that stood somewhere
stands there still, unless its chain starts, which takes it down, or has
started before, which may bring it back under its label. -/
def Orderly (id : PresenceId) (labels : String → Option String) (r r' : Roll ε) : Prop :=
  ∀ was, r.machine.world.presence? id = some was →
    ∃ is, r'.machine.world.presence? id = some is ∧ is.domain = was.domain ∧
      ∀ server, standing? is server = standing? was server ∨
        Starts r r' server ∧ standing? is server = none ∨
        UnderWay r' server ∧ standing? is server = some (labels server)

/-- Something that happens is a move of the roll itself: of its head, before
the roll is closed, or of a gate. -/
def OwnMove (r : Roll ε) : Happening Answer World → Prop
  | .move i _ => i = r.head ∧ r.progress ≠ .closed ∨ i ∈ r.gates.map (·.1)
  | .outside _ => False

/-- A course in which everything but the moves of the roll itself is orderly. -/
def OrderlyCourse (c : Conduct) (g : GuestRules ε) (id : PresenceId)
    (labels : String → Option String) : Roll ε → List (Happening Answer World) → Prop
  | _, [] => True
  | r, h :: rest => ∀ r', r.follow? c g h = some r' →
      (¬ OwnMove r h → Orderly id labels r r') ∧ OrderlyCourse c g id labels r' rest

/-- The servers whose chains have been forked and have not started. -/
def waiting (r : Roll ε) : Finset String :=
  ((r.chains.filter (fun chain => chain.id ∉ r.begun)).map (·.member.1)).toFinset

variable {c : Conduct} {g : GuestRules ε} {r r' : Roll ε} {h : Happening Answer World}
  {plan : Plan ε} {ready : NameSet} {id : PresenceId} {before : Presence}

theorem mem_waiting :
    server ∈ waiting r ↔ ∃ chain ∈ r.chains, chain.member.1 = server ∧ chain.id ∉ r.begun := by
  simp only [waiting, List.mem_toFinset, List.mem_map, List.mem_filter, decide_eq_true_eq]
  exact exists_congr fun chain => by tauto

/-- How many of some Ready servers have to stay Ready: as many as the floor says, and all of them if
there is no floor. -/
def least (floor : Except Panic Nat) (count : Nat) : Nat :=
  match floor with
  | .ok floor => min floor count
  | .error _ => count

theorem least_le (floor : Except Panic Nat) (count : Nat) : least floor count ≤ count := by
  cases floor with
  | ok floor => exact Nat.min_le_right floor count
  | error panic => exact Nat.le_refl count

/-- What an orderly roll keeps of the presence it works for: the Ready servers
that no chain is about to take down are enough. -/
structure Secure (id : PresenceId) (before : Presence) (r : Roll ε) (now : Presence) : Prop where
  known : r.machine.world.presence? id = some now
  domain : now.domain = before.domain
  labelled : ∀ server label, standing? now server = some label → label = labelOf before server
  floor : ∀ cluster, least (before.minAvailable cluster) (lineup before cluster).card ≤
    (lineup now cluster \ waiting r).card

/-- Members that restart at once stand in no cluster before their chains have
started. -/
def Spared (plan : Plan ε) (ready : NameSet) (r : Roll ε) (now : Presence) : Prop :=
  ∀ m ∈ bucket plan.members ready none, ¬ UnderWay r m.1 →
    ∀ cluster, standing? now m.1 ≠ some (some cluster)

/-- An orderly change that forks nobody keeps a roll secure. -/
private theorem secure_kept (secure : Secure id before r now)
    (orderly : Orderly id (labelOf before) r r') (chains : r'.chains = r.chains)
    (begun : ∀ i ∈ r.begun, i ∈ r'.begun) :
    ∃ now', Secure id before r' now' ∧ ∀ plan ready, Spared plan ready r now →
      Spared plan ready r' now' := by
  obtain ⟨now', known, domain, stand⟩ := orderly now secure.known
  have fewer : waiting r' ⊆ waiting r := by
    intro server among
    obtain ⟨chain, member, named, late⟩ := mem_waiting.mp among
    exact mem_waiting.mpr ⟨chain, chains ▸ member, named, fun early => late (begun _ early)⟩
  refine ⟨now', ⟨known, domain.trans secure.domain, ?_, ?_⟩, ?_⟩
  · intro server label stands
    rcases stand server with same | ⟨_, down⟩ | ⟨_, back⟩
    · exact secure.labelled server label (same ▸ stands)
    · rw [down] at stands
      cases stands
    · rw [back] at stands
      exact (Option.some.inj stands).symm
  · intro cluster
    refine Nat.le_trans (secure.floor cluster) (Finset.card_le_card ?_)
    intro server among
    obtain ⟨stands, idle⟩ := Finset.mem_sdiff.mp among
    have stands := mem_lineup.mp stands
    refine Finset.mem_sdiff.mpr ⟨mem_lineup.mpr ?_, fun late => idle (fewer late)⟩
    rcases stand server with same | ⟨⟨chain, member, named, late, _⟩, _⟩ | ⟨_, back⟩
    · exact same.trans stands
    · exact absurd (mem_waiting.mpr ⟨chain, member, named, late⟩) idle
    · rw [back, ← secure.labelled server _ stands]
  · intro plan ready spared m member idle cluster stands
    have idle' : ¬ UnderWay r m.1 := by
      rintro ⟨chain, member, named, early⟩
      exact idle ⟨chain, chains ▸ member, named, begun _ early⟩
    rcases stand m.1 with same | ⟨_, down⟩ | ⟨underWay, _⟩
    · exact spared m member idle' cluster (same ▸ stands)
    · rw [down] at stands
      cases stands
    · exact idle underWay

/-! ## The roll itself -/

/-- Nothing about the domain of a presence or about how its servers stand has
changed. -/
def Undisturbed (id : PresenceId) (w w' : World) : Prop :=
  ∀ was, w.presence? id = some was →
    ∃ is, w'.presence? id = some is ∧ is.domain = was.domain ∧
      ∀ server, standing? is server = standing? was server

variable {w w' : World} {m after : ChainMachine ε} {i : FiberId} {p : Packet} {step : Step ε}

/-- What is not seen disturbs nobody. -/
private theorem undisturbed_of_unseen (unseen : view? id w' = view? id w) :
    Undisturbed id w w' := by
  intro was known
  obtain ⟨is, known', same⟩ := Option.map_eq_some_iff.mp (unseen.trans (view_of_known known))
  have servers : is.servers = was.servers := congrArg View.servers same
  refine ⟨is, known', congrArg View.domain same, fun server => ?_⟩
  have isReady : is.isServerReady server = was.isServerReady server := by
    rw [← view_ready, same, view_ready]
  rw [standing?, isReady, labelOf, Presence.pod?, servers]
  rfl

/-- The moves of an opened roll disturb nobody. -/
private theorem opened_undisturbed (opened : Opened plan ready r) (own : OwnMove r h)
    (follows : r.follow? c g h = some r') :
    Undisturbed id r.machine.world r'.machine.world := by
  cases h with
  | outside world => exact own.elim
  | move i move => exact undisturbed_of_unseen (opened_unseen opened own follows)

/-- Opening a roll disturbs nobody. -/
private theorem unopened_undisturbed (unopened : Unopened plan r) (own : OwnMove r h)
    (follows : r.follow? c g h = some r') :
    Undisturbed id r.machine.world r'.machine.world := by
  cases h with
  | outside world => exact own.elim
  | move i move => exact undisturbed_of_unseen (unopened_unseen unopened own follows)

/-! ## Forking chains -/

/-- The servers of some chains. -/
def serversOf (chains : List (Chain ε)) : Finset String :=
  (chains.map (·.member.1)).toFinset

private theorem mem_servers_of {chains : List (Chain ε)} :
    server ∈ serversOf chains ↔ ∃ chain ∈ chains, chain.member.1 = server := by
  simp only [serversOf, List.mem_toFinset, List.mem_map]

/-- Forking chains disturbs nobody, so it only has to leave enough Ready
servers without a chain. -/
private theorem secure_forked {new : List (Chain ε)} (secure : Secure id before r now)
    (calm : Undisturbed id r.machine.world r'.machine.world)
    (chains : r'.chains = r.chains ++ new) (begun : ∀ i ∈ r.begun, i ∈ r'.begun)
    (enough : ∀ cluster, least (before.minAvailable cluster) (lineup before cluster).card ≤
      (lineup now cluster \ (waiting r ∪ serversOf new)).card) :
    ∃ now', Secure id before r' now' ∧ (Spared plan ready r now → Spared plan ready r' now') := by
  obtain ⟨now', known, domain, stand⟩ := calm now secure.known
  refine ⟨now', ⟨known, domain.trans secure.domain, ?_, ?_⟩, ?_⟩
  · exact fun server label stands => secure.labelled server label (stand server ▸ stands)
  · intro cluster
    refine Nat.le_trans (enough cluster) (Finset.card_le_card ?_)
    intro server among
    obtain ⟨stands, idle⟩ := Finset.mem_sdiff.mp among
    refine Finset.mem_sdiff.mpr ⟨mem_lineup.mpr ((stand server).trans (mem_lineup.mp stands)), ?_⟩
    intro late
    obtain ⟨chain, member, named, late⟩ := mem_waiting.mp late
    rw [chains] at member
    refine idle (Finset.mem_union.mpr ?_)
    rcases List.mem_append.mp member with member | member
    · exact .inl (mem_waiting.mpr ⟨chain, member, named, fun early => late (begun _ early)⟩)
    · exact .inr (mem_servers_of.mpr ⟨chain, member, named⟩)
  · intro spared m member idle cluster stands
    refine spared m member ?_ cluster (stand m.1 ▸ stands)
    rintro ⟨chain, member, named, early⟩
    exact idle ⟨chain, chains ▸ List.mem_append_left _ member, named, begun _ early⟩

/-- The members of a roll name the clusters of their servers. -/
def Labelled (plan : Plan ε) (before : Presence) : Prop :=
  ∀ m ∈ plan.members, Member.cluster? m.2 = labelOf before m.1

private theorem bucket_member {m : Member ε} {b : Option String}
    (member : m ∈ bucket plan.members ready b) :
    m ∈ plan.members ∧ queueOf Member.cluster? ready m = b := by
  obtain ⟨member, queued⟩ := List.mem_filter.mp member
  exact ⟨member, of_decide_eq_true queued⟩

private theorem bucket_label (labelled : Labelled plan before) {m : Member ε}
    (member : m ∈ bucket plan.members ready (some cluster)) :
    labelOf before m.1 = some cluster := by
  obtain ⟨member, queued⟩ := bucket_member member
  rw [← labelled m member]
  unfold queueOf at queued
  split at queued
  · exact queued
  · cases queued

/-- A chain that waits to start at a server of a cluster belongs to that
cluster. -/
private theorem waits_in_cluster (opened : Opened plan ready r) (secure : Secure id before r now)
    (spared : Spared plan ready r now) (labelled : Labelled plan before)
    (distinct : (plan.members.map (·.1)).Nodup) {chain : Chain ε} (among : chain ∈ r.chains)
    (late : chain.id ∉ r.begun) (stands : standing? now chain.member.1 = some (some cluster)) :
    chain ∈ r.chainsOf (some cluster) := by
  refine List.mem_filter.mpr ⟨among, decide_eq_true ?_⟩
  have member := chain_in_bucket opened among
  cases bucketed : chain.bucket with
  | none =>
    rw [bucketed] at member
    refine absurd stands (spared chain.member member ?_ cluster)
    rintro ⟨other, among', named, early⟩
    exact late (one_chain_a_server opened distinct among' among named ▸ early)
  | some cluster' =>
    rw [bucketed] at member
    have label := secure.labelled _ _ stands
    rw [bucket_label labelled member] at label
    exact label.symm

private theorem fresh_not_succeeded {chain : Chain ε} (fresh : Fresh m chain) :
    ¬ Succeeded m chain.id := by
  rintro ⟨p, ended⟩
  rcases fresh with fresh | fresh
  · cases fresh.symm.trans ended
  · cases fresh.symm.trans ended

/-- Servers that stand in no cluster can all be taken down at once. -/
private theorem enough_without_lineup {new : Finset String}
    (outside : server ∈ new → standing? now server ≠ some (some cluster)) :
    server ∈ lineup now cluster \ waiting r → server ∈ lineup now cluster \ (waiting r ∪ new) := by
  intro among
  obtain ⟨stands, idle⟩ := Finset.mem_sdiff.mp among
  refine Finset.mem_sdiff.mpr ⟨stands, fun late => ?_⟩
  rcases Finset.mem_union.mp late with late | late
  · exact idle late
  · exact outside late (mem_lineup.mp stands)

/-- A wave leaves its cluster as many Ready servers as it has to keep, or all
that it has. -/
private theorem wave_leaves_enough {queue : List (Member ε)} {ids : List FiberId}
    (truthful : Truthful (labelOf before) topology) (secure : Secure id before r now)
    (nobody : ∀ server ∈ waiting r, server ∉ lineup now cluster) :
    least (before.minAvailable cluster) (lineup before cluster).card ≤
      (lineup now cluster \ (waiting r ∪ serversOf (chainsFor (some cluster) ids
        (waveOf now cluster topology queue)))).card := by
  have same : now.minAvailable cluster = before.minAvailable cluster := by
    rw [Presence.minAvailable, secure.domain, Presence.minAvailable]
  have begun := Nat.le_trans (secure.floor cluster)
    (Finset.card_le_card Finset.sdiff_subset)
  cases given : before.minAvailable cluster with
  | error panic =>
    have empty : waveOf now cluster topology queue = [] := by
      simp only [waveOf, same, given]
    have nobody : serversOf (chainsFor (some cluster) ids ([] : List (Member ε))) = ∅ := by
      simp [chainsFor, serversOf]
    rw [empty, nobody, Finset.union_empty, ← given]
    exact secure.floor cluster
  | ok floor =>
    let ready := now.readyInCluster cluster topology
    let wave := (nextWave queue ready floor).wave
    let taken := (wave.filter (fun m => ready.contains m.1)).map (·.1)
    have size : ready.size = (lineup now cluster).card := ready_size truthful secure.labelled
    have slack : taken.toFinset.card ≤ (lineup now cluster).card - floor := by
      refine Nat.le_trans (List.toFinset_card_le taken) ?_
      rw [List.length_map, ← size]
      exact Waves.next_wave_within_slack queue ready floor
    have left : lineup now cluster \ taken.toFinset ⊆
        lineup now cluster \ (waiting r ∪ serversOf (chainsFor (some cluster) ids wave)) := by
      intro server among
      obtain ⟨stands, notTaken⟩ := Finset.mem_sdiff.mp among
      refine Finset.mem_sdiff.mpr ⟨stands, fun late => ?_⟩
      rcases Finset.mem_union.mp late with late | late
      · exact nobody server late stands
      · obtain ⟨chain, member, rfl⟩ := mem_servers_of.mp late
        obtain ⟨k, _, place, _⟩ := mem_chains_for member
        refine notTaken (List.mem_toFinset.mpr (List.mem_map.mpr ⟨chain.member, ?_, rfl⟩))
        refine List.mem_filter.mpr ⟨List.mem_iff_getElem?.mpr ⟨k, place⟩, ?_⟩
        exact (ready_iff_standing truthful secure.labelled).mpr (mem_lineup.mp stands)
    have split := Finset.le_card_sdiff taken.toFinset (lineup now cluster)
    have kept := Finset.card_le_card left
    have taking : waveOf now cluster topology queue = wave := by
      simp only [waveOf, same, given]
      rfl
    rw [given] at begun
    rw [taking]
    show min floor (lineup before cluster).card ≤ _
    have begun : min floor (lineup before cluster).card ≤ (lineup now cluster).card := begun
    omega

/-- Whatever an opened roll forks leaves every cluster enough Ready servers. -/
private theorem gate_leaves_enough {i : FiberId} {b : Option String} {ids : List FiberId}
    (opened : Opened plan ready r) (secure : Secure id before r now)
    (spared : Spared plan ready r now) (labelled : Labelled plan before)
    (truthful : Truthful (labelOf before) plan.packet.topology?)
    (works : plan.packet.presence = some id) (distinct : (plan.members.map (·.1)).Nodup)
    (gate : (i, b) ∈ r.gates) (found : r.machine.fiber? i = some ⟨p, .running (some step)⟩)
    (cluster : String) :
    least (before.minAvailable cluster) (lineup before cluster).card ≤
      (lineup now cluster \ (waiting r ∪ serversOf (chainsFor b ids
        (forkedBy (r.machine.world.presenceOf? p) step)))).card := by
  have member_of {members : List (Member ε)} {server : String}
      (among : server ∈ serversOf (chainsFor b ids members)) : ∃ m ∈ members, m.1 = server := by
    obtain ⟨chain, forked, rfl⟩ := mem_servers_of.mp among
    obtain ⟨k, _, place, _⟩ := mem_chains_for forked
    exact ⟨chain.member, List.mem_iff_getElem?.mpr ⟨k, place⟩, rfl⟩
  cases gate_finds (opened.gates _ gate) found with
  | together nobody =>
    refine Nat.le_trans (secure.floor cluster) (Finset.card_le_card fun server => ?_)
    refine enough_without_lineup fun among => ?_
    obtain ⟨m, member, rfl⟩ := member_of among
    refine spared m member ?_ cluster
    rintro ⟨chain, forked, named, _⟩
    -- A chain of this server would stand in the bucket that has no chains yet.
    obtain ⟨member', queued'⟩ := bucket_member (chain_in_bucket opened forked)
    obtain ⟨member, queued⟩ := bucket_member member
    have same := List.inj_on_of_nodup_map distinct member' member named
    rw [same, queued] at queued'
    have inBucket : chain ∈ r.chainsOf none := List.mem_filter.mpr ⟨forked, by simp [← queued']⟩
    rw [nobody] at inBucket
    cases inBucket
  | waves cluster' queue works' queued all =>
    have seen : r.machine.world.presenceOf? p = some now := by
      simp [World.presenceOf?, works', works, secure.known]
    rw [seen, forkedBy, Option.elim_some]
    by_cases same : cluster = cluster'
    · subst same
      refine wave_leaves_enough truthful secure ?_
      intro server idle stands
      obtain ⟨chain, among, rfl, late⟩ := mem_waiting.mp idle
      have inBucket := waits_in_cluster opened secure spared labelled distinct among late
        (mem_lineup.mp stands)
      exact fresh_not_succeeded (opened.fresh chain among late) (all chain inBucket)
    · refine Nat.le_trans (secure.floor cluster) (Finset.card_le_card fun server => ?_)
      refine enough_without_lineup fun among stands => ?_
      obtain ⟨m, member, rfl⟩ := member_of among
      have label := bucket_label labelled (queued m (wave_of_members member))
      rw [← secure.labelled _ _ stands] at label
      exact same (Option.some.inj label)

/-! ## Every course -/

/-- A roll that keeps its floor, wherever it stands. -/
inductive Safe (plan : Plan ε) (id : PresenceId) (before : Presence) (r : Roll ε) : Prop where
  | unopened (unopened : Unopened plan r) (now : Presence) (secure : Secure id before r now)
  | refused (refused : Refused r) (now : Presence) (secure : Secure id before r now)
  | opened (ready : NameSet) (opened : Opened plan ready r) (now : Presence)
      (secure : Secure id before r now) (spared : Spared plan ready r now)

theorem begun_grows (follows : r.follow? c g h = some r') : ∀ i ∈ r.begun, i ∈ r'.begun := by
  intro i early
  cases followed follows with
  | quiet => exact early
  | gate | aside => exact List.mem_cons_of_mem _ early
  | head p step after =>
    have begun : (r.note after r.head p step).begun = r.head :: r.begun := by
      simp only [Roll.note, ↓reduceIte]
      split <;> rfl
    rw [begun]
    exact List.mem_cons_of_mem _ early

/-- Only gates fork chains. -/
private theorem chains_follow (follows : r.follow? c g h = some r') :
    r'.chains = r.chains ∨ ∃ i b p step ids, (i, b) ∈ r.gates ∧
      r.machine.fiber? i = some ⟨p, .running (some step)⟩ ∧ OwnMove r h ∧
      r'.chains = r.chains ++
        chainsFor b ids (forkedBy (r.machine.world.presenceOf? p) step) := by
  cases followed follows with
  | quiet | aside => exact .inl rfl
  | head p step after =>
    refine .inl ?_
    simp only [Roll.note, ↓reduceIte]
    split <;> rfl
  | gate i bucket p step after other listed found =>
    obtain ⟨_, _, shape, _⟩ := List.lookup_eq_some_iff.mp listed
    have gate : (i, bucket) ∈ r.gates := by simp [shape]
    exact .inr ⟨i, bucket, p, step, _, gate, found,
      .inr (List.mem_map_of_mem (f := (·.1)) gate), rfl⟩

private theorem orderly_of_undisturbed (calm : Undisturbed id r.machine.world r'.machine.world) :
    Orderly id labels r r' := by
  intro was known
  obtain ⟨is, known, domain, stand⟩ := calm was known
  exact ⟨is, known, domain, fun server => .inl (stand server)⟩

/-- Opening a roll spares whoever restarts at once: they are not Ready, or
stand in no cluster. -/
private theorem spared_when_opened (secure : Secure id before r now)
    (labelled : Labelled plan before) : Spared plan now.readyServers r now := by
  intro m member _ cluster stands
  obtain ⟨member, queued⟩ := bucket_member member
  unfold queueOf at queued
  split at queued
  · have label := secure.labelled _ _ stands
    rw [← labelled m member, queued] at label
    cases label
  · rename_i notReady
    obtain ⟨pod, held, isReady, _⟩ := standing_some.mp stands
    refine notReady ?_
    rw [Presence.readyServers, NameMaps.contains_names_filter, Option.any_eq_true]
    exact ⟨pod, held, isReady⟩

/-- Whatever happens next leaves a safe roll safe, if it is orderly. -/
private theorem safe_follow (safe : Safe plan id before r) (labelled : Labelled plan before)
    (truthful : Truthful (labelOf before) plan.packet.topology?)
    (works : plan.packet.presence = some id) (distinct : (plan.members.map (·.1)).Nodup)
    (follows : r.follow? c g h = some r')
    (orderly : ¬ OwnMove r h → Orderly id (labelOf before) r r') : Safe plan id before r' := by
  have begun := begun_grows follows
  cases safe with
  | unopened unopened now secure =>
    have orderly : Orderly id (labelOf before) r r' := by
      by_cases own : OwnMove r h
      · exact orderly_of_undisturbed (unopened_undisturbed unopened own follows)
      · exact orderly own
    rcases unopened_follow unopened follows with still | refused | ⟨presence, seen, nobody, opened⟩
    · obtain ⟨now, secure, _⟩ := secure_kept secure orderly
        (still.chains.trans unopened.chains.symm) begun
      exact .unopened still now secure
    · obtain ⟨now, secure, _⟩ := secure_kept secure orderly
        (refused.chains.trans unopened.chains.symm) begun
      exact .refused refused now secure
    · have known : presence = now := by
        simp only [World.presenceOf?, works, Option.bind_some, secure.known] at seen
        exact (Option.some.inj seen).symm
      subst known
      have spared := spared_when_opened secure labelled
      obtain ⟨now, secure, keeps⟩ := secure_kept secure orderly
        (nobody.trans unopened.chains.symm) begun
      exact .opened _ opened now secure (keeps plan _ spared)
  | refused refused now secure =>
    have orderly : Orderly id (labelOf before) r r' := by
      refine orderly fun own => ?_
      cases h with
      | outside => exact own
      | move i move =>
        rcases own with ⟨rfl, _⟩ | isGate
        · obtain ⟨p, e, ended⟩ := refused.head
          obtain ⟨f, _, _, found, busy, _⟩ := move_shape (follow_machine follows)
          cases ended.symm.trans found
          cases busy
        · simp [refused.gates] at isGate
    have refused' := refused_follow refused follows
    obtain ⟨now, secure, _⟩ := secure_kept secure orderly
      (refused'.chains.trans refused.chains.symm) begun
    exact .refused refused' now secure
  | opened ready opened now secure spared =>
    have opened' := opened_follow opened follows
    have orderly : Orderly id (labelOf before) r r' := by
      by_cases own : OwnMove r h
      · exact orderly_of_undisturbed (opened_undisturbed opened own follows)
      · exact orderly own
    have kept (chains : r'.chains = r.chains) : Safe plan id before r' := by
      obtain ⟨now, secure, keeps⟩ := secure_kept secure orderly chains begun
      exact .opened ready opened' now secure (keeps plan ready spared)
    rcases chains_follow follows with same | ⟨i, b, p, step, ids, gate, found, own, chains⟩
    · exact kept same
    · obtain ⟨now, secure, keeps⟩ := secure_forked secure
        (opened_undisturbed opened own follows) chains begun
        (gate_leaves_enough opened secure spared labelled truthful works distinct gate found)
      exact .opened ready opened' now secure (keeps spared)

private theorem safe_course {hs : List (Happening Answer World)} (safe : Safe plan id before r)
    (labelled : Labelled plan before)
    (truthful : Truthful (labelOf before) plan.packet.topology?)
    (works : plan.packet.presence = some id) (distinct : (plan.members.map (·.1)).Nodup)
    (ran : r.course? c g hs = some r')
    (orderly : OrderlyCourse c g id (labelOf before) r hs) : Safe plan id before r' := by
  induction hs generalizing r with
  | nil =>
    cases ran
    exact safe
  | cons h rest ih =>
    obtain ⟨next, follows, ran⟩ := Option.bind_eq_some_iff.mp ran
    obtain ⟨now, later⟩ := orderly next follows
    exact ih (safe_follow safe labelled truthful works distinct follows now) ran later

/-- The availability floor of a roll: whatever the order in which its clusters
look at their queues and its restart chains start and end, no cluster ever has
fewer Ready servers than it has to keep, or than it had when the roll began.
Only the roll's own fibers are known; all others, and the world outside, take a
server down no earlier than its chain starts and bring it back under its
label. -/
theorem roll_keeps_its_floor {start : ChainMachine ε} {i : FiberId}
    {work : NameMap (Step ε × Packet)} {next : Option (Step ε)}
    {hs : List (Happening Answer World)}
    (begins : start.fiber? i = some ⟨p, .created (rollServers work next)⟩)
    (works : p.presence = some id) (known : start.world.presence? id = some before)
    (labelled : ∀ m ∈ work.entries, Member.cluster? m.2 = labelOf before m.1)
    (truthful : Truthful (labelOf before) p.topology?)
    (orderly : OrderlyCourse c g id (labelOf before) { machine := start, head := i } hs)
    (ran : Roll.course? c g { machine := start, head := i } hs = some r) :
    ∃ now, r.machine.world.presence? id = some now ∧ ∀ cluster,
      now.minAvailable cluster = before.minAvailable cluster ∧
      least (before.minAvailable cluster) (before.readyInCluster cluster p.topology?).size ≤
        (now.readyInCluster cluster p.topology?).size := by
  let plan : Plan ε := { packet := p, members := work.entries, next }
  have own : ∀ server label, standing? before server = some label →
      label = labelOf before server := by
    intro server label stands
    obtain ⟨pod, held, _, same⟩ := standing_some.mp stands
    simp [labelOf, held, same]
  have secure : Secure id before { machine := start, head := i } before := by
    refine ⟨known, rfl, own, fun cluster => ?_⟩
    have nobody : waiting { machine := start, head := i } = ∅ := rfl
    rw [nobody, Finset.sdiff_empty]
    exact least_le _ _
  have unopened : Unopened plan { machine := start, head := i } := ⟨rfl, rfl, rfl, .inl begins⟩
  have safe : Safe plan id before r := safe_course (.unopened unopened before secure) labelled
    truthful works (NameMaps.keys_nodup work) ran orderly
  have finish {now : Presence} (secure : Secure id before r now) :
      ∃ now, r.machine.world.presence? id = some now ∧ ∀ cluster,
        now.minAvailable cluster = before.minAvailable cluster ∧
        least (before.minAvailable cluster) (before.readyInCluster cluster p.topology?).size ≤
          (now.readyInCluster cluster p.topology?).size := by
    refine ⟨now, secure.known, fun cluster => ⟨?_, ?_⟩⟩
    · rw [Presence.minAvailable, secure.domain, Presence.minAvailable]
    · rw [ready_size truthful own, ready_size truthful secure.labelled]
      exact Nat.le_trans (secure.floor cluster) (Finset.card_le_card Finset.sdiff_subset)
  cases safe with
  | unopened _ now secure | refused _ now secure | opened _ _ now secure => exact finish secure

/-! ## A pair of servers -/

theorem standing_marked (p : Presence) (server : String) :
    standing? (p.mark server) server = none := by
  have marked : (p.mark server).isMarked server = true := by
    simp [Presence.isMarked, Presence.mark, NameSet.add, NameMap.contains, NameMap.get?_insert]
  cases stands : standing? (p.mark server) server with
  | none => rfl
  | some label =>
    obtain ⟨pod, _, isReady, _⟩ := standing_some.mp stands
    simp [Presence.isReadyWith, marked] at isReady

theorem standing_mark_other (p : Presence) {server other : String} (different : other ≠ server) :
    standing? (p.mark server) other = standing? p other := by
  have marked : (p.mark server).isMarked other = p.isMarked other := by
    simp [Presence.isMarked, Presence.mark, NameSet.add, NameMap.contains, NameMap.get?_insert,
      different]
  have isReady (pod : Pod) : (p.mark server).isReadyWith other pod = p.isReadyWith other pod := by
    rw [Presence.isReadyWith, marked, Presence.isReadyWith]
  ext label
  rw [standing_some, standing_some]
  exact exists_congr fun pod => by rw [isReady]; rfl

/-- Chains that take the two servers down. -/
def pairWork : NameMap (Step Empty × Packet) :=
  let packet : Packet :=
    { values := NameMap.ofList [(Packet.clusterKey, .text "c")], presence := some 0 }
  NameMap.ofList (["ms1", "ms2"].map (fun server =>
    (server, .beginRestart server "2" none, packet)))

/-- A fiber that rolls the two servers. -/
def pairStart : ChainMachine Empty :=
  { fibers := [⟨{ presence := some 0 }, .created (rollServers pairWork none)⟩]
    world := { feed := { registry := { presences := [pair] } } } }

/-- The roll begins, its gate starts a wave of one server, the chain of that
server takes it down, and then it is Ready again. -/
def pairCourse : List (Happening Answer World) :=
  [.move 0 .run, .move 0 .run, .move 1 .run, .move 1 .run, .move 2 .run, .move 2 .run,
    .outside pairStart.world]

private theorem pair_orderly :
    OrderlyCourse {} .nobody 0 (labelOf pair) { machine := pairStart, head := 0 } pairCourse := by
  -- The first four moves are the roll's own.
  intro r follows
  cases follows
  refine ⟨absurd (.inl ⟨rfl, nofun⟩), ?_⟩
  intro r follows
  cases follows
  refine ⟨absurd (.inl ⟨rfl, nofun⟩), ?_⟩
  intro r follows
  cases follows
  refine ⟨absurd (.inr (List.Mem.head _)), ?_⟩
  intro r follows
  cases follows
  refine ⟨absurd (.inr (List.Mem.head _)), ?_⟩
  -- The chain starts and then marks its server.
  intro r follows
  cases follows
  refine ⟨fun _ was found => ⟨was, found, rfl, fun _ => .inl rfl⟩, ?_⟩
  intro r follows
  cases follows
  refine ⟨?_, ?_⟩
  · intro _ was found
    cases found
    refine ⟨_, rfl, rfl, fun server => ?_⟩
    by_cases same : server = "ms1"
    · subst same
      refine .inr (.inl ⟨⟨_, List.Mem.head _, rfl, ?_, List.Mem.head _⟩, standing_marked _ _⟩)
      decide
    · exact .inl (standing_mark_other _ same)
  -- The server is back.
  intro r follows
  cases follows
  refine ⟨?_, trivial⟩
  intro _ was found
  cases found
  refine ⟨_, rfl, rfl, fun server => ?_⟩
  by_cases same : server = "ms1"
  · subst same
    exact .inr (.inr ⟨⟨_, List.Mem.head _, rfl, List.Mem.head _⟩, rfl⟩)
  · exact .inl (standing_mark_other _ same).symm

theorem floor_of_a_pair :
    ∃ r, Roll.course? {} .nobody { machine := pairStart, head := 0 } pairCourse = some r ∧
      ∃ now, r.machine.world.presence? 0 = some now ∧ ∀ cluster,
        now.minAvailable cluster = pair.minAvailable cluster ∧
        least (pair.minAvailable cluster) (pair.readyInCluster cluster none).size ≤
          (now.readyInCluster cluster none).size := by
  have begins : pairStart.fiber? 0 =
      some ⟨{ presence := some 0 }, .created (rollServers pairWork none)⟩ := rfl
  have known : pairStart.world.presence? 0 = some pair := rfl
  have labelled : ∀ m ∈ pairWork.entries, Member.cluster? m.2 = labelOf pair m.1 := by decide
  have truthful : Truthful (labelOf pair) (Packet.topology? { presence := some 0 }) :=
    fun t known => nomatch known
  have runs : (Roll.course? {} .nobody { machine := pairStart, head := 0 } pairCourse).isSome :=
    rfl
  obtain ⟨r, ran⟩ := Option.isSome_iff_exists.mp runs
  have floor := roll_keeps_its_floor begins rfl known labelled truthful pair_orderly ran
  exact ⟨r, ran, floor⟩

end DomainSteward.Floor
