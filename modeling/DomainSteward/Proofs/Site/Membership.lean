import DomainSteward.Proofs.Roll.Floor
import DomainSteward.Proofs.Site.Lots
import DomainSteward.Reconcile

/-! Who belongs to a cluster, in the eyes of those who split a roll and of the
gate that keeps the floor. A roll goes by the labels of the pods. A gate goes by
the servers that the domain lists for its cluster, and by the labels only where
none are listed. The two agree about a server exactly if the list does not
contradict its label. -/
namespace DomainSteward.Memberships
open Restarts Lots

variable {ε : Type}

/-- The split of the roll that a mandate asks for. -/
def splitOf (t : Mandate ε) : Partition (Step ε × Packet) :=
  partition Member.cluster? t.presence.readyServers (plan t).members

/-- Where a roll puts a server: into the queue of a cluster, or among those that restart at once. -/
def Placed (t : Mandate ε) (server : String) : Option String → Prop
  | some cluster => ∃ queue, (splitOf t).clustered.get? cluster = some queue ∧
      server ∈ queue.map (·.1)
  | none => server ∈ (splitOf t).unconstrained.map (·.1)

/-- The gate of a cluster counts a server as one that is Ready. -/
def Counted (t : Mandate ε) (server cluster : String) : Prop :=
  (t.presence.readyInCluster cluster (some (.ofSpec t.domain.spec))).contains server = true

/-- If the domain lists the servers of a cluster, it lists a server there exactly if the pod of the
server has the label of the cluster. -/
def Agrees (t : Mandate ε) (server : String) (pod : Pod) (cluster : String) : Prop :=
  ∀ listed, (Topology.ofSpec t.domain.spec).members? cluster = some listed → listed ≠ [] →
    (server ∈ listed ↔ pod.clusterName? = some cluster)

variable {t : Mandate ε} {server cluster : String} {pod : Pod} {p : Packet}

theorem ready_servers {now : Presence} :
    now.readyServers.contains server = now.isServerReady server :=
  NameMaps.contains_names_filter ..

/-- The packet of a restart names the cluster of the pod's label, unless the roll's own packet
names one. -/
theorem member_cluster (unnamed : p.text? Packet.clusterKey = none) (server : String)
    (label : Option String) :
    (memberPacket p server label).text? Packet.clusterKey = label := by
  cases label with
  | some cluster =>
    rw [memberPacket, Packet.text?, Packets.value_put_same]
    rfl
  | none =>
    have other : Packet.clusterKey ≠ Packet.serverKey := by
      simp [Packet.clusterKey, Packet.serverKey]
    rw [memberPacket, Packet.text?, Packets.value_put_other other]
    exact unnamed

/-- A roll puts a server that is out of date where the label of its pod says, if it is Ready. -/
theorem placed_iff (held : t.presence.pod? server = some pod)
    (outdated : pod.restartVersion? ≠ some t.version)
    (unnamed : t.packet.text? Packet.clusterKey = none) {place : Option String} :
    Placed t server place ↔
      place = if t.presence.isServerReady server then pod.clusterName? else none := by
  have queued (m : Member ε) (among : m ∈ (plan t).members) (named : m.1 = server) :
      queueOf Member.cluster? t.presence.readyServers m =
        if t.presence.isServerReady server then pod.clusterName? else none := by
    obtain ⟨old, held', _, made⟩ := member_due among
    rw [named] at held' made
    cases held.symm.trans held'
    rw [queueOf, named, ready_servers, Member.cluster?, made, member_cluster unnamed]
  obtain ⟨m, among, named⟩ := due_member held outdated
  have found : Placed t server place ↔ ∃ m ∈ (plan t).members, m.1 = server ∧
      queueOf Member.cluster? t.presence.readyServers m = place := by
    cases place with
    | none => simp [Placed, splitOf, partition, and_comm]
    | some cluster =>
      simp only [Placed, List.mem_map]
      constructor
      · rintro ⟨queue, entry, m, waits, named⟩
        obtain ⟨among, queued⟩ := Waves.mem_clustered.mp ⟨queue, entry, waits⟩
        exact ⟨m, among, named, queued⟩
      · rintro ⟨m, among, named, queued⟩
        obtain ⟨queue, entry, waits⟩ := Waves.mem_clustered.mpr ⟨among, queued⟩
        exact ⟨queue, entry, m, waits, named⟩
  rw [found]
  constructor
  · rintro ⟨m, among, named, same⟩
    exact same.symm.trans (queued m among named)
  · rintro rfl
    exact ⟨m, among, named, queued m among named⟩

/-- A gate counts a Ready server that is listed for its cluster, or whose pod has the label if no
servers are listed. -/
theorem counted_iff (held : t.presence.pod? server = some pod)
    (ready : t.presence.isServerReady server = true) :
    Counted t server cluster ↔
      Presence.isMember (some (.ofSpec t.domain.spec)) cluster server pod = true := by
  have isReady : t.presence.isReadyWith server pod = true := by
    rw [Presence.isServerReady, held] at ready
    exact ready
  rw [Counted, Floor.ready_contains]
  simp [held, isReady]

/-- The list of a cluster does not contradict a label where it counts the members that the label
counts. -/
private theorem agrees_iff : Agrees t server pod cluster ↔
    (Presence.isMember (some (.ofSpec t.domain.spec)) cluster server pod = true ↔
      pod.clusterName? = some cluster) := by
  unfold Agrees Presence.isMember
  rw [Option.bind_some]
  cases (Topology.ofSpec t.domain.spec).members? cluster with
  | none => simp
  | some listed =>
    cases listed with
    | nil => simp [Option.filter]
    | cons first others => simp [Option.filter]

/-- The gate of a cluster and the queue of the cluster agree about a Ready server that is out of
date, exactly if the list of the cluster and the label of the pod do. Then a server that the gate
counts restarts nowhere else. -/
theorem queue_and_gate_agree_iff (held : t.presence.pod? server = some pod)
    (ready : t.presence.isServerReady server = true)
    (outdated : pod.restartVersion? ≠ some t.version)
    (unnamed : t.packet.text? Packet.clusterKey = none) (cluster : String) :
    ((Placed t server (some cluster) ↔ Counted t server cluster) ↔ Agrees t server pod cluster) ∧
      (Agrees t server pod cluster → Counted t server cluster →
        ∀ place, Placed t server place → place = some cluster) := by
  have placed (place : Option String) : Placed t server place ↔ place = pod.clusterName? := by
    rw [placed_iff held outdated unnamed, if_pos ready]
  rw [placed, counted_iff held ready, agrees_iff]
  refine ⟨⟨fun same => same.symm.trans eq_comm, fun same => (same.trans eq_comm).symm⟩, ?_⟩
  intro agrees counted place stands
  rw [(placed place).mp stands]
  exact agrees.mp counted

/-! ## Members without labels -/

/-- A Ready pod of an older restart version. -/
def agedPod (labels : List (String × String)) : Pod where
  metadata := { labels := some (NameMap.ofList ((Label.restartVersion, "1") :: labels)) }
  status := some { conditions := some [{ type := "Ready", status := "True" }] }

/-- A cluster of two servers, one of which has to stay Ready. -/
def couple : Domain :=
  { spec :=
      { restartVersion := some "2"
        clusters := [{ clusterName := "c1", replicas := some 2, servers := ["ms1", "ms2"] }] } }

/-- A roll of the two servers, whose pods have some labels. -/
def coupleRoll (labels : List (String × String)) : Mandate Empty where
  packet := reconcilePacket 0 couple
  id := 0
  presence :=
    { namespaceName := "ns", domainUid := "domain1", domain := some couple
      servers := NameMap.ofList [("ms1", agedPod labels), ("ms2", agedPod labels)] }
  domain := couple
  sink := none
  next := none

/-- A roll of labelled servers. -/
def labelledRoll : Mandate Empty := coupleRoll [(Label.clusterName, "c1")]

/-- A roll of servers whose pods do not say that they belong to the cluster. -/
def unlabelledRoll : Mandate Empty := coupleRoll []

theorem labelled_members_wait :
    labelledRoll.presence.pod? "ms1" = some (agedPod [(Label.clusterName, "c1")]) ∧
      labelledRoll.presence.isServerReady "ms1" = true ∧
      Counted labelledRoll "ms1" "c1" ∧ Placed labelledRoll "ms1" (some "c1") := by
  have agrees : Agrees labelledRoll "ms1" (agedPod [(Label.clusterName, "c1")]) "c1" := by
    intro listed known _
    cases known
    exact ⟨fun _ => rfl, fun _ => .head _⟩
  have counted : Counted labelledRoll "ms1" "c1" := rfl
  have meet : Placed labelledRoll "ms1" (some "c1") ↔ Counted labelledRoll "ms1" "c1" :=
    (queue_and_gate_agree_iff (t := labelledRoll) rfl rfl (by decide) rfl "c1").1.mpr agrees
  exact ⟨rfl, rfl, counted, meet.mpr counted⟩

/-- Two servers whose pods do not say that they belong to their cluster restart both at once, though
the gate of the cluster counts them and one of them has to stay Ready. -/
theorem unlabelled_members_restart_at_once :
    Counted unlabelledRoll "ms1" "c1" ∧ Counted unlabelledRoll "ms2" "c1" ∧
      unlabelledRoll.presence.minAvailable "c1" = .ok 1 ∧
      Placed unlabelledRoll "ms1" none ∧ Placed unlabelledRoll "ms2" none ∧
      ¬ Placed unlabelledRoll "ms1" (some "c1") := by
  have outdated : (agedPod []).restartVersion? ≠ some unlabelledRoll.version := by decide
  have placed (place : Option String) : Placed unlabelledRoll "ms1" place ↔ place = none :=
    placed_iff (t := unlabelledRoll) rfl outdated rfl
  have placed' : Placed unlabelledRoll "ms2" none ↔ none = none :=
    placed_iff (t := unlabelledRoll) rfl outdated rfl
  refine ⟨rfl, rfl, rfl, (placed none).mpr rfl, placed'.mpr rfl, fun waits => ?_⟩
  cases (placed (some "c1")).mp waits

end DomainSteward.Memberships
