import DomainSteward.Proofs.Domain.Limits
import DomainSteward.Report.DomainStatus
import DomainSteward.Proofs.Roll.Floor

/-! Which entry of a domain speaks for a cluster. Nothing keeps a domain from listing a cluster more
than once. Its limits are then those of the first entry and its servers those of the last, so a gate
holds the floor of the one against the members of the other. The two entries make no difference
exactly if they list the same servers. -/
namespace DomainSteward.Entries
open Limits

/-- What a domain lists under the name of a cluster. -/
def entries (s : DomainSpec) (name : String) : List ClusterSpec :=
  s.clusters.filter (fun c => c.clusterName = name)

/-- Of several clusters of one name, the one that is listed last. -/
def IsLast (clusters : List ClusterSpec) (name : String) (c : ClusterSpec) : Prop :=
  ∃ before after, clusters = before ++ c :: after ∧ c.clusterName = name ∧
    ∀ a ∈ after, a.clusterName ≠ name

/-- The floor that an entry of a cluster asks for. What it leaves open is taken from the domain. -/
def floorBy (s : DomainSpec) (entry : Option ClusterSpec) : Except Panic Nat :=
  (difference ((entry.bind (·.replicas)).getD s.replicas)
    (((entry.bind (·.maxUnavailable)).or s.maxClusterUnavailable).getD
      defaultMaxUnavailable)).map (·.toInt.toNat)

/-- Whether a server is a member of a cluster in the eyes of an entry: by the servers that the entry
lists or, if it lists none, by the label of the pod. -/
def Belongs (entry : Option ClusterSpec) (cluster server : String) (pod : Pod) : Prop :=
  match (entry.map (·.servers)).getD [] with
  | [] => pod.clusterName? = some cluster
  | listed => server ∈ listed

/-- The topology lists for a cluster the servers of the entry that sets its limits. -/
def OneDecides (s : DomainSpec) (name : String) : Prop :=
  (Topology.ofSpec s).members? name = (s.cluster? name).map (·.servers)

variable {s : DomainSpec} {name : String} {c : ClusterSpec}

theorem cluster_head (s : DomainSpec) (name : String) : s.cluster? name = (entries s name).head? :=
  List.head?_filter.symm

private theorem lookup_servers (l : List ClusterSpec) (name : String) :
    (l.map (fun c => (c.clusterName, c.servers))).lookup name =
      (l.find? (fun c => c.clusterName = name)).map (·.servers) := by
  induction l with
  | nil => rfl
  | cons head rest ih =>
    by_cases named : head.clusterName = name
    · simp [named]
    · have other : (name == head.clusterName) = false := beq_false_of_ne (Ne.symm named)
      simp [List.lookup_cons, other, named, ih]

/-- A topology keeps what it is told last about a cluster. -/
theorem members_last (s : DomainSpec) (name : String) :
    (Topology.ofSpec s).members? name = ((entries s name).getLast?).map (·.servers) := by
  rw [Topology.members?, Topology.ofSpec, NameMap.ofList, NameMaps.get?_inserted,
    NameMap.get?_empty, Option.or_none, ← List.map_reverse, lookup_servers, entries,
    List.getLast?_filter]

theorem last_iff : (entries s name).getLast? = some c ↔ IsLast s.clusters name c := by
  rw [entries, List.getLast?_filter, List.find?_eq_some_iff_append, IsLast]
  simp only [decide_eq_true_eq, Bool.not_eq_true', decide_eq_false_iff_not]
  constructor
  · rintro ⟨named, after, before, split, others⟩
    refine ⟨before.reverse, after.reverse, ?_, named, fun a later =>
      others a (List.mem_reverse.mp later)⟩
    rw [← List.reverse_reverse s.clusters, split]
    simp
  · rintro ⟨before, after, split, named, others⟩
    exact ⟨named, after.reverse, before.reverse, by simp [split], fun a later =>
      others a (List.mem_reverse.mp later)⟩

/-- Limits and members come from one entry exactly if the first and the last entry list the same
servers. -/
theorem one_decides_iff : OneDecides s name ↔ ∀ first last, IsFirst s.clusters name first →
    IsLast s.clusters name last → first.servers = last.servers := by
  rw [OneDecides, members_last, cluster_head]
  simp only [← cluster_first, cluster_head, ← last_iff]
  cases entries s name with
  | nil => simp
  | cons first others => simp [List.getLast?_cons, eq_comm]

/-- The members of a cluster are those of its last entry. -/
theorem member_iff {cluster server : String} {pod : Pod} :
    Presence.isMember (some (.ofSpec s)) cluster server pod = true ↔
      Belongs (entries s cluster).getLast? cluster server pod := by
  unfold Presence.isMember Belongs
  rw [Option.bind_some, members_last]
  cases (entries s cluster).getLast? with
  | none => simp
  | some last =>
    cases listed : last.servers with
    | nil => simp [listed, Option.filter]
    | cons first others => simp [listed, Option.filter]

/-- The floor of a cluster is that of the first entry which the domain has for it, and the members
counted against it are those of the last. The two entries list the same servers exactly if the
topology lists the servers of the cluster that the domain finds. -/
theorem floor_of_first_against_members_of_last (s : DomainSpec) (name : String) :
    s.minAvailable name = floorBy s (entries s name).head? ∧
      (∀ (p : Presence) (server : String),
        (p.readyInCluster name (some (.ofSpec s))).contains server = true ↔
          ∃ pod, p.pod? server = some pod ∧ p.isReadyWith server pod = true ∧
            Belongs (entries s name).getLast? name server pod) ∧
      (OneDecides s name ↔ ∀ first last, IsFirst s.clusters name first →
        IsLast s.clusters name last → first.servers = last.servers) := by
  refine ⟨?_, fun p server => ?_, one_decides_iff⟩
  · rw [DomainSpec.minAvailable, DomainSpec.replicaCount, DomainSpec.maxUnavailable, cluster_head]
    rfl
  · simp only [Floor.ready_contains, member_iff]

/-! ## A cluster that is listed twice -/

/-- A domain that lists a cluster twice, with other servers the second time. -/
def twice : DomainSpec :=
  { clusters :=
      [{ clusterName := "c1", replicas := some 3, servers := ["ms1", "ms2", "ms3"] },
        { clusterName := "c1", replicas := some 1, servers := ["ms4"] }] }

private theorem one_at_most (p : Presence) :
    (p.readyInCluster "c1" (some (.ofSpec twice))).size ≤ 1 := by
  have only : (p.readyInCluster "c1" (some (.ofSpec twice))).keys ⊆ ["ms4"] := by
    intro server counted
    obtain ⟨_, _, _, member⟩ := Floor.ready_contains.mp (NameMaps.mem_keys.mp counted)
    exact member_iff.mp member
  have small := (List.subperm_of_subset (NameMaps.keys_nodup _) only).length_le
  rwa [NameMap.keys, List.length_map] at small

/-- Two members have to stay Ready by the first entry, and only one can be counted by the last, so
the cluster has always too few of them. -/
theorem cluster_listed_twice_is_always_short :
    (twice.cluster? "c1").map (·.servers) = some ["ms1", "ms2", "ms3"] ∧
      (Topology.ofSpec twice).members? "c1" = some ["ms4"] ∧ ¬ OneDecides twice "c1" ∧
      twice.minAvailable "c1" = .ok 2 ∧
      ∀ p : Presence, ∃ short, p.shortClusters twice = .ok short ∧ "c1" ∈ short := by
  have members : (Topology.ofSpec twice).members? "c1" = some ["ms4"] := members_last ..
  have floor : twice.minAvailable "c1" = .ok 2 := by decide
  have floors : twice.floors = .ok [("c1", 2), ("c1", 2)] := by decide
  refine ⟨rfl, members, ?_, floor, fun p => ?_⟩
  · rw [OneDecides, members]
    decide
  · refine ⟨_, by rw [Presence.shortClusters, floors]; rfl, ?_⟩
    refine List.mem_map.mpr ⟨("c1", 2), List.mem_filter.mpr ⟨.head _, decide_eq_true ?_⟩, rfl⟩
    exact Nat.lt_succ_of_le (one_at_most p)

end DomainSteward.Entries
