import Mathlib.Data.List.Perm.Basic
import DomainSteward.Proofs.Data.NameMap
import DomainSteward.Proofs.Report.Steady

/-! A computed status gives account of what is observed. Its servers are those whose pods are known,
and the three ways in which a server counts as Ready agree. Its conditions say what is observed, each
type once, and nothing of the status before stays but the times at which conditions last changed and
their order. -/
namespace DomainSteward.Accounts
open Conditions Steady

/-- The Ready members of a cluster, in the order of their names. -/
def readyMembers (p : Presence) (spec : DomainSpec) (cluster : String) : List String :=
  p.servers.keys.filter (fun server => p.isServerReady server &&
    (p.pod? server).any (Presence.isMember (some (.ofSpec spec)) cluster server))

/-- Some server is Ready, and every cluster has as many Ready members as have to stay Ready. -/
def Enough (p : Presence) (spec : DomainSpec) : Prop :=
  (∃ server, p.isServerReady server = true) ∧
    ∀ c ∈ spec.clusters, ∃ floor, spec.minAvailable c.clusterName = .ok floor ∧
      floor ≤ (readyMembers p spec c.clusterName).length

/-- The entry of a server says what is observed of the server. -/
structure Follows (p : Presence) (e : ServerStatus) : Prop where
  ready : e.ready = p.isServerReady e.serverName
  running_iff : e.state = some "RUNNING" ↔ e.ready = true
  shuttingDown_iff : e.state = some "SHUTTING_DOWN" ↔
    p.isMarked e.serverName = true ∨
      ∃ pod, p.pod? e.serverName = some pod ∧ pod.isTerminating = true

/-- A status says what is observed of a domain. -/
structure Account (p : Presence) (d : Domain) (s : DomainStatus) : Prop where
  listed : s.servers.map (·.serverName) = p.servers.keys
  inOrder : (s.servers.map (·.serverName)).Pairwise (· < ·)
  servers : ∀ e ∈ s.servers, Follows p e
  available_iff : (s.condition? .available).map (·.status) = some "True" ↔ Enough p d.spec
  unavailable_iff : (s.condition? .available).map (·.status) = some "False" ↔ ¬ Enough p d.spec
  rolling : (s.condition? .rolling).map (·.status) = if p.rolling then some "True" else none
  failed : (s.condition? .failed).map (fun c => (c.status, c.reason, c.message)) =
    p.failure.map (fun f => ("True", some f.reason, some f.message))
  reason : s.reason = p.failure.map (·.reason)
  message : s.message = p.failure.map (·.message)
  distinct : Distinct s

/-- A condition without the time at which it last changed. -/
def untimed (c : DomainCondition) : DomainCondition := { c with lastTransitionTime := none }

/-- Two statuses differ at most in the order of their conditions and in when these last changed. -/
structure Alike (s s' : DomainStatus) : Prop where
  conditions : (s.conditions.map untimed).Perm (s'.conditions.map untimed)
  others : { s with conditions := [] } = { s' with conditions := [] }

variable {p : Presence} {d : Domain} {s s' : DomainStatus} {now : String} {spec : DomainSpec}
  {cluster server : String} {short : List String} {e : ServerStatus}

/-! ## Servers -/

theorem server_follows (among : e ∈ p.servers.entries.map fun (name, pod) => p.serverStatus name pod) :
    Follows p e := by
  obtain ⟨⟨name, pod⟩, entry, rfl⟩ := List.mem_map.mp among
  have held : p.pod? name = some pod := NameMaps.mem_entries.mp entry
  have ready : p.isServerReady name = p.isReadyWith name pod := by
    rw [Presence.isServerReady, held, Option.any_some]
  -- The state goes by the mark and by two flags of the pod.
  refine ⟨rfl, ?_, ?_⟩
  · show some _ = some "RUNNING" ↔ p.isServerReady name = true
    rw [ready, Presence.isReadyWith]
    cases p.isMarked name <;> cases pod.isTerminating <;> cases pod.isReady <;> decide
  · show some _ = some "SHUTTING_DOWN" ↔ p.isMarked name = true ∨
      ∃ pod, p.pod? name = some pod ∧ pod.isTerminating = true
    rw [held]
    cases p.isMarked name <;> cases goes : pod.isTerminating <;> cases pod.isReady <;>
      simp [goes, Presence.stateShuttingDown, Presence.stateRunning, Presence.stateStarting]

theorem servers_listed (current : Current p d s) :
    s.servers.map (·.serverName) = p.servers.keys := by
  rw [current.servers, List.map_map]
  rfl

/-! ## Availability -/

/-- The count of a cluster goes by the Ready servers. -/
theorem ready_members (p : Presence) (spec : DomainSpec) (cluster : String) :
    (p.readyInCluster cluster (some (.ofSpec spec))).keys = readyMembers p spec cluster := by
  have same : ∀ e ∈ p.servers.entries,
      (Presence.isMember (some (.ofSpec spec)) cluster e.1 e.2 && p.isReadyWith e.1 e.2) =
        (p.isServerReady e.1 &&
          (p.pod? e.1).any (Presence.isMember (some (.ofSpec spec)) cluster e.1)) := by
    intro e entry
    have held : p.pod? e.1 = some e.2 := NameMaps.mem_entries.mp entry
    rw [Presence.isServerReady, held, Option.any_some, Option.any_some, Bool.and_comm]
  simp only [Presence.readyInCluster, NameMap.names, NameMap.mapValues, NameMap.keys,
    NameMap.filter, readyMembers, List.map_map, List.filter_map]
  rw [List.filter_congr same]
  rfl

/-- No cluster is short exactly if each has a floor and as many Ready members. -/
theorem short_iff (found : p.shortClusters spec = .ok short) : short = [] ↔
    ∀ c ∈ spec.clusters, ∃ floor, spec.minAvailable c.clusterName = .ok floor ∧
      floor ≤ (readyMembers p spec c.clusterName).length := by
  have size (cluster : String) : (p.readyInCluster cluster (some (.ofSpec spec))).size =
      (readyMembers p spec cluster).length := by
    rw [← ready_members, NameMap.keys, List.length_map, NameMap.size]
  unfold Presence.shortClusters at found
  cases given : spec.floors with
  | error panic =>
    rw [given] at found
    cases found
  | ok floors =>
    rw [given] at found
    cases found
    simp only [List.map_eq_nil_iff, List.filter_eq_nil_iff, Prod.forall, Limits.mem_floors given,
      size, decide_eq_true_eq, Nat.not_lt]
    constructor
    · intro met c among
      obtain ⟨floor, own⟩ := Limits.floor_found given among
      exact ⟨floor, own, met _ _ ⟨⟨c, among, rfl⟩, own⟩⟩
    · rintro met _ floor ⟨⟨c, among, rfl⟩, own⟩
      obtain ⟨floor', own', enough⟩ := met c among
      cases own.symm.trans own'
      exact enough

theorem nobody_ready : p.readyServers.isEmpty = true ↔ ¬ ∃ server, p.isServerReady server = true := by
  have ready (server : String) :
      p.isServerReady server = true ↔ server ∈ p.readyServers.keys := by
    rw [NameMaps.mem_keys, Presence.readyServers, NameMaps.contains_names_filter]
    rfl
  simp only [ready]
  rw [NameMap.isEmpty, List.isEmpty_iff, NameMap.keys]
  cases p.readyServers.entries <;> simp

/-- A domain is reported available exactly if there is enough of it. -/
theorem available_status (found : p.shortClusters spec = .ok short) :
    ((p.availableCondition short).status = "True" ∧ Enough p spec) ∨
      ((p.availableCondition short).status = "False" ∧ ¬ Enough p spec) := by
  unfold Presence.availableCondition Enough
  rw [← short_iff found]
  split
  · rename_i some
    exact .inr ⟨rfl, fun enough => by simp [enough.2] at some⟩
  · rename_i met
    have met : short = [] := by simpa using met
    split
    · rename_i nobody
      exact .inr ⟨rfl, fun enough => nobody_ready.mp nobody enough.1⟩
    · rename_i somebody
      exact .inl ⟨rfl, not_not.mp fun nobody => somebody (nobody_ready.mpr nobody), met⟩

/-! ## Conditions -/

/-- What there is to say under a type, whenever it changed, given the clusters that are short. -/
def said (p : Presence) (short : List String) : ConditionType → Option DomainCondition
  | .available => some (untimed (p.availableCondition short))
  | .rolling => if p.rolling then some (untimed rollCondition) else none
  | .failed => p.failure.map (fun f => untimed (failureCondition f))

private theorem stands_untimed {condition : DomainCondition} (stands : Stands condition s) :
    (s.condition? condition.type).map untimed = some (untimed condition) := by
  obtain ⟨time, here⟩ := stands
  rw [here]
  rfl

/-- A status that is current says under every type what there is to say. -/
theorem condition_said (current : Current p d s) (found : p.shortClusters d.spec = .ok short)
    (type : ConditionType) : (s.condition? type).map untimed = said p short type := by
  cases type with
  | available =>
    obtain ⟨_, found', stands⟩ := current.available
    cases found.symm.trans found'
    have stands := stands_untimed stands
    rwa [available_type] at stands
  | rolling =>
    have told := current.roll
    show _ = if p.rolling then some (untimed rollCondition) else none
    split
    · rename_i rolling
      rw [if_pos rolling] at told
      exact stands_untimed told
    · rename_i idle
      rw [if_neg idle] at told
      rw [told]
      rfl
  | failed =>
    have told := current.failure
    unfold TellsFailure at told
    show _ = p.failure.map (fun f => untimed (failureCondition f))
    cases recorded : p.failure with
    | some f =>
      rw [recorded] at told
      exact stands_untimed told.1
    | none =>
      rw [recorded] at told
      rw [told.1]
      rfl

/-- What is said under a type, read in parts that do not depend on the time. -/
private theorem part_said {α : Type} (current : Current p d s)
    (found : p.shortClusters d.spec = .ok short) (type : ConditionType)
    (part : DomainCondition → α) (timeless : ∀ c, part (untimed c) = part c) :
    (s.condition? type).map part = (said p short type).map part := by
  rw [← condition_said current found, Option.map_map]
  congr 1
  funext c
  exact (timeless c).symm

/-- A status that is current says that the domain is available exactly if there is enough of it. -/
private theorem available_said (current : Current p d s) :
    ((s.condition? .available).map (·.status) = some "True" ∧ Enough p d.spec) ∨
      ((s.condition? .available).map (·.status) = some "False" ∧ ¬ Enough p d.spec) := by
  obtain ⟨short, found, -⟩ := current.available
  have told : (s.condition? .available).map (·.status) =
      some (p.availableCondition short).status :=
    part_said current found .available (·.status) fun _ => rfl
  rcases available_status found with ⟨status, enough⟩ | ⟨status, short⟩
  · exact .inl ⟨told.trans (congrArg some status), enough⟩
  · exact .inr ⟨told.trans (congrArg some status), short⟩

private theorem rolled_distinct (distinct : Distinct s) : Distinct (p.withRolling now s) := by
  unfold Presence.withRolling
  split
  · exact distinct_set distinct _ now
  · exact distinct_removed distinct _

private theorem failed_distinct (distinct : Distinct s) : Distinct (p.withFailure now s) := by
  unfold Presence.withFailure
  split
  · exact distinct_set distinct _ now
  · exact distinct_removed distinct _

theorem computed_distinct (distinct : ∀ before, d.status = some before → Distinct before)
    (computed : p.computeStatus d now = .ok s) : Distinct s := by
  obtain ⟨short, -, rfl⟩ := computed_iff.mp computed
  have before : Distinct (d.status.getD {}) := by
    cases had : d.status with
    | none => exact List.nodup_nil
    | some before => exact distinct before had
  exact failed_distinct (rolled_distinct (distinct_set before _ now))

/-- The conditions of a current status without repetitions are what there is to say. -/
theorem conditions_said (current : Current p d s) (found : p.shortClusters d.spec = .ok short)
    (distinct : Distinct s) (c : DomainCondition) :
    c ∈ s.conditions.map untimed ↔ said p short c.type = some c := by
  rw [List.mem_map, ← condition_said current found, Option.map_eq_some_iff]
  constructor
  · rintro ⟨timed, among, rfl⟩
    exact ⟨timed, (condition_listed distinct).mpr ⟨among, rfl⟩, rfl⟩
  · rintro ⟨timed, here, rfl⟩
    exact ⟨timed, ((condition_listed distinct).mp here).1, rfl⟩

private theorem untimed_nodup (distinct : Distinct s) : (s.conditions.map untimed).Nodup := by
  refine List.Nodup.of_map (·.type) ?_
  rw [List.map_map]
  exact distinct

/-! ## The account -/

theorem failure_said (current : Current p d s) :
    s.reason = p.failure.map (·.reason) ∧ s.message = p.failure.map (·.message) := by
  have told := current.failure
  unfold TellsFailure at told
  cases recorded : p.failure with
  | some f =>
    rw [recorded] at told
    exact told.2
  | none =>
    rw [recorded] at told
    exact told.2

/-- A current status without repetitions gives account. -/
theorem current_account (current : Current p d s) (distinct : Distinct s) : Account p d s where
  listed := servers_listed current
  inOrder := by
    rw [servers_listed current]
    exact List.pairwise_map.mpr p.servers.sorted
  servers e among := server_follows (current.servers ▸ among)
  available_iff := by
    rcases available_said current with ⟨status, enough⟩ | ⟨status, short⟩
    · simp [status, enough]
    · simp [status, short]
  unavailable_iff := by
    rcases available_said current with ⟨status, enough⟩ | ⟨status, short⟩
    · simp [status, enough]
    · simp [status, short]
  rolling := by
    obtain ⟨short, found, -⟩ := current.available
    rw [part_said current found .rolling (·.status) fun _ => rfl, said]
    cases p.rolling <;> rfl
  failed := by
    obtain ⟨short, found, -⟩ := current.available
    rw [part_said current found .failed (fun c => (c.status, c.reason, c.message)) fun _ => rfl,
      said]
    cases p.failure <;> rfl
  reason := (failure_said current).1
  message := (failure_said current).2
  distinct := distinct

/-- Two statuses that are current for the same presence and domain are alike. -/
theorem current_alike (current : Current p d s) (current' : Current p d s') (distinct : Distinct s)
    (distinct' : Distinct s') : Alike s s' where
  conditions := by
    obtain ⟨short, found, -⟩ := current.available
    refine (List.perm_ext_iff_of_nodup (untimed_nodup distinct) (untimed_nodup distinct')).mpr ?_
    intro c
    rw [conditions_said current found distinct, conditions_said current' found distinct']
  others := by
    rw [DomainStatus.mk.injEq, current.servers, current'.servers, current.generation,
      current'.generation, (failure_said current).1, (failure_said current).2,
      (failure_said current').1, (failure_said current').2]
    exact ⟨rfl, rfl, rfl, rfl, rfl⟩

/-- A status can be computed unless a cluster of the domain has no floor. It gives account of what
is observed, if the status before lists no type twice. Computed on top of any other such status, or
of none, and at any time, it is alike. -/
theorem status_follows_presence (p : Presence) (d : Domain) (now : String)
    (distinct : ∀ before, d.status = some before → Distinct before) :
    (∃ s, p.computeStatus d now = .ok s ∧ Account p d s ∧
      ∀ other later, (∀ before, other = some before → Distinct before) →
        ∃ s', p.computeStatus { d with status := other } later = .ok s' ∧ Alike s s') ∨
    p.computeStatus d now = .error differenceOverflow ∧
      ∃ c ∈ d.spec.clusters, d.spec.minAvailable c.clusterName = .error differenceOverflow := by
  rcases computed_or_overflow p d now with ⟨s, computed⟩ | overflow
  · have current := computed_current computed
    have single := computed_distinct distinct computed
    refine .inl ⟨s, computed, current_account current single, fun other later distinct' => ?_⟩
    obtain ⟨short, found, -⟩ := current.available
    have again : p.computeStatus { d with status := other } later =
        .ok (p.statusWith { d with status := other } short later) :=
      computed_iff.mpr ⟨short, found, rfl⟩
    obtain ⟨servers, available, roll, failure, generation⟩ := computed_current again
    exact ⟨_, again, current_alike current ⟨servers, available, roll, failure, generation⟩ single
      (computed_distinct distinct' again)⟩
  · exact .inr overflow

/-! ## A roll under way -/

def readyPod (deletion : Option Stamp) : Pod :=
  { metadata := { deletionTimestamp := deletion }
    status := some { conditions := some [{ type := "Ready", status := "True" }] } }

/-- Of three servers with Ready pods one is marked and another one is being taken down. -/
def crew : Presence :=
  { namespaceName := "ns1"
    domainUid := "domain1"
    servers := .ofList [("ms3", readyPod (some ⟨"2026-01-01T00:00:00Z", by decide⟩)),
      ("ms1", readyPod none), ("ms2", readyPod none)]
    beingDeleted := NameSet.ofNames ["ms2"]
    failure := some ⟨"Kubernetes", "refused"⟩
    rolling := true }

/-- Their domain, of which something else was said before. -/
def crewDomain : Domain :=
  { spec := { clusters := [{ clusterName := "c1", replicas := some 2, servers := ["ms1", "ms2"] }] }
    status := some
      { conditions :=
          [{ type := .failed, status := "True", reason := some "Old", lastTransitionTime := some "t0" },
            { type := .available, status := "False", lastTransitionTime := some "t0" }]
        servers := [{ serverName := "ms0", ready := true }]
        reason := some "Old" } }

def crewStatus : DomainStatus :=
  { conditions :=
      [{ type := .failed, status := "True", reason := some "Kubernetes", message := some "refused",
          lastTransitionTime := some "t0" },
        { type := .available, status := "True", reason := some "ServersReady",
          lastTransitionTime := some "t1" },
        { type := .rolling, status := "True", reason := some "RestartVersion",
          lastTransitionTime := some "t1" }]
    servers :=
      [{ serverName := "ms1", state := some "RUNNING", ready := true },
        { serverName := "ms2", state := some "SHUTTING_DOWN" },
        { serverName := "ms3", state := some "SHUTTING_DOWN" }]
    reason := some "Kubernetes"
    message := some "refused" }

theorem crew_status_follows :
    (∀ before, crewDomain.status = some before → Distinct before) ∧
      crew.computeStatus crewDomain "t1" = .ok crewStatus ∧ Account crew crewDomain crewStatus ∧
      ∃ anew, crew.computeStatus { crewDomain with status := none } "t2" = .ok anew ∧
        Alike crewStatus anew := by
  have distinct : ∀ before, crewDomain.status = some before → Distinct before := by
    intro before had
    cases had
    unfold Distinct
    decide
  have computed : crew.computeStatus crewDomain "t1" = .ok crewStatus := by decide +kernel
  rcases status_follows_presence crew crewDomain "t1" distinct with
    ⟨s, found, account, alike⟩ | ⟨panics, -⟩
  · cases computed.symm.trans found
    exact ⟨distinct, computed, account, alike none "t2" fun _ had => nomatch had⟩
  · cases computed.symm.trans panics

end DomainSteward.Accounts
