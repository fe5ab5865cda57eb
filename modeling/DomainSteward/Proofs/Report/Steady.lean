import DomainSteward.Chain.Rules
import DomainSteward.Proofs.Chain.World
import DomainSteward.Proofs.Domain.Conditions
import DomainSteward.Proofs.Domain.Limits
import DomainSteward.Proofs.Roll.Steps

/-! A status that has been computed is final. While nothing else is observed, computing it once more
on top of itself gives the same status at any later time, whatever status there was before. So a
domain that reports what is observed is not written again. -/
namespace DomainSteward.Steady
open Conditions

variable {p : Presence} {d : Domain} {s : DomainStatus} {now : String} {type : ConditionType}

/-- The condition of a roll that is under way. -/
def rollCondition : DomainCondition := .ofBool .rolling true (some "RestartVersion")

/-- The condition of a recorded failure. -/
def failureCondition (f : RecordedFailure) : DomainCondition :=
  .ofBool .failed true (some f.reason) (some f.message)

/-- A status says of a recorded failure what a presence has to tell: nothing, unless there is
one. -/
def TellsFailure (p : Presence) (s : DomainStatus) : Prop :=
  match p.failure with
  | some f => Stands (failureCondition f) s ∧ s.reason = some f.reason ∧ s.message = some f.message
  | none => s.condition? .failed = none ∧ s.reason = none ∧ s.message = none

/-- A status says all that a presence has to tell of a domain. When its conditions last changed, and
which conditions it lists besides the first of each type, is left open. -/
structure Current (p : Presence) (d : Domain) (s : DomainStatus) : Prop where
  servers : s.servers = p.servers.entries.map (fun (name, pod) => p.serverStatus name pod)
  available : ∃ short, p.shortClusters d.spec = .ok short ∧ Stands (p.availableCondition short) s
  roll : if p.rolling then Stands rollCondition s else s.condition? .rolling = none
  failure : TellsFailure p s
  generation : s.observedGeneration = d.metadata.generation

/-! ## What is computed -/

theorem available_type (p : Presence) (short : List String) :
    (p.availableCondition short).type = .available := by
  unfold Presence.availableCondition
  split
  · rfl
  · split <;> rfl

private theorem roll_told (p : Presence) (now : String) (s : DomainStatus) :
    if p.rolling then Stands rollCondition (p.withRolling now s)
    else (p.withRolling now s).condition? .rolling = none := by
  unfold Presence.withRolling
  split
  · exact stands_set s rollCondition now
  · rw [condition_removed, if_pos rfl]

private theorem roll_elsewhere (other : type ≠ .rolling) :
    (p.withRolling now s).condition? type = s.condition? type := by
  unfold Presence.withRolling
  split
  · exact (condition_set ..).trans (if_neg (Ne.symm other))
  · exact (condition_removed ..).trans (if_neg other)

private theorem roll_servers : (p.withRolling now s).servers = s.servers := by
  unfold Presence.withRolling
  split <;> rfl

private theorem failure_told (p : Presence) (now : String) (s : DomainStatus) :
    TellsFailure p (p.withFailure now s) := by
  unfold TellsFailure Presence.withFailure
  cases p.failure with
  | some f => exact ⟨stands_set s (failureCondition f) now, rfl, rfl⟩
  | none => exact ⟨(condition_removed ..).trans (if_pos rfl), rfl, rfl⟩

private theorem failure_elsewhere (other : type ≠ .failed) :
    (p.withFailure now s).condition? type = s.condition? type := by
  unfold Presence.withFailure
  split
  · exact (condition_set ..).trans (if_neg (Ne.symm other))
  · exact (condition_removed ..).trans (if_neg other)

private theorem failure_servers : (p.withFailure now s).servers = s.servers := by
  unfold Presence.withFailure
  split <;> rfl

/-- A status is computed from the clusters that are short. -/
theorem computed_iff : p.computeStatus d now = .ok s ↔
    ∃ short, p.shortClusters d.spec = .ok short ∧ p.statusWith d short now = s := by
  unfold Presence.computeStatus
  cases p.shortClusters d.spec with
  | error panic => simp [Except.map]
  | ok short => simp [Except.map]

/-- Nothing but the clusters decides whether a status can be computed. -/
theorem panics_iff {panic : Panic} :
    p.computeStatus d now = .error panic ↔ p.shortClusters d.spec = .error panic := by
  unfold Presence.computeStatus
  cases p.shortClusters d.spec with
  | error panic => simp [Except.map]
  | ok short => simp [Except.map]

/-- A status can be computed unless the floor of a cluster cannot. -/
theorem computed_or_overflow (p : Presence) (d : Domain) (now : String) :
    (∃ s, p.computeStatus d now = .ok s) ∨
      p.computeStatus d now = .error differenceOverflow ∧
        ∃ c ∈ d.spec.clusters, d.spec.minAvailable c.clusterName = .error differenceOverflow := by
  unfold Presence.computeStatus Presence.shortClusters
  rcases Limits.floors_or_overflow d.spec with ⟨floors, found⟩ | ⟨panics, why⟩
  · exact .inl ⟨_, by rw [found]; rfl⟩
  · exact .inr ⟨by rw [panics]; rfl, why⟩

private theorem told_current {short : List String} (found : p.shortClusters d.spec = .ok short)
    (now : String) : Current p d (p.statusWith d short now) where
  servers := failure_servers.trans roll_servers
  available := by
    have other : (p.availableCondition short).type ≠ .rolling ∧
        (p.availableCondition short).type ≠ .failed := by
      rw [available_type]
      decide
    refine ⟨short, found, ?_⟩
    refine stands_kept ((failure_elsewhere other.2).trans (roll_elsewhere other.1)) ?_
    exact stands_set _ _ now
  roll := by
    have told := roll_told p now
    split
    · rename_i rolling
      simp only [rolling, ↓reduceIte] at told
      exact stands_kept (failure_elsewhere (by decide)) (told _)
    · rename_i idle
      simp only [idle, Bool.false_eq_true, ↓reduceIte] at told
      exact (failure_elsewhere (by decide)).trans (told _)
  failure := failure_told p now _
  generation := rfl

/-- What is computed says all that there is to tell, whatever was said before. -/
theorem computed_current (computed : p.computeStatus d now = .ok s) : Current p d s := by
  obtain ⟨short, found, rfl⟩ := computed_iff.mp computed
  exact told_current found now

/-! ## What is computed again -/

private theorem roll_kept (told : if p.rolling then Stands rollCondition s
    else s.condition? .rolling = none) : p.withRolling now s = s := by
  unfold Presence.withRolling
  split
  · rename_i rolling
    simp only [rolling, ↓reduceIte] at told
    exact set_again told now
  · rename_i idle
    simp only [idle, Bool.false_eq_true, ↓reduceIte] at told
    exact remove_absent told

private theorem failure_kept (told : TellsFailure p s) : p.withFailure now s = s := by
  unfold TellsFailure at told
  unfold Presence.withFailure
  cases recorded : p.failure with
  | some f =>
    rw [recorded] at told
    obtain ⟨stands, reason, message⟩ := told
    have set : s.setCondition (failureCondition f) now = s := set_again stands now
    show { s.setCondition (failureCondition f) now with
      reason := some f.reason, message := some f.message } = s
    rw [set, ← reason, ← message]
  | none =>
    rw [recorded] at told
    obtain ⟨absent, reason, message⟩ := told
    show { s.removeCondition .failed with reason := none, message := none } = s
    rw [remove_absent absent]
    cases s
    cases reason
    cases message
    rfl

/-- A status that says all there is to tell is not changed by being computed again. -/
theorem current_kept (current : Current p d s) (now : String) :
    p.computeStatus { d with status := some s } now = .ok s := by
  have listed : { s with
      servers := p.servers.entries.map (fun (name, pod) => p.serverStatus name pod) } = s := by
    rw [← current.servers]
  obtain ⟨short, found, stands⟩ := current.available
  refine computed_iff.mpr ⟨short, found, ?_⟩
  show { p.withFailure now (p.withRolling now (DomainStatus.setCondition { s with
      servers := p.servers.entries.map (fun (name, pod) => p.serverStatus name pod) }
      (p.availableCondition short) now)) with
    observedGeneration := d.metadata.generation } = s
  rw [listed, set_again stands, roll_kept current.roll, failure_kept current.failure,
    ← current.generation]

/-! ## What is written -/

variable {ε : Type}

/-- A fiber that is to write the status of a domain goes on without a call if the domain has that
status already. -/
theorem nothing_to_write {q : Packet} {w : World} {id : PresenceId} (works : q.presence = some id)
    (holds : w.presence? id = some p) (held : p.domain = some d)
    (computed : p.computeStatus d w.stamp = .ok s) (same : d.status = some s) (left : UInt32)
    (next : Option (Step ε)) : updateStatus left next q w = .of (.goOn next) q w := by
  rw [updateStatus, RollSteps.with_presence_found works holds, held]
  dsimp only
  rw [computed]
  exact if_pos same

/-- A fiber that is to write a status that cannot be computed is cut short, without a call. -/
theorem nothing_can_be_written {q : Packet} {w : World} {id : PresenceId} {panic : Panic}
    (works : q.presence = some id) (holds : w.presence? id = some p) (held : p.domain = some d)
    (panics : p.computeStatus d w.stamp = .error panic) (left : UInt32)
    (next : Option (Step ε)) : updateStatus left next q w = .panicked panic q w := by
  rw [updateStatus, RollSteps.with_presence_found works holds, held]
  dsimp only
  rw [panics]

/-- A status is computed once. On top of itself it is computed as it is, at any later time, and a
fiber that is to write the status of a domain that has it goes on without a call and leaves
everything as it was. There is no status to compute only if a cluster of the domain has no floor:
then there is none whatever was reported before, and nothing is ever written. -/
theorem computed_status_is_final (p : Presence) (d : Domain) (now : String) :
    (∃ s, p.computeStatus d now = .ok s ∧
      (∀ later, p.computeStatus { d with status := some s } later = .ok s) ∧
      ∀ (c : Conduct) (g : GuestRules ε) (left : UInt32) (next : Option (Step ε)) (q : Packet)
        (w : World) (id : PresenceId), q.presence = some id →
        w.presence? id = some (p.setDomain { d with status := some s }) →
        (chainDynamics c g).apply (.updateStatus left next) q w = .of (.goOn next) q w) ∨
    (∃ cluster ∈ d.spec.clusters,
      d.spec.minAvailable cluster.clusterName = .error differenceOverflow) ∧
      ∀ status, (∀ later, p.computeStatus { d with status } later = .error differenceOverflow) ∧
        ∀ (c : Conduct) (g : GuestRules ε) (left : UInt32) (next : Option (Step ε)) (q : Packet)
          (w : World) (id : PresenceId), q.presence = some id →
          w.presence? id = some (p.setDomain { d with status }) →
          (chainDynamics c g).apply (.updateStatus left next) q w =
            .panicked differenceOverflow q w := by
  rcases computed_or_overflow p d now with ⟨s, computed⟩ | ⟨panics, why⟩
  · have final := current_kept (computed_current computed)
    exact .inl ⟨s, computed, final, fun c g left next q w id works holds =>
      nothing_to_write works holds rfl (final w.stamp) rfl left next⟩
  · have never (status : Option DomainStatus) (later : String) :
        p.computeStatus { d with status } later = .error differenceOverflow :=
      panics_iff.mpr (show p.shortClusters d.spec = _ from panics_iff.mp panics)
    exact .inr ⟨why, fun status => ⟨never status, fun c g left next q w id works holds =>
      nothing_can_be_written works holds rfl (never status w.stamp) left next⟩⟩

/-! ## A status that lists conditions twice -/

def unready : Presence := { namespaceName := "ns1", domainUid := "domain1" }

/-- A domain of which more has been said than is known now, some of it twice and without a time. -/
def repeating : Domain :=
  { spec := {}
    status := some
      { conditions :=
          [{ type := .failed, status := "True", reason := some "Kubernetes" },
            { type := .available, status := "False" }, { type := .failed, status := "False" },
            { type := .available, status := "True", lastTransitionTime := some "t0" }]
        reason := some "Kubernetes" } }

/-- What is known now of the domain. -/
def settled : DomainStatus :=
  { conditions :=
      [.ofBool .available false (some "ServersNotReady") (some "No server is Ready"),
        { type := .available, status := "True", lastTransitionTime := some "t0" }] }

def settledWorld : World :=
  { feed := { registry :=
      { presences := [unready.setDomain { repeating with status := some settled }] } } }

theorem repeating_status_is_final :
    unready.computeStatus repeating "t1" = .ok settled ∧
    unready.computeStatus { repeating with status := some settled } "t2" = .ok settled ∧
    (chainDynamics {} .nobody).apply (.updateStatus 5 none) { presence := some 0 } settledWorld =
      .of (.goOn none) { presence := some 0 } settledWorld := by
  have computed : unready.computeStatus repeating "t1" = .ok settled := by decide +kernel
  rcases computed_status_is_final (ε := Empty) unready repeating "t1" with
    ⟨s, found, final, quiet⟩ | ⟨⟨_, among, _⟩, _⟩
  · cases computed.symm.trans found
    exact ⟨computed, final "t2",
      quiet {} .nobody 5 none { presence := some 0 } settledWorld 0 rfl rfl⟩
  · cases among

end DomainSteward.Steady
