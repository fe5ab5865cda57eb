import Mathlib.Algebra.Group.Nat.Defs
import Mathlib.Algebra.Ring.Int.Defs
import DomainSteward.Domain.Spec

/-! What a domain asks of its clusters. A limit that a cluster sets itself counts before that of the
domain. The floor of a cluster is the replicas less the members that may be missing as long as this
difference fits 32 bits. Where it does not there is no floor, but a panic. -/
namespace DomainSteward.Limits

/-- Of several clusters of one name, the one that is listed first. -/
def IsFirst (clusters : List ClusterSpec) (name : String) (c : ClusterSpec) : Prop :=
  ∃ before after, clusters = before ++ c :: after ∧ c.clusterName = name ∧
    ∀ b ∈ before, b.clusterName ≠ name

/-- A limit of a cluster: what the cluster sets itself, else what the domain sets, or else a
default. -/
inductive Limit (s : DomainSpec) (name : String) (own : ClusterSpec → Option Int32)
    (shared : Option Int32) (default : Int32) : Int32 → Prop where
  | ofCluster (c : ClusterSpec) (n : Int32) (first : IsFirst s.clusters name c)
      (sets : own c = some n) : Limit s name own shared default n
  | ofDomain (n : Int32) (silent : ∀ c, IsFirst s.clusters name c → own c = none)
      (sets : shared = some n) : Limit s name own shared default n
  | byDefault (silent : ∀ c, IsFirst s.clusters name c → own c = none) (unset : shared = none) :
      Limit s name own shared default default

/-- A difference that 32 bits can hold. -/
def Fits (difference : Int) : Prop := -2 ^ 31 ≤ difference ∧ difference < 2 ^ 31

/-- How many members have to stay Ready when so many are wanted and so many may be missing. -/
structure Reckoned (replicas missing : Int32) (floor : Except Panic Nat) : Prop where
  /-- What is left of those that are wanted, or none if that is negative. -/
  exact_of_fits : Fits (replicas.toInt - missing.toInt) →
    ∃ n : Nat, floor = .ok n ∧ (n : Int) = max (replicas.toInt - missing.toInt) 0
  /-- A difference that does not fit is not cut off at zero, as it is not found in the first
  place. -/
  panics_of_not_fits : ¬ Fits (replicas.toInt - missing.toInt) →
    floor = .error (.said "attempt to subtract with overflow")

variable {s : DomainSpec} {name : String} {own : ClusterSpec → Option Int32}
  {shared : Option Int32} {default n replicas missing : Int32}

theorem cluster_first {c : ClusterSpec} : s.cluster? name = some c ↔ IsFirst s.clusters name c := by
  rw [DomainSpec.cluster?, List.find?_eq_some_iff_append, IsFirst]
  simp only [decide_eq_true_eq, Bool.not_eq_true', decide_eq_false_iff_not]
  constructor
  · rintro ⟨named, before, after, split, others⟩
    exact ⟨before, after, split, named, others⟩
  · rintro ⟨before, after, split, named, others⟩
    exact ⟨named, before, after, split, others⟩

private theorem silent_iff : (∀ c, IsFirst s.clusters name c → own c = none) ↔
    (s.cluster? name).bind own = none := by
  simp only [← cluster_first, Option.bind_eq_none_iff]

/-- There is one such limit. -/
theorem limit_iff : Limit s name own shared default n ↔
    n = (((s.cluster? name).bind own).or shared).getD default := by
  constructor
  · intro limit
    cases limit with
    | ofCluster c n first sets =>
      rw [cluster_first.mpr first, Option.bind_some, sets]
      rfl
    | ofDomain n silent sets =>
      rw [silent_iff.mp silent, sets]
      rfl
    | byDefault silent unset =>
      rw [silent_iff.mp silent, unset]
      rfl
  · rintro rfl
    cases set : (s.cluster? name).bind own with
    | some n =>
      obtain ⟨c, first, sets⟩ := Option.bind_eq_some_iff.mp set
      exact .ofCluster c n (cluster_first.mp first) sets
    | none =>
      cases sharing : shared with
      | some n => exact .ofDomain n (silent_iff.mpr set) rfl
      | none => exact .byDefault (silent_iff.mpr set) rfl

/-- The difference of two limits, as it is taken. -/
theorem difference_reckoned (replicas missing : Int32) :
    Reckoned replicas missing ((difference replicas missing).map (·.toInt.toNat)) := by
  have bounds : (Int32.minValue.toInt ≤ replicas.toInt - missing.toInt ∧
      replicas.toInt - missing.toInt ≤ Int32.maxValue.toInt) ↔
      Fits (replicas.toInt - missing.toInt) := by
    have least : Int32.minValue.toInt = -2 ^ 31 := rfl
    have most : Int32.maxValue.toInt = 2 ^ 31 - 1 := rfl
    rw [least, most, Fits]
    omega
  constructor
  · intro fits
    have exact : (replicas - missing).toInt = replicas.toInt - missing.toInt := by
      obtain ⟨lower, upper⟩ := fits
      rw [Int32.toInt_sub]
      exact Int.bmod_eq_of_le (by omega) (by omega)
    have found : difference replicas missing = .ok (replicas - missing) := if_pos (bounds.mpr fits)
    exact ⟨(replicas - missing).toInt.toNat, by rw [found]; rfl, by rw [exact, Int.toNat_eq_max]⟩
  · intro wide
    have panics : difference replicas missing = .error differenceOverflow :=
      if_neg fun fits => wide (bounds.mp fits)
    rw [panics]
    rfl

/-- The floor of a cluster is that of its limits: it is the replicas less the members that may be
missing, or none if that is negative, as long as the difference fits 32 bits. Asking for the floor
of any other limits panics. -/
theorem floor_is_exact_within_32_bits (s : DomainSpec) (name : String) :
    ∃ replicas missing,
      (∀ n, Limit s name (·.replicas) (some s.replicas) 1 n ↔ n = replicas) ∧
        (∀ n, Limit s name (·.maxUnavailable) s.maxClusterUnavailable 1 n ↔ n = missing) ∧
        Reckoned replicas missing (s.minAvailable name) := by
  refine ⟨s.replicaCount name, s.maxUnavailable name, fun n => ?_, fun n => limit_iff, ?_⟩
  · rw [limit_iff, DomainSpec.replicaCount]
    cases (s.cluster? name).bind (·.replicas) <;> rfl
  · exact difference_reckoned _ _

/-! ## Differences that do not fit -/

/-- A domain that wants as few members as 32 bits can say. -/
def fewest : DomainSpec := { replicas := Int32.minValue }

/-- A domain that wants as many, and that no fewer than that are there. -/
def most : DomainSpec := { replicas := Int32.maxValue, maxClusterUnavailable := some (-1) }

/-- Neither the fewest members that can be wanted nor the most have a floor, though it would be none
of them and one more. -/
theorem extreme_limits_have_no_floor :
    Limit fewest "c1" (·.replicas) (some fewest.replicas) 1 Int32.minValue ∧
      Limit fewest "c1" (·.maxUnavailable) fewest.maxClusterUnavailable 1 1 ∧
      max (Int32.minValue.toInt - 1) 0 = 0 ∧
      fewest.minAvailable "c1" = .error (.said "attempt to subtract with overflow") ∧
      Limit most "c1" (·.replicas) (some most.replicas) 1 Int32.maxValue ∧
      Limit most "c1" (·.maxUnavailable) most.maxClusterUnavailable 1 (-1) ∧
      max (Int32.maxValue.toInt - (-1)) 0 = 2 ^ 31 ∧
      most.minAvailable "c1" = .error (.said "attempt to subtract with overflow") := by
  simp only [limit_iff]
  exact ⟨rfl, rfl, rfl, rfl, rfl, rfl, rfl, rfl⟩

/-! ## All floors of a domain -/

/-- A floor is found or it panics, in the same words for all clusters. -/
theorem floor_or_overflow (s : DomainSpec) (name : String) :
    (∃ floor, s.minAvailable name = .ok floor) ∨
      s.minAvailable name = .error differenceOverflow := by
  unfold DomainSpec.minAvailable difference
  dsimp only
  split
  · exact .inl ⟨_, rfl⟩
  · exact .inr rfl

private theorem floor_first {c : ClusterSpec} {rest : List ClusterSpec}
    {floors : List (String × Nat)}
    (found : (c :: rest).mapM (fun c => (s.minAvailable c.clusterName).map (c.clusterName, ·)) =
      .ok floors) :
    ∃ floor others, s.minAvailable c.clusterName = .ok floor ∧
      rest.mapM (fun c => (s.minAvailable c.clusterName).map (c.clusterName, ·)) = .ok others ∧
      floors = (c.clusterName, floor) :: others := by
  rw [List.mapM_cons] at found
  cases own : s.minAvailable c.clusterName with
  | error panic =>
    rw [own] at found
    cases found
  | ok floor =>
    rw [own] at found
    cases later : rest.mapM (fun c => (s.minAvailable c.clusterName).map (c.clusterName, ·)) with
    | error panic =>
      rw [later] at found
      cases found
    | ok others =>
      rw [later] at found
      cases found
      exact ⟨floor, others, rfl, rfl, rfl⟩

/-- The floors of a domain are those of the clusters that it lists. -/
theorem mem_floors {floors : List (String × Nat)} (found : s.floors = .ok floors) {floor : Nat} :
    (name, floor) ∈ floors ↔
      (∃ c ∈ s.clusters, c.clusterName = name) ∧ s.minAvailable name = .ok floor := by
  unfold DomainSpec.floors at found
  generalize s.clusters = clusters at found ⊢
  induction clusters generalizing floors with
  | nil =>
    cases found
    simp
  | cons c rest ih =>
    obtain ⟨first, others, own, later, rfl⟩ := floor_first found
    rw [List.mem_cons, ih later, Prod.mk.injEq]
    constructor
    · rintro (⟨rfl, rfl⟩ | ⟨⟨listed, among, named⟩, given⟩)
      · exact ⟨⟨c, .head _, rfl⟩, own⟩
      · exact ⟨⟨listed, .tail _ among, named⟩, given⟩
    · rintro ⟨⟨listed, among, rfl⟩, given⟩
      rcases List.mem_cons.mp among with rfl | among
      · exact .inl ⟨rfl, Except.ok.inj (given.symm.trans own)⟩
      · exact .inr ⟨⟨listed, among, rfl⟩, given⟩

/-- If a domain has floors, each of its clusters does. -/
theorem floor_found {floors : List (String × Nat)} {c : ClusterSpec} (found : s.floors = .ok floors)
    (among : c ∈ s.clusters) : ∃ floor, s.minAvailable c.clusterName = .ok floor := by
  unfold DomainSpec.floors at found
  generalize s.clusters = clusters at found among
  induction clusters generalizing floors with
  | nil => cases among
  | cons first rest ih =>
    obtain ⟨floor, others, own, later, -⟩ := floor_first found
    rcases List.mem_cons.mp among with rfl | among
    · exact ⟨floor, own⟩
    · exact ih later among

/-- A domain has all its floors unless asking for one of them panics. -/
theorem floors_or_overflow (s : DomainSpec) :
    (∃ floors, s.floors = .ok floors) ∨ s.floors = .error differenceOverflow ∧
      ∃ c ∈ s.clusters, s.minAvailable c.clusterName = .error differenceOverflow := by
  unfold DomainSpec.floors
  generalize s.clusters = clusters
  induction clusters with
  | nil => exact .inl ⟨[], rfl⟩
  | cons c rest ih =>
    rw [List.mapM_cons]
    rcases floor_or_overflow s c.clusterName with ⟨floor, own⟩ | own
    · rcases ih with ⟨floors, others⟩ | ⟨others, lacking, among, why⟩
      · exact .inl ⟨(c.clusterName, floor) :: floors, by rw [own, others]; rfl⟩
      · exact .inr ⟨by rw [own, others]; rfl, lacking, .tail _ among, why⟩
    · exact .inr ⟨by rw [own]; rfl, c, .head _, own⟩

end DomainSteward.Limits
