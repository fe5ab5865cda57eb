import DomainSteward.Reconcile
import DomainSteward.Settings.Basic

/-! When a domain is looked at again after a failed reconcile. A failure of forks is judged by the
failures that it consists of, however deep they lie. The wait without authorization is a multiple of
the wait that the settings ask for, which no check of the settings keeps in range: the multiple of a
wait that is too long for it is a panic. -/
namespace DomainSteward.Requeues

/-! ## What a failure consists of -/

mutual

/-- The failures that a failure consists of; only one of forks consists of others. -/
def leaves : FiberError → List FiberError
  | .childrenFailed children => leavesOf children
  | e => [e]

/-- The failures that several failures consist of. -/
def leavesOf : List FiberError → List FiberError
  | [] => []
  | e :: rest => leaves e ++ leavesOf rest

end

/-- A failure that shows a lack of authorization. -/
def Unauthorized (e : FiberError) : Prop := ∃ status message, e = .notAuthorized status message

mutual

theorem cancelled_iff (e : FiberError) :
    e.isCancelled = true ↔ ∀ leaf ∈ leaves e, leaf = .cancelled := by
  cases e with
  | childrenFailed children =>
    rw [FiberError.isCancelled, leaves]
    exact all_cancelled_iff children
  | _ => simp [FiberError.isCancelled, leaves]

private theorem all_cancelled_iff (failures : List FiberError) :
    FiberError.allCancelled failures = true ↔ ∀ leaf ∈ leavesOf failures, leaf = .cancelled := by
  cases failures with
  | nil => simp [FiberError.allCancelled, leavesOf]
  | cons e rest =>
    rw [FiberError.allCancelled, Bool.and_eq_true, cancelled_iff e, all_cancelled_iff rest,
      leavesOf, List.forall_mem_append]

end

mutual

theorem unauthorized_iff (e : FiberError) :
    e.isNotAuthorized = true ↔ ∃ leaf ∈ leaves e, Unauthorized leaf := by
  cases e with
  | childrenFailed children =>
    rw [FiberError.isNotAuthorized, leaves]
    exact any_unauthorized_iff children
  | _ => simp [FiberError.isNotAuthorized, leaves, Unauthorized]

private theorem any_unauthorized_iff (failures : List FiberError) :
    FiberError.anyNotAuthorized failures = true ↔
      ∃ leaf ∈ leavesOf failures, Unauthorized leaf := by
  cases failures with
  | nil => simp [FiberError.anyNotAuthorized, leavesOf]
  | cons e rest =>
    rw [FiberError.anyNotAuthorized, Bool.or_eq_true, unauthorized_iff e, any_unauthorized_iff rest,
      leavesOf]
    simp only [List.mem_append, or_and_right, exists_or]

end

/-- A lack of authorization is no cancellation. -/
private theorem going_of_lacks {e : FiberError} (lacks : ∃ leaf ∈ leaves e, Unauthorized leaf) :
    ¬ ∀ leaf ∈ leaves e, leaf = .cancelled := by
  obtain ⟨leaf, among, status, message, rfl⟩ := lacks
  intro cancelled
  cases cancelled _ among

/-! ## The wait -/

/-- Whether the wait without authorization is longer than every duration. -/
def TooLong (requeue : Duration) : Prop := longestNanos < requeue.nanos * unauthorizedFactor

/-- What the wait is after failures: several times as long as asked for if one of them shows a lack
of authorization, and as long as asked for otherwise. -/
def Waits (requeue : Duration) (failures : List FiberError) (wait : Duration) : Prop :=
  ((∃ leaf ∈ failures, Unauthorized leaf) ∧ wait.nanos = requeue.nanos * unauthorizedFactor) ∨
    (¬ ∃ leaf ∈ failures, Unauthorized leaf) ∧ wait = requeue

section

variable {requeue wait : Duration} {e : FiberError}

theorem policy_of_cancelled (cancelled : ∀ leaf ∈ leaves e, leaf = .cancelled) :
    errorPolicy requeue (.fiber e) = .ok .onChange := by
  rw [errorPolicy, if_pos ((cancelled_iff e).mpr cancelled)]

theorem policy_within_range (lacks : ∃ leaf ∈ leaves e, Unauthorized leaf)
    (within : requeue.nanos * unauthorizedFactor ≤ longestNanos) :
    errorPolicy requeue (.fiber e) =
      .ok (.after ⟨requeue.nanos * unauthorizedFactor, within⟩) := by
  rw [errorPolicy, if_neg (mt (cancelled_iff e).mp (going_of_lacks lacks)),
    if_pos ((unauthorized_iff e).mpr lacks), Duration.times?, dif_pos within]

theorem policy_too_long (lacks : ∃ leaf ∈ leaves e, Unauthorized leaf) (long : TooLong requeue) :
    errorPolicy requeue (.fiber e) = .error waitOverflow := by
  rw [errorPolicy, if_neg (mt (cancelled_iff e).mp (going_of_lacks lacks)),
    if_pos ((unauthorized_iff e).mpr lacks), Duration.times?, dif_neg (Nat.not_le.mpr long)]

theorem policy_of_others (going : ¬ ∀ leaf ∈ leaves e, leaf = .cancelled)
    (authorized : ¬ ∃ leaf ∈ leaves e, Unauthorized leaf) :
    errorPolicy requeue (.fiber e) = .ok (.after requeue) := by
  rw [errorPolicy, if_neg (mt (cancelled_iff e).mp going),
    if_neg (mt (unauthorized_iff e).mp authorized)]

private theorem waits_lacking {failures : List FiberError}
    (lacks : ∃ leaf ∈ failures, Unauthorized leaf) :
    Waits requeue failures wait ↔ wait.nanos = requeue.nanos * unauthorizedFactor := by
  simp [Waits, lacks]

private theorem waits_authorized {failures : List FiberError}
    (authorized : ¬ ∃ leaf ∈ failures, Unauthorized leaf) :
    Waits requeue failures wait ↔ wait = requeue := by
  simp [Waits, authorized]

end

/-- The settings that are read ask for too long a wait exactly if the variable for it has a number
of seconds of which six times as many are no duration. -/
theorem too_long_iff (lookup : Settings.Lookup) :
    TooLong (Settings.read lookup).errorRequeue ↔
      ∃ seconds, lookup.unsigned 64 "ERROR_REQUEUE_SECS" = some seconds ∧
        3074457345618258602 < seconds := by
  have asked : (Settings.read lookup).errorRequeue =
      lookup.seconds "ERROR_REQUEUE_SECS" (.ofSeconds 10) := rfl
  have longest : longestNanos = 18446744073709551615999999999 := by decide
  rw [asked, Settings.Lookup.seconds, TooLong, unauthorizedFactor]
  cases lookup.unsigned 64 "ERROR_REQUEUE_SECS" with
  | none =>
    simp [Duration.ofSeconds, Duration.ofNanos, longest]
  | some seconds =>
    simp only [Option.map_some, Option.getD_some, Duration.ofSeconds, Duration.ofNanos, longest,
      Option.some.injEq, exists_eq_left']
    omega

/-- After a failed reconcile the failures that its own consists of decide. Exactly if all of them
are cancellations, the domain is looked at when it changes. Otherwise the wait is six times as long
as asked for if one of them shows a lack of authorization, and as long as asked for if none does.
There is a panic exactly if the longer wait is due and is longer than every duration. The check of
the settings takes a wait of any length, and a variable can ask for one that is too long. -/
theorem policy_follows_leaves_but_for_a_wait_too_long (s : Settings) (e : FiberError) :
    (errorPolicy s.errorRequeue (.fiber e) = .ok .onChange ↔
      ∀ leaf ∈ leaves e, leaf = .cancelled) ∧
    (∀ wait, errorPolicy s.errorRequeue (.fiber e) = .ok (.after wait) ↔
      ¬ (∀ leaf ∈ leaves e, leaf = .cancelled) ∧ Waits s.errorRequeue (leaves e) wait) ∧
    (∀ panic, errorPolicy s.errorRequeue (.fiber e) = .error panic ↔
      panic = waitOverflow ∧ (∃ leaf ∈ leaves e, Unauthorized leaf) ∧ TooLong s.errorRequeue) ∧
    (∀ requeue, { s with errorRequeue := requeue }.validate = s.validate) ∧
    ∀ lookup : Settings.Lookup, TooLong (Settings.read lookup).errorRequeue ↔
      ∃ seconds, lookup.unsigned 64 "ERROR_REQUEUE_SECS" = some seconds ∧
        3074457345618258602 < seconds := by
  have unchecked (requeue : Duration) : { s with errorRequeue := requeue }.validate = s.validate :=
    rfl
  by_cases cancelled : ∀ leaf ∈ leaves e, leaf = .cancelled
  · have policy : errorPolicy s.errorRequeue (.fiber e) = .ok .onChange :=
      policy_of_cancelled cancelled
    refine ⟨iff_of_true policy cancelled, fun wait => ?_, fun panic => ?_, unchecked, too_long_iff⟩
    · exact iff_of_false (by simp [policy]) fun going => going.1 cancelled
    · exact iff_of_false (by simp [policy]) fun due => going_of_lacks due.2.1 cancelled
  by_cases lacks : ∃ leaf ∈ leaves e, Unauthorized leaf
  · by_cases long : TooLong s.errorRequeue
    · have policy := policy_too_long lacks long
      refine ⟨iff_of_false (by simp [policy]) cancelled, fun wait => ?_, fun panic => ?_, unchecked,
        too_long_iff⟩
      · -- A wait is a duration, and the longer wait is none.
        refine iff_of_false (by simp [policy]) fun due => ?_
        have same := (waits_lacking lacks).mp due.2
        exact Nat.not_lt.mpr wait.bounded (same ▸ long)
      · simp [policy, lacks, long, eq_comm]
    · have policy := policy_within_range lacks (Nat.not_lt.mp long)
      refine ⟨iff_of_false (by simp [policy]) cancelled, fun wait => ?_, fun panic => ?_, unchecked,
        too_long_iff⟩
      · rw [policy, waits_lacking lacks]
        obtain ⟨nanos, bounded⟩ := wait
        simp [cancelled, eq_comm]
      · exact iff_of_false (by simp [policy]) fun due => long due.2.2
  · have policy : errorPolicy s.errorRequeue (.fiber e) = .ok (.after s.errorRequeue) :=
      policy_of_others cancelled lacks
    refine ⟨iff_of_false (by simp [policy]) cancelled, fun wait => ?_, fun panic => ?_, unchecked,
      too_long_iff⟩
    · rw [policy, waits_authorized lacks]
      simp [cancelled, eq_comm]
    · exact iff_of_false (by simp [policy]) fun due => lacks due.2.1

/-- A variable that asks for a wait of which six times as long is no duration. -/
def overlong : Settings.Lookup := fun name =>
  if name = "DOMAIN_OPERATOR_ERROR_REQUEUE_SECS" then some "3074457345618258603" else none

/-- Its settings pass their check, and a lack of authorization ends in a panic. -/
theorem overlong_wait_panics : (Settings.read overlong).validate = .ok () ∧
    errorPolicy (Settings.read overlong).errorRequeue (.fiber (.notAuthorized 403 "forbidden")) =
      .error waitOverflow :=
  ⟨rfl, rfl⟩

end DomainSteward.Requeues
