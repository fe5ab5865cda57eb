import Mathlib.Algebra.Group.Nat.Defs
import DomainSteward.Call.Retry

/-! The waits between attempts. They double with each attempt until the longest wait cuts them off,
and neither the saturation of the product nor its width shows. Only a tuning whose longest wait is
more than 2²⁰ times the first one is not followed to its end: from the twenty-first attempt on its
waits grow no more. -/
namespace DomainSteward.Backoffs

/-- The wait before an attempt that a tuning asks for, in nanoseconds: the first wait, doubled
without bound for every attempt before this one, and at most the longest wait. -/
def asked (t : RetryTuning) (attempt : Nat) : Nat :=
  min (t.initialBackoff.nanos * 2 ^ (attempt - 1)) t.maxBackoff.nanos

private theorem nanos_min (a b : Duration) : (min a b).nanos = min a.nanos b.nanos := by
  show (if a.nanos ≤ b.nanos then a else b).nanos = _
  split <;> omega

/-- The product stops at the longest duration, but no wait is longer than that. -/
private theorem nanos_min_times (d limit : Duration) (n : Nat) :
    (min (d.saturatingTimes n) limit).nanos = min (d.nanos * n) limit.nanos := by
  have bounded := limit.bounded
  rw [nanos_min]
  show min (min (d.nanos * n) longestNanos) limit.nanos = _
  omega

/-- From the twenty-first attempt on every wait is as long as the one before that attempt. -/
theorem backoff_asked (t : RetryTuning) (attempt : UInt32) :
    (t.backoff attempt).nanos = asked t (min attempt.toNat 21) := by
  have exponent : min (attempt.toNat - 1) backoffExponentCap = min attempt.toNat 21 - 1 := by
    rw [backoffExponentCap]
    omega
  rw [RetryTuning.backoff, exponent, nanos_min_times, Nat.one_shiftLeft, asked]

/-- What has been doubled more than twenty times is at least twice what has been doubled twenty
times. -/
private theorem doubled_on (n exponent : Nat) (more : 20 < exponent) :
    2 * (n * 2 ^ 20) ≤ n * 2 ^ exponent :=
  calc
    2 * (n * 2 ^ 20) = n * 2 ^ 21 := by omega
    _ ≤ n * 2 ^ exponent := Nat.mul_le_mul_left n (Nat.pow_le_pow_right (by decide) more)

/-- The wait is the one asked for, exactly if this is one of the first twenty-one attempts, or there
is nothing to double, or the longest wait is reached by then. Any later wait is that of the
twenty-first attempt. -/
theorem backoff_doubles_until_capped (t : RetryTuning) (attempt : UInt32) :
    (t.backoff attempt).nanos = asked t (min attempt.toNat 21) ∧
      ((t.backoff attempt).nanos = asked t attempt.toNat ↔
        attempt.toNat ≤ 21 ∨ t.initialBackoff.nanos = 0 ∨
          t.maxBackoff.nanos ≤ t.initialBackoff.nanos * 2 ^ 20) := by
  refine ⟨backoff_asked t attempt, ?_⟩
  rw [backoff_asked, asked, asked]
  by_cases early : attempt.toNat ≤ 21
  · rw [Nat.min_eq_left early]
    exact iff_of_true rfl (.inl early)
  by_cases nothing : t.initialBackoff.nanos = 0
  · rw [nothing, Nat.zero_mul, Nat.zero_mul]
    exact iff_of_true rfl (.inr (.inl rfl))
  · have last : min attempt.toNat 21 - 1 = 20 := by omega
    have doubled := doubled_on t.initialBackoff.nanos (attempt.toNat - 1) (by omega)
    rw [last]
    omega

/-! ## A longest wait that is out of reach -/

/-- A tuning whose longest wait is two million times the first. -/
def patient : RetryTuning := { initialBackoff := .ofMillis 1, maxBackoff := .ofMillis 2000000 }

/-- Its twenty-second attempt should wait for two thousand seconds and waits for little more than
half of that, as the attempt before it. -/
theorem wait_stops_doubling :
    asked patient 22 = 2000000000000 ∧ (patient.backoff 22).nanos = 1048576000000 ∧
      (patient.backoff 21).nanos = 1048576000000 := by
  decide

end DomainSteward.Backoffs
