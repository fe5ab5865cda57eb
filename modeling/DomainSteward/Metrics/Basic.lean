import DomainSteward.Json.Tree

/-!
What the operator counts about itself.

Counters only grow; the number of active fibers goes up and down. The durations of reconciles go
into a histogram with fixed bounds.
-/

namespace DomainSteward

/-- Counters by their labels. -/
structure Tally (α : Type) where
  counts : List (α × Nat) := []

namespace Tally

variable {α : Type} [DecidableEq α]

def count (t : Tally α) (label : α) : Nat :=
  ((t.counts.find? (fun e => e.1 = label)).map (·.2)).getD 0

/-- Counts one more under a label of a list of counts. -/
def bumpIn (label : α) : List (α × Nat) → List (α × Nat)
  | [] => [(label, 1)]
  | (l, n) :: rest => if l = label then (l, n + 1) :: rest else (l, n) :: bumpIn label rest

/-- Counts one more under a label. -/
def bump (t : Tally α) (label : α) : Tally α := ⟨bumpIn label t.counts⟩

/-- One label gains one count and the others keep theirs. -/
theorem count_bump (t : Tally α) (label other : α) :
    (t.bump label).count other = t.count other + if other = label then 1 else 0 := by
  obtain ⟨l⟩ := t
  induction l with
  | nil =>
    by_cases h : other = label
    · simp [bump, bumpIn, count, h]
    · simp [bump, bumpIn, count, h, Ne.symm h]
  | cons e rest ih =>
    obtain ⟨k, n⟩ := e
    by_cases hk : k = label
    · by_cases h : other = label
      · simp [bump, bumpIn, count, hk, h]
      · have : ¬ k = other := fun e => h (e ▸ hk)
        simp [bump, bumpIn, count, hk, h, hk ▸ this]
    · by_cases h : k = other
      · subst h
        simp [bump, bumpIn, count, hk]
      · simpa [bump, bumpIn, count, hk, h] using ih

end Tally

/-- The upper bounds of the histogram, in seconds. -/
def reconcileBounds : List Float := [0.1, 0.5, 1, 5, 15, 60, 300, 900]

/-- How many values a histogram has seen, by the first bound that holds them. -/
structure Histogram where
  /-- The values within each bound but not within the one before. -/
  buckets : List Nat := reconcileBounds.map (fun _ => 0)
  sum : Float := 0
  count : Nat := 0

namespace Histogram

/-- Adds one to the bucket of the first bound that is not below a value. -/
def place (x : Float) : List Float → List Nat → List Nat
  | bound :: bounds, n :: rest =>
    if x ≤ bound then (n + 1) :: rest else n :: place x bounds rest
  | _, rest => rest

/-- Takes in a value. -/
def observe (h : Histogram) (x : Float) : Histogram :=
  { buckets := place x reconcileBounds h.buckets, sum := h.sum + x, count := h.count + 1 }

end Histogram

/-- The counters of the operator. -/
structure Metrics where
  /-- Fibers that have ended, by whether they succeeded. -/
  fibersTotal : Tally Bool := {}
  /-- Fibers that have started and not ended. -/
  fibersActive : Int := 0
  /-- Calls that were answered or timed out, by outcome and verb. -/
  apiCalls : Tally (String × String) := {}
  /-- Calls made again or handed to a conflict step, by kind. -/
  apiRetries : Tally String := {}
  rollsCompleted : Nat := 0
  reconcileSeconds : Histogram := {}

namespace Metrics

def fiberStarted (m : Metrics) : Metrics := { m with fibersActive := m.fibersActive + 1 }

/-- A fiber has ended. -/
def fiberFinished (m : Metrics) (succeeded : Bool) : Metrics :=
  { m with
    fibersActive := m.fibersActive - 1
    fibersTotal := m.fibersTotal.bump succeeded }

/-- A call has come to an outcome. -/
def callMade (m : Metrics) (verb outcome : String) : Metrics :=
  { m with apiCalls := m.apiCalls.bump (outcome, verb) }

/-- A failed call is made again or handed to a conflict step. -/
def callRetried (m : Metrics) (kind : String) : Metrics :=
  { m with apiRetries := m.apiRetries.bump kind }

def rollCompleted (m : Metrics) : Metrics := { m with rollsCompleted := m.rollsCompleted + 1 }

/-- A reconcile has taken some seconds. -/
def reconcileTook (m : Metrics) (seconds : Float) : Metrics :=
  { m with reconcileSeconds := m.reconcileSeconds.observe seconds }

end Metrics

/-- The double nearest to the digits of a number, scaled by the double nearest to its power of
ten. -/
def Number.toFloat (n : Number) : Float :=
  let magnitude :=
    if 0 ≤ n.exponent then
      Float.ofNat n.digits.natAbs * Float.ofScientific 1 false n.exponent.natAbs
    else Float.ofNat n.digits.natAbs / Float.ofScientific 1 false n.exponent.natAbs
  if n.digits < 0 then -magnitude else magnitude

end DomainSteward
