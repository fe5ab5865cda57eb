import DomainSteward.Time.Duration

/-!
When a failed call is made again.

A `RetryBudget` counts what one exchange has spent: calls made again after a failure worth
repeating, and conflicts handed to a conflict step. Both counts have the limit of the tuning, and
neither touches the other. The wait doubles with each attempt until it reaches its cap.
-/

namespace DomainSteward

/-- Conflict: the object has changed since it was read. -/
def codeConflict : UInt16 := 409

/-- Not found: the object is gone. -/
def codeNotFound : UInt16 := 404

/-- Too many requests: the server asks for a pause. -/
def codeTooManyRequests : UInt16 := 429

/-- How often and how patiently calls are made again. -/
structure RetryTuning where
  /-- The most attempts after the first, and the most conflicts. -/
  maxRetries : UInt32 := 5
  /-- The wait before the first new attempt. -/
  initialBackoff : Duration := .ofSeconds 1
  /-- The longest wait. -/
  maxBackoff : Duration := .ofSeconds 30
deriving DecidableEq, Repr, Inhabited

/-- The exponent past which the wait no longer grows on its own account. -/
def backoffExponentCap : Nat := 20

/-- The wait before an attempt, counted from one: the initial wait doubled for every attempt
before it, at most the longest wait. -/
def RetryTuning.backoff (t : RetryTuning) (attempt : UInt32) : Duration :=
  min (t.initialBackoff.saturatingTimes (1 <<< min (attempt.toNat - 1) backoffExponentCap))
    t.maxBackoff

/-- What becomes of a failed call. -/
inductive RetryDecision where
  /-- The call is made again after a wait. -/
  | retry (wait : Duration)
  /-- The conflict step takes over. -/
  | conflict
  | giveUp
deriving DecidableEq, Repr

/-- Whether a failure is worth repeating: no answer, throttling, or a passing fault of the
server. -/
def isRetryable : Option UInt16 → Bool
  | none => true
  | some code =>
    code = codeTooManyRequests || code = 500 || code = 502 || code = 503 || code = 504

/-- What an exchange has spent so far. -/
structure RetryBudget where
  tuning : RetryTuning
  retries : UInt32 := 0
  conflicts : UInt32 := 0
deriving DecidableEq, Repr, Inhabited

namespace RetryBudget

/-- The budget of a new exchange. -/
def fresh (tuning : RetryTuning) : RetryBudget := { tuning }

/-- Decides on a failure with a status, `none` if no answer came, and counts it. -/
def decide (b : RetryBudget) (status : Option UInt16) (hasConflictStep : Bool) :
    RetryDecision × RetryBudget :=
  if status = some codeConflict ∧ hasConflictStep = true then
    let conflicts := b.conflicts + 1
    (if conflicts ≤ b.tuning.maxRetries then .conflict else .giveUp, { b with conflicts })
  else if isRetryable status then
    let retries := b.retries + 1
    (if retries ≤ b.tuning.maxRetries then .retry (b.tuning.backoff retries) else .giveUp,
      { b with retries })
  else (.giveUp, b)

/-- Forgets what was spent, as when a list moves on to its next page. -/
def reset (b : RetryBudget) : RetryBudget := fresh b.tuning

end RetryBudget

end DomainSteward
