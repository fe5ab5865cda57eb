import Mathlib.Algebra.Group.Nat.Defs
import Mathlib.Data.List.DropRight
import DomainSteward.Call.Retry

/-! A retry budget over a run of failures and resets. What it decides on a failure depends only on how
many of the same kind there have been since the latest reset: failures worth repeating and conflicts
have a count each, which no failure of another kind moves. -/
namespace DomainSteward.Budgets

/-- What a budget is used for: to decide on a failure, or to forget what was spent. -/
inductive Use where
  | failed (status : Option UInt16) (hasConflictStep : Bool)
  | reset
deriving DecidableEq

inductive Kind where
  /-- It may be over the next time. -/
  | passing
  /-- There is a step that knows what to do. -/
  | conflicting
  /-- Nothing helps. -/
  | final
deriving DecidableEq

/-- The failures that may be over the next time: those without a status, and those of a server that
is too busy or has a fault. -/
def passingStatuses : List (Option UInt16) := [none, some 429, some 500, some 502, some 503, some 504]

/-- The kind of a failure. -/
def kindOf (status : Option UInt16) (hasConflictStep : Bool) : Kind :=
  if status ∈ passingStatuses then .passing
  else if status = some 409 ∧ hasConflictStep = true then .conflicting
  else .final

/-- The kind of failure that is decided on. -/
def Use.kind? : Use → Option Kind
  | .failed status hasConflictStep => some (kindOf status hasConflictStep)
  | .reset => none

/-- What is answered, nothing to a reset, and the budget afterwards. -/
def Use.apply (b : RetryBudget) : Use → Option RetryDecision × RetryBudget
  | .failed status hasConflictStep => (b.decide status hasConflictStep).map some id
  | .reset => (none, b.reset)

/-- The budget after a run. -/
def after (b : RetryBudget) (run : List Use) : RetryBudget :=
  run.foldl (fun b use => (use.apply b).2) b

/-- A run with what is answered to each use. -/
def told (b : RetryBudget) : List Use → List (Use × Option RetryDecision)
  | [] => []
  | use :: rest => (use, (use.apply b).1) :: told (use.apply b).2 rest

/-- How many failures of a kind there have been since the latest reset. -/
def count (kind : Kind) (run : List Use) : Nat :=
  (run.rtakeWhile (· ≠ .reset)).countP (fun use => use.kind? = some kind)

/-- What a tuning promises for a failure, by its kind and its place among the failures of this kind
since the latest reset, counted from one. -/
def promised (t : RetryTuning) : Kind → Nat → RetryDecision
  | .passing, i => if i ≤ t.maxRetries.toNat then .retry (t.backoff (.ofNat i)) else .giveUp
  | .conflicting, j => if j ≤ t.maxRetries.toNat then .conflict else .giveUp
  | .final, _ => .giveUp

/-- What holds of a budget that is used for a run. -/
structure Honoured (t : RetryTuning) (run : List Use) : Prop where
  /-- Each failure is answered as promised. -/
  answers : ∀ before status hasConflictStep later,
    run = before ++ .failed status hasConflictStep :: later →
      (told (.fresh t) run)[before.length]? =
        some (.failed status hasConflictStep,
          some (promised t (kindOf status hasConflictStep)
            (count (kindOf status hasConflictStep) before + 1)))
  /-- A failure that ends the call spends nothing. -/
  spares : ∀ before status hasConflictStep later,
    run = before ++ .failed status hasConflictStep :: later →
      kindOf status hasConflictStep = .final →
        after (.fresh t) (before ++ [.failed status hasConflictStep]) = after (.fresh t) before
  /-- Without the failures of one kind all others are answered the same. -/
  apart : ∀ kind, (told (.fresh t) run).filter (fun e => e.1.kind? ≠ some kind) =
    told (.fresh t) (run.filter (fun use => use.kind? ≠ some kind))

variable {t : RetryTuning} {b b' : RetryBudget} {kind : Kind} {run before later : List Use}
  {use : Use} {status : Option UInt16} {hasConflictStep : Bool}

/-! ## One use -/

theorem retryable_iff : isRetryable status = true ↔ status ∈ passingStatuses := by
  cases status with
  | none => decide
  | some code =>
    simp only [isRetryable, passingStatuses, Bool.or_eq_true, decide_eq_true_eq, or_assoc, List.mem_cons,
      reduceCtorEq, Option.some.injEq, List.not_mem_nil, or_false, false_or]
    exact Iff.rfl

theorem retryable_no_conflict (retryable : isRetryable status = true) :
    status ≠ some codeConflict := by
  rintro rfl
  revert retryable
  decide

/-- What a budget decides on a failure of a kind, and what it has left. -/
def spend (b : RetryBudget) : Kind → RetryDecision × RetryBudget
  | .passing =>
    (if b.retries + 1 ≤ b.tuning.maxRetries then .retry (b.tuning.backoff (b.retries + 1))
      else .giveUp, { b with retries := b.retries + 1 })
  | .conflicting =>
    (if b.conflicts + 1 ≤ b.tuning.maxRetries then .conflict else .giveUp,
      { b with conflicts := b.conflicts + 1 })
  | .final => (.giveUp, b)

/-- A budget goes by the kind of a failure alone. -/
theorem decide_spends (b : RetryBudget) (status : Option UInt16) (hasConflictStep : Bool) :
    b.decide status hasConflictStep = spend b (kindOf status hasConflictStep) := by
  unfold RetryBudget.decide kindOf
  simp only [retryable_iff]
  by_cases worth : status ∈ passingStatuses
  · have other : ¬ (status = some codeConflict ∧ hasConflictStep = true) := by
      exact fun conflict => retryable_no_conflict (retryable_iff.mpr worth) conflict.1
    simp only [if_neg other, if_pos worth, spend]
  · simp only [if_neg worth, codeConflict]
    split <;> rfl

theorem conflict_needs_step (decided : (b.decide status hasConflictStep).1 = .conflict) :
    hasConflictStep = true := by
  unfold RetryBudget.decide at decided
  split at decided
  · rename_i conflict
    exact conflict.2
  · split at decided
    · dsimp only at decided
      split at decided <;> cases decided
    · cases decided

/-! ## A run of uses -/

private theorem after_concat : after b (run ++ [use]) = (use.apply (after b run)).2 := by
  rw [after, List.foldl_append]
  rfl

private theorem told_append : told b (before ++ later) = told b before ++ told (after b before) later := by
  induction before generalizing b with
  | nil => rfl
  | cons use rest ih => exact congrArg _ ih

private theorem told_length : (told b run).length = run.length := by
  induction run generalizing b with
  | nil => rfl
  | cons use rest ih => exact congrArg _ ih

private theorem count_concat (kind : Kind) (run : List Use) (use : Use) :
    count kind (run ++ [use]) =
      if use = .reset then 0 else count kind run + if use.kind? = some kind then 1 else 0 := by
  unfold count
  rw [List.rtakeWhile_concat]
  by_cases forgotten : use = .reset <;> simp [forgotten, List.countP_append, List.countP_cons]

private theorem count_le (kind : Kind) (run : List Use) : count kind run ≤ run.length :=
  List.countP_le_length.trans (List.rtakeWhile_suffix _ run).length_le

/-- A budget holds the two counts since the latest reset, as far as 32 bits can. -/
theorem after_counts (t : RetryTuning) (run : List Use) :
    after (.fresh t) run =
      { tuning := t
        retries := .ofNat (count .passing run)
        conflicts := .ofNat (count .conflicting run) } := by
  -- From the end of the run, since a reset forgets all that came before it.
  induction run using List.reverseRecOn with
  | nil => rfl
  | append_singleton run use ih =>
    rw [after_concat, ih]
    cases use with
    | reset => simp [count_concat, Use.apply, RetryBudget.reset, RetryBudget.fresh]
    | failed status hasConflictStep =>
      obtain ⟨kind, known⟩ : ∃ kind, kindOf status hasConflictStep = kind := ⟨_, rfl⟩
      cases kind <;>
        simp [Use.apply, decide_spends, count_concat, Use.kind?, known, spend, UInt32.ofNat_add]

/-- The counts are exact as long as 32 bits can hold them, and so are the answers. -/
private theorem spend_promised (within : count kind before + 1 < UInt32.size) :
    (spend (after (.fresh t) before) kind).1 = promised t kind (count kind before + 1) := by
  have next (n : Nat) : UInt32.ofNat n + 1 = UInt32.ofNat (n + 1) := (UInt32.ofNat_add n 1).symm
  rw [after_counts]
  cases kind with
  | passing => simp only [spend, promised, next, UInt32.ofNat_le_iff within]
  | conflicting => simp only [spend, promised, next, UInt32.ofNat_le_iff within]
  | final => rfl

/-! ## Runs without the failures of one kind -/

/-- Two budgets differ at most in what they have spent on failures of a kind. -/
structure Alike (kind : Kind) (b b' : RetryBudget) : Prop where
  tuning : b.tuning = b'.tuning
  retries : kind ≠ .passing → b.retries = b'.retries
  conflicts : kind ≠ .conflicting → b.conflicts = b'.conflicts

private theorem spend_other {other : Kind} (differs : other ≠ kind) (alike : Alike kind b b') :
    (spend b other).1 = (spend b' other).1 ∧ Alike kind (spend b other).2 (spend b' other).2 := by
  obtain ⟨tuning, retries, conflicts⟩ := alike
  cases other with
  | passing =>
    have same := retries differs.symm
    refine ⟨?_, tuning, fun _ => congrArg (· + 1) same, conflicts⟩
    simp only [spend, tuning, same]
  | conflicting =>
    have same := conflicts differs.symm
    refine ⟨?_, tuning, retries, fun _ => congrArg (· + 1) same⟩
    simp only [spend, tuning, same]
  | final => exact ⟨rfl, tuning, retries, conflicts⟩

private theorem spend_same (alike : Alike kind b b') : Alike kind (spend b kind).2 b' := by
  obtain ⟨tuning, retries, conflicts⟩ := alike
  cases kind with
  | passing => exact ⟨tuning, fun other => absurd rfl other, conflicts⟩
  | conflicting => exact ⟨tuning, retries, fun other => absurd rfl other⟩
  | final => exact ⟨tuning, retries, conflicts⟩

private theorem apply_other (other : use.kind? ≠ some kind) (alike : Alike kind b b') :
    (use.apply b).1 = (use.apply b').1 ∧ Alike kind (use.apply b).2 (use.apply b').2 := by
  cases use with
  | reset => exact ⟨rfl, alike.tuning, fun _ => rfl, fun _ => rfl⟩
  | failed status hasConflictStep =>
    have differs : kindOf status hasConflictStep ≠ kind := fun same => other (congrArg some same)
    obtain ⟨answer, left⟩ := spend_other differs alike
    simp only [Use.apply, decide_spends]
    exact ⟨congrArg some answer, left⟩

private theorem apply_same (same : use.kind? = some kind) (alike : Alike kind b b') :
    Alike kind (use.apply b).2 b' := by
  cases use with
  | reset => cases same
  | failed status hasConflictStep =>
    cases same
    simp only [Use.apply, decide_spends]
    exact spend_same alike

private theorem told_apart (alike : Alike kind b b') :
    (told b run).filter (fun e => e.1.kind? ≠ some kind) =
      told b' (run.filter (fun use => use.kind? ≠ some kind)) := by
  -- The budgets are two from the start, as they part with the first failure that is left out.
  induction run generalizing b b' with
  | nil => rfl
  | cons use rest ih =>
    by_cases dropped : use.kind? = some kind
    · rw [told, List.filter_cons_of_neg (by simpa using dropped),
        List.filter_cons_of_neg (by simpa using dropped)]
      exact ih (apply_same dropped alike)
    · obtain ⟨answer, left⟩ := apply_other dropped alike
      rw [told, List.filter_cons_of_pos (by simpa using dropped),
        List.filter_cons_of_pos (by simpa using dropped), told, answer, ih left]

/-! ## What holds of every run -/

/-- A budget that is used less often than 32 bits can count keeps its promises. -/
theorem budgets_hold_over_any_run (t : RetryTuning) (run : List Use) (short : run.length < 2 ^ 32) :
    Honoured t run where
  answers before status hasConflictStep later split := by
    subst split
    have within : count (kindOf status hasConflictStep) before + 1 < UInt32.size := by
      have counted := count_le (kindOf status hasConflictStep) before
      rw [List.length_append, List.length_cons] at short
      unfold UInt32.size
      omega
    have here : before.length = (told (.fresh t) before).length := told_length.symm
    rw [told_append, here, List.getElem?_append_right (Nat.le_refl _), Nat.sub_self]
    simp only [told, List.getElem?_cons_zero, Use.apply, decide_spends, Prod.map_fst,
      spend_promised within]
  spares before status hasConflictStep later _ final := by
    rw [after_concat]
    simp only [Use.apply, decide_spends, final]
    rfl
  apart _ := told_apart ⟨rfl, fun _ => rfl, fun _ => rfl⟩

/-- One retry and one conflict are allowed, and each is refused the second time, until the budget is
reset. -/
theorem mixed_run_holds :
    let t : RetryTuning := { maxRetries := 1 }
    let run : List Use :=
      [.failed none true, .failed (some 409) true, .failed (some 404) false, .failed (some 429) false,
        .failed (some 409) true, .failed (some 409) false, .reset, .failed (some 503) true]
    run.length < 2 ^ 32 ∧ Honoured t run ∧
      (told (.fresh t) run).map (·.2) =
        [some (.retry (.ofSeconds 1)), some .conflict, some .giveUp, some .giveUp, some .giveUp,
          some .giveUp, none, some (.retry (.ofSeconds 1))] :=
  ⟨by decide, budgets_hold_over_any_run _ _ (by decide), by decide +kernel⟩

end DomainSteward.Budgets
