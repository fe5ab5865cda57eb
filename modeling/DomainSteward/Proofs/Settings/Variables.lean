import DomainSteward.Settings.Basic

/-! A slip in one variable. All that is taken from a table are ten numbers and the namespace, and
what does not read as a number is none, so the one setting falls back to its default and all others
stay. The check of the settings looks at two of them together, though, and the default of one need
not go with what the other variable says. -/
namespace DomainSteward.Variables
open Settings

/-- The variables that hold a number. -/
inductive NumericVariable where
  | healthPort
  | workerThreads
  | maxRetries
  | initialBackoff
  | maxBackoff
  | callTimeout
  | pollDelay
  | listPageSize
  | resyncInterval
  | errorRequeue
deriving DecidableEq, Repr

namespace NumericVariable

/-- The part of a variable's name that is its own. -/
def name : NumericVariable → String
  | .healthPort => "HEALTH_PORT"
  | .workerThreads => "WORKER_THREADS"
  | .maxRetries => "MAX_RETRIES"
  | .initialBackoff => "INITIAL_BACKOFF_MS"
  | .maxBackoff => "MAX_BACKOFF_MS"
  | .callTimeout => "CALL_TIMEOUT_SECS"
  | .pollDelay => "POLL_DELAY_MS"
  | .listPageSize => "LIST_PAGE_SIZE"
  | .resyncInterval => "RESYNC_SECS"
  | .errorRequeue => "ERROR_REQUEUE_SECS"

/-- The bits that the number of a variable may have. -/
def bits : NumericVariable → Nat
  | .healthPort => 16
  | .maxRetries | .listPageSize => 32
  | _ => 64

theorem name_inj {v w : NumericVariable} : v.name = w.name ↔ v = w := by
  refine ⟨?_, congrArg name⟩
  cases v <;> cases w <;> decide

theorem not_namespace (v : NumericVariable) : v.name ≠ "NAMESPACE" := by
  cases v <;> decide

end NumericVariable

/-! ## What is taken from a table -/

/-- The numbers that variables hold. -/
abbrev Numbers := NumericVariable → Option Nat

/-- The numbers of a table. -/
def numbersOf (lookup : Lookup) : Numbers := fun v => lookup.unsigned v.bits v.name

/-- The settings that numbers and a namespace give. -/
def settingsOf (numbers : Numbers) (namespaceName : Option String) : Settings :=
  let d : Settings := {}
  let millis (v : NumericVariable) := (numbers v).map Duration.ofMillis
  let seconds (v : NumericVariable) := (numbers v).map Duration.ofSeconds
  { healthPort := ((numbers .healthPort).map UInt16.ofNat).getD d.healthPort
    workerThreads := ((numbers .workerThreads).filter (0 < ·)).map UInt64.ofNat
    namespaceName
    retry :=
      { maxRetries := ((numbers .maxRetries).map UInt32.ofNat).getD d.retry.maxRetries
        initialBackoff := (millis .initialBackoff).getD d.retry.initialBackoff
        maxBackoff := (millis .maxBackoff).getD d.retry.maxBackoff }
    callTimeout := (seconds .callTimeout).getD d.callTimeout
    pollDelay := (millis .pollDelay).getD d.pollDelay
    listPageSize := ((numbers .listPageSize).map UInt32.ofNat).getD d.listPageSize
    resyncInterval := (seconds .resyncInterval).getD d.resyncInterval
    errorRequeue := (seconds .errorRequeue).getD d.errorRequeue }

/-- Nothing else of a table counts. -/
theorem read_eq (lookup : Lookup) :
    read lookup = settingsOf (numbersOf lookup) (read lookup).namespaceName := rfl

/-- The settings with the one of a variable at its default. -/
def NumericVariable.reset : NumericVariable → Settings → Settings
  | .healthPort, s => { s with healthPort := ({} : Settings).healthPort }
  | .workerThreads, s => { s with workerThreads := ({} : Settings).workerThreads }
  | .maxRetries, s =>
    { s with retry := { s.retry with maxRetries := ({} : RetryTuning).maxRetries } }
  | .initialBackoff, s =>
    { s with retry := { s.retry with initialBackoff := ({} : RetryTuning).initialBackoff } }
  | .maxBackoff, s =>
    { s with retry := { s.retry with maxBackoff := ({} : RetryTuning).maxBackoff } }
  | .callTimeout, s => { s with callTimeout := ({} : Settings).callTimeout }
  | .pollDelay, s => { s with pollDelay := ({} : Settings).pollDelay }
  | .listPageSize, s => { s with listPageSize := ({} : Settings).listPageSize }
  | .resyncInterval, s => { s with resyncInterval := ({} : Settings).resyncInterval }
  | .errorRequeue, s => { s with errorRequeue := ({} : Settings).errorRequeue }

theorem settings_without (v : NumericVariable) (numbers : Numbers) (namespaceName : Option String) :
    settingsOf (fun w => if w = v then none else numbers w) namespaceName =
      v.reset (settingsOf numbers namespaceName) := by
  cases v <;> rfl

/-! ## A slip -/

/-- The table with another value of one variable, or with none. -/
def replace (lookup : Lookup) (name : String) (value : Option String) : Lookup := fun key =>
  if key = variableStem ++ name then value else lookup key

/-- A text does not read as a number that the variable may have. -/
def Misreads (v : NumericVariable) (text : String) : Prop :=
  ∃ cause, Text.readInteger (.unsigned v.bits) (Text.trim text) = .error cause

/-- A variable that holds nothing, or nothing that reads, has no number. -/
def Unread (v : NumericVariable) (value : Option String) : Prop :=
  ∀ text, value = some text → Misreads v text

variable {lookup : Lookup} {name other text : String} {value : Option String}
  {v : NumericVariable} {s : Settings}

theorem value_replaced : (replace lookup name value).value other =
    if other = name then value else lookup.value other := by
  simp only [replace, Lookup.value, String.append_right_inj]

theorem numbers_replaced (unread : Unread v value) :
    numbersOf (replace lookup v.name value) =
      fun w => if w = v then none else numbersOf lookup w := by
  funext w
  rw [numbersOf, Lookup.unsigned, Lookup.number, value_replaced]
  by_cases same : w = v
  · subst same
    rw [if_pos rfl, if_pos rfl]
    cases value with
    | none => rfl
    | some text =>
      obtain ⟨cause, misread⟩ := unread text rfl
      rw [readVariable, misread]
      rfl
  · rw [if_neg (mt NumericVariable.name_inj.mp same), if_neg same]
    rfl

/-- A variable that has no number leaves its setting at the default, and touches no other. -/
theorem read_unread (lookup : Lookup) (unread : Unread v value) :
    read (replace lookup v.name value) = v.reset (read lookup) := by
  have kept : (read (replace lookup v.name value)).namespaceName =
      (read lookup).namespaceName := by
    show (Lookup.value _ _).filter _ = _
    rw [value_replaced, if_neg v.not_namespace.symm]
    rfl
  rw [read_eq, kept, numbers_replaced unread, settings_without, ← read_eq]

/-! ## What is checked -/

theorem valid_iff : s.validate = .ok () ↔ s.retry.initialBackoff ≤ s.retry.maxBackoff ∧
    s.callTimeout.isZero = false ∧ s.pollDelay.isZero = false := by
  have ordered : ¬ s.retry.maxBackoff < s.retry.initialBackoff ↔
      s.retry.initialBackoff ≤ s.retry.maxBackoff := Nat.not_lt
  unfold validate
  split
  · next inverted => simp [← ordered, inverted]
  · next inOrder =>
    rw [← ordered, iff_true_intro inOrder, true_and]
    cases s.callTimeout.isZero <;> cases s.pollDelay.isZero <;> simp

/-- The default of a variable's setting goes with the setting that it is checked against. -/
def GoesWith : NumericVariable → Settings → Prop
  | .initialBackoff, s => ({} : RetryTuning).initialBackoff ≤ s.retry.maxBackoff
  | .maxBackoff, s => s.retry.initialBackoff ≤ ({} : RetryTuning).maxBackoff
  | _, _ => True

theorem reset_valid_iff (valid : s.validate = .ok ()) :
    (v.reset s).validate = .ok () ↔ GoesWith v s := by
  obtain ⟨ordered, timeout, delay⟩ := valid_iff.mp valid
  rw [valid_iff]
  cases v <;> simp only [NumericVariable.reset, GoesWith, ordered, timeout, delay, and_self,
    and_true, iff_self]
  all_goals decide

/-- What does not read as a number leaves the settings that there are without it: one is at its
default and all others are as before. They pass their check exactly if that default goes with them,
which only those of the two waits between attempts may fail to do. -/
theorem slip_resets_one_setting (lookup : Lookup) (v : NumericVariable) (text : String)
    (valid : (read lookup).validate = .ok ()) (misread : Misreads v text) :
    read (replace lookup v.name (some text)) = read (replace lookup v.name none) ∧
    read (replace lookup v.name (some text)) = v.reset (read lookup) ∧
    ((read (replace lookup v.name (some text))).validate = .ok () ↔ GoesWith v (read lookup)) := by
  have slipped : read (replace lookup v.name (some text)) = v.reset (read lookup) :=
    read_unread lookup fun _ same => Option.some.inj same ▸ misread
  have unset : read (replace lookup v.name none) = v.reset (read lookup) := read_unread lookup nofun
  exact ⟨slipped.trans unset.symm, slipped, slipped ▸ reset_valid_iff valid⟩

/-- A table that asks for long waits between attempts. -/
def patient : Lookup := fun key =>
  if key = "DOMAIN_OPERATOR_INITIAL_BACKOFF_MS" then some "60000"
  else if key = "DOMAIN_OPERATOR_MAX_BACKOFF_MS" then some "120000"
  else none

theorem misread_delay_is_reset :
    (read patient).validate = .ok () ∧ Misreads .pollDelay "1s" ∧
    read (replace patient "POLL_DELAY_MS" (some "1s")) =
      read (replace patient "POLL_DELAY_MS" none) ∧
    read (replace patient "POLL_DELAY_MS" (some "1s")) =
      NumericVariable.pollDelay.reset (read patient) ∧
    ((read (replace patient "POLL_DELAY_MS" (some "1s"))).validate = .ok () ↔
      GoesWith .pollDelay (read patient)) :=
  ⟨rfl, ⟨.invalidDigit, rfl⟩,
    slip_resets_one_setting patient .pollDelay "1s" rfl ⟨.invalidDigit, rfl⟩⟩

/-- A slip in the longest wait keeps the operator from starting: the first one is now too long. -/
theorem slip_in_longest_wait_is_refused :
    (read patient).validate = .ok () ∧ Misreads .maxBackoff "12000O" ∧
    (read (replace patient "MAX_BACKOFF_MS" (some "12000O"))).validate =
      .error (.inconsistent "initial backoff 60s exceeds max backoff 30s") :=
  ⟨rfl, ⟨.invalidDigit, rfl⟩, rfl⟩

end DomainSteward.Variables
