import DomainSteward.Call.Retry
import DomainSteward.Text.Blank
import DomainSteward.Text.Integer
import DomainSteward.Text.Quoted

/-!
Settings of the operator.

`Settings.read` takes them from a table of variables. Every setting has a default, and a numeric
variable that does not read as a number of its range counts as unset, so a slip in one variable
does not keep the operator from starting. `Settings.validate` refuses combinations that make no
sense together.
-/

namespace DomainSteward

/-- What the name of every variable starts with. -/
def variableStem : String := "DOMAIN_OPERATOR_"

/-- What can be wrong with the settings. -/
inductive SettingsError where
  /-- A variable whose value does not read as a number of its range. -/
  | invalidValue (key value : String) (cause : Text.IntegerError)
  /-- Settings that do not go together. -/
  | inconsistent (what : String)
deriving DecidableEq, Repr

/-- The wording of a fault. -/
def SettingsError.message : SettingsError → String
  | .invalidValue key value cause =>
    "Invalid value " ++ Text.quote value ++ " for " ++ key ++ ": " ++ cause.message
  | .inconsistent what => "Inconsistent configuration: " ++ what

/-- What the operator can be told from outside. -/
structure Settings where
  /-- Port of the health and metrics server. -/
  healthPort : UInt16 := 8080
  /-- Worker threads; left to the machine if absent. -/
  workerThreads : Option UInt64 := none
  /-- The namespace to watch; all if absent. -/
  namespaceName : Option String := none
  retry : RetryTuning := {}
  /-- How long a call may take. -/
  callTimeout : Duration := .ofSeconds 30
  /-- The wait between two looks at what has not become ready yet. -/
  pollDelay : Duration := .ofSeconds 1
  /-- The most objects in one page of a list. -/
  listPageSize : UInt32 := 500
  /-- The wait after a reconcile that succeeded. -/
  resyncInterval : Duration := .ofSeconds 300
  /-- The wait after a reconcile that failed. -/
  errorRequeue : Duration := .ofSeconds 10
deriving DecidableEq, Repr, Inhabited

/-- Reads one variable as an integer of a range; nothing is read from one that is unset. -/
def readVariable (range : Text.IntegerRange) (name : String) :
    Option String → Except SettingsError (Option Int)
  | none => .ok none
  | some value =>
    match Text.readInteger range (Text.trim value) with
    | .ok n => .ok (some n)
    | .error cause => .error (.invalidValue (variableStem ++ name) value cause)

namespace Settings

/-- Tells the values of variables by their full names. -/
abbrev Lookup := String → Option String

/-- The value of a variable, by the part of its name that is its own. -/
def Lookup.value (lookup : Lookup) (name : String) : Option String := lookup (variableStem ++ name)

/-- A numeric variable; one that does not read counts as unset. -/
def Lookup.number (lookup : Lookup) (range : Text.IntegerRange) (name : String) : Option Int :=
  (readVariable range name (lookup.value name)).toOption.join

/-- A variable that holds an unsigned number of so many bits. -/
def Lookup.unsigned (lookup : Lookup) (bits : Nat) (name : String) : Option Nat :=
  (lookup.number (.unsigned bits) name).map Int.toNat

/-- A variable that holds milliseconds, or a default. -/
def Lookup.millis (lookup : Lookup) (name : String) (default : Duration) : Duration :=
  ((lookup.unsigned 64 name).map Duration.ofMillis).getD default

/-- A variable that holds seconds, or a default. -/
def Lookup.seconds (lookup : Lookup) (name : String) (default : Duration) : Duration :=
  ((lookup.unsigned 64 name).map Duration.ofSeconds).getD default

/-- The settings that a table of variables gives. -/
def read (lookup : Lookup) : Settings :=
  let d : Settings := {}
  { healthPort := ((lookup.unsigned 16 "HEALTH_PORT").map UInt16.ofNat).getD d.healthPort
    workerThreads :=
      ((lookup.unsigned 64 "WORKER_THREADS").filter (0 < ·)).map UInt64.ofNat
    namespaceName := (lookup.value "NAMESPACE").filter (fun ns => !Text.isAllBlank ns)
    retry :=
      { maxRetries := ((lookup.unsigned 32 "MAX_RETRIES").map UInt32.ofNat).getD d.retry.maxRetries
        initialBackoff := lookup.millis "INITIAL_BACKOFF_MS" d.retry.initialBackoff
        maxBackoff := lookup.millis "MAX_BACKOFF_MS" d.retry.maxBackoff }
    callTimeout := lookup.seconds "CALL_TIMEOUT_SECS" d.callTimeout
    pollDelay := lookup.millis "POLL_DELAY_MS" d.pollDelay
    listPageSize := ((lookup.unsigned 32 "LIST_PAGE_SIZE").map UInt32.ofNat).getD d.listPageSize
    resyncInterval := lookup.seconds "RESYNC_SECS" d.resyncInterval
    errorRequeue := lookup.seconds "ERROR_REQUEUE_SECS" d.errorRequeue }

/-- The variables that `read` looks at, by their full names. -/
def variableNames : List String :=
  ["CALL_TIMEOUT_SECS", "ERROR_REQUEUE_SECS", "HEALTH_PORT", "INITIAL_BACKOFF_MS",
    "LIST_PAGE_SIZE", "MAX_BACKOFF_MS", "MAX_RETRIES", "NAMESPACE", "POLL_DELAY_MS",
    "RESYNC_SECS", "WORKER_THREADS"].map (variableStem ++ ·)

/-- Refuses a first wait longer than the longest, and times that have to pass but are empty. -/
def validate (s : Settings) : Except SettingsError Unit :=
  if s.retry.maxBackoff < s.retry.initialBackoff then
    .error (.inconsistent ("initial backoff " ++ s.retry.initialBackoff.text ++
      " exceeds max backoff " ++ s.retry.maxBackoff.text))
  else if s.callTimeout.isZero then .error (.inconsistent "call timeout must be positive")
  else if s.pollDelay.isZero then .error (.inconsistent "poll delay must be positive")
  else .ok ()

end Settings

end DomainSteward
