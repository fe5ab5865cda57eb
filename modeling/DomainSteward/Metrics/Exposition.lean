import DomainSteward.Decimal.Shortest
import DomainSteward.Metrics.Basic

/-!
Metrics as text.

The text lists the families in the order of their names, each with its help and its type. Within a
family the samples go by the values of their labels; a family of labelled counters shows only when
one of them has counted. Values are written with the fewest digits that read back.
-/

namespace DomainSteward

/-- A named group of samples. -/
structure MetricFamily where
  name : String
  help : String
  type : String
  /-- Each sample's part of the name, its labels and its value. -/
  samples : List (String × List (String × String) × String)

namespace MetricFamily

/-- A character within the value of a label. -/
def escapeLabel (c : Char) : List Char :=
  if c = '\\' then ['\\', '\\']
  else if c = '"' then ['\\', '"']
  else if c = '\n' then ['\\', 'n']
  else [c]

/-- A label with its value. -/
def labelText (label : String × String) : String :=
  label.1 ++ "=\"" ++ String.ofList (label.2.toList.flatMap escapeLabel) ++ "\""

/-- The labels of a sample between braces. -/
def labelsText (labels : List (String × String)) : String :=
  if labels.isEmpty then ""
  else "\x7b" ++ String.intercalate "," (labels.map labelText) ++ "\x7d"

/-- The lines of the family, each ended. -/
def text (f : MetricFamily) : String :=
  "# HELP " ++ f.name ++ " " ++ f.help ++ "\n# TYPE " ++ f.name ++ " " ++ f.type ++ "\n" ++
    String.join (f.samples.map (fun (suffix, labels, value) =>
      f.name ++ suffix ++ labelsText labels ++ " " ++ value ++ "\n"))

end MetricFamily

namespace Metrics

/-- A double in positional notation, with the fewest digits that read back. -/
def floatText (x : Float) : String :=
  if x.isNaN then "NaN"
  else if x.isInf then (if x < 0 then "-inf" else "inf")
  else
    let sign := if x.toBits.toNat >>> 63 = 1 then "-" else ""
    sign ++ String.ofList (Decimal.ofFloat x).positional

/-- The names of all families start the same. -/
def familyName (name : String) : String := "domain_operator_" ++ name

/-- Whether one list of label values comes before another of the same length. -/
def valuesLe : List (String × String) → List (String × String) → Bool
  | (_, a) :: as, (_, b) :: bs => if a = b then valuesLe as bs else decide (a < b)
  | _, _ => true

/-- The samples of labelled counters, in the order of the label values. -/
def tallySamples {α : Type} (labels : α → List (String × String)) (t : Tally α) :
    List (String × List (String × String) × String) :=
  let samples := t.counts.map (fun (l, n) => (labels l, toString n))
  (samples.mergeSort (fun a b => valuesLe a.1 b.1)).map (fun (l, n) => ("", l, n))

/-- The number of values within each bound, from the numbers between bounds. -/
def cumulative : Nat → List Nat → List Nat
  | _, [] => []
  | before, n :: rest => (before + n) :: cumulative (before + n) rest

def histogramSamples (h : Histogram) : List (String × List (String × String) × String) :=
  ((reconcileBounds.map floatText).zip (cumulative 0 h.buckets)).map
      (fun (bound, n) => ("_bucket", [("le", bound)], toString n)) ++
    [("_bucket", [("le", "+Inf")], toString h.count), ("_sum", [], floatText h.sum),
      ("_count", [], toString h.count)]

/-- The families of the operator, in the order of their names. -/
def families (m : Metrics) : List MetricFamily :=
  [{ name := familyName "api_calls_total"
     help := "Kubernetes API calls issued by request steps"
     type := "counter"
     samples := tallySamples (fun (outcome, verb) => [("outcome", outcome), ("verb", verb)])
       m.apiCalls },
   { name := familyName "api_retries_total"
     help := "Failed Kubernetes API calls that were retried or rerouted"
     type := "counter"
     samples := tallySamples (fun kind => [("kind", kind)]) m.apiRetries },
   { name := familyName "fibers_active"
     help := "Fibers currently running or suspended"
     type := "gauge"
     samples := [("", [], toString m.fibersActive)] },
   { name := familyName "fibers_total"
     help := "Fibers that reached a terminal state"
     type := "counter"
     samples := tallySamples
       (fun succeeded => [("outcome", if succeeded then "success" else "failure")])
       m.fibersTotal },
   { name := familyName "reconcile_duration_seconds"
     help := "Duration of Domain reconciliations"
     type := "histogram"
     samples := histogramSamples m.reconcileSeconds },
   { name := familyName "rolls_completed_total"
     help := "Rolling restarts that completed"
     type := "counter"
     samples := [("", [], toString m.rollsCompleted)] }].filter (fun f => !f.samples.isEmpty)

def text (m : Metrics) : String := String.join (m.families.map MetricFamily.text)

end Metrics

end DomainSteward
