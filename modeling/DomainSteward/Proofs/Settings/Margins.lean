import DomainSteward.Proofs.Settings.Variables
import Mathlib.Data.List.DropRight

/-! Blanks at the ends of the values of variables. Numbers are read as if there were none. The
namespace is looked at without them, to tell whether it is there at all, but is taken with them. -/
namespace DomainSteward.Margins
open Settings Text Variables

/-! ## Texts without blanks at their ends -/

variable {cs : List Char}

theorem trimChars_eq (cs : List Char) :
    trimChars cs = (cs.dropWhile isBlank).rdropWhile isBlank := rfl

/-- What is cut off at the end leaves a beginning without blanks as it is. -/
theorem front_trimmed (cs : List Char) : (trimChars cs).dropWhile isBlank = trimChars cs := by
  rw [List.dropWhile_eq_self_iff]
  intro nonempty
  have kept : trimChars cs <+: cs.dropWhile isBlank := List.rdropWhile_prefix isBlank _
  rw [kept.getElem nonempty]
  exact List.dropWhile_get_zero_not isBlank cs (nonempty.trans_le kept.length_le)

@[simp] theorem trimChars_trimChars (cs : List Char) : trimChars (trimChars cs) = trimChars cs := by
  rw [trimChars_eq (trimChars cs), front_trimmed, trimChars_eq, List.rdropWhile_idempotent]

theorem trimChars_nil_iff : trimChars cs = [] ↔ ∀ c ∈ cs, isBlank c = true := by
  rw [trimChars_eq, List.rdropWhile_eq_nil_iff]
  refine ⟨fun all => ?_, fun all c among => all c ((List.dropWhile_sublist _).mem among)⟩
  -- What begins without a blank has none at all only if it is empty.
  rw [← List.dropWhile_eq_nil_iff, ← List.dropWhile_idempotent, List.dropWhile_eq_nil_iff]
  exact all

@[simp] theorem trim_trim (s : String) : trim (trim s) = trim s := by
  simp [trim]

@[simp] theorem all_blank_trim (s : String) : isAllBlank (trim s) = isAllBlank s := by
  rw [Bool.eq_iff_iff]
  simp only [isAllBlank, trim, String.toList_ofList, List.all_eq_true, ← trimChars_nil_iff,
    trimChars_trimChars]

/-! ## Tables whose values have no blanks at their ends -/

/-- The table with the blanks at the ends of its values cut off. -/
def trimmed (lookup : Lookup) : Lookup := fun key => (lookup key).map trim

theorem value_trimmed (lookup : Lookup) (name : String) :
    (trimmed lookup).value name = (lookup.value name).map trim := rfl

/-- A number is the same without the blanks, and a fault differs only in the value it names. -/
theorem number_trimmed (lookup : Lookup) (range : IntegerRange) (name : String) :
    (trimmed lookup).number range name = lookup.number range name := by
  rw [Lookup.number, value_trimmed, Lookup.number]
  cases lookup.value name with
  | none => rfl
  | some text =>
    simp only [Option.map_some, readVariable, trim_trim]
    cases readInteger range (trim text) <;> rfl

theorem numbers_trimmed (lookup : Lookup) : numbersOf (trimmed lookup) = numbersOf lookup := by
  funext v
  rw [numbersOf, Lookup.unsigned, number_trimmed, numbersOf, Lookup.unsigned]

theorem namespace_trimmed (lookup : Lookup) :
    (read (trimmed lookup)).namespaceName = (read lookup).namespaceName.map trim := by
  show ((lookup.value "NAMESPACE").map trim).filter _ =
    ((lookup.value "NAMESPACE").filter _).map trim
  cases lookup.value "NAMESPACE" with
  | none => rfl
  | some ns => by_cases blank : isAllBlank ns = true <;> simp [Option.filter, blank]

/-- Without the blanks at the ends of all values, a table gives the same settings but for the
namespace, which loses those that it had. So the settings are the same exactly if the namespace has
no blanks at its ends, or there is none. -/
theorem only_namespace_keeps_its_margins (lookup : Lookup) :
    read (trimmed lookup) =
      { read lookup with namespaceName := (read lookup).namespaceName.map trim } ∧
    (read (trimmed lookup) = read lookup ↔ ∀ ns ∈ (read lookup).namespaceName, trim ns = ns) := by
  have same : read (trimmed lookup) =
      { read lookup with namespaceName := (read lookup).namespaceName.map trim } := by
    rw [read_eq, numbers_trimmed, namespace_trimmed]
    rfl
  refine ⟨same, ?_⟩
  rw [same]
  refine ⟨fun unchanged ns given => ?_, fun bare => ?_⟩
  · have kept := congrArg Settings.namespaceName unchanged
    simpa [Option.mem_def.mp given] using kept
  · have kept : (read lookup).namespaceName.map trim = (read lookup).namespaceName := by
      cases given : (read lookup).namespaceName with
      | none => rfl
      | some ns => simp [bare ns given]
    rw [kept]

/-- A table with a namespace between blanks. -/
def indented : Lookup := fun key =>
  if key = "DOMAIN_OPERATOR_NAMESPACE" then some " domains " else none

/-- The namespace between blanks is another one than that without them. -/
theorem indented_namespace_is_kept :
    (read indented).namespaceName = some " domains " ∧
    (read (trimmed indented)).namespaceName = some "domains" ∧
    read (trimmed indented) ≠ read indented := by
  have asIs : (read indented).namespaceName = some " domains " := rfl
  have bare : (read (trimmed indented)).namespaceName = some "domains" := by
    rw [namespace_trimmed, asIs]
    rfl
  refine ⟨asIs, bare, fun same => ?_⟩
  rw [same, asIs] at bare
  exact absurd bare (by decide)

end DomainSteward.Margins
