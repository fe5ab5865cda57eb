import Mathlib.Data.List.Nodup
import DomainSteward.Json.MergePatch
import DomainSteward.Proofs.Json.Fields

/-! What a merge patch leaves under each name: what the patch names is set or removed, all else stays.
A patch that names a field twice would merge into what it has just set, so the names are distinct. -/
namespace DomainSteward.Merges
open Json Fields

variable {name : String} {patch target : List (String × Json)}

/-- What stands under a name once a patch is merged. -/
theorem fieldOf_merged (distinct : (patch.map (·.1)).Nodup) (target : List (String × Json)) :
    fieldOf name (mergeFields target patch) =
      match fieldOf name patch with
      | none => fieldOf name target
      | some value =>
        if value.isNull then none
        else some (mergePatch ((fieldOf name target).getD .null) value) := by
  induction patch generalizing target with
  | nil => simp [mergeFields, fieldOf]
  | cons head rest ih =>
    obtain ⟨key, value⟩ := head
    obtain ⟨fresh, distinct⟩ := List.nodup_cons.mp distinct
    have later : fieldOf key rest = none := fieldOf_none_iff.mpr fresh
    rw [mergeFields]
    by_cases null : value.isNull = true
    · rw [if_pos null, ih distinct, fieldOf_drop]
      by_cases here : key = name
      · subst here
        simp [fieldOf, later, null]
      · simp [fieldOf, here]
    · rw [if_neg null, ih distinct, fieldOf_set]
      by_cases here : key = name
      · subst here
        simp [fieldOf, later, null]
      · simp [fieldOf, here]

theorem merge_object (target : Json) (patch : List (String × Json)) :
    mergePatch target (.object patch) = .object (mergeFields (target.object?.getD []) patch) := by
  rw [mergePatch]

theorem merge_plain {value : Json} (plain : value.object? = none) (target : Json) :
    mergePatch target value = value := by
  rw [mergePatch]
  rintro patch rfl
  cases plain

/-- A value that a patch gives, if it is neither `null` nor an object, is there afterwards, and what it
gives as `null` is not. -/
theorem merged_option (distinct : (patch.map (·.1)).Nodup) (given : Option Json)
    (asked : fieldOf name patch = some (given.getD .null))
    (plain : ∀ value ∈ given, value.object? = none ∧ value.isNull = false) :
    fieldOf name (mergeFields target patch) = given := by
  rw [fieldOf_merged distinct, asked]
  cases given with
  | none => rfl
  | some value =>
    obtain ⟨plain, shown⟩ := plain value rfl
    simp [shown, merge_plain plain]

end DomainSteward.Merges
