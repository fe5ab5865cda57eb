import DomainSteward.Json.Fields
import DomainSteward.Proofs.Data.NameMap

/-! What a reader finds in a record, field by field. A record is read back as it was written when each
of its fields is, so all that has to be known of a record is what stands under each name. -/
namespace DomainSteward.Fields
open Json

variable {α : Type} {read : Json → Option α} {write : α → Json} {fields fields' : List (String × Json)}
  {name key : String} {value : Json}

/-! ## What stands under a name -/

@[simp] theorem fieldOf_append (first second : List (String × Json)) :
    fieldOf name (first ++ second) = (fieldOf name first).or (fieldOf name second) := by
  induction first with
  | nil => rfl
  | cons head rest ih =>
    by_cases here : head.1 = name <;> simp [fieldOf, here, ih]

@[simp] theorem fieldOf_field (write : α → Json) (a : Option α) :
    fieldOf name (field? key write a) = if key = name then a.map write else none := by
  cases a <;> simp [field?, fieldOf]

@[simp] theorem fieldOf_listField (write : α → Json) (items : List α) :
    fieldOf name (listField key write items) =
      if key = name ∧ items ≠ [] then some (.list (items.map write)) else none := by
  cases items <;> simp [listField, fieldOf]

theorem fieldOf_set (key : String) (value : Json) (fields : List (String × Json)) :
    fieldOf name (setField key value fields) = if key = name then some value else fieldOf name fields := by
  induction fields with
  | nil => rfl
  | cons head rest ih =>
    obtain ⟨first, old⟩ := head
    by_cases replaced : first = key
    · subst replaced
      by_cases here : first = name <;> simp [setField, fieldOf, here]
    · by_cases here : first = name
      · subst here
        simp [setField, fieldOf, replaced, Ne.symm replaced]
      · simp [setField, fieldOf, replaced, here, ih]

theorem fieldOf_filter (keep : String → Bool) (fields : List (String × Json)) :
    fieldOf name (fields.filter (fun f => keep f.1)) =
      if keep name then fieldOf name fields else none := by
  induction fields with
  | nil => simp [fieldOf]
  | cons head rest ih =>
    obtain ⟨first, value⟩ := head
    by_cases kept : keep first = true
    · by_cases here : first = name
      · subst here
        simp [fieldOf, kept]
      · simp [fieldOf, kept, here, ih]
    · by_cases here : first = name
      · subst here
        simpa [fieldOf, kept] using ih
      · simp [fieldOf, kept, here, ih]

theorem fieldOf_none_iff : fieldOf name fields = none ↔ name ∉ fields.map (·.1) := by
  induction fields with
  | nil => simp [fieldOf]
  | cons head rest ih =>
    by_cases here : head.1 = name
    · simp [fieldOf, here]
    · simpa [fieldOf, here, Ne.symm here] using ih

theorem fieldOf_drop (key : String) (fields : List (String × Json)) :
    fieldOf name (dropField key fields) = if key = name then none else fieldOf name fields := by
  rw [dropField, fieldOf_filter (fun other => other != key)]
  by_cases same : key = name
  · simp [same]
  · simp [same, Ne.symm same]

theorem field_names (write : α → Json) (a : Option α) :
    ((field? key write a).map (·.1)).Sublist [key] := by
  cases a <;> simp [field?]

theorem listField_names (write : α → Json) (items : List α) :
    ((listField key write items).map (·.1)).Sublist [key] := by
  cases items <;> simp [listField]

/-! ## What readers make of it -/

/-- What is written is read back, and is never `null`. -/
structure Faithful (read : Json → Option α) (write : α → Json) : Prop where
  reads : ∀ a, read (write a) = some a
  shown : ∀ a, write a ≠ .null

theorem required_read (faithful : Faithful read write) {a : α}
    (found : fieldOf name fields = some (write a)) : required? fields name read = some a := by
  rw [required?, found, Option.bind_some, faithful.reads]

theorem optional_read (faithful : Faithful read write) {a : Option α}
    (found : fieldOf name fields = a.map write) : optional? fields name read = some a := by
  unfold optional?
  rw [found]
  cases a with
  | none => rfl
  | some a =>
    have shown := faithful.shown a
    have reads := faithful.reads a
    rw [Option.map_some]
    generalize write a = value at shown reads
    cases value with
    | null => exact absurd rfl shown
    | _ => simp [reads]

theorem defaulted_read (faithful : Faithful read write) {a default : α}
    (found : fieldOf name fields = some (write a) ∨ fieldOf name fields = none ∧ a = default) :
    defaulted? fields name default read = some a := by
  unfold defaulted?
  rcases found with found | ⟨found, rfl⟩
  · rw [found]
    exact faithful.reads a
  · rw [found]

/-- A field that is null is read as if it were missing. -/
theorem optional_or_null (faithful : Faithful read write) {a : Option α}
    (found : fieldOf name fields = some ((a.map write).getD .null)) :
    optional? fields name read = some a := by
  cases a with
  | none => simp [optional?, found]
  | some a => exact optional_read faithful found

/-- Readers look at nothing but what stands under the name. -/
theorem optional_same (same : fieldOf name fields' = fieldOf name fields) :
    optional? fields' name read = optional? fields name read := by
  rw [optional?, same, optional?]

theorem required_same (same : fieldOf name fields' = fieldOf name fields) :
    required? fields' name read = required? fields name read := by
  rw [required?, same, required?]

/-! ## Values that are read back -/

theorem text_faithful : Faithful text? .text := ⟨fun _ => rfl, nofun⟩

theorem bool_faithful : Faithful bool? .bool := ⟨fun _ => rfl, nofun⟩

theorem object_faithful : Faithful object? .object := ⟨fun _ => rfl, nofun⟩

theorem int64_faithful : Faithful int64? (fun n => ofInt n.toInt) := by
  refine ⟨fun n => ?_, nofun⟩
  have within : -9223372036854775808 ≤ n.toInt ∧ n.toInt < 9223372036854775808 :=
    ⟨n.le_toInt, n.toInt_lt⟩
  simp [int64?, ofInt, int?, Number.ofInt, Number.int?, within]

theorem int32_faithful : Faithful int32? (fun n => ofInt n.toInt) := by
  refine ⟨fun n => ?_, nofun⟩
  have within : -2147483648 ≤ n.toInt ∧ n.toInt < 2147483648 := ⟨n.le_toInt, n.toInt_lt⟩
  simp [int32?, ofInt, int?, Number.ofInt, Number.int?, within]

theorem list_faithful (faithful : Faithful read write) :
    Faithful (listOf? read) (fun items => .list (items.map write)) := by
  refine ⟨fun items => ?_, nofun⟩
  show (items.map write).mapM read = some items
  induction items with
  | nil => rfl
  | cons item rest ih => simp [faithful.reads, ih]

/-- A list that is left out when it is empty is read back, since nothing stands for the empty one. -/
theorem listed_read (faithful : Faithful read write) {items : List α}
    (found : fieldOf name fields = fieldOf name (listField name write items)) :
    defaulted? fields name [] (listOf? read) = some items := by
  refine defaulted_read (list_faithful faithful) ?_
  rw [found, fieldOf_listField]
  cases items <;> simp

theorem map_faithful (faithful : Faithful read write) : Faithful (mapOf? read) (ofMap write) := by
  refine ⟨fun m => ?_, nofun⟩
  simp only [mapOf?, ofMap, object?, Option.bind_eq_bind, Option.bind_some]
  refine (congrArg (Option.bind · _) (?each : _ = some m.entries)).trans ?rest
  case each =>
    induction m.entries with
    | nil => rfl
    | cons head rest ih => simp [faithful.reads, ih]
  case rest => exact congrArg some (NameMaps.ofList_entries m)

end DomainSteward.Fields
