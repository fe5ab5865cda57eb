import Mathlib.Data.List.Nodup
import DomainSteward.Domain.Status

/-! The conditions of a status, read as what is said under each type. Setting and removing one type
leaves every other type as it was, also where types repeat, and neither changes anything when its
work has been done before. Where no type repeats, none does afterwards. -/
namespace DomainSteward.Conditions

variable {s s' : DomainStatus} {condition : DomainCondition} {type : ConditionType}
  {now : String} {time : Option String}

/-- A condition as it stands once it is set: the time of its last transition is that of the
condition before it, unless the status is another one. -/
def renewed (condition : DomainCondition) (before : Option DomainCondition) (now : String) :
    DomainCondition :=
  { condition with
    lastTransitionTime :=
      match before with
      | some old => if old.status = condition.status then old.lastTransitionTime else some now
      | none => some now }

private theorem find_placed (condition : DomainCondition) (now : String) (type : ConditionType)
    (l : List DomainCondition) :
    (DomainStatus.placeCondition condition now l).find? (fun c => c.type = type) =
      if condition.type = type then
        some (renewed condition (l.find? (fun c => c.type = condition.type)) now)
      else l.find? (fun c => c.type = type) := by
  induction l with
  | nil => by_cases here : condition.type = type <;> simp [DomainStatus.placeCondition, renewed, here]
  | cons old rest ih =>
    by_cases replaced : old.type = condition.type
    · by_cases here : condition.type = type
      · simp [DomainStatus.placeCondition, renewed, replaced, here]
      · simp [DomainStatus.placeCondition, replaced, here]
    · by_cases here : old.type = type
      · have elsewhere : condition.type ≠ type := fun same => replaced (here.trans same.symm)
        simp [DomainStatus.placeCondition, here, elsewhere, elsewhere.symm]
      · simp [DomainStatus.placeCondition, replaced, here, ih]

/-- What stands under each type once a condition is set. -/
theorem condition_set (s : DomainStatus) (condition : DomainCondition) (now : String)
    (type : ConditionType) :
    (s.setCondition condition now).condition? type =
      if condition.type = type then some (renewed condition (s.condition? condition.type) now)
      else s.condition? type :=
  find_placed condition now type s.conditions

/-- What stands under each type once a type is removed. -/
theorem condition_removed (s : DomainStatus) (other type : ConditionType) :
    (s.removeCondition other).condition? type =
      if type = other then none else s.condition? type := by
  simp only [DomainStatus.condition?, DomainStatus.removeCondition, List.find?_filter]
  by_cases same : type = other
  · subst same
    simp
  · rw [if_neg same]
    congr 1
    funext c
    by_cases here : c.type = type <;> simp [here, same]

/-- A condition stands in a status, whenever it last changed. -/
def Stands (condition : DomainCondition) (s : DomainStatus) : Prop :=
  ∃ time, s.condition? condition.type = some { condition with lastTransitionTime := time }

theorem stands_set (s : DomainStatus) (condition : DomainCondition) (now : String) :
    Stands condition (s.setCondition condition now) :=
  ⟨_, (condition_set ..).trans (if_pos rfl)⟩

theorem stands_kept (same : s'.condition? condition.type = s.condition? condition.type)
    (stands : Stands condition s) : Stands condition s' :=
  stands.imp fun _ here => same.trans here

private theorem place_again {l : List DomainCondition}
    (stands : l.find? (fun c => c.type = condition.type) =
      some { condition with lastTransitionTime := time }) :
    DomainStatus.placeCondition condition now l = l := by
  induction l with
  | nil => cases stands
  | cons old rest ih =>
    by_cases here : old.type = condition.type
    · have first : old = { condition with lastTransitionTime := time } := by
        simpa [here] using stands
      subst first
      simp [DomainStatus.placeCondition]
    · have later : rest.find? (fun c => c.type = condition.type) =
          some { condition with lastTransitionTime := time } := by
        simpa [here] using stands
      simp [DomainStatus.placeCondition, here, ih later]

/-- A condition that stands already is not changed by being set again, not even in its time. -/
theorem set_again (stands : Stands condition s) (now : String) :
    s.setCondition condition now = s := by
  obtain ⟨time, here⟩ := stands
  rw [DomainStatus.setCondition, place_again here]

/-- A type that is absent need not be removed. -/
theorem remove_absent (absent : s.condition? type = none) : s.removeCondition type = s := by
  have kept : s.conditions.filter (fun c => c.type ≠ type) = s.conditions := by
    refine List.filter_eq_self.mpr fun c among => ?_
    simpa using List.find?_eq_none.mp absent c among
  rw [DomainStatus.removeCondition, kept]

/-! ## Types that do not repeat -/

/-- No type has two conditions. -/
def Distinct (s : DomainStatus) : Prop := (s.conditions.map (·.type)).Nodup

/-- A type keeps its place, or comes last. -/
private theorem placed_types (condition : DomainCondition) (now : String)
    (l : List DomainCondition) :
    (DomainStatus.placeCondition condition now l).map (·.type) =
      if condition.type ∈ l.map (·.type) then l.map (·.type)
      else l.map (·.type) ++ [condition.type] := by
  induction l with
  | nil => rfl
  | cons old rest ih =>
    by_cases replaced : old.type = condition.type
    · simp [DomainStatus.placeCondition, replaced]
    · simp only [DomainStatus.placeCondition, replaced, ↓reduceIte, List.map_cons, ih,
        List.mem_cons, Ne.symm replaced, false_or]
      split <;> rfl

theorem distinct_set (distinct : Distinct s) (condition : DomainCondition) (now : String) :
    Distinct (s.setCondition condition now) := by
  unfold Distinct DomainStatus.setCondition
  rw [placed_types]
  split
  · exact distinct
  · rename_i new
    refine List.nodup_append.mpr ⟨distinct, List.nodup_singleton _, fun type here last at_end => ?_⟩
    rintro rfl
    exact new (List.mem_singleton.mp at_end ▸ here)

theorem distinct_removed (distinct : Distinct s) (type : ConditionType) :
    Distinct (s.removeCondition type) :=
  distinct.sublist (List.filter_sublist.map _)

private theorem find_listed {l : List DomainCondition} (distinct : (l.map (·.type)).Nodup) :
    l.find? (fun c => c.type = type) = some condition ↔ condition ∈ l ∧ condition.type = type := by
  induction l with
  | nil => simp
  | cons head rest ih =>
    obtain ⟨once, others⟩ := List.nodup_cons.mp distinct
    by_cases here : head.type = type
    · have nowhere : ¬ (condition ∈ rest ∧ condition.type = type) := fun ⟨again, same⟩ =>
        once (List.mem_map.mpr ⟨condition, again, same.trans here.symm⟩)
      rw [List.find?_cons_of_pos (by simpa using here), Option.some.injEq, List.mem_cons]
      constructor
      · rintro rfl
        exact ⟨.inl rfl, here⟩
      · rintro ⟨rfl | later, same⟩
        · rfl
        · exact absurd ⟨later, same⟩ nowhere
    · rw [List.find?_cons_of_neg (by simpa using here), ih others, List.mem_cons]
      constructor
      · exact fun ⟨later, same⟩ => ⟨.inr later, same⟩
      · rintro ⟨rfl | later, same⟩
        · exact absurd same here
        · exact ⟨later, same⟩

/-- Where no type repeats, what stands under a type is the condition that is listed. -/
theorem condition_listed (distinct : Distinct s) :
    s.condition? type = some condition ↔ condition ∈ s.conditions ∧ condition.type = type :=
  find_listed distinct

end DomainSteward.Conditions
