import Mathlib.Data.List.Nodup
import DomainSteward.Data.NameMap

/-! Name maps as lists without repetition: who is an entry, and what becomes
of a list that is made into a map. -/
namespace DomainSteward.NameMaps

variable {α : Type} {m : NameMap α} {name : String} {value : α}

theorem keys_nodup (m : NameMap α) : m.keys.Nodup := by
  refine List.Pairwise.map _ ?_ m.sorted
  intro a b less same
  exact String.lt_irrefl b.1 (same ▸ less)

private theorem lookup_some {l : List (String × α)} (distinct : (l.map (·.1)).Nodup) :
    NameMap.lookup name l = some value ↔ (name, value) ∈ l := by
  induction l with
  | nil => simp [NameMap.lookup]
  | cons head rest ih =>
    obtain ⟨key, old⟩ := head
    obtain ⟨absent, tail⟩ := List.nodup_cons.mp distinct
    simp only [NameMap.lookup, List.mem_cons, Prod.mk.injEq]
    by_cases same : name = key
    · subst same
      have elsewhere : (name, value) ∉ rest :=
        fun member => absent (List.mem_map_of_mem (f := (·.1)) member)
      simp [elsewhere, eq_comm]
    · simp [same, ih tail]

/-- The entries of a map are what it holds. -/
theorem mem_entries : (name, value) ∈ m.entries ↔ m.get? name = some value :=
  (lookup_some (keys_nodup m)).symm

theorem mem_keys : name ∈ m.keys ↔ m.contains name = true := by
  rw [NameMap.contains, Option.isSome_iff_exists, NameMap.keys, List.mem_map]
  constructor
  · rintro ⟨⟨_, value⟩, member, rfl⟩
    exact ⟨value, mem_entries.mp member⟩
  · rintro ⟨value, held⟩
    exact ⟨(name, value), mem_entries.mpr held, rfl⟩

theorem get?_filter (m : NameMap α) (p : String → α → Bool) (name : String) :
    (m.filter p).get? name = (m.get? name).filter (p name) := by
  ext value
  rw [← mem_entries, NameMap.filter, List.mem_filter, mem_entries, Option.filter_eq_some_iff]

theorem get?_names (m : NameMap α) (name : String) :
    m.names.get? name = (m.get? name).map (fun _ => ()) := by
  ext u
  rw [← mem_entries, Option.map_eq_some_iff]
  constructor
  · intro member
    obtain ⟨⟨_, value⟩, entry, same⟩ := List.mem_map.mp member
    cases same
    exact ⟨value, mem_entries.mp entry, rfl⟩
  · rintro ⟨value, held, _⟩
    exact List.mem_map.mpr ⟨(name, value), mem_entries.mpr held, rfl⟩

theorem contains_names_filter (m : NameMap α) (p : String → α → Bool) (name : String) :
    (m.filter p).names.contains name = (m.get? name).any (p name) := by
  rw [NameMap.contains, get?_names, get?_filter]
  cases m.get? name with
  | none => rfl
  | some value => cases kept : p name value <;> simp [Option.filter, kept]

private theorem place_again (name : String) (old value : α) (l : List (String × α)) :
    NameMap.place name value (NameMap.place name old l) = NameMap.place name value l := by
  induction l with
  | nil => simp [NameMap.place]
  | cons head rest ih =>
    by_cases here : name = head.1
    · simp [NameMap.place, here]
    · by_cases before : name < head.1
      · simp [NameMap.place, here, before]
      · simp [NameMap.place, here, before, ih]

/-- Of two values put under one name the later one stays. -/
theorem insert_again (m : NameMap α) (name : String) (old value : α) :
    (m.insert name old).insert name value = m.insert name value := by
  simp only [NameMap.insert, place_again]

/-! ## Lists made into maps -/

private theorem mem_foldl_insert {l : List (String × α)} {e : String × α}
    (member : e ∈ (l.foldl (fun m e => m.insert e.1 e.2) m).entries) : e ∈ m.entries ∨ e ∈ l := by
  induction l generalizing m with
  | nil => exact .inl member
  | cons head rest ih =>
    rcases ih member with member | member
    · rcases NameMap.mem_place member with rfl | member
      · exact .inr List.mem_cons_self
      · exact .inl member
    · exact .inr (List.mem_cons_of_mem _ member)

theorem mem_of_mem_ofList {l : List (String × α)} {e : String × α}
    (member : e ∈ (NameMap.ofList l).entries) : e ∈ l :=
  (mem_foldl_insert member).resolve_left (fun nobody => nomatch nobody)

private theorem contains_foldl_insert (l : List (String × α)) :
    (l.foldl (fun m e => m.insert e.1 e.2) m).contains name = true ↔
      m.contains name = true ∨ name ∈ l.map (·.1) := by
  induction l generalizing m with
  | nil => simp
  | cons head rest ih =>
    rw [List.foldl_cons, ih, NameMap.contains, NameMap.get?_insert, List.map_cons, List.mem_cons]
    by_cases same : name = head.1
    · simp [same]
    · simp [same, NameMap.contains]

theorem mem_keys_ofList {l : List (String × α)} :
    name ∈ (NameMap.ofList l).keys ↔ name ∈ l.map (·.1) := by
  rw [mem_keys, NameMap.ofList, contains_foldl_insert]
  exact ⟨fun held => held.resolve_left (by simp [NameMap.contains]), .inr⟩

/-- Of several values put under one name the last one stays. -/
theorem get?_inserted (l : List (String × α)) (m : NameMap α) (name : String) :
    (l.foldl (fun m e => m.insert e.1 e.2) m).get? name =
      (l.reverse.lookup name).or (m.get? name) := by
  induction l generalizing m with
  | nil => rfl
  | cons head rest ih =>
    obtain ⟨key, value⟩ := head
    rw [List.foldl_cons, ih, NameMap.get?_insert, List.reverse_cons, List.lookup_append,
      Option.or_assoc]
    congr 1
    by_cases same : name = key
    · simp [same]
    · have differs : (name == key) = false := beq_false_of_ne same
      simp [same, List.lookup_cons, differs]

private theorem place_last {l : List (String × α)} (last : ∀ e ∈ l, e.1 < name) :
    NameMap.place name value l = l ++ [(name, value)] := by
  induction l with
  | nil => rfl
  | cons head rest ih =>
    have before := last head List.mem_cons_self
    have other : name ≠ head.1 := fun same => String.lt_irrefl name (same ▸ before)
    have after : ¬ name < head.1 := fun less => String.lt_irrefl name (String.lt_trans less before)
    simp only [NameMap.place, if_neg other, if_neg after, List.cons_append,
      ih fun e among => last e (List.mem_cons_of_mem _ among)]

private theorem insert_sorted {l : List (String × α)}
    (sorted : (m.entries ++ l).Pairwise (fun a b => a.1 < b.1)) :
    (l.foldl (fun m e => m.insert e.1 e.2) m).entries = m.entries ++ l := by
  induction l generalizing m with
  | nil => exact (List.append_nil _).symm
  | cons head rest ih =>
    have last : ∀ e ∈ m.entries, e.1 < head.1 := fun e among =>
      (List.pairwise_append.mp sorted).2.2 e among head List.mem_cons_self
    have placed : (m.insert head.1 head.2).entries = m.entries ++ [head] := place_last last
    have whole : m.entries ++ head :: rest = (m.insert head.1 head.2).entries ++ rest := by
      simp [placed]
    rw [whole] at sorted ⊢
    exact ih sorted

/-- A map is made of its entries. -/
theorem ofList_entries (m : NameMap α) : NameMap.ofList m.entries = m := by
  have same : (NameMap.ofList m.entries).entries = m.entries :=
    insert_sorted (m := NameMap.empty) m.sorted
  cases made : NameMap.ofList m.entries
  rw [made] at same
  cases m
  cases same
  rfl

end DomainSteward.NameMaps
