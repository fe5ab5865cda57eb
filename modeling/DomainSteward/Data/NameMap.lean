/-!
Finite maps keyed by names.

A `NameMap` lists its entries in strictly increasing name order, so a name occurs once and the
order in which entries were put in cannot be seen. Names compare by code point. `get?` is the
view; one lemma for each operation says what it does to that view.
-/

namespace DomainSteward

/-- A map from names to values, listed in name order. -/
structure NameMap (α : Type) where
  /-- The entries, in strictly increasing name order. -/
  entries : List (String × α)
  /-- The order of the entries, from which it follows that names do not repeat. -/
  sorted : entries.Pairwise (fun a b => a.1 < b.1) := by exact .nil

namespace NameMap

variable {α β : Type}

/-- The value of the first entry of a list that has the name. -/
def lookup (name : String) : List (String × α) → Option α
  | [] => none
  | (key, value) :: rest => if name = key then some value else lookup name rest

/-- Puts an entry in its place, over one of the same name. -/
def place (name : String) (value : α) : List (String × α) → List (String × α)
  | [] => [(name, value)]
  | (key, old) :: rest =>
    if name = key then (name, value) :: rest
    else if name < key then (name, value) :: (key, old) :: rest
    else (key, old) :: place name value rest

theorem mem_place {name : String} {value : α} {l : List (String × α)} {e : String × α}
    (h : e ∈ place name value l) : e = (name, value) ∨ e ∈ l := by
  induction l with
  | nil => simpa [place] using h
  | cons head rest ih =>
    obtain ⟨key, old⟩ := head
    unfold place at h
    split at h
    · rcases List.mem_cons.1 h with h | h
      · exact .inl h
      · exact .inr (List.mem_cons_of_mem _ h)
    · split at h
      · rcases List.mem_cons.1 h with h | h
        · exact .inl h
        · exact .inr h
      · rcases List.mem_cons.1 h with h | h
        · exact .inr (h ▸ List.mem_cons_self)
        · exact (ih h).imp id (List.mem_cons_of_mem _)

theorem pairwise_place (name : String) (value : α) {l : List (String × α)}
    (h : l.Pairwise (fun a b => a.1 < b.1)) :
    (place name value l).Pairwise (fun a b => a.1 < b.1) := by
  induction l with
  | nil => simp [place]
  | cons head rest ih =>
    obtain ⟨key, old⟩ := head
    obtain ⟨first, tail⟩ := List.pairwise_cons.1 h
    unfold place
    split
    · next same => exact List.pairwise_cons.2 ⟨fun e he => same ▸ first e he, tail⟩
    · next other =>
      split
      · next less =>
        refine List.pairwise_cons.2 ⟨fun e he => ?_, h⟩
        rcases List.mem_cons.1 he with he | he
        · exact he ▸ less
        · exact String.lt_trans less (first e he)
      · next notLess =>
        have greater : key < name := by
          rcases Decidable.em (key < name) with h | h
          · exact h
          · exact absurd (String.le_antisymm h notLess) other
        refine List.pairwise_cons.2 ⟨fun e he => ?_, ih tail⟩
        rcases mem_place he with he | he
        · exact he ▸ greater
        · exact first e he

theorem lookup_place (name other : String) (value : α) (l : List (String × α)) :
    lookup other (place name value l) = if other = name then some value else lookup other l := by
  induction l with
  | nil => simp [place, lookup]
  | cons head rest ih =>
    obtain ⟨key, old⟩ := head
    unfold place
    split
    · next same =>
      subst same
      by_cases h : other = name <;> simp [lookup, h]
    · split
      · simp [lookup]
      · next distinct _ =>
        by_cases h : other = key
        · subst h
          simp [lookup, Ne.symm distinct]
        · simp [lookup, h, ih]

theorem lookup_filter (p : String → Bool) (other : String) (l : List (String × α)) :
    lookup other (l.filter (fun e => p e.1)) = if p other then lookup other l else none := by
  induction l with
  | nil => simp [lookup]
  | cons head rest ih =>
    obtain ⟨key, value⟩ := head
    by_cases hk : p key = true
    · by_cases h : other = key
      · subst h
        simp [lookup, hk]
      · simp [lookup, hk, h, ih]
    · by_cases h : other = key
      · subst h
        simp [hk, ih]
      · simp [lookup, hk, h, ih]

/-- The map without entries. -/
def empty : NameMap α := ⟨[], .nil⟩

instance : EmptyCollection (NameMap α) := ⟨empty⟩

instance : Inhabited (NameMap α) := ⟨empty⟩

/-- The value under a name, if there is one. -/
def get? (m : NameMap α) (name : String) : Option α := lookup name m.entries

/-- Whether there is a value under the name. -/
def contains (m : NameMap α) (name : String) : Bool := (m.get? name).isSome

/-- Sets the value under a name. -/
def insert (m : NameMap α) (name : String) (value : α) : NameMap α :=
  ⟨place name value m.entries, pairwise_place name value m.sorted⟩

/-- Keeps the entries whose name passes the test. -/
def keep (m : NameMap α) (p : String → Bool) : NameMap α :=
  ⟨m.entries.filter (fun e => p e.1), m.sorted.filter _⟩

/-- Keeps the entries that pass the test. -/
def filter (m : NameMap α) (p : String → α → Bool) : NameMap α :=
  ⟨m.entries.filter (fun e => p e.1 e.2), m.sorted.filter _⟩

/-- Leaves no value under the name. -/
def erase (m : NameMap α) (name : String) : NameMap α := m.keep (· != name)

/-- The names, in increasing order. -/
def keys (m : NameMap α) : List String := m.entries.map (·.1)

/-- The values, in the order of their names. -/
def values (m : NameMap α) : List α := m.entries.map (·.2)

/-- The number of entries. -/
def size (m : NameMap α) : Nat := m.entries.length

/-- Whether there are no entries. -/
def isEmpty (m : NameMap α) : Bool := m.entries.isEmpty

/-- The map of a list of entries; of two entries of one name the later wins. -/
def ofList (l : List (String × α)) : NameMap α :=
  l.foldl (fun m e => m.insert e.1 e.2) empty

/-- Applies a function to every value. -/
def mapValues (m : NameMap α) (f : α → β) : NameMap β :=
  ⟨m.entries.map (fun e => (e.1, f e.2)), List.pairwise_map.2 (m.sorted.imp id)⟩

instance [BEq α] : BEq (NameMap α) := ⟨fun a b => a.entries == b.entries⟩

instance [DecidableEq α] : DecidableEq (NameMap α) := fun a b =>
  if h : a.entries = b.entries then .isTrue (by cases a; cases b; cases h; rfl)
  else .isFalse (fun e => h (e ▸ rfl))

@[simp] theorem get?_empty (name : String) : (empty : NameMap α).get? name = none := rfl

theorem get?_insert (m : NameMap α) (name other : String) (value : α) :
    (m.insert name value).get? other = if other = name then some value else m.get? other :=
  lookup_place name other value m.entries

theorem get?_keep (m : NameMap α) (p : String → Bool) (other : String) :
    (m.keep p).get? other = if p other then m.get? other else none :=
  lookup_filter p other m.entries

theorem get?_erase (m : NameMap α) (name other : String) :
    (m.erase name).get? other = if other = name then none else m.get? other := by
  rw [erase, get?_keep]
  by_cases h : other = name <;> simp [h]

end NameMap

/-- A set of names. -/
abbrev NameSet := NameMap Unit

namespace NameSet

def ofNames (names : List String) : NameSet := NameMap.ofList (names.map (·, ()))

def add (s : NameSet) (name : String) : NameSet := s.insert name ()

/-- The names, in increasing order. -/
def toNames (s : NameSet) : List String := s.keys

end NameSet

/-- The names that a map has values under. -/
def NameMap.names {α : Type} (m : NameMap α) : NameSet := m.mapValues (fun _ => ())

end DomainSteward
