import DomainSteward.Proofs.Json.Literals

/-! The reader accepts the texts of the grammar, and no others. -/
namespace DomainSteward.Acceptance
open Json Tree Grammar Literals

variable {s s₁ r : List Char} {tree : Tree} {items : List Tree} {fuel : Nat}
  {members : List (Option String × Tree)} {name : Option String}

/-! ## What is taken

What writes something takes some of its text, so the length of the text bounds the steps of a
reader. -/

theorem blanks_take (blank : Blanks s r) : r.length ≤ s.length := by
  induction blank with
  | nil => exact Nat.le_refl _
  | cons _ _ ih => exact Nat.le_succ_of_le ih

theorem pieces_take {ps : List Piece} (pieces : Pieces s ps r) : r.length ≤ s.length := by
  induction pieces with
  | nil => exact Nat.le_refl _
  | cons first _ ih => cases first <;> simp only [List.length_cons] <;> omega

theorem quoted_takes (quoted : Quoted s name r) : r.length < s.length := by
  cases quoted with
  | whole letters =>
    obtain ⟨ps, pieces, -⟩ := pieces_of_letters letters
    exact pieces_take pieces
  | broken pieces => exact pieces_take pieces

theorem digits_take {ds : List Char} (digits : Digits s ds r) : r.length < s.length := by
  have := List.length_pos_iff.mpr digits.nonempty
  rw [digits.text, List.length_append]
  omega

theorem fraction_takes {ds : List Char} (frac : Fraction s ds r) : r.length ≤ s.length := by
  cases frac with
  | absent => exact Nat.le_refl _
  | present digits => exact Nat.le_succ_of_le (digits_take digits).le

theorem exponent_takes {e : Option Int} (exp : Exponent s e r) : r.length ≤ s.length := by
  cases exp with
  | absent => exact Nat.le_refl _
  | bare _ digits => exact Nat.le_succ_of_le (digits_take digits).le
  | plus _ digits | minus _ digits =>
    exact Nat.le_succ_of_le (Nat.le_succ_of_le (digits_take digits).le)

theorem unsigned_takes {negative : Bool} {n : Number} (number : Unsigned negative s n r) :
    r.length < s.length := by
  obtain ⟨digits, -, frac, exp⟩ := number
  exact Nat.lt_of_le_of_lt ((exponent_takes exp).trans (fraction_takes frac)) (digits_take digits)

theorem numeral_takes {n : Number} (numeral : Numeral s n r) : r.length < s.length := by
  cases numeral with
  | plain number => exact unsigned_takes number
  | minus number => exact Nat.lt_succ_of_lt (unsigned_takes number)

theorem name_takes (key : Name s name r) : r.length < s.length := by
  obtain ⟨before, string, after⟩ := key
  have := blanks_take before
  have := quoted_takes string
  have := blanks_take after
  simp only [List.length_cons] at *
  omega

mutual

theorem value_takes {s r : List Char} {tree : Tree} : Value s tree r → r.length < s.length
  | .null => by simp; omega
  | .yes => by simp; omega
  | .no => by simp; omega
  | .number numeral => numeral_takes numeral
  | .text quoted => Nat.lt_succ_of_lt (quoted_takes quoted)
  | .emptyList close => Nat.lt_succ_of_lt (blanks_take close)
  | .list rest => Nat.lt_succ_of_lt (items_take rest)
  | .emptyObject close => Nat.lt_succ_of_lt (blanks_take close)
  | .object rest => Nat.lt_succ_of_lt (members_take rest)

theorem element_takes {s r : List Char} {tree : Tree} : Element s tree r → r.length < s.length
  | .mk before core after => by
    have := blanks_take before
    have := value_takes core
    have := blanks_take after
    omega

theorem items_take {s r : List Char} {items : List Tree} : Items s items r → r.length < s.length
  | .last element => Nat.lt_of_succ_lt (element_takes element)
  | .more element rest => (items_take rest).trans (Nat.lt_of_succ_lt (element_takes element))

theorem members_take {s r : List Char} {members : List (Option String × Tree)} :
    Members s members r → r.length < s.length
  | .last key element =>
    (Nat.lt_of_succ_lt (element_takes element)).trans (Nat.lt_of_succ_lt (name_takes key))
  | .more key element rest =>
    ((members_take rest).trans (Nat.lt_of_succ_lt (element_takes element))).trans
      (Nat.lt_of_succ_lt (name_takes key))

end

/-! ## What the reader accepts -/

/-- A text that goes on after a value within another, or is over. -/
def Closed (r : List Char) : Prop := ∀ c ∈ r.head?, c ∈ [',', ']', '}']

theorem closed_cons {c : Char} (mark : c ∈ [',', ']', '}']) : Closed (c :: r) := by
  rintro _ ⟨⟩
  exact mark

theorem closed_solid (closed : Closed r) : Solid r := by
  have apart : ∀ c ∈ [',', ']', '}'], c ∉ blanks := by simp [blanks]
  exact fun c head => apart c (closed c head)

theorem closed_ends (closed : Closed r) (after : Blanks s r) : Ends s := by
  have apart : ∀ c ∈ [',', ']', '}'] ++ blanks,
      c.isDigit = false ∧ c ≠ '.' ∧ ¬ (c = 'e' ∨ c = 'E') := by
    simp [blanks, Char.isDigit]
  have first : ∀ c ∈ s.head?, c ∈ [',', ']', '}'] ++ blanks := by
    intro c head
    cases after with
    | nil => exact List.mem_append_left _ (closed c head)
    | cons blank =>
      cases head
      exact List.mem_append_right _ blank
  exact ⟨fun c head => (apart c (first c head)).1, fun c head => (apart c (first c head)).2⟩

theorem numeral_begins {n : Number} (numeral : Numeral s n r) :
    ∃ c rest, s = c :: rest ∧ (c = '-' ∨ c.isDigit = true) := by
  cases numeral with
  | plain number =>
    obtain ⟨digits, -, -, -⟩ := number
    obtain ⟨d, rest, rfl, digit⟩ := digits_head digits
    exact ⟨d, rest, rfl, .inr digit⟩
  | minus => exact ⟨'-', _, rfl, .inl rfl⟩

/-- No value begins with a blank or closes an array. -/
theorem value_begins (core : Value s tree r) : Solid s ∧ s.head? ≠ some ']' := by
  cases core with
  | number numeral =>
    obtain ⟨c, rest, rfl, first⟩ := numeral_begins numeral
    have apart : ∀ d ∈ ']' :: blanks, ¬ (d = '-' ∨ d.isDigit = true) := by
      simp [blanks, Char.isDigit]
    refine ⟨solid_cons fun blank => apart c (.tail _ blank) first, ?_⟩
    rintro ⟨⟩
    exact apart ']' (.head _) first
  | _ => exact ⟨solid_cons (by decide), by simp⟩

theorem number_value {n : Number} {pre : List Char} (numeral : Numeral s n r) (ends : Ends r)
    (begins : skipBlanks pre = s) : value? (fuel + 1) pre = some (.number n, r) := by
  have found := number_found numeral ends
  obtain ⟨c, rest, rfl, first⟩ := numeral_begins numeral
  rw [value?, begins]
  -- The first character rules out every other kind of value.
  split
  case h_7 => rw [found, Option.map_some]
  all_goals
    next same =>
      cases same
      rcases first with first | first <;> cases first

theorem skip_skipped (s : List Char) : skipBlanks (skipBlanks s) = skipBlanks s := by
  refine skip_blanks .nil fun c head blank => ?_
  have first := List.head?_dropWhile_not isBlank s
  rw [← skipBlanks, Option.mem_def.mp head] at first
  exact absurd (blank_iff.mpr blank) (by simp [first])

theorem value_skipped (fuel : Nat) (s : List Char) :
    value? fuel (skipBlanks s) = value? fuel s := by
  cases fuel with
  | zero => rfl
  | succ fuel => rw [value?, value?, skip_skipped]

theorem items_skipped (fuel : Nat) (s : List Char) :
    items? fuel (skipBlanks s) = items? fuel s := by
  cases fuel with
  | zero => rfl
  | succ fuel => rw [items?, items?, value_skipped]

theorem members_skipped (fuel : Nat) (s : List Char) :
    members? fuel (skipBlanks s) = members? fuel s := by
  cases fuel with
  | zero => rfl
  | succ fuel => rw [members?, members?, skip_skipped]

theorem element_begins (element : Element s tree r) : (skipBlanks s).head? ≠ some ']' := by
  obtain ⟨before, core, -⟩ := element
  rw [skip_blanks before (value_begins core).1]
  exact (value_begins core).2

theorem items_begin (rest : Items s items r) : (skipBlanks s).head? ≠ some ']' := by
  cases rest with
  | last element => exact element_begins element
  | more element => exact element_begins element

theorem name_begins (key : Name s name r) : ∃ rest, skipBlanks s = '"' :: rest ∧
    ∃ left, string? rest = some (name, left) ∧ Blanks left r := by
  obtain ⟨before, string, after⟩ := key
  exact ⟨_, skip_blanks before (solid_cons (by decide)), _, string_iff.mpr string, after⟩

theorem members_begin (rest : Members s members r) : (skipBlanks s).head? = some '"' := by
  cases rest with
  | last key | more key =>
    obtain ⟨_, quote, -⟩ := name_begins key
    rw [quote, List.head?_cons]

mutual

/-- A text that writes a value is read if there is more fuel than the value takes of it. The
recursion is that of the grammar, and the calls that read a part have less fuel by one and a
character less to read. -/
theorem value_found {s r : List Char} {tree : Tree} : Value s tree r → Ends r →
    ∀ fuel, s.length < fuel + r.length → ∀ pre, skipBlanks pre = s →
      value? fuel pre = some (tree, r)
  | core, _, 0, enough, _, _ => absurd (value_takes core) (by omega)
  | .null, _, fuel + 1, _, pre, begins => by
    rw [value?, begins]
    rfl
  | .yes, _, fuel + 1, _, pre, begins => by
    rw [value?, begins]
    rfl
  | .no, _, fuel + 1, _, pre, begins => by
    rw [value?, begins]
    rfl
  | .number numeral, ends, fuel + 1, _, pre, begins => number_value numeral ends begins
  | .text quoted, _, fuel + 1, _, pre, begins => by
    simp only [value?, begins, string_iff.mpr quoted, Option.map_some]
  | .emptyList close, _, fuel + 1, _, pre, begins => by
    simp only [value?, begins, skip_blanks close (solid_cons (by decide))]
  | .list rest, _, fuel + 1, enough, pre, begins => by
    have found := items_found rest fuel (by simp only [List.length_cons] at enough; omega)
    simp only [value?, begins]
    split
    · next close => exact absurd (by rw [close]; rfl) (items_begin rest)
    · rw [items_skipped, found, Option.map_some]
  | .emptyObject close, _, fuel + 1, _, pre, begins => by
    simp only [value?, begins, skip_blanks close (solid_cons (by decide))]
  | .object rest, _, fuel + 1, enough, pre, begins => by
    have found := members_found rest fuel (by simp only [List.length_cons] at enough; omega)
    simp only [value?, begins]
    split
    · next close =>
      have quote := members_begin rest
      rw [close] at quote
      cases quote
    · rw [members_skipped, found, Option.map_some]

theorem element_found {s r : List Char} {tree : Tree} : Element s tree r → Closed r →
    ∀ fuel, s.length < fuel + r.length →
      ∃ rest, value? fuel s = some (tree, rest) ∧ skipBlanks rest = r
  | .mk before core after, closed, fuel, enough => by
    have longer := blanks_take before
    have shorter := blanks_take after
    have found := value_found core (closed_ends closed after) fuel (by omega) _
      (skip_blanks before (value_begins core).1)
    exact ⟨_, found, skip_blanks after (closed_solid closed)⟩

theorem items_found {s r : List Char} {items : List Tree} : Items s items r →
    ∀ fuel, s.length < fuel + r.length → items? fuel s = some (items, r)
  | rest, 0, enough => absurd (items_take rest) (by omega)
  | .last element, fuel + 1, enough => by
    obtain ⟨rest, found, close⟩ := element_found element (closed_cons (by decide)) fuel
      (by simp only [List.length_cons]; omega)
    simp only [items?, found, Option.bind_eq_bind, Option.bind_some, close]
  | .more element others, fuel + 1, enough => by
    have := items_take others
    have := element_takes element
    simp only [List.length_cons] at this
    obtain ⟨rest, found, comma⟩ := element_found element (closed_cons (by decide)) fuel
      (by simp only [List.length_cons]; omega)
    simp only [items?, found, Option.bind_eq_bind, Option.bind_some, comma,
      items_found others fuel (by omega), Option.map_some]

theorem members_found {s r : List Char} {members : List (Option String × Tree)} :
    Members s members r →
    ∀ fuel, s.length < fuel + r.length → members? fuel s = some (members, r)
  | rest, 0, enough => absurd (members_take rest) (by omega)
  | .last key element, fuel + 1, enough => by
    have := name_takes key
    simp only [List.length_cons] at this
    obtain ⟨_, quote, _, string, after⟩ := name_begins key
    obtain ⟨_, found, close⟩ := element_found element (closed_cons (by decide)) fuel
      (by simp only [List.length_cons]; omega)
    simp only [members?, quote, string, skip_blanks after (solid_cons (by decide)), found,
      close, Option.bind_eq_bind, Option.bind_some]
  | .more key element others, fuel + 1, enough => by
    have := name_takes key
    have := element_takes element
    have := members_take others
    simp only [List.length_cons] at *
    obtain ⟨_, quote, _, string, after⟩ := name_begins key
    obtain ⟨_, found, comma⟩ := element_found element (closed_cons (by decide)) fuel
      (by simp only [List.length_cons]; omega)
    simp only [members?, quote, string, skip_blanks after (solid_cons (by decide)), found,
      comma, members_found others fuel (by omega), Option.bind_eq_bind, Option.bind_some,
      Option.map_some]

end

/-! ## What the reader takes to be a value -/

/-- With some fuel the reader takes only what the grammar has. -/
structure Right (fuel : Nat) : Prop where
  values : ∀ {s tree r}, value? fuel s = some (tree, r) → ∃ s₁, Blanks s s₁ ∧ Value s₁ tree r
  items : ∀ {s items r}, items? fuel s = some (items, r) → Items s items r
  members : ∀ {s members r}, members? fuel s = some (members, r) → Members s members r

theorem expected {word s r : List Char} (read : expect? word s = some r) : s = word ++ r := by
  induction word generalizing s with
  | nil => exact Option.some_inj.mp read
  | cons w word ih =>
    cases s with
    | nil => cases read
    | cons c s =>
      rw [expect?, Option.ite_none_right_eq_some] at read
      rw [read.1, ih read.2, List.cons_append]

theorem value_right (right : Right fuel) (read : value? (fuel + 1) s = some (tree, r)) :
    ∃ s₁, Blanks s s₁ ∧ Value s₁ tree r := by
  refine ⟨skipBlanks s, blanks_skipped s, ?_⟩
  rw [value?] at read
  split at read
  · next start =>
    obtain ⟨left, word, same⟩ := Option.map_eq_some_iff.mp read
    cases same
    rw [start, expected word]
    exact .null
  · next start =>
    obtain ⟨left, word, same⟩ := Option.map_eq_some_iff.mp read
    cases same
    rw [start, expected word]
    exact .yes
  · next start =>
    obtain ⟨left, word, same⟩ := Option.map_eq_some_iff.mp read
    cases same
    rw [start, expected word]
    exact .no
  · next start =>
    obtain ⟨⟨text, left⟩, string, same⟩ := Option.map_eq_some_iff.mp read
    cases same
    rw [start]
    exact .text (string_iff.mp string)
  · next rest start =>
    rw [start]
    split at read
    · next close =>
      cases read
      exact .emptyList (close ▸ blanks_skipped rest)
    · obtain ⟨⟨items, left⟩, inside, same⟩ := Option.map_eq_some_iff.mp read
      cases same
      rw [items_skipped] at inside
      exact .list (right.items inside)
  · next rest start =>
    rw [start]
    split at read
    · next close =>
      cases read
      exact .emptyObject (close ▸ blanks_skipped rest)
    · obtain ⟨⟨members, left⟩, inside, same⟩ := Option.map_eq_some_iff.mp read
      cases same
      rw [members_skipped] at inside
      exact .object (right.members inside)
  · obtain ⟨⟨n, left⟩, number, same⟩ := Option.map_eq_some_iff.mp read
    cases same
    exact .number (number_read number)

theorem element_right (right : Right fuel) {rest : List Char}
    (read : value? fuel s = some (tree, rest)) : Element s tree (skipBlanks rest) := by
  obtain ⟨s₁, before, core⟩ := right.values read
  exact .mk before core (blanks_skipped rest)

theorem items_right (right : Right fuel) (read : items? (fuel + 1) s = some (items, r)) :
    Items s items r := by
  obtain ⟨⟨item, rest⟩, first, read⟩ := Option.bind_eq_some_iff.mp read
  have element := element_right right first
  dsimp only at read
  split at read
  · next close =>
    cases read
    exact .last (close ▸ element)
  · next comma =>
    obtain ⟨⟨others, left⟩, more, same⟩ := Option.map_eq_some_iff.mp read
    cases same
    exact .more (comma ▸ element) (right.items more)
  · cases read

theorem members_right (right : Right fuel) (read : members? (fuel + 1) s = some (members, r)) :
    Members s members r := by
  rw [members?] at read
  split at read
  · next quote =>
    obtain ⟨⟨name, rest⟩, string, read⟩ := Option.bind_eq_some_iff.mp read
    dsimp only at read
    split at read
    · next colon =>
      have key : Name s name _ :=
        .mk (quote ▸ blanks_skipped s) (string_iff.mp string) (colon ▸ blanks_skipped rest)
      obtain ⟨⟨value, rest⟩, first, read⟩ := Option.bind_eq_some_iff.mp read
      have element := element_right right first
      dsimp only at read
      split at read
      · next close =>
        cases read
        exact .last key (close ▸ element)
      · next comma =>
        obtain ⟨⟨others, left⟩, more, same⟩ := Option.map_eq_some_iff.mp read
        cases same
        exact .more key (comma ▸ element) (right.members more)
      · cases read
    · cases read
  · cases read

theorem reader_right (fuel : Nat) : Right fuel := by
  induction fuel with
  | zero =>
    constructor
    all_goals
      intro s found r read
      cases read
  | succ fuel right =>
    exact ⟨value_right right, items_right right, members_right right⟩

/-- A text is read as a tree exactly if it spells the tree. -/
theorem parse_iff {text : String} : Tree.parse? text = some tree ↔ Spells text tree := by
  unfold Tree.parse?
  constructor
  · intro read
    dsimp only at read
    split at read
    · next rest found =>
      obtain ⟨nothing, same⟩ := Option.ite_none_right_eq_some.mp read
      cases same
      have element := element_right (reader_right _) found
      rwa [List.isEmpty_iff.mp nothing] at element
    · cases read
  · intro spells
    obtain ⟨rest, found, nothing⟩ := element_found spells (by rintro _ ⟨⟩) (text.toList.length + 1)
      (by simp)
    simp only [found, nothing, List.isEmpty_nil, if_true]

end DomainSteward.Acceptance
