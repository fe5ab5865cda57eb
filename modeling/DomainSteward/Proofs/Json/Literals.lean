import DomainSteward.Proofs.Json.Grammar
import Mathlib.Data.List.TakeDrop
import Mathlib.Data.List.TakeWhile

/-! How the literals of JSON are read. A string reads as the grammar has it. A number does if what
follows it continues no number, since the reader takes all the digits there are. -/
namespace DomainSteward.Literals
open Json Tree Grammar

variable {s s₁ r ds cs : List Char} {c : Char} {n : Nat} {piece : Piece} {ps : List Piece}

/-! ## Blanks -/

theorem blank_iff : isBlank c = true ↔ c ∈ blanks := by
  simp [isBlank, blanks, or_assoc, or_left_comm]

theorem blanks_skipped (s : List Char) : Blanks s (skipBlanks s) := by
  induction s with
  | nil => exact .nil
  | cons c rest ih =>
    by_cases blank : isBlank c = true
    · rw [skipBlanks, List.dropWhile_cons_of_pos blank]
      exact .cons (blank_iff.mp blank) ih
    · rw [skipBlanks, List.dropWhile_cons_of_neg blank]
      exact .nil

/-- A text that does not begin with a blank. -/
def Solid (r : List Char) : Prop := ∀ c ∈ r.head?, c ∉ blanks

theorem solid_cons (noBlank : c ∉ blanks) : Solid (c :: r) := by
  rintro _ ⟨⟩
  exact noBlank

theorem skip_blanks (before : Blanks s r) (solid : Solid r) : skipBlanks s = r := by
  induction before with
  | @nil text =>
    cases text with
    | nil => rfl
    | cons c rest => exact List.dropWhile_cons_of_neg (mt blank_iff.mp (solid c rfl))
  | cons blank _ ih =>
    rw [skipBlanks, List.dropWhile_cons_of_pos (blank_iff.mpr blank)]
    exact ih solid

/-! ## Strings -/

theorem escaped_iff {letter : Char} : escaped? letter = some c ↔ (letter, c) ∈ shortEscapes := by
  constructor
  · intro stands
    unfold escaped? at stands
    split at stands <;> cases stands <;> decide
  · have known : ∀ e ∈ shortEscapes, escaped? e.1 = some e.2 := by decide
    exact known (letter, c)

theorem hex_digit_iff : hexDigit? c = some n ↔ (c, n) ∈ hexDigits := by
  constructor
  · -- All digits are below 128, so these characters are tried one by one.
    have known : ∀ k < 128, ∀ m ∈ hexDigit? (Char.ofNat k), (Char.ofNat k, m) ∈ hexDigits := by
      decide +kernel
    intro digit
    have small : c.toNat < 128 := by
      have below (limit : Char) : c ≤ limit → c.toNat ≤ limit.toNat := id
      unfold hexDigit? at digit
      split at digit
      · next within => exact Nat.lt_of_le_of_lt (below _ within.2) (by decide)
      split at digit
      · next within => exact Nat.lt_of_le_of_lt (below _ within.2) (by decide)
      split at digit
      · next within => exact Nat.lt_of_le_of_lt (below _ within.2) (by decide)
      · cases digit
    rw [← Char.ofNat_toNat c] at digit ⊢
    exact known c.toNat small n digit
  · have known : ∀ d ∈ hexDigits, hexDigit? d.1 = some d.2 := by decide
    exact known (c, n)

theorem hex_unit_iff {a b c d : Char} : hexUnit? a b c d = some n ↔
    ∃ i j k l, (a, i) ∈ hexDigits ∧ (b, j) ∈ hexDigits ∧ (c, k) ∈ hexDigits ∧ (d, l) ∈ hexDigits ∧
      ((i * 16 + j) * 16 + k) * 16 + l = n := by
  simp only [hexUnit?, Option.bind_eq_bind, Option.bind_eq_some_iff, hex_digit_iff, Option.pure_def,
    Option.some.injEq]
  constructor
  · rintro ⟨i, first, j, second, k, third, l, fourth, value⟩
    exact ⟨i, j, k, l, first, second, third, fourth, value⟩
  · rintro ⟨i, j, k, l, first, second, third, fourth, value⟩
    exact ⟨i, first, j, second, k, third, l, fourth, value⟩

/-- One piece is taken off the front of a string. -/
theorem piece_taken (first : Writes s piece s₁) :
    pieces? s = (pieces? s₁).map fun x => (piece :: x.1, x.2) := by
  cases first with
  | plain noQuote noBackslash noControl =>
    rw [pieces?]
    · rw [if_neg (Nat.not_lt.mpr noControl)]
      cases pieces? s₁ <;> rfl
    all_goals simp_all
  | @short letter c _ stands =>
    have noNumber : letter ≠ 'u' := by
      rintro rfl
      exact absurd stands (by simp [shortEscapes])
    rw [pieces?, escaped_iff.mpr stands]
    · cases pieces? s₁ <;> rfl
    · simp_all
  | hex first second third fourth =>
    rw [pieces?, hex_unit_iff.mpr ⟨_, _, _, _, first, second, third, fourth, rfl⟩]
    cases pieces? s₁ <;> rfl

theorem pieces_iff : pieces? s = some (ps, r) ↔ Pieces s ps ('"' :: r) := by
  constructor
  · intro read
    fun_induction pieces? s generalizing ps with
    | case1 => cases read
    | case2 rest =>
      cases read
      exact .nil
    | case3 a b c d rest ih =>
      obtain ⟨unit, number, read⟩ := Option.bind_eq_some_iff.mp read
      obtain ⟨⟨pieces, left⟩, more, read⟩ := Option.bind_eq_some_iff.mp read
      obtain ⟨i, j, k, l, first, second, third, fourth, rfl⟩ := hex_unit_iff.mp number
      cases read
      exact .cons (.hex first second third fourth) (ih more)
    | case4 letter rest _ ih =>
      obtain ⟨c, stands, read⟩ := Option.bind_eq_some_iff.mp read
      obtain ⟨⟨pieces, left⟩, more, read⟩ := Option.bind_eq_some_iff.mp read
      cases read
      exact .cons (.short (escaped_iff.mp stands)) (ih more)
    | case5 => cases read
    | case6 c rest noQuote _ noEscape noControl ih =>
      obtain ⟨⟨pieces, left⟩, more, read⟩ := Option.bind_eq_some_iff.mp read
      cases read
      -- A backslash has something after it, so another case has taken it.
      have noBackslash : c ≠ '\\' := by
        intro backslash
        cases rest with
        | nil => cases more
        | cons letter rest => exact noEscape letter rest backslash rfl
      exact .cons (.plain noQuote noBackslash (Nat.not_lt.mp noControl)) (ih more)
  · intro pieces
    generalize whole : '"' :: r = left at pieces
    induction pieces with
    | nil =>
      subst whole
      rfl
    | cons first _ ih =>
      rw [piece_taken first, ih whole]
      rfl

/-- A number that is not half of a character's is that of a character. -/
def Whole (n : Nat) : Prop := ¬ (0xD800 ≤ n ∧ n < 0xE000)

theorem unit_small (writes : Writes s (.unit n) r) : n < 65536 := by
  have small : ∀ d ∈ hexDigits, d.2 < 16 := by decide
  cases writes with
  | hex first second third fourth =>
    have := small _ first
    have := small _ second
    have := small _ third
    have := small _ fourth
    dsimp only at *
    omega

theorem char_number (whole : Whole n) (small : n < 0x110000) : (Char.ofNat n).toNat = n := by
  have valid : n.isValidChar := by
    unfold Whole at whole
    unfold Nat.isValidChar
    omega
  rw [Char.ofNat, dif_pos valid]
  rfl

theorem char_whole (c : Char) : Whole c.toNat := by
  have valid : c.toNat < 0xD800 ∨ (0xDFFF < c.toNat ∧ c.toNat < 0x110000) := c.valid
  unfold Whole
  omega

theorem assemble_unit (whole : Whole n) :
    assemble? (.unit n :: ps) = (assemble? ps).map (Char.ofNat n :: ·) := by
  unfold Whole at whole
  match ps with
  | [] => simp [assemble?, whole]
  | .char c :: ps => simp [assemble?, whole]
  | .unit low :: ps => rw [assemble?, if_neg (by omega), if_neg (by omega)]

theorem assemble_pair {high low : Nat} (isHigh : 0xD800 ≤ high ∧ high < 0xDC00)
    (isLow : 0xDC00 ≤ low ∧ low < 0xE000) : assemble? (.unit high :: .unit low :: ps) =
      (assemble? ps).map
        (Char.ofNat (0x10000 + (high - 0xD800) * 0x400 + (low - 0xDC00)) :: ·) := by
  rw [assemble?, if_pos isHigh, if_pos isLow]

theorem unit_letter (writes : Writes s (.unit n) r) (whole : Whole n) :
    Letter s (Char.ofNat n) r := by
  refine .unit ?_
  rw [char_number whole (Nat.lt_trans (unit_small writes) (by decide))]
  exact writes

theorem letters_of_pieces (pieces : Pieces s ps r) (assembled : assemble? ps = some cs) :
    Letters s cs r := by
  fun_induction assemble? ps generalizing s cs with
  | case1 =>
    cases assembled
    cases pieces
    exact .nil
  | case2 c rest ih =>
    obtain ⟨more, others, rfl⟩ := Option.map_eq_some_iff.mp assembled
    obtain _ | ⟨first, pieces⟩ := pieces
    exact .cons (.char first) (ih pieces others)
  | case3 high low rest isHigh isLow ih =>
    obtain ⟨more, others, rfl⟩ := Option.map_eq_some_iff.mp assembled
    obtain _ | ⟨first, _ | ⟨second, pieces⟩⟩ := pieces
    refine .cons (.pair first second isHigh isLow (char_number ?_ ?_)) (ih pieces others)
    · unfold Whole
      omega
    · omega
  | case4 => cases assembled
  | case5 => cases assembled
  | case6 n low rest noHigh noLow ih =>
    obtain ⟨more, others, rfl⟩ := Option.map_eq_some_iff.mp assembled
    obtain _ | ⟨first, pieces⟩ := pieces
    refine .cons (unit_letter first ?_) (ih pieces others)
    unfold Whole
    omega
  | case7 => cases assembled
  | case8 n rest _ whole ih =>
    obtain ⟨more, others, rfl⟩ := Option.map_eq_some_iff.mp assembled
    obtain _ | ⟨first, pieces⟩ := pieces
    exact .cons (unit_letter first whole) (ih pieces others)

/-- A character that is written as its number, or as two halves of it, is put together again. -/
theorem pieces_of_letters (letters : Letters s cs r) :
    ∃ ps, Pieces s ps r ∧ assemble? ps = some cs := by
  induction letters with
  | nil => exact ⟨[], .nil, rfl⟩
  | @cons s c s₁ cs r first _ ih =>
    obtain ⟨ps, pieces, assembled⟩ := ih
    cases first with
    | char piece => exact ⟨_, .cons piece pieces, by rw [assemble?, assembled, Option.map_some]⟩
    | unit piece =>
      refine ⟨_, .cons piece pieces, ?_⟩
      rw [assemble_unit (char_whole c), assembled, Option.map_some, Char.ofNat_toNat]
    | pair first second isHigh isLow number =>
      refine ⟨_, .cons first (.cons second pieces), ?_⟩
      rw [assemble_pair isHigh isLow, assembled, Option.map_some, ← number, Char.ofNat_toNat]

theorem pieces_unique {qs : List Piece} (first : Pieces s ps ('"' :: r))
    (second : Pieces s qs ('"' :: r)) : ps = qs := by
  have same := (pieces_iff.mpr first).symm.trans (pieces_iff.mpr second)
  simpa using same

/-- A string is read as a text if it has whole characters only, and else as none. -/
theorem string_iff {text : Option String} :
    string? s = some (text, r) ↔ Quoted s text r := by
  constructor
  · intro read
    obtain ⟨⟨ps, left⟩, pieces, same⟩ := Option.bind_eq_some_iff.mp read
    cases same
    have pieces := pieces_iff.mp pieces
    cases assembled : assemble? ps with
    | some cs => exact .whole (letters_of_pieces pieces assembled)
    | none =>
      refine .broken pieces fun cs letters => ?_
      obtain ⟨qs, others, found⟩ := pieces_of_letters letters
      rw [pieces_unique others pieces, assembled] at found
      cases found
  · intro quoted
    unfold string?
    cases quoted with
    | whole letters =>
      obtain ⟨ps, pieces, assembled⟩ := pieces_of_letters letters
      simp [pieces_iff.mpr pieces, assembled]
    | broken pieces halved =>
      have none : assemble? _ = none := Option.eq_none_iff_forall_ne_some.mpr
        fun cs assembled => halved cs (letters_of_pieces pieces assembled)
      simp [pieces_iff.mpr pieces, none]

/-! ## Numbers -/

/-- A text that continues no run of digits. -/
def Stops (r : List Char) : Prop := ∀ c ∈ r.head?, c.isDigit = false

/-- A text that continues no number. -/
def Ends (r : List Char) : Prop :=
  Stops r ∧ ∀ c ∈ r.head?, c ≠ '.' ∧ ¬ (c = 'e' ∨ c = 'E')

theorem digits_value (ds : List Char) : digitsValue ds = Nat.ofDigitChars 10 ds 0 := by
  simp [digitsValue, Nat.ofDigitChars, Nat.mul_comm]

theorem span_stops (s : List Char) : Stops (s.dropWhile Char.isDigit) := by
  intro c head
  have first := List.head?_dropWhile_not Char.isDigit s
  rw [Option.mem_def.mp head] at first
  exact first

theorem span_digits (all : ∀ d ∈ ds, d.isDigit = true) (stops : Stops r) :
    (ds ++ r).span Char.isDigit = (ds, r) := by
  have kept : r.takeWhile Char.isDigit = [] ∧ r.dropWhile Char.isDigit = r := by
    cases r with
    | nil => exact ⟨rfl, rfl⟩
    | cons c rest =>
      have other : ¬ c.isDigit = true := by simp [stops c rfl]
      exact ⟨List.takeWhile_cons_of_neg other, List.dropWhile_cons_of_neg other⟩
  rw [List.span_eq_takeWhile_dropWhile, List.takeWhile_append_of_pos all,
    List.dropWhile_append_of_pos all, kept.1, kept.2, List.append_nil]

/-- All the digits are taken that there are. -/
theorem digits_iff : digits? s = some (ds, r) ↔ Digits s ds r ∧ Stops r := by
  constructor
  · intro read
    unfold digits? at read
    rw [List.span_eq_takeWhile_dropWhile] at read
    split at read
    · cases read
    · next full same =>
      cases same
      cases read
      exact ⟨⟨List.takeWhile_append_dropWhile.symm, full, fun d => List.mem_takeWhile_imp⟩,
        span_stops s⟩
  · rintro ⟨⟨rfl, nonempty, all⟩, stops⟩
    unfold digits?
    rw [span_digits all stops]
    cases ds with
    | nil => exact absurd rfl nonempty
    | cons => rfl

theorem digits_head (digits : Digits s ds r) : ∃ d rest, s = d :: rest ∧ d.isDigit = true := by
  obtain ⟨rfl, nonempty, all⟩ := digits
  cases ds with
  | nil => exact absurd rfl nonempty
  | cons d more => exact ⟨d, more ++ r, rfl, all d (.head _)⟩

theorem fraction_read (read : fraction? s = some (ds, r)) : Fraction s ds r := by
  unfold fraction? at read
  split at read
  · exact .present (digits_iff.mp read).1
  · cases read
    exact .absent

theorem fraction_found (frac : Fraction s ds r) (stops : Stops r)
    (noPoint : r.head? ≠ some '.') : fraction? s = some (ds, r) := by
  cases frac with
  | absent =>
    unfold fraction?
    split
    · exact absurd rfl noPoint
    · rfl
  | present digits => exact digits_iff.mpr ⟨digits, stops⟩

variable {exponent : Option Int}

theorem exponent_read (read : exponent? s = some (exponent, r)) : Exponent s exponent r := by
  unfold exponent? at read
  split at read
  · split at read
    · next mark =>
      split at read
      all_goals
        obtain ⟨⟨ds, left⟩, found, same⟩ := Option.map_eq_some_iff.mp read
        cases same
        rw [digits_value]
      · exact .minus mark (digits_iff.mp found).1
      · exact .plus mark (digits_iff.mp found).1
      · exact .bare mark (digits_iff.mp found).1
    · cases read
      exact .absent
  · cases read
    exact .absent

theorem exponent_found (exp : Exponent s exponent r) (ends : Ends r) :
    exponent? s = some (exponent, r) := by
  cases exp with
  | absent =>
    cases s with
    | nil => rfl
    | cons c rest => exact if_neg (ends.2 c rfl).2
  | bare mark digits =>
    have found := digits_iff.mpr ⟨digits, ends.1⟩
    obtain ⟨d, rest, rfl, digit⟩ := digits_head digits
    rw [exponent?, if_pos mark, found, ← digits_value]
    · rfl
    · rintro rest ⟨⟩
      cases digit
    · rintro rest ⟨⟩
      cases digit
  | plus mark digits =>
    rw [exponent?, if_pos mark, digits_iff.mpr ⟨digits, ends.1⟩, ← digits_value]
    rfl
  | minus mark digits =>
    rw [exponent?, if_pos mark, digits_iff.mpr ⟨digits, ends.1⟩, ← digits_value]
    rfl

variable {negative : Bool} {number : Number}

theorem unsigned_read (read : unsigned? negative s = some (number, r)) :
    Unsigned negative s number r := by
  obtain ⟨⟨whole, s₁⟩, first, read⟩ := Option.bind_eq_some_iff.mp read
  dsimp only at read
  split at read
  · cases read
  next noZero =>
    obtain ⟨⟨frac, s₂⟩, second, read⟩ := Option.bind_eq_some_iff.mp read
    obtain ⟨⟨exp, left⟩, third, read⟩ := Option.bind_eq_some_iff.mp read
    cases read
    have digits := (digits_iff.mp first).1
    have single : whole.length = 1 ∨ whole.head? ≠ some '0' := by
      have := List.length_pos_iff.mpr digits.nonempty
      rw [not_and_or] at noZero
      exact noZero.imp_left fun short => by omega
    rw [digits_value]
    exact .mk digits single (fraction_read second) (exponent_read third)

/-- Nothing of what begins an exponent, or follows a number without one, continues the digits before
it. -/
theorem before_exponent (exp : Exponent s exponent r) (ends : Ends r) :
    Stops s ∧ s.head? ≠ some '.' := by
  have marked {c : Char} {rest : List Char} (mark : c = 'e' ∨ c = 'E') :
      Stops (c :: rest) ∧ (c :: rest).head? ≠ some '.' := by
    obtain rfl | rfl := mark <;> exact ⟨fun _ head => by cases head; rfl, by simp⟩
  cases exp with
  | absent => exact ⟨ends.1, fun point => (ends.2 _ point).1 rfl⟩
  | bare mark => exact marked mark
  | plus mark => exact marked mark
  | minus mark => exact marked mark

theorem before_fraction (frac : Fraction s ds r) (stops : Stops r) : Stops s := by
  cases frac with
  | absent => exact stops
  | present =>
    rintro c ⟨⟩
    rfl

theorem unsigned_found (unsigned : Unsigned negative s number r) (ends : Ends r) :
    unsigned? negative s = some (number, r) := by
  obtain ⟨digits, noZero, frac, exp⟩ := unsigned
  have ⟨stopsFrac, noPoint⟩ := before_exponent exp ends
  have stopsWhole := before_fraction frac stopsFrac
  refine Option.bind_eq_some_iff.mpr ⟨_, digits_iff.mpr ⟨digits, stopsWhole⟩, ?_⟩
  have noLeading := not_and_or.mpr (noZero.imp_left (not_lt_of_ge ∘ Nat.le_of_eq))
  refine (if_neg noLeading).trans ?_
  refine Option.bind_eq_some_iff.mpr ⟨_, fraction_found frac stopsFrac noPoint, ?_⟩
  refine Option.bind_eq_some_iff.mpr ⟨_, exponent_found exp ends, ?_⟩
  rw [numberOf, ← digits_value]
  rfl

theorem number_read (read : number? s = some (number, r)) : Numeral s number r := by
  unfold number? at read
  split at read
  · exact .minus (unsigned_read read)
  · exact .plain (unsigned_read read)

/-- A number is read whole if what follows does not continue it. -/
theorem number_found (numeral : Numeral s number r) (ends : Ends r) :
    number? s = some (number, r) := by
  cases numeral with
  | plain unsigned =>
    have found := unsigned_found unsigned ends
    obtain ⟨digits, -, -, -⟩ := unsigned
    obtain ⟨d, rest, rfl, digit⟩ := digits_head digits
    rw [number?]
    · exact found
    · rintro rest ⟨⟩
      cases digit
  | minus unsigned => exact unsigned_found unsigned ends

end DomainSteward.Literals
