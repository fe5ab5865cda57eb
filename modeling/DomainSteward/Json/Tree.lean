/-!
JSON as it is written.

A `Tree` keeps what a text says before anything is made of it: members in their order, names that
repeat, numbers as exact decimals, and strings that name half a character. What a text means is
another question (`Json.ofTree?`), and readers of a fixed shape may ask it of some members only.

`Tree.parse?` accepts one value with blanks around it. Nesting has no limit here.
-/

namespace DomainSteward

/-- A number as a text gives it, exactly. -/
structure Number where
  /-- The digits, with their sign. -/
  digits : Int
  /-- The power of ten that scales the digits. -/
  exponent : Int
  /-- Whether the text was an integer literal: no fraction, no exponent, not minus zero. -/
  integral : Bool
deriving DecidableEq, Repr, Inhabited

namespace Number

/-- The integer of an integer literal. -/
def int? (n : Number) : Option Int := if n.integral then some n.digits else none

/-- An integer literal. -/
def ofInt (n : Int) : Number := ⟨n, 0, true⟩

/-- The midpoint between the largest double and the next power of two: 2¹⁰²⁴ - 2⁹⁷⁰. -/
def overflowBound : Nat := 1 <<< 1024 - 1 <<< 970

/-- Whether the number rounds to a finite double: its magnitude lies below the midpoint between
the largest double and the next power of two. -/
def isFinite (n : Number) : Bool :=
  if n.digits = 0 then true
  else if 400 < n.exponent + (Nat.log2 n.digits.natAbs : Int) / 4 then false
  else if n.exponent < 0 then
    decide ((Nat.log2 n.digits.natAbs : Int) + 3 * n.exponent < 1000) ||
      decide (n.digits.natAbs < overflowBound * Nat.pow 10 n.exponent.natAbs)
  else n.digits.natAbs * Nat.pow 10 n.exponent.natAbs < overflowBound

end Number

namespace Json

/-- A JSON text taken apart. -/
inductive Tree where
  | null
  | bool (b : Bool)
  | number (n : Number)
  /-- A string; nothing is known of one that names half a character. -/
  | text (s : Option String)
  | list (items : List Tree)
  /-- Members in the order of the text. -/
  | object (members : List (Option String × Tree))
deriving Inhabited

namespace Tree

/-! ## Strings -/

/-- A piece of a written string: a character, or the 16-bit unit of a numeric escape. -/
inductive Piece where
  | char (c : Char)
  | unit (n : Nat)

/-- The value of a hexadecimal digit. -/
def hexDigit? (c : Char) : Option Nat :=
  if '0' ≤ c ∧ c ≤ '9' then some (c.toNat - 48)
  else if 'a' ≤ c ∧ c ≤ 'f' then some (c.toNat - 87)
  else if 'A' ≤ c ∧ c ≤ 'F' then some (c.toNat - 55)
  else none

/-- The value of four hexadecimal digits. -/
def hexUnit? (a b c d : Char) : Option Nat := do
  let a ← hexDigit? a
  let b ← hexDigit? b
  let c ← hexDigit? c
  let d ← hexDigit? d
  return ((a * 16 + b) * 16 + c) * 16 + d

/-- What a backslash before a character stands for. -/
def escaped? : Char → Option Char
  | '"' => some '"'
  | '\\' => some '\\'
  | '/' => some '/'
  | 'b' => some '\x08'
  | 'f' => some '\x0c'
  | 'n' => some '\n'
  | 'r' => some '\r'
  | 't' => some '\t'
  | _ => none

/-- The pieces of a string up to its closing quote, and the text after that. Control characters
have to be escaped. -/
def pieces? : List Char → Option (List Piece × List Char)
  | [] => none
  | '"' :: rest => some ([], rest)
  | '\\' :: 'u' :: a :: b :: c :: d :: rest => do
    let unit ← hexUnit? a b c d
    let (pieces, rest) ← pieces? rest
    return (.unit unit :: pieces, rest)
  | '\\' :: c :: rest => do
    let c ← escaped? c
    let (pieces, rest) ← pieces? rest
    return (.char c :: pieces, rest)
  | c :: rest => do
    if c.toNat < 32 then none
    else
      let (pieces, rest) ← pieces? rest
      return (.char c :: pieces, rest)

/-- Joins the pieces of a string, a high unit with the low unit after it. Nothing is left of a
string in which a surrogate stands alone. -/
def assemble? : List Piece → Option (List Char)
  | [] => some []
  | .char c :: rest => (assemble? rest).map (c :: ·)
  | .unit hi :: .unit lo :: rest =>
    if 0xD800 ≤ hi ∧ hi < 0xDC00 then
      if 0xDC00 ≤ lo ∧ lo < 0xE000 then
        (assemble? rest).map
          (Char.ofNat (0x10000 + (hi - 0xD800) * 0x400 + (lo - 0xDC00)) :: ·)
      else none
    else if 0xDC00 ≤ hi ∧ hi < 0xE000 then none
    else (assemble? (.unit lo :: rest)).map (Char.ofNat hi :: ·)
  | .unit n :: rest =>
    if 0xD800 ≤ n ∧ n < 0xE000 then none
    else (assemble? rest).map (Char.ofNat n :: ·)

/-- The string after an opening quote. -/
def string? (s : List Char) : Option (Option String × List Char) := do
  let (pieces, rest) ← pieces? s
  return ((assemble? pieces).map String.ofList, rest)

/-! ## Numbers -/

/-- The value of a run of decimal digits. -/
def digitsValue (ds : List Char) : Nat := ds.foldl (fun n c => n * 10 + (c.toNat - 48)) 0

/-- A run of at least one digit, and the text after it. -/
def digits? (s : List Char) : Option (List Char × List Char) :=
  match s.span Char.isDigit with
  | ([], _) => none
  | (ds, rest) => some (ds, rest)

/-- The fraction part of a number, if there is one. -/
def fraction? : List Char → Option (List Char × List Char)
  | '.' :: rest => digits? rest
  | rest => some ([], rest)

/-- The exponent part of a number, if there is one. -/
def exponent? : List Char → Option (Option Int × List Char)
  | c :: rest =>
    if c = 'e' ∨ c = 'E' then
      match rest with
      | '-' :: rest => (digits? rest).map (fun (ds, rest) => (some (-(digitsValue ds : Int)), rest))
      | '+' :: rest => (digits? rest).map (fun (ds, rest) => (some (digitsValue ds : Int), rest))
      | rest => (digits? rest).map (fun (ds, rest) => (some (digitsValue ds : Int), rest))
    else some (none, c :: rest)
  | [] => some (none, [])

/-- A number without its sign. A leading zero stands alone. -/
def unsigned? (negative : Bool) (s : List Char) : Option (Number × List Char) := do
  let (whole, rest) ← digits? s
  if whole.length > 1 ∧ whole.head? = some '0' then none
  else
    let (frac, rest) ← fraction? rest
    let (exp, rest) ← exponent? rest
    let value : Int := digitsValue (whole ++ frac)
    return (⟨if negative then -value else value, exp.getD 0 - frac.length,
      frac.isEmpty && exp.isNone && !(negative && value == 0)⟩, rest)

/-- A number, with or without a minus sign. -/
def number? : List Char → Option (Number × List Char)
  | '-' :: rest => unsigned? true rest
  | s => unsigned? false s

/-! ## Values -/

/-- The blanks of JSON. -/
def isBlank (c : Char) : Bool := c = ' ' || c = '\n' || c = '\t' || c = '\r'

/-- The text after its leading blanks. -/
def skipBlanks (s : List Char) : List Char := s.dropWhile isBlank

/-- The text after a word that it starts with. -/
def expect? : List Char → List Char → Option (List Char)
  | [], rest => some rest
  | w :: word, c :: rest => if w = c then expect? word rest else none
  | _ :: _, [] => none

mutual

/-- A value at the start of a text, blanks skipped, and the text after it. -/
def value? : Nat → List Char → Option (Tree × List Char)
  | 0, _ => none
  | fuel + 1, s =>
    match skipBlanks s with
    | 'n' :: rest => (expect? ['u', 'l', 'l'] rest).map (.null, ·)
    | 't' :: rest => (expect? ['r', 'u', 'e'] rest).map (.bool true, ·)
    | 'f' :: rest => (expect? ['a', 'l', 's', 'e'] rest).map (.bool false, ·)
    | '"' :: rest => (string? rest).map (fun (s, rest) => (.text s, rest))
    | '[' :: rest =>
      match skipBlanks rest with
      | ']' :: rest => some (.list [], rest)
      | rest => (items? fuel rest).map (fun (items, rest) => (.list items, rest))
    | '{' :: rest =>
      match skipBlanks rest with
      | '}' :: rest => some (.object [], rest)
      | rest => (members? fuel rest).map (fun (members, rest) => (.object members, rest))
    | rest => (number? rest).map (fun (n, rest) => (.number n, rest))

/-- The items of an array up to its closing bracket; there is at least one. -/
def items? : Nat → List Char → Option (List Tree × List Char)
  | 0, _ => none
  | fuel + 1, s => do
    let (item, rest) ← value? fuel s
    match skipBlanks rest with
    | ']' :: rest => some ([item], rest)
    | ',' :: rest => (items? fuel rest).map (fun (items, rest) => (item :: items, rest))
    | _ => none

/-- The members of an object up to its closing brace; there is at least one. -/
def members? : Nat → List Char → Option (List (Option String × Tree) × List Char)
  | 0, _ => none
  | fuel + 1, s =>
    match skipBlanks s with
    | '"' :: rest => do
      let (name, rest) ← string? rest
      match skipBlanks rest with
      | ':' :: rest =>
        let (value, rest) ← value? fuel rest
        match skipBlanks rest with
        | '}' :: rest => some ([(name, value)], rest)
        | ',' :: rest =>
          (members? fuel rest).map (fun (members, rest) => ((name, value) :: members, rest))
        | _ => none
      | _ => none
    | _ => none

end

/-- The tree of a text that holds one value and blanks around it. Every value, item and member
takes at least one character, so the text's length bounds the calls. -/
def parse? (s : String) : Option Tree :=
  let chars := s.toList
  match value? (chars.length + 1) chars with
  | some (tree, rest) => if (skipBlanks rest).isEmpty then some tree else none
  | none => none

end Tree

end Json

end DomainSteward
