import DomainSteward.Json.Tree

/-! JSON as a grammar. Each relation says which texts write something and what is left of the text
after it. The grammar says nothing of how a text is read: blanks may stand wherever they may, a
character has all the forms it may be written in, and a string with half a character in it is well
formed but no text. -/
namespace DomainSteward.Grammar
open Json Tree

/-! ## Blanks -/

def blanks : List Char := [' ', '\t', '\n', '\r']

/-- Any number of blanks. -/
inductive Blanks : List Char → List Char → Prop where
  | nil : Blanks r r
  | cons (blank : c ∈ blanks) (more : Blanks s r) : Blanks (c :: s) r

/-! ## Strings -/

/-- What stands for a character after a backslash. -/
def shortEscapes : List (Char × Char) :=
  [('"', '"'), ('\\', '\\'), ('/', '/'), ('b', '\x08'), ('f', '\x0c'), ('n', '\n'), ('r', '\r'),
    ('t', '\t')]

/-- The digits of numeric escapes, and what they count. -/
def hexDigits : List (Char × Nat) :=
  [('0', 0), ('1', 1), ('2', 2), ('3', 3), ('4', 4), ('5', 5), ('6', 6), ('7', 7), ('8', 8),
    ('9', 9), ('a', 10), ('b', 11), ('c', 12), ('d', 13), ('e', 14), ('f', 15), ('A', 10),
    ('B', 11), ('C', 12), ('D', 13), ('E', 14), ('F', 15)]

/-- A piece of a string. -/
inductive Writes : List Char → Piece → List Char → Prop where
  | plain (noQuote : c ≠ '"') (noBackslash : c ≠ '\\') (noControl : 32 ≤ c.toNat) :
      Writes (c :: r) (.char c) r
  | short (stands : (letter, c) ∈ shortEscapes) : Writes ('\\' :: letter :: r) (.char c) r
  | hex (first : (a, i) ∈ hexDigits) (second : (b, j) ∈ hexDigits)
      (third : (c, k) ∈ hexDigits) (fourth : (d, l) ∈ hexDigits) :
      Writes ('\\' :: 'u' :: a :: b :: c :: d :: r) (.unit (((i * 16 + j) * 16 + k) * 16 + l)) r

inductive Pieces : List Char → List Piece → List Char → Prop where
  | nil : Pieces r [] r
  | cons (first : Writes s piece s₁) (more : Pieces s₁ pieces r) : Pieces s (piece :: pieces) r

/-- A character: by itself or after a backslash, by its number, or by the two halves of its
number. -/
inductive Letter : List Char → Char → List Char → Prop where
  | char (piece : Writes s (.char c) r) : Letter s c r
  | unit (piece : Writes s (.unit c.toNat) r) : Letter s c r
  | pair (first : Writes s (.unit high) s₁) (second : Writes s₁ (.unit low) r)
      (isHigh : 0xD800 ≤ high ∧ high < 0xDC00) (isLow : 0xDC00 ≤ low ∧ low < 0xE000)
      (number : c.toNat = 0x10000 + (high - 0xD800) * 0x400 + (low - 0xDC00)) : Letter s c r

inductive Letters : List Char → List Char → List Char → Prop where
  | nil : Letters r [] r
  | cons (first : Letter s c s₁) (more : Letters s₁ cs r) : Letters s (c :: cs) r

/-- A string after its opening quote: a text, or well formed and no text. -/
inductive Quoted : List Char → Option String → List Char → Prop where
  | whole (letters : Letters s cs ('"' :: r)) : Quoted s (some (String.ofList cs)) r
  | broken (formed : Pieces s pieces ('"' :: r))
      (halved : ∀ cs, ¬ Letters s cs ('"' :: r)) : Quoted s none r

/-! ## Numbers -/

/-- Digits, at least one. -/
structure Digits (s ds r : List Char) : Prop where
  text : s = ds ++ r
  nonempty : ds ≠ []
  digits : ∀ d ∈ ds, d.isDigit = true

inductive Fraction : List Char → List Char → List Char → Prop where
  | absent : Fraction r [] r
  | present (digits : Digits s ds r) : Fraction ('.' :: s) ds r

inductive Exponent : List Char → Option Int → List Char → Prop where
  | absent : Exponent r none r
  | bare (mark : c = 'e' ∨ c = 'E') (digits : Digits s ds r) :
      Exponent (c :: s) (some (Nat.ofDigitChars 10 ds 0)) r
  | plus (mark : c = 'e' ∨ c = 'E') (digits : Digits s ds r) :
      Exponent (c :: '+' :: s) (some (Nat.ofDigitChars 10 ds 0)) r
  | minus (mark : c = 'e' ∨ c = 'E') (digits : Digits s ds r) :
      Exponent (c :: '-' :: s) (some (-(Nat.ofDigitChars 10 ds 0 : Int))) r

/-- The number that a sign, the digits before and after the point and an exponent make. Only without
point, exponent and a sign of zero is it an integer. -/
def numberOf (negative : Bool) (whole fraction : List Char) (exponent : Option Int) : Number :=
  let magnitude : Int := Nat.ofDigitChars 10 (whole ++ fraction) 0
  { digits := if negative then -magnitude else magnitude
    exponent := exponent.getD 0 - fraction.length
    integral := fraction.isEmpty && exponent.isNone && !(negative && magnitude == 0) }

/-- A number after its sign. A zero in front stands alone. -/
inductive Unsigned (negative : Bool) : List Char → Number → List Char → Prop where
  | mk (digits : Digits s whole s₁)
      (noZero : whole.length = 1 ∨ whole.head? ≠ some '0') (frac : Fraction s₁ fraction s₂)
      (exp : Exponent s₂ exponent r) :
      Unsigned negative s (numberOf negative whole fraction exponent) r

inductive Numeral : List Char → Number → List Char → Prop where
  | plain (number : Unsigned false s n r) : Numeral s n r
  | minus (number : Unsigned true s n r) : Numeral ('-' :: s) n r

/-! ## Values -/

/-- A name among blanks. -/
inductive Name : List Char → Option String → List Char → Prop where
  | mk (before : Blanks s ('"' :: s₁)) (string : Quoted s₁ name s₂) (after : Blanks s₂ r) :
      Name s name r

mutual

inductive Value : List Char → Tree → List Char → Prop where
  | null : Value ('n' :: 'u' :: 'l' :: 'l' :: r) .null r
  | yes : Value ('t' :: 'r' :: 'u' :: 'e' :: r) (.bool true) r
  | no : Value ('f' :: 'a' :: 'l' :: 's' :: 'e' :: r) (.bool false) r
  | number (numeral : Numeral s n r) : Value s (.number n) r
  | text (quoted : Quoted s string r) : Value ('"' :: s) (.text string) r
  | emptyList (close : Blanks s (']' :: r)) : Value ('[' :: s) (.list []) r
  | list (rest : Items s items r) : Value ('[' :: s) (.list items) r
  | emptyObject (close : Blanks s ('}' :: r)) : Value ('{' :: s) (.object []) r
  | object (rest : Members s members r) : Value ('{' :: s) (.object members) r

/-- A value among blanks. -/
inductive Element : List Char → Tree → List Char → Prop where
  | mk (before : Blanks s s₁) (core : Value s₁ value s₂) (after : Blanks s₂ r) : Element s value r

/-- The items of an array and its closing bracket. -/
inductive Items : List Char → List Tree → List Char → Prop where
  | last (element : Element s item (']' :: r)) : Items s [item] r
  | more (element : Element s item (',' :: s₁)) (rest : Items s₁ items r) :
      Items s (item :: items) r

/-- The members of an object and its closing brace. -/
inductive Members : List Char → List (Option String × Tree) → List Char → Prop where
  | last (key : Name s name (':' :: s₁)) (element : Element s₁ value ('}' :: r)) :
      Members s [(name, value)] r
  | more (key : Name s name (':' :: s₁)) (element : Element s₁ value (',' :: s₂))
      (rest : Members s₂ members r) : Members s ((name, value) :: members) r

end

/-- A whole text writes a tree. -/
def Spells (text : String) (tree : Tree) : Prop := Element text.toList tree []

end DomainSteward.Grammar
