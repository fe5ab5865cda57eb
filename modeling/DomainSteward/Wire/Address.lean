/-!
Addresses of what the API serves.

An address has a path and a query. A name is put into a path as it is, so one that holds a question
mark ends the path, one that holds a number sign ends the address, and some characters make no
address at all. In a query every byte but letters, digits and `*`, `-`, `.`, `_` is escaped, and a
plus sign stands for a blank.
-/

namespace DomainSteward

structure Address where
  path : String
  query : List (String × String)
deriving DecidableEq, Repr, Inhabited

namespace Address

/-! ## Escapes -/

/-- A hexadecimal digit. -/
def hexDigit (n : Nat) : Char := if n < 10 then Char.ofNat (48 + n) else Char.ofNat (55 + n)

/-- The value of a hexadecimal digit. -/
def hexValue? (c : Char) : Option Nat :=
  if c.isDigit then some (c.toNat - 48)
  else if 'a' ≤ c ∧ c ≤ 'f' then some (c.toNat - 87)
  else if 'A' ≤ c ∧ c ≤ 'F' then some (c.toNat - 55)
  else none

/-- Whether a byte stands for itself in a query. -/
def isPlain (b : UInt8) : Bool :=
  let c := Char.ofNat b.toNat
  decide (b < 128) && (c.isAlphanum || c = '*' || c = '-' || c = '.' || c = '_')

/-- A byte as a query has it. -/
def escapeByte (b : UInt8) : List Char :=
  if isPlain b then [Char.ofNat b.toNat]
  else if b = 32 then ['+']
  else ['%', hexDigit (b.toNat / 16), hexDigit (b.toNat % 16)]

/-- A text as a query has it. -/
def escape (s : String) : List Char := s.toUTF8.data.toList.flatMap escapeByte

/-- The bytes that a part of a query stands for. -/
def unescapeBytes : List Char → List UInt8
  | [] => []
  | '+' :: rest => 32 :: unescapeBytes rest
  | '%' :: a :: b :: rest =>
    match hexValue? a, hexValue? b with
    | some x, some y => UInt8.ofNat (x * 16 + y) :: unescapeBytes rest
    | _, _ => 37 :: unescapeBytes (a :: b :: rest)
  | c :: rest => (String.singleton c).toUTF8.data.toList ++ unescapeBytes rest

/-- The text that a part of a query stands for; bytes that make no text are kept one by one. -/
def unescape (cs : List Char) : String :=
  let bytes := unescapeBytes cs
  (String.fromUTF8? ⟨bytes.toArray⟩).getD
    (String.ofList (bytes.map (fun b => if b < 128 then Char.ofNat b.toNat else '\uFFFD')))

/-! ## Reading and writing -/

/-- A pair of a name and a value as a query has it. -/
def escapePair (pair : String × String) : List Char := escape pair.1 ++ '=' :: escape pair.2

/-- Several pairs as a query has them. -/
def escapePairs (pairs : List (String × String)) : List Char :=
  (List.intersperse ['&'] (pairs.map escapePair)).flatten

/-- The pair that a part of a query stands for. -/
def readPair (cs : List Char) : String × String :=
  (unescape (cs.takeWhile (· ≠ '=')), unescape ((cs.dropWhile (· ≠ '=')).drop 1))

/-- The pairs of a query. -/
def readPairs (cs : List Char) : List (String × String) :=
  ((cs.splitOn '&').filter (fun part => !part.isEmpty)).map readPair

/-- Whether a character may stand in a path. -/
def inPath (c : Char) : Bool :=
  decide ('\x7f' ≤ c) ||
    (decide (' ' < c) && c ≠ '<' && c ≠ '>' && c ≠ '\x60')

/-- Whether a character may stand in a query. -/
def inQuery (c : Char) : Bool :=
  decide (' ' < c) && c ≠ '"' && c ≠ '<' && c ≠ '>'

/-- The address that a text gives. -/
def parse? (text : List Char) : Option Address :=
  let text := text.takeWhile (· ≠ '#')
  let path := text.takeWhile (· ≠ '?')
  let query := (text.dropWhile (· ≠ '?')).drop 1
  if path.all inPath && query.all inQuery then
    some { path := String.ofList path, query := readPairs query }
  else none

/-- The address of a place, asked with some pairs. -/
def of? (place : String) (pairs : List (String × String) := []) : Option Address :=
  parse? (place.toList ++ (if pairs.isEmpty then [] else '?' :: escapePairs pairs))

end Address

end DomainSteward
