import DomainSteward.Json.Tree

/-!
JSON values.

A value is what a written tree means: strings are whole, numbers fit a double, nesting stays
within 127 levels, and of two members of one name the later counts. `Json.parse?` reads a text and
`Json.render` writes one.
-/

namespace DomainSteward

/-- A JSON value. The order of members carries no meaning and names do not repeat. -/
inductive Json where
  | null
  | bool (b : Bool)
  | number (n : Number)
  | text (s : String)
  | list (items : List Json)
  | object (fields : List (String × Json))
deriving Inhabited

namespace Json

/-! ## Looking at values -/

/-- The value of the first field that has the name. -/
def fieldOf (name : String) : List (String × Json) → Option Json
  | [] => none
  | (key, value) :: rest => if key = name then some value else fieldOf name rest

/-- Sets a field: in its old place if the name is there, else at the end. -/
def setField (name : String) (value : Json) : List (String × Json) → List (String × Json)
  | [] => [(name, value)]
  | (key, old) :: rest =>
    if key = name then (key, value) :: rest else (key, old) :: setField name value rest

/-- Leaves no field of the name. -/
def dropField (name : String) (fields : List (String × Json)) : List (String × Json) :=
  fields.filter (fun f => f.1 != name)

def object? : Json → Option (List (String × Json))
  | .object fields => some fields
  | _ => none

/-- The items of an array. -/
def list? : Json → Option (List Json)
  | .list items => some items
  | _ => none

/-- The characters of a string. -/
def text? : Json → Option String
  | .text s => some s
  | _ => none

/-- The truth value of a boolean. -/
def bool? : Json → Option Bool
  | .bool b => some b
  | _ => none

/-- The integer of an integer literal. -/
def int? : Json → Option Int
  | .number n => n.int?
  | _ => none

/-- Whether the value is `null`. -/
def isNull : Json → Bool
  | .null => true
  | _ => false

/-- A field of an object; what is not an object has none. -/
def get? (j : Json) (name : String) : Option Json := j.object?.bind (fieldOf name)

/-- An integer as a value. -/
def ofInt (n : Int) : Json := .number (Number.ofInt n)

/-- A value or `null`. -/
def ofOption : Option Json → Json
  | some j => j
  | none => .null

/-- A string or `null`. -/
def ofText? (s : Option String) : Json := ofOption (s.map .text)

/-! ## From written trees -/

/-- Integers that fit 64 bits, with or without sign, stay integers; larger ones become decimals. -/
def settle (n : Number) : Number :=
  if n.integral && decide (-9223372036854775808 ≤ n.digits) &&
      decide (n.digits < UInt64.size) then n
  else { n with integral := false }

mutual

/-- The meaning of a tree within a number of further levels of nesting. -/
def ofTree : Nat → Tree → Option Json
  | _, .null => some .null
  | _, .bool b => some (.bool b)
  | _, .number n => if n.isFinite then some (.number (settle n)) else none
  | _, .text s => s.map .text
  | 0, .list _ => none
  | depth + 1, .list items => (ofTrees depth items).map .list
  | 0, .object _ => none
  | depth + 1, .object members => (ofMembers depth members []).map .object

/-- The meaning of the items of an array. -/
def ofTrees : Nat → List Tree → Option (List Json)
  | _, [] => some []
  | depth, item :: rest => do
    let item ← ofTree depth item
    let rest ← ofTrees depth rest
    return item :: rest

/-- The meaning of the members of an object, put into the fields before them. -/
def ofMembers : Nat → List (Option String × Tree) → List (String × Json) →
    Option (List (String × Json))
  | _, [], fields => some fields
  | depth, (name, value) :: rest, fields => do
    let name ← name
    let value ← ofTree depth value
    ofMembers depth rest (setField name value fields)

end

/-- The deepest nesting that a value may have. -/
def maxDepth : Nat := 127

/-- The meaning of a tree. -/
def ofTree? (tree : Tree) : Option Json := ofTree maxDepth tree

/-- The value that a text writes. -/
def parse? (s : String) : Option Json := (Tree.parse? s).bind ofTree?

/-! ## Writing -/

/-- A hexadecimal digit. -/
def hexDigit (n : Nat) : Char := if n < 10 then Char.ofNat (48 + n) else Char.ofNat (87 + n)

/-- A character within a written string. -/
def escapeChar (c : Char) : List Char :=
  if c = '"' then ['\\', '"']
  else if c = '\\' then ['\\', '\\']
  else if c = '\n' then ['\\', 'n']
  else if c = '\r' then ['\\', 'r']
  else if c = '\t' then ['\\', 't']
  else if c = '\x08' then ['\\', 'b']
  else if c = '\x0c' then ['\\', 'f']
  else if c.toNat < 32 then ['\\', 'u', '0', '0', hexDigit (c.toNat / 16), hexDigit (c.toNat % 16)]
  else [c]

/-- A string between quotes, its quotes, backslashes and control characters escaped. -/
def renderText (s : String) : List Char :=
  '"' :: (s.toList.flatMap escapeChar ++ ['"'])

/-- The decimal digits of an integer. -/
def renderInt (n : Int) : List Char :=
  if n < 0 then '-' :: Nat.toDigits 10 n.natAbs else Nat.toDigits 10 n.natAbs

/-- The magnitude of a decimal, whose digits keep no zeros at their end. It is positional with at
most sixteen places before the point, or at most four zeros after it, and else has an exponent. -/
def renderDecimal (n : Number) : List Char :=
  let digits := Nat.toDigits 10 n.digits.natAbs
  let kept := (digits.reverse.dropWhile (· = '0')).reverse
  let exponent := n.exponent + (digits.length - kept.length : Nat)
  let point := kept.length + exponent
  match kept with
  | [] => ['0', '.', '0']
  | first :: rest =>
    if 0 ≤ exponent ∧ point ≤ 16 then kept ++ List.replicate exponent.toNat '0' ++ ['.', '0']
    else if 0 < point ∧ point ≤ 16 then kept.take point.toNat ++ ('.' :: kept.drop point.toNat)
    else if -5 < point ∧ point ≤ 0 then '0' :: '.' :: (List.replicate (-point).toNat '0' ++ kept)
    else
      first :: (if rest.isEmpty then [] else '.' :: rest) ++ ('e' :: renderInt (point - 1))

/-- A number: an integer by its digits, any other as a decimal. -/
def renderNumber (n : Number) : List Char :=
  if n.integral then renderInt n.digits
  else if n.digits < 0 then '-' :: renderDecimal n
  else renderDecimal n

mutual

/-- The characters of a value, without blanks. -/
def chars : Json → List Char
  | .null => ['n', 'u', 'l', 'l']
  | .bool true => ['t', 'r', 'u', 'e']
  | .bool false => ['f', 'a', 'l', 's', 'e']
  | .number n => renderNumber n
  | .text s => renderText s
  | .list items => '[' :: itemChars items
  | .object fields => '{' :: fieldChars fields

/-- The rest of an array after its opening bracket. -/
def itemChars : List Json → List Char
  | [] => [']']
  | [item] => item.chars ++ [']']
  | item :: rest => item.chars ++ (',' :: itemChars rest)

/-- The rest of an object after its opening brace. -/
def fieldChars : List (String × Json) → List Char
  | [] => ['}']
  | [(name, value)] => renderText name ++ (':' :: (value.chars ++ ['}']))
  | (name, value) :: rest => renderText name ++ (':' :: (value.chars ++ (',' :: fieldChars rest)))

end

/-- The text of a value, without blanks. -/
def render (j : Json) : String := String.ofList j.chars

end Json

end DomainSteward
