/-!
Written instants of API objects.

A `Stamp` is a text of the form `2026-01-01T00:00:00Z` that names a date of the calendar and a
time of day.
-/

namespace DomainSteward

/-- The value of a run of ASCII digits. -/
def stampDigits? (cs : List Char) : Option Nat :=
  if cs.all Char.isDigit then some (cs.foldl (fun n c => n * 10 + (c.toNat - 48)) 0) else none

def daysInMonth (year month : Nat) : Nat :=
  if month = 2 then
    if year % 4 = 0 ∧ (year % 100 ≠ 0 ∨ year % 400 = 0) then 29 else 28
  else if month = 4 ∨ month = 6 ∨ month = 9 ∨ month = 11 then 30
  else 31

/-- Whether the characters name an instant to the second, in universal time. -/
def isStampText : List Char → Bool
  | [y1, y2, y3, y4, '-', m1, m2, '-', d1, d2, 'T', h1, h2, ':', n1, n2, ':', s1, s2, 'Z'] =>
    match stampDigits? [y1, y2, y3, y4], stampDigits? [m1, m2], stampDigits? [d1, d2],
      stampDigits? [h1, h2], stampDigits? [n1, n2], stampDigits? [s1, s2] with
    | some year, some month, some day, some hour, some minute, some second =>
      1 ≤ month && month ≤ 12 && 1 ≤ day && day ≤ daysInMonth year month &&
        hour < 24 && minute < 60 && second ≤ 60
    | _, _, _, _, _, _ => false
  | _ => false

/-- A text that names an instant. -/
structure Stamp where
  text : String
  valid : isStampText text.toList = true
deriving DecidableEq

/-- The stamp of a text that names an instant. -/
def Stamp.ofText? (s : String) : Option Stamp :=
  if h : isStampText s.toList = true then some ⟨s, h⟩ else none

end DomainSteward
