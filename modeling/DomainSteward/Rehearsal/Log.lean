import DomainSteward.Call.Detail
import DomainSteward.Chain.World

/-!
The log of a rehearsal.

Every note becomes an entry with its time. Where the order of what happens at one moment is of no
account, the entries are sorted by time and by who acted.
-/

namespace DomainSteward

namespace Note

/-- Who acted, or on what. -/
def actor : Note → String
  | .call r => r.name?.getD ""
  | .event (.podCycleStarting server _) => server
  | .event (.failed _ message) => message
  | .event _ => ""
  | .condition _ _ message => message
  | .remark author _ => author

/-- The fields of the entry. -/
def fields (bodies : Bool) : Note → List (String × Json)
  | .call r => [("call", .text r.describe)] ++ r.operation.fields bodies
  | .event e => [("event", .text e.reason), ("note", .text e.note)]
  | .condition own reason message =>
    [(if own then "own_condition" else "condition", .list [.text reason, .text message])]
  | .remark _ fields => fields

end Note

/-- Whether an entry may stand before another one. -/
def entryLe (a b : Nat × Note) : Bool :=
  decide (a.1 < b.1) || (a.1 = b.1 && decide (a.2.actor ≤ b.2.actor))

/-- The entries from a position on, earliest first, sorted or as they came. -/
def World.log (w : World) (sorted bodies : Bool) (start : Nat := 0) : List Json :=
  let notes := w.notes.reverse.drop start
  let notes := if sorted then notes.mergeSort entryLe else notes
  notes.map (fun (time, note) =>
    .object ([("t", Json.ofInt time)] ++ note.fields bodies))

end DomainSteward
