import DomainSteward.Call.Response
import DomainSteward.Domain.Topology
import DomainSteward.Presence.Registry
import DomainSteward.Text.Quoted

/-!
What a fiber carries along.

A `Packet` has values under names, each of one of a few types, and components of which there is at
most one of each type. Reading a value as another type than it has gives nothing; removing it so
removes it all the same. A copy shares nothing that could change: presences and retry budgets are
held by number.
-/

namespace DomainSteward

/-- Tells one exchange of request and response from another. -/
inductive ExchangeId where
  | listPods
  | deletePod (server : String)
  | createPod (server : String)
  | patchStatus
  | readDomain
  /-- An exchange of somebody else's, by a number of theirs. -/
  | numbered (n : Nat)
  /-- An exchange that nobody takes part in. -/
  | foreign
deriving DecidableEq, Repr, Inhabited

/-- The number under which a retry budget is held. -/
abbrev BudgetId := Nat

/-- A value under a name. -/
inductive PacketValue where
  | text (s : String)
  | integer (n : Int64)
  | flag (b : Bool)
  /-- The request in flight. -/
  | exchange (id : ExchangeId)
  | response (r : Response)
  | failure (e : FiberError)
  | topology (t : Topology)
deriving Inhabited

namespace PacketValue

def text? : PacketValue → Option String
  | .text s => some s
  | _ => none

def integer? : PacketValue → Option Int64
  | .integer n => some n
  | _ => none

/-- A truth value. -/
def flag? : PacketValue → Option Bool
  | .flag b => some b
  | _ => none

/-- A request in flight. -/
def exchange? : PacketValue → Option ExchangeId
  | .exchange id => some id
  | _ => none

def response? : PacketValue → Option Response
  | .response r => some r
  | _ => none

def failure? : PacketValue → Option FiberError
  | .failure e => some e
  | _ => none

def topology? : PacketValue → Option Topology
  | .topology t => some t
  | _ => none

end PacketValue

/-- What a fiber carries along. -/
structure Packet where
  values : NameMap PacketValue := {}
  /-- The presence of the domain that the fiber works for. -/
  presence : Option PresenceId := none
  /-- The retry budget of the exchange under way. -/
  budget : Option BudgetId := none
  /-- Components of other types, by the names of their types. -/
  tokens : NameMap String := {}
deriving Inhabited

namespace Packet

/-- The name of the continue token of a list. -/
def continueKey : String := "continue"

/-- The name of the request in flight. -/
def requestKey : String := "request"

/-- The name of the response that has not been handled yet. -/
def responseKey : String := "response"

/-- The name of the failure that ended the fiber. -/
def failureKey : String := "failure"

/-- The name of the server that a restart chain works on. -/
def serverKey : String := "serverName"

/-- The name of the cluster of that server. -/
def clusterKey : String := "clusterName"

/-- The name of the topology of the domain. -/
def topologyKey : String := "domainTopology"

/-- The name of the mark that a roll has been announced. -/
def rollMarkKey : String := "rollStartEventGenerated"

/-- The value under a name, whatever its type. -/
def value? (p : Packet) (key : String) : Option PacketValue := p.values.get? key

/-- Whether there is a value under the name. -/
def contains (p : Packet) (key : String) : Bool := p.values.contains key

/-- Sets the value under a name. -/
def put (p : Packet) (key : String) (value : PacketValue) : Packet :=
  { p with values := p.values.insert key value }

/-- Leaves no value under the name. -/
def remove (p : Packet) (key : String) : Packet := { p with values := p.values.erase key }

/-- The text under a name. -/
def text? (p : Packet) (key : String) : Option String := (p.value? key).bind (·.text?)

/-- The integer under a name. -/
def integer? (p : Packet) (key : String) : Option Int64 := (p.value? key).bind (·.integer?)

/-- The topology of the domain. -/
def topology? (p : Packet) : Option Topology := (p.value? topologyKey).bind (·.topology?)

/-- The failure that ended the fiber. -/
def failure? (p : Packet) : Option FiberError := (p.value? failureKey).bind (·.failure?)

def componentCount (p : Packet) : Nat :=
  (if p.presence.isSome then 1 else 0) + (if p.budget.isSome then 1 else 0) + p.tokens.size

/-- The packet for logs: the names of its values and the number of its components. -/
def text (p : Packet) : String :=
  "Packet \x7b keys: [" ++ String.intercalate ", " (p.values.keys.map Text.quote) ++
    "], components: " ++ toString p.componentCount ++ " \x7d"

end Packet

end DomainSteward
