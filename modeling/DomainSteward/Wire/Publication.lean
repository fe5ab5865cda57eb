import DomainSteward.Domain.Basic
import DomainSteward.Report.Event
import DomainSteward.Wire.Address
import DomainSteward.Wire.Http

/-!
Publishing events of a domain.

An event that is published for the first time is made; when one of the same type, action and reason
follows, the first one is counted up instead, under its own note.
-/

namespace DomainSteward

structure EventSubject where
  name : Option String
  namespaceName : Option String
  uid : Option String
deriving DecidableEq, Repr, Inhabited

def EventSubject.ofDomain (d : Domain) : EventSubject :=
  ⟨d.metadata.name, d.metadata.namespaceName, d.metadata.uid⟩

/-- A subject as a value. -/
def EventSubject.write (s : EventSubject) : Json :=
  .object
    ([("apiVersion", .text Resource.domain.apiVersion), ("kind", .text Resource.domain.kind)] ++
      Json.field? "name" .text s.name ++ Json.field? "namespace" .text s.namespaceName ++
      Json.field? "uid" .text s.uid)

def reporter : String := "domain-operator"

/-- Events as the API keeps them. -/
def Resource.event : Resource := ⟨"events.k8s.io", "v1", "Event", "events"⟩

/-- A request that publishes an event. -/
structure Publication where
  /-- Where events of the namespace are kept. -/
  place : String
  event : DomainEvent
  /-- How often the event has happened by now, if more than once. -/
  count : Option Nat
deriving Repr, Inhabited

namespace Publication

/-- How the event is published: made, or changed. -/
def method (p : Publication) : String := if p.count.isSome then "PATCH" else "POST"

def typeOf (e : DomainEvent) : String := if e.isWarning then "Warning" else "Normal"

/-- Whether two events count as the same. -/
def isSame (a b : DomainEvent) : Bool :=
  typeOf a = typeOf b && a.action = b.action && a.reason = b.reason

/-- Where events about a subject are kept. -/
def placeOf (s : EventSubject) : String :=
  Resource.event.collection (some (s.namespaceName.getD "default"))

/-- The place of an event that has been made; its name goes on after that of its subject. -/
def madePlace (s : EventSubject) : String := placeOf s ++ "/" ++ s.name.getD reporter ++ ".0"

/-- Publishes an event after the ones that were published before, if the address can be written. -/
def next (s : EventSubject) (before : List Publication) (e : DomainEvent) : Option Publication :=
  match before.reverse.find? (fun p => isSame p.event e) with
  | some p =>
    (Address.of? (madePlace s)).map (fun _ =>
      { place := placeOf s, event := p.event, count := some (p.count.getD 1 + 1) })
  | none =>
    (Address.of? (placeOf s)).map (fun _ => { place := placeOf s, event := e, count := none })

/-- Publishes events one after another. What is refused is as if it had not been published. -/
def run (s : EventSubject) (accepted : Bool) :
    List Publication → List DomainEvent → List Publication
  | _, [] => []
  | before, e :: rest =>
    match next s before e with
    | some p => p :: run s accepted (if accepted then before ++ [p] else before) rest
    | none => run s accepted before rest

end Publication

end DomainSteward
