/-!
Events that the operator reports about a domain.
-/

namespace DomainSteward

/-- Something worth telling about a domain. -/
inductive DomainEvent where
  | rollStarting (message : String)
  | rollCompleted
  /-- The pod of a server is replaced. -/
  | podCycleStarting (server reason : String)
  | failed (reason message : String)
deriving DecidableEq, Repr, Inhabited

namespace DomainEvent

/-- The reason of the event, in one word. -/
def reason : DomainEvent → String
  | .rollStarting _ => "DomainRollStarting"
  | .rollCompleted => "DomainRollCompleted"
  | .podCycleStarting .. => "PodCycleStarting"
  | .failed .. => "DomainFailed"

/-- The event in words. -/
def note : DomainEvent → String
  | .rollStarting message => message
  | .rollCompleted => "Rolling restart of the domain completed"
  | .podCycleStarting server reason => "Replacing pod of server " ++ server ++ ": " ++ reason
  | .failed reason message => reason ++ ": " ++ message

def isWarning : DomainEvent → Bool
  | .failed .. => true
  | _ => false

/-- What the operator was doing. -/
def action : DomainEvent → String
  | .rollStarting _ => "Rolling"
  | .rollCompleted => "Rolling"
  | .podCycleStarting .. => "Restarting"
  | .failed .. => "Reconciling"

end DomainEvent

end DomainSteward
