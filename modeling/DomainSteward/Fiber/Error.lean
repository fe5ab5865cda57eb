/-!
How a fiber can fail.

A fiber that forked others fails with all their failures, so a failure is a tree.
-/

namespace DomainSteward

/-- The failure that ended a fiber. -/
inductive FiberError where
  /-- A call to the API failed for good; without a status if no answer came. -/
  | api (status : Option UInt16) (reason message : String)
  /-- The API refused the operator's credentials. -/
  | notAuthorized (status : UInt16) (message : String)
  | panicked (step message : String)
  /-- Forked fibers failed, in the order of the fork. -/
  | childrenFailed (children : List FiberError)
  /-- The packet lacks something that a step needs. -/
  | missingComponent (name : String)
  | invalidState (what : String)
  /-- The operator is stopping. -/
  | cancelled
deriving Inhabited, Repr

namespace FiberError

/-- The wording of a failure. That of a fork names the number of fibers and the first failure. -/
def message : FiberError → String
  | .api _ reason message => "Kubernetes API failure (" ++ reason ++ "): " ++ message
  | .notAuthorized status message =>
    "Not authorized (" ++ toString status.toNat ++ "): " ++ message
  | .panicked step message => "Step " ++ step ++ " panicked: " ++ message
  | .childrenFailed children =>
    toString children.length ++ " forked fiber(s) failed, first: " ++
      (match children with
        | [] => ""
        | first :: _ => first.message)
  | .missingComponent name => "Missing packet component: " ++ name
  | .invalidState what => "Invalid state: " ++ what
  | .cancelled => "Fiber cancelled: operator is stopping"

mutual

/-- Whether every failure at the leaves is a cancellation. -/
def isCancelled : FiberError → Bool
  | .cancelled => true
  | .childrenFailed children => allCancelled children
  | _ => false

/-- Whether every one of the failures is a cancellation. -/
def allCancelled : List FiberError → Bool
  | [] => true
  | e :: rest => e.isCancelled && allCancelled rest

end

mutual

/-- Whether a failure at the leaves is a lack of authorization. -/
def isNotAuthorized : FiberError → Bool
  | .notAuthorized .. => true
  | .childrenFailed children => anyNotAuthorized children
  | _ => false

/-- Whether one of the failures is a lack of authorization. -/
def anyNotAuthorized : List FiberError → Bool
  | [] => false
  | e :: rest => e.isNotAuthorized || anyNotAuthorized rest

end

end FiberError

end DomainSteward
