import DomainSteward.Call.Failure

/-!
What becomes of a call.

A response is an object or a page of a list, a bare explanation such as some deletions give, or a
failure.
-/

namespace DomainSteward

/-- A page of a list. -/
structure ObjectPage where
  /-- Where the next page starts, if the server says. -/
  continueToken : Option String := none
  items : List ApiObject := []
deriving Inhabited

/-- The outcome of a call. -/
inductive Response where
  | object (object : ApiObject) (statusCode : UInt16)
  | list (page : ObjectPage)
  /-- An explanation in place of an object. -/
  | status (status : StatusBody)
  | failure (failure : CallFailure)
deriving Inhabited

namespace Response

/-- Whether the call failed. -/
def isFailure : Response → Bool
  | .failure _ => true
  | _ => false

/-- The status of the answer, if one came. -/
def statusCode? : Response → Option UInt16
  | .object _ code => some code
  | .list _ => some 200
  | .status s => some s.code
  | .failure f => f.statusCode

def failure? : Response → Option CallFailure
  | .failure f => some f
  | _ => none

/-- The object of the answer. -/
def object? : Response → Option ApiObject
  | .object o _ => some o
  | _ => none

/-- The page of the answer. -/
def page? : Response → Option ObjectPage
  | .list page => some page
  | _ => none

/-- Where the next page starts; an empty token is none. -/
def continueToken? (r : Response) : Option String :=
  (r.page?.bind (·.continueToken)).filter (fun token => !token.isEmpty)

/-- The word under which the outcome is counted. -/
def outcome : Response → String
  | .failure f => if f.timedOut then "timeout" else "failure"
  | _ => "success"

end Response

end DomainSteward
