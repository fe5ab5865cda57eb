import DomainSteward.Call.Request
import DomainSteward.Call.Retry
import DomainSteward.Call.StatusBody
import DomainSteward.Fiber.Error

/-!
Failed calls.

A failure keeps the request that met it, so that its message can name the call. An answer with a
fault has a status; a call that timed out or did not reach the server has none.
-/

namespace DomainSteward

/-- The reason recorded on a domain when a call fails for good. -/
def kubernetesFailureReason : String := "Kubernetes"

structure CallFailure where
  /-- The status of the answer, if one came. -/
  statusCode : Option UInt16
  /-- What the answer explained. -/
  status : Option StatusBody
  /-- What went wrong, in short. -/
  error : String
  timedOut : Bool
  request : Request
deriving Inhabited

namespace CallFailure

/-- An answer with a fault. -/
def http (request : Request) (status : StatusBody) : CallFailure :=
  { statusCode := some status.code
    status := some status
    error := "HTTP " ++ toString status.code.toNat ++ ": " ++ status.message
    timedOut := false
    request }

/-- A call that did not reach the server. -/
def transport (request : Request) (error : String) : CallFailure :=
  { statusCode := none, status := none, error, timedOut := false, request }

/-- A call without an answer in time. -/
def timeout (request : Request) (after : Duration) : CallFailure :=
  { statusCode := none
    status := none
    error := "call timed out after " ++ toString after.millis ++ "ms"
    timedOut := true
    request }

/-- Whether the credentials were refused. -/
def isNotAuthorized (f : CallFailure) : Bool :=
  f.statusCode = some 401 || f.statusCode = some 403

/-- Whether the failure is a race to be expected, which nobody need be told of. -/
def isBenign (f : CallFailure) : Bool :=
  f.statusCode = some codeNotFound || f.statusCode = some codeConflict

/-- Why the call failed, in one word. -/
def reason (f : CallFailure) : String :=
  (f.status.bind StatusBody.mostSpecificReason?).getD
    (if f.timedOut then "Timeout" else "TransportError")

/-- The call and the explanation of the server, or what went wrong. -/
def message (f : CallFailure) : String :=
  f.request.describe ++ ": " ++
    (((f.status.map (·.message)).filter (fun m => !m.isEmpty)).getD f.error)

/-- The failure of a fiber that gives up on the call. -/
def toFiberError (f : CallFailure) : FiberError :=
  match f.statusCode with
  | some code =>
    if f.isNotAuthorized then .notAuthorized code f.message
    else .api (some code) f.reason f.message
  | none => .api none f.reason f.message

end CallFailure

end DomainSteward
