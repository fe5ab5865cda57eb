import DomainSteward.Fiber.Error
import DomainSteward.Form.Fields

/-!
Failures of fibers in forms.
-/

namespace DomainSteward.Form

/-- Reads a failure whose forks nest no deeper than a number; one of an unknown kind is an invalid
state. -/
def readError : Nat → Json → FiberError
  | 0, j => .invalidState (textOf j "message")
  | depth + 1, j =>
    match textOf j "kind" with
    | "Api" => .api (code? j "status") (textOf j "reason") (textOf j "message")
    | "NotAuthorized" => .notAuthorized ((code? j "status").getD 0) (textOf j "message")
    | "Panicked" => .panicked (textOf j "step") (textOf j "message")
    | "ChildrenFailed" => .childrenFailed ((listOf j "children").map (readError depth))
    | "MissingComponent" => .missingComponent (textOf j "message")
    | "Cancelled" => .cancelled
    | _ => .invalidState (textOf j "message")

/-- Reads a failure. -/
def errorOf (j : Json) : FiberError := readError Json.maxDepth j

mutual

/-- Writes a failure. -/
def errorJson : FiberError → Json
  | .api status reason message =>
    .object [("kind", .text "Api"), ("status", nullable (fun c => natJson c.toNat) status),
      ("reason", .text reason), ("message", .text message)]
  | .notAuthorized status message =>
    .object [("kind", .text "NotAuthorized"), ("status", natJson status.toNat),
      ("message", .text message)]
  | .panicked step message =>
    .object [("kind", .text "Panicked"), ("step", .text step), ("message", .text message)]
  | .childrenFailed children =>
    .object [("kind", .text "ChildrenFailed"), ("children", .list (errorsJson children))]
  | .missingComponent name =>
    .object [("kind", .text "MissingComponent"), ("message", .text name)]
  | .invalidState what => .object [("kind", .text "InvalidState"), ("message", .text what)]
  | .cancelled => .object [("kind", .text "Cancelled")]

/-- Writes several failures. -/
def errorsJson : List FiberError → List Json
  | [] => []
  | e :: rest => errorJson e :: errorsJson rest

end

end DomainSteward.Form
