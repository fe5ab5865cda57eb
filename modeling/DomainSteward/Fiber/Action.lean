import DomainSteward.Fiber.Error
import DomainSteward.Panic
import DomainSteward.Time.Duration

/-!
What a step asks for.

A step ends by asking for one thing: another step, forked fibers, a wait, a call, or the end of
its fiber. The types of steps, packets and calls are left open.
-/

namespace DomainSteward

/-- What a step asks for. -/
inductive Action (σ π κ : Type) where
  /-- Go on with a step. -/
  | next (step : σ)
  /-- Run every child as a fiber of its own and go on once all of them have ended. -/
  | forkJoin (children : List (σ × π)) (join : Option σ)
  /-- Go on after a time. -/
  | delay (wait : Duration) (andThen : Option σ)
  /-- Go on once a call has been answered. -/
  | suspend (call : κ) (andThen : Option σ)
  /-- End the fiber. -/
  | finish
  /-- End the fiber with a failure. -/
  | terminate (error : FiberError)

namespace Action

variable {σ π κ : Type}

/-- Goes on with a step, or ends the fiber if there is none. -/
def goOn : Option σ → Action σ π κ
  | some step => .next step
  | none => .finish

/-- The step with which the fiber goes on. -/
def target? : Action σ π κ → Option σ
  | .next step => some step
  | .forkJoin _ join => join
  | .delay _ andThen => andThen
  | .suspend _ andThen => andThen
  | .finish => none
  | .terminate _ => none

/-- What is asked for, in one word. -/
def kind : Action σ π κ → String
  | .next _ => "next"
  | .forkJoin .. => "fork-join"
  | .delay .. => "delay"
  | .suspend .. => "suspend"
  | .finish => "end"
  | .terminate _ => "terminate"

/-- What is asked for, with the name of the step that follows or the failure. -/
def text (name : σ → String) (a : Action σ π κ) : String :=
  match a with
  | .terminate e => "Terminate(" ++ e.message ++ ")"
  | a => a.kind ++ "(" ++ (a.target?.map name).getD "-" ++ ")"

end Action

end DomainSteward
