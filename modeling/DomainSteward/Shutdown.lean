/-!
The stopping flag.

The first request to stop wins and its reason is kept. Whoever waits for the flag is woken when it
is set, and also when nobody is left who could set it.
-/

namespace DomainSteward

/-- The stopping flag. -/
structure Shutdown where
  /-- Why the operator is stopping. -/
  reason : Option String := none
  /-- Whether nobody is left who could set the flag. -/
  abandoned : Bool := false
deriving DecidableEq, Repr, Inhabited

namespace Shutdown

/-- Asks the operator to stop; a later request changes nothing. Nobody can ask any more once the
flag is abandoned. -/
def stop (s : Shutdown) (reason : String) : Shutdown :=
  if s.abandoned then s else { s with reason := some (s.reason.getD reason) }

/-- Gives up the only hold on the flag. -/
def abandon (s : Shutdown) : Shutdown := { s with abandoned := true }

/-- Whether the operator is stopping. -/
def isStopping (s : Shutdown) : Bool := s.reason.isSome

/-- Whether a wait for the flag ends at once. -/
def isSettled (s : Shutdown) : Bool := s.isStopping || s.abandoned

end Shutdown

/-- Whether the operator says that it is ready to serve. -/
structure Readiness where
  isReady : Bool := false
deriving DecidableEq, Repr, Inhabited

end DomainSteward
