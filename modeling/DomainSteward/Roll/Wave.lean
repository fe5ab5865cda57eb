import DomainSteward.Data.NameMap

/-!
Waves of a roll.

The servers of a cluster wait in a queue. A wave takes those that are not Ready anyway, and of the
Ready ones only as many as the cluster can spare.
-/

namespace DomainSteward

variable {α : Type}

/-- A wave and the queue that stays behind. -/
structure WaveSplit (α : Type) where
  wave : List (String × α)
  held : List (String × α)

/-- Takes from a queue, first come first served: servers that are not Ready at no cost, Ready ones
while there is slack. -/
def takeWave (ready : NameSet) : Nat → List (String × α) → WaveSplit α
  | _, [] => ⟨[], []⟩
  | slack, (name, item) :: rest =>
    if !ready.contains name then
      let split := takeWave ready slack rest
      { split with wave := (name, item) :: split.wave }
    else if 0 < slack then
      let split := takeWave ready (slack - 1) rest
      { split with wave := (name, item) :: split.wave }
    else
      let split := takeWave ready slack rest
      { split with held := (name, item) :: split.held }

/-- The next wave of a queue: the slack is the number of Ready servers above the floor. -/
def nextWave (queue : List (String × α)) (ready : NameSet) (minAvailable : Nat) :
    WaveSplit α :=
  takeWave ready (ready.size - minAvailable) queue

end DomainSteward
