import DomainSteward.Proofs.Chain.World
import DomainSteward.Proofs.Chain.Writers
import DomainSteward.Proofs.Fiber.Moves
import DomainSteward.Reconcile

/-! The stopping flag is set from outside: no step of the operator's own
touches it, whatever it finds in the packet and the world, and neither does an
answer that comes in or a reconcile that begins. -/
namespace DomainSteward.Flags
open Machine Moves Worlds Writers

variable {ε : Type} {c : Conduct} {g : GuestRules ε} {p : Packet} {w w' : World}
  {x : Exchange ε (Step ε)} {r : Response} {m m' : ChainMachine ε} {i : FiberId}
  {move : Move Answer}

/-- A step is the operator's own. -/
def IsOwn : Step ε → Prop
  | .guest _ _ _ => False
  | .response x => ∀ e, x.handler ≠ .guest e
  | _ => True

private theorem charged_flag (failed : Bool) (verdict : Except Panic (Verdict ε)) :
    (charged c x failed verdict w).shutdown = w.shutdown := by
  unfold charged Exchange.count
  repeat' split
  all_goals simp

/-- No step of the operator's own touches the stopping flag. -/
theorem apply_keeps_flag {step : Step ε} (own : IsOwn step) :
    ((chainDynamics c g).apply step p w).world.shutdown = w.shutdown := by
  cases step with
  | guest => exact own.elim
  | response x =>
    have counts := judgement_counts (p := p) fun r q =>
      judge_counts (c := c) (g := g) (r := r) (p := q) (w := w) own
    exact (congrArg World.shutdown settle_world).trans
      (counts.shutdown.trans (charged_flag _ _))
  | _ =>
    refine (plain_written ?_).shutdown
    trivial

theorem received_keeps_flag (q : Request) (a : Answer) :
    ((chainDynamics c g).receive (.call q) a w).shutdown = w.shutdown := by
  cases a with
  | response r => exact shutdown_count c _
  | done => rfl

private theorem world_after_flag (action : StepAction ε) :
    (worldAfter (chainDynamics c g) w action).shutdown = w.shutdown := by
  cases action with
  | finish | terminate => exact shutdown_count c _
  | _ => rfl

/-- No move touches the stopping flag of a fiber that is about to apply a step of the operator's
own, if any, and that waits for a call, if for anything. -/
theorem move_keeps_flag
    (own : ∀ p step, m.fiber? i = some ⟨p, .running (some step)⟩ → IsOwn step)
    (alone : ∀ p e next, m.fiber? i ≠ some ⟨p, .waiting (.guest e) next⟩)
    (moved : m.move? (chainDynamics c g) i move = some m') :
    m'.world.shutdown = m.world.shutdown := by
  have received (p : Packet) (call : Pending ε) (next : Option (Step ε)) (a : Answer)
      (found : m.fiber? i = some ⟨p, .waiting call next⟩) :
      ((chainDynamics c g).receive call a m.world).shutdown = m.world.shutdown := by
    cases call with
    | call q => exact received_keeps_flag q a
    | guest e => exact absurd found (alone p e next)
  obtain ⟨_, found, moved⟩ := move_iff_moved.mp moved
  cases moved with
  | start => exact shutdown_count c _
  | step p step => exact (world_after_flag _).trans (apply_keeps_flag (own p step found))
  | cancel p call next a => exact (world_after_flag _).trans (received p call next a found)
  | answer p call next a => exact received p call next a found
  | finish | fail => exact world_after_flag _
  | wake | crash | join => rfl

theorem begin_keeps_flag {domain : Domain} {id : PresenceId} {head : Step ε}
    (begins : beginReconcile c domain w = .fiber id head p w') : w'.shutdown = w.shutdown := by
  unfold beginReconcile at begins
  split at begins
  · cases begins
  split at begins
  · cases begins
  injection begins with _ _ _ world
  subst world
  exact shutdown_modify_presence _

end DomainSteward.Flags
