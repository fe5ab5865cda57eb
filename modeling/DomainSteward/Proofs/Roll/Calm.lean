import DomainSteward.Proofs.Chain.View
import DomainSteward.Proofs.Roll.Anatomy

/-! The moves of a roll itself, which are those of its head and of its gates,
are not seen: only the restarts that it forks change what is known of the
servers. -/
namespace DomainSteward.Calm
open Machine Moves RollSteps WaveLoop Ledger Anatomy Views

variable {ε : Type} {c : Conduct} {g : GuestRules ε} {r r' : Roll ε} {plan : Plan ε}
  {ready : NameSet} {id : PresenceId} {w w' : World} {m after : ChainMachine ε} {i : FiberId}
  {p : Packet} {step : Step ε} {move : Move Answer}

theorem view_after (action : StepAction ε) :
    view? id (worldAfter (chainDynamics c g) w action) = view? id w := by
  cases action with
  | finish | terminate => exact view_count _
  | _ => rfl

private theorem announce_unseen (other : PresenceId) (servers : List String) :
    view? id (announce other servers p w).2 = view? id w := by
  unfold announce
  split
  · rfl
  · exact view_modify_kept (f := (·.setRolling true)) (fun _ => rfl)

private theorem after_roll_unseen (next : Option (Step ε)) :
    view? id (afterRoll c next p w).world = view? id w := by
  simp only [afterRoll, Applied.of]
  split
  · rw [view_count_roll, view_emit]
    exact view_modify_of_kept (fun _ => rfl)
  · rfl

/-- A step that is not seen when it is applied. -/
private theorem step_unseen {outcome : Except Panic (StepAction ε)} {p' : Packet}
    (found : m.fiber? i = some ⟨p, .running (some step)⟩)
    (moves : m.move? (chainDynamics c g) i .run = some after)
    (applies : step.apply c g p m.world = ⟨outcome, p', w'⟩)
    (unseen : view? id w' = view? id m.world) : view? id after.world = view? id m.world := by
  have applies : (chainDynamics c g).apply step p m.world = ⟨outcome, p', w'⟩ := applies
  have taken := run_step found moves
  rw [applies] at taken
  rw [taken]
  exact (view_after _).trans unseen

/-- A move that neither applies a step nor takes an answer in is not seen. -/
private theorem quiet_unseen {phase : Phase (Step ε) (Pending ε)}
    (found : m.fiber? i = some ⟨p, phase⟩) (busy : ∀ call next, phase ≠ .waiting call next)
    (moves : m.move? (chainDynamics c g) i move = some after)
    (quiet : applied? m (.move i move) = none) : view? id after.world = view? id m.world := by
  obtain ⟨f, found', moved⟩ := move_iff_moved.mp moves
  cases found.symm.trans found'
  cases moved with
  | start => exact view_count _
  | finish => exact view_count _
  | step => simp [applied?, found] at quiet
  | wake => rfl
  | cancel | answer | crash => exact absurd rfl (busy _ _)
  | join => rfl
  | fail => exact view_count _

/-- Until a roll is closed its head makes no calls. -/
theorem head_phase {head : FiberId} {gates : List (FiberId × Option String)}
    {progress : Progress} (stands : HeadStands plan head gates m progress)
    (notClosed : progress ≠ .closed) :
    ∃ p phase, m.fiber? head = some ⟨p, phase⟩ ∧ ∀ call next, phase ≠ .waiting call next := by
  cases stands with
  | waits found | closing found => exact ⟨_, _, found, fun _ _ same => nomatch same⟩
  | failed p e found => exact ⟨_, _, found, fun _ _ same => nomatch same⟩
  | closed => exact absurd rfl notClosed

/-- The only step that the head of an open roll applies is the one that closes
it. -/
theorem head_step (opened : Opened plan ready r) (notClosed : r.progress ≠ .closed)
    (found : r.machine.fiber? r.head = some ⟨p, .running (some step)⟩) :
    p = marked plan.packet ∧ step = .afterRoll plan.next ∧ r.progress = .opened := by
  have head := opened.head
  generalize r.progress = progress at head notClosed ⊢
  cases head with
  | waits found' | failed _ _ found' => cases found.symm.trans found'
  | closed => exact absurd rfl notClosed
  | closing found' =>
    cases found.symm.trans found'
    exact ⟨rfl, rfl, rfl⟩

/-- No move of an opened roll itself is seen: none of its head, before the
roll is closed, and none of a gate. -/
theorem opened_unseen (opened : Opened plan ready r)
    (own : i = r.head ∧ r.progress ≠ .closed ∨ i ∈ r.gates.map (·.1))
    (follows : r.follow? c g (.move i move) = some r') :
    view? id r'.machine.world = view? id r.machine.world := by
  cases followed follows with
  | quiet _ after quiet happened =>
    rcases own with ⟨rfl, notClosed⟩ | isGate
    · obtain ⟨p, phase, found, busy⟩ := head_phase opened.head notClosed
      exact quiet_unseen found busy happened quiet
    · obtain ⟨gate, member, rfl⟩ := List.mem_map.mp isGate
      obtain ⟨p, phase, found, busy⟩ := gate_phase (opened.gates gate member)
      exact quiet_unseen found busy happened quiet
  | head p step after found happened =>
    rw [note_machine]
    have notClosed : r.progress ≠ .closed := by
      rcases own with ⟨_, notClosed⟩ | isGate
      · exact notClosed
      · obtain ⟨gate, member, same⟩ := List.mem_map.mp isGate
        exact absurd same (gate_not_head opened member)
    obtain ⟨rfl, rfl, _⟩ := head_step opened notClosed found
    exact step_unseen found happened rfl (after_roll_unseen plan.next)
  | gate i bucket p step after other listed found happened =>
    obtain ⟨_, _, shape, _⟩ := List.lookup_eq_some_iff.mp listed
    cases gate_finds (opened.gates (i, bucket) (by simp [shape])) found with
    | together => exact step_unseen found happened rfl rfl
    | waves cluster queue =>
      obtain ⟨outcome, applied, _⟩ := roll_cluster_looks (c := c) (p := p) (w := r.machine.world)
        cluster queue plan.packet.topology?
      exact step_unseen found happened applied rfl
  | aside i p step after other unlisted found happened =>
    rcases own with ⟨same, _⟩ | isGate
    · exact absurd same other
    · obtain ⟨gate, member, rfl⟩ := List.mem_map.mp isGate
      simpa using List.lookup_eq_none_iff.mp unlisted gate member

/-- The opening of a roll is not seen. -/
theorem unopened_unseen (unopened : Unopened plan r)
    (own : i = r.head ∧ r.progress ≠ .closed ∨ i ∈ r.gates.map (·.1))
    (follows : r.follow? c g (.move i move) = some r') :
    view? id r'.machine.world = view? id r.machine.world := by
  have phase : ∃ p phase, r.machine.fiber? r.head = some ⟨p, phase⟩ ∧
      ∀ call next, phase ≠ .waiting call next := by
    rcases unopened.head with found | found
    · exact ⟨_, _, found, fun _ _ same => nomatch same⟩
    · exact ⟨_, _, found, fun _ _ same => nomatch same⟩
  cases followed follows with
  | quiet _ after quiet happened =>
    rcases own with ⟨rfl, _⟩ | isGate
    · obtain ⟨p, phase, found, busy⟩ := phase
      exact quiet_unseen found busy happened quiet
    · simp [unopened.gates] at isGate
  | head p step after found happened =>
    rw [note_machine]
    rcases unopened.head with found' | found'
    · cases found.symm.trans found'
    · cases found.symm.trans found'
      cases seen : r.machine.world.presenceOf? plan.packet with
      | none =>
        exact step_unseen found happened (rolling_missing plan.members plan.next seen) rfl
      | some presence =>
        obtain ⟨other, works, known⟩ := Option.bind_eq_some_iff.mp seen
        exact step_unseen found happened
          (rolling_found plan.members plan.next works known) (announce_unseen other _)
  | gate i bucket p step after other listed =>
    simp [unopened.gates] at listed
  | aside i p step after other =>
    rcases own with ⟨same, _⟩ | isGate
    · exact absurd same other
    · simp [unopened.gates] at isGate

end DomainSteward.Calm
