import DomainSteward.Proofs.Fiber.Moves

/-! One fiber on its own. What it does is a matter of the answers to its calls
alone, so a list of answers has one list of moves. -/
namespace DomainSteward.Solo
open Machine Moves

variable {σ π κ α ω : Type} {d : Dynamics σ π κ α ω} {m m' m'' : Machine σ π κ ω} {i : FiberId}
  {moves others : List (Move α)}

/-- The machine after some moves of one fiber. -/
def run? (d : Dynamics σ π κ α ω) (i : FiberId) :
    Machine σ π κ ω → List (Move α) → Option (Machine σ π κ ω)
  | m, [] => some m
  | m, move :: rest => (m.move? d i move).bind (fun m => run? d i m rest)

/-- What a fiber does that matters to others: it applies a step to its packet,
or has a call answered. -/
inductive Deed (σ π κ α : Type) where
  | applied (step : σ) (packet : π)
  | answered (call : κ) (a : α)

/-- What a fiber does by a move. -/
def deed? (m : Machine σ π κ ω) (i : FiberId) : Move α → Option (Deed σ π κ α)
  | .run =>
    match m.fiber? i with
    | some ⟨p, .running (some step)⟩ => some (.applied step p)
    | _ => none
  | .answer a =>
    match m.fiber? i with
    | some ⟨_, .waiting call _⟩ => some (.answered call a)
    | _ => none
  | _ => none

/-- All that a fiber does by some moves. -/
def deeds (d : Dynamics σ π κ α ω) (i : FiberId) :
    Machine σ π κ ω → List (Move α) → List (Deed σ π κ α)
  | _, [] => []
  | m, move :: rest =>
    (deed? m i move).toList ++
      match m.move? d i move with
      | some m => deeds d i m rest
      | none => []

/-- What others can tell of a fiber: a call of its is answered, or it has slept. -/
inductive Sign (κ α : Type) where
  | answered (call : κ) (a : α)
  | slept (wait : Duration)

/-- What others can tell of a move. -/
def sign? (m : Machine σ π κ ω) (i : FiberId) : Move α → Option (Sign κ α)
  | .answer a =>
    match m.fiber? i with
    | some ⟨_, .waiting call _⟩ => some (.answered call a)
    | _ => none
  | .wake =>
    match m.fiber? i with
    | some ⟨_, .sleeping wait _⟩ => some (.slept wait)
    | _ => none
  | _ => none

/-- All that is seen of some moves of a fiber. -/
def seen {β : Type} (see? : Machine σ π κ ω → FiberId → Move α → Option β)
    (d : Dynamics σ π κ α ω) (i : FiberId) : Machine σ π κ ω → List (Move α) → List β
  | _, [] => []
  | m, move :: rest =>
    (see? m i move).toList ++
      match m.move? d i move with
      | some m => seen see? d i m rest
      | none => []

/-- All that others can tell of some moves of a fiber. -/
def signs (d : Dynamics σ π κ α ω) : FiberId → Machine σ π κ ω → List (Move α) → List (Sign κ α) :=
  seen sign? d

/-- The answers that a fiber gets by some moves. -/
def answers (moves : List (Move α)) : List α :=
  moves.filterMap (fun
    | .answer a => some a
    | _ => none)

/-- No call panics. -/
def Calm (moves : List (Move α)) : Prop := ∀ message, .crash message ∉ moves

theorem run_append (ran : run? d i m moves = some m') :
    run? d i m (moves ++ others) = run? d i m' others := by
  induction moves generalizing m with
  | nil =>
    cases ran
    rfl
  | cons move rest ih =>
    obtain ⟨next, moved, ran⟩ := Option.bind_eq_some_iff.mp ran
    simp only [List.cons_append, run?, moved, Option.bind_some]
    exact ih ran

theorem seen_append {β : Type} {see? : Machine σ π κ ω → FiberId → Move α → Option β}
    (ran : run? d i m moves = some m') :
    seen see? d i m (moves ++ others) = seen see? d i m moves ++ seen see? d i m' others := by
  induction moves generalizing m with
  | nil =>
    cases ran
    rfl
  | cons move rest ih =>
    obtain ⟨next, moved, ran⟩ := Option.bind_eq_some_iff.mp ran
    simp only [List.cons_append, seen, moved, ih ran, List.append_assoc]

theorem deeds_seen : deeds d i m moves = seen deed? d i m moves := by
  induction moves generalizing m with
  | nil => rfl
  | cons move rest ih =>
    simp only [deeds, seen]
    split
    · rw [ih]
    · rfl

theorem deeds_append (ran : run? d i m moves = some m') :
    deeds d i m (moves ++ others) = deeds d i m moves ++ deeds d i m' others := by
  simp only [deeds_seen]
  exact seen_append ran

/-- A fiber has a choice only of the answer to its call. -/
theorem one_move {move other : Move α} (moved : m.move? d i move = some m')
    (moved' : m.move? d i other = some m'') :
    move = other ∨ (∃ a b, move = .answer a ∧ other = .answer b) ∨
      (∃ message, move = .crash message) ∨ ∃ message, other = .crash message := by
  obtain ⟨f, found, moved⟩ := move_iff_moved.mp moved
  obtain ⟨f', found', moved'⟩ := move_iff_moved.mp moved'
  cases found.symm.trans found'
  cases moved with
  | start | finish | step | wake | join | fail =>
    cases moved' <;> exact .inl rfl
  | crash => exact .inr (.inr (.inl ⟨_, rfl⟩))
  | cancel | answer =>
    cases moved' with
    | crash => exact .inr (.inr (.inr ⟨_, rfl⟩))
    | cancel | answer => exact .inr (.inl ⟨_, _, rfl, rfl⟩)

/-- With the same answers a fiber makes the same moves, as far as either
course goes. -/
theorem same_moves (ran : run? d i m moves = some m') (ran' : run? d i m others = some m'')
    (calm : Calm moves) (calm' : Calm others) (same : answers others <+: answers moves) :
    others <+: moves ∨ moves <+: others := by
  induction moves generalizing m others with
  | nil => exact .inr List.nil_prefix
  | cons move rest ih =>
    cases others with
    | nil => exact .inl List.nil_prefix
    | cons other later =>
      obtain ⟨next, moved, ran⟩ := Option.bind_eq_some_iff.mp ran
      obtain ⟨next', moved', ran'⟩ := Option.bind_eq_some_iff.mp ran'
      have calmRest : Calm rest := fun message among => calm message (List.mem_cons_of_mem _ among)
      have calmLater : Calm later :=
        fun message among => calm' message (List.mem_cons_of_mem _ among)
      have equal : move = other := by
        rcases one_move moved moved' with equal | ⟨a, b, rfl, rfl⟩ | ⟨message, rfl⟩ | ⟨message, rfl⟩
        · exact equal
        · have heads : answers (.answer b :: later) <+: answers (.answer a :: rest) := same
          simp only [answers, List.filterMap_cons, List.cons_prefix_cons] at heads
          rw [heads.1]
        · exact absurd List.mem_cons_self (calm message)
        · exact absurd List.mem_cons_self (calm' message)
      subst equal
      cases moved.symm.trans moved'
      have tails : answers later <+: answers rest := by
        cases move with
        | answer a => simpa [answers, List.cons_prefix_cons] using same
        | _ => simpa [answers] using same
      rcases ih ran ran' calmRest calmLater tails with before | after
      · exact .inl (List.cons_prefix_cons.mpr ⟨rfl, before⟩)
      · exact .inr (List.cons_prefix_cons.mpr ⟨rfl, after⟩)

/-- Some moves of a fiber that lead to a machine, and that are all it can do
when its calls are answered like that. -/
structure Course (d : Dynamics σ π κ α ω) (i : FiberId) (m : Machine σ π κ ω)
    (moves : List (Move α)) (m' : Machine σ π κ ω) : Prop where
  ran : run? d i m moves = some m'
  only : ∀ others m'', run? d i m others = some m'' → Calm others →
    answers others <+: answers moves → others <+: moves ∨ moves <+: others

theorem course_of_run (ran : run? d i m moves = some m') (calm : Calm moves) :
    Course d i m moves m' :=
  ⟨ran, fun _ _ ran' calm' same => same_moves ran ran' calm calm' same⟩

theorem calm_append (calm : Calm moves) (calm' : Calm others) : Calm (moves ++ others) := by
  intro message among
  rcases List.mem_append.mp among with among | among
  · exact calm message among
  · exact calm' message among

end DomainSteward.Solo
