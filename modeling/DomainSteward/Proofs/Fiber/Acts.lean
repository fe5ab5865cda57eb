import DomainSteward.Proofs.Fiber.Forks

/-! What one fiber does in a course: the steps that it applies, each with the packet it holds and the
world it finds. Others may move meanwhile and the world may change by itself, so a law about a fiber
is one about what it has done so far, and it is kept if each thing that happens keeps it. -/
namespace DomainSteward.Acts
open Machine Moves Forks

variable {σ π κ α ω : Type} {d : Dynamics σ π κ α ω} {m m' : Machine σ π κ ω} {i : FiberId}
  {h : Happening α ω} {course : List (Happening α ω)}

/-- A step as a fiber applies it. -/
structure Act (σ π ω : Type) where
  step : σ
  packet : π
  /-- The world that the step finds. -/
  world : ω

/-- What a fiber does when something happens. -/
def act? (m : Machine σ π κ ω) (i : FiberId) (h : Happening α ω) : Option (Act σ π ω) :=
  (applies? m i h).map (fun did => ⟨did.1, did.2, m.world⟩)

/-- What a fiber does in a course, one thing after another. -/
def acts (d : Dynamics σ π κ α ω) (i : FiberId) :
    Machine σ π κ ω → List (Happening α ω) → List (Act σ π ω)
  | _, [] => []
  | m, h :: rest =>
    (act? m i h).toList ++
      match happen? d m h with
      | some m => acts d i m rest
      | none => []

/-- The moves that a fiber makes in a course. -/
def ownMoves (i : FiberId) : List (Happening α ω) → Nat
  | [] => 0
  | .move j _ :: rest => (if j = i then 1 else 0) + ownMoves i rest
  | .outside _ :: rest => ownMoves i rest

/-- Something holds of every machine of a course and of what happens next there. -/
def Along (d : Dynamics σ π κ α ω) (holds : Machine σ π κ ω → Happening α ω → Prop) :
    Machine σ π κ ω → List (Happening α ω) → Prop
  | _, [] => True
  | m, h :: rest => holds m h ∧ ∀ m', happen? d m h = some m' → Along d holds m' rest

theorem along_next {holds : Machine σ π κ ω → Happening α ω → Prop} (here : holds m h)
    (happened : happen? d m h = some m') (later : Along d holds m' course) :
    Along d holds m (h :: course) := by
  refine ⟨here, fun other happened' => ?_⟩
  cases happened.symm.trans happened'
  exact later

theorem along_append {holds : Machine σ π κ ω → Happening α ω → Prop}
    {earlier later : List (Happening α ω)} (ran : course? d m earlier = some m') :
    Along d holds m (earlier ++ later) ↔ Along d holds m earlier ∧ Along d holds m' later := by
  induction earlier generalizing m with
  | nil =>
    cases ran
    exact ⟨fun along => ⟨trivial, along⟩, And.right⟩
  | cons h rest ih =>
    obtain ⟨next, happened, ran⟩ := Option.bind_eq_some_iff.mp ran
    constructor
    · rintro ⟨here, onward⟩
      obtain ⟨before, after⟩ := (ih ran).mp (onward next happened)
      exact ⟨along_next here happened before, after⟩
    · rintro ⟨before, after⟩
      exact along_next before.1 happened ((ih ran).mpr ⟨before.2 next happened, after⟩)

theorem along_mono {holds holds' : Machine σ π κ ω → Happening α ω → Prop}
    (weaker : ∀ m h, holds m h → holds' m h) (along : Along d holds m course) :
    Along d holds' m course := by
  induction course generalizing m with
  | nil => trivial
  | cons h rest ih =>
    exact ⟨weaker m h along.1, fun next happened => ih (along.2 next happened)⟩

theorem act_applied {p : π} {step : σ} (found : m.fiber? i = some ⟨p, .running (some step)⟩) :
    act? m i (.move i .run : Happening α ω) = some ⟨step, p, m.world⟩ := by
  rw [act?, applies_iff.mpr ⟨rfl, found⟩]
  rfl

/-- A fiber does nothing when it is not its turn, or when it has no step to apply. -/
theorem act_none (idle : ∀ p step, h = .move i .run → m.fiber? i ≠ some ⟨p, .running (some step)⟩) :
    act? m i h = none := by
  cases applies : applies? m i h with
  | none => rw [act?, applies, Option.map_none]
  | some did =>
    obtain ⟨run, found⟩ := applies_iff.mp applies
    exact absurd found (idle _ _ run)

/-- A law about what a fiber has done, and in how many moves, holds after every course if
everything that happens there keeps it. -/
theorem law_of_course {Law : Machine σ π κ ω → List (Act σ π ω) → Nat → Prop}
    {fair : Machine σ π κ ω → Happening α ω → Prop}
    (kept : ∀ m log moves h m', Law m log moves → fair m h → happen? d m h = some m' →
      Law m' (log ++ (act? m i h).toList) (moves + ownMoves i [h]))
    {log : List (Act σ π ω)} {moves : Nat} (law : Law m log moves) (along : Along d fair m course)
    (ran : course? d m course = some m') :
    Law m' (log ++ acts d i m course) (moves + ownMoves i course) := by
  induction course generalizing m log moves with
  | nil =>
    cases ran
    simpa [acts, ownMoves] using law
  | cons h rest ih =>
    obtain ⟨next, happened, ran⟩ := Option.bind_eq_some_iff.mp ran
    have later := ih (kept m log moves h next law along.1 happened) (along.2 next happened) ran
    have counted : ownMoves i [h] + ownMoves i rest = ownMoves i (h :: rest) := by
      cases h <;> simp [ownMoves]
    rw [List.append_assoc, Nat.add_assoc, counted] at later
    rw [acts, happened]
    exact later

/-! ## What was done before -/

/-- Something holds of every element of a list and of those before it. -/
def Throughout {β : Type} (holds : List β → β → Prop) (log : List β) : Prop :=
  ∀ before b after, log = before ++ b :: after → holds before b

variable {β : Type} {holds : List β → β → Prop} {log : List β} {b : β}

theorem throughout_nil : Throughout holds [] := by
  intro before b after split
  simp at split

/-- A list is split before its last element or at it. -/
theorem split_last {before after : List β} {a : β} (split : log ++ [b] = before ++ a :: after) :
    (log = before ∧ b = a ∧ after = []) ∨ ∃ rest, after = rest ++ [b] ∧ log = before ++ a :: rest := by
  rcases List.eq_nil_or_concat after with rfl | ⟨rest, last, rfl⟩
  · obtain ⟨same, last⟩ := List.append_inj' split rfl
    exact .inl ⟨same, List.head_eq_of_cons_eq last, rfl⟩
  · have split : log ++ [b] = (before ++ a :: rest) ++ [last] := by simpa using split
    obtain ⟨same, final⟩ := List.append_inj' split rfl
    cases List.head_eq_of_cons_eq final
    exact .inr ⟨rest, by simp, same⟩

theorem throughout_concat (sofar : Throughout holds log) (now : holds log b) :
    Throughout holds (log ++ [b]) := by
  intro before a after split
  rcases split_last split with ⟨rfl, rfl, _⟩ | ⟨rest, _, same⟩
  · exact now
  · exact sofar before a rest same

theorem throughout_toList {next : Option β} (sofar : Throughout holds log)
    (now : ∀ b ∈ next, holds log b) : Throughout holds (log ++ next.toList) := by
  cases next with
  | none => simpa using sofar
  | some b => exact throughout_concat sofar (now b rfl)

end DomainSteward.Acts
