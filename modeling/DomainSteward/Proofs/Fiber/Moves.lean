import DomainSteward.Fiber.Machine

/-! What one move can do to a machine, said once. Every move belongs to one
fiber: it replaces that fiber, puts the fibers it forks behind all others and
changes the world, so that a fiber is only ever changed by moves of its own
and a fiber that is done stays as it is. -/
namespace DomainSteward.Moves
open Machine

variable {σ π κ α ω : Type} {d : Dynamics σ π κ α ω} {m m' : Machine σ π κ ω} {i j : FiberId}
  {f : Fiber σ π κ} {move : Move α}

/-- The fibers that an action puts behind the others. -/
def born : Action σ π κ → List (Fiber σ π κ)
  | .forkJoin children _ => children.map (fun c => ⟨c.2, .created c.1⟩)
  | _ => []

/-- Where an action leaves the fiber that takes it, among `n` fibers. -/
def phaseAfter (n : Nat) : Action σ π κ → Phase σ κ
  | .next step => .running (some step)
  | .forkJoin [] join => .running join
  | .forkJoin children join => .joining (List.range' n children.length) join
  | .delay wait andThen => .sleeping wait andThen
  | .suspend call andThen => .waiting call andThen
  | .finish => .ended none
  | .terminate e => .ended (some e)

/-- Where a fiber stands that goes on with a step, or with none. -/
def standsAt : Option σ → Phase σ κ
  | some step => .running (some step)
  | none => .ended none

/-- What an action makes of the packet: a failure is kept in it. -/
def packetAfter (d : Dynamics σ π κ α ω) (packet : π) : Action σ π κ → π
  | .terminate e => d.keepFailure e packet
  | _ => packet

/-- What an action makes of the world: the end of a fiber is taken note of. -/
def worldAfter (d : Dynamics σ π κ α ω) (world : ω) : Action σ π κ → ω
  | .finish => d.ended true world
  | .terminate _ => d.ended false world
  | _ => world

/-- The action that applying a step comes to; a panic ends the fiber. -/
def actionOf (d : Dynamics σ π κ α ω) (step : σ) (applied : Applied σ π κ ω) : Action σ π κ :=
  match applied.outcome with
  | .ok action => action
  | .error panic => .terminate (.panicked (d.nameOf step) panic.message)

/-- A machine in which fiber `i` took an action. -/
def took (d : Dynamics σ π κ α ω) (m : Machine σ π κ ω) (i : FiberId) (packet : π) (world : ω)
    (action : Action σ π κ) : Machine σ π κ ω :=
  { fibers := m.fibers.set i ⟨packetAfter d packet action, phaseAfter m.fibers.length action⟩ ++
      born action
    world := worldAfter d world action }

theorem gone_on (n : Nat) (next : Option σ) :
    (⟨packetAfter d packet (.goOn next), phaseAfter n (.goOn next : Action σ π κ)⟩ :
      Fiber σ π κ) = ⟨packet, standsAt next⟩ := by
  cases next <;> rfl

theorem born_go_on (next : Option σ) : born (.goOn next : Action σ π κ) = [] := by
  cases next <;> rfl

theorem stands_at_shape (next : Option σ) :
    (standsAt next : Phase σ κ) = .ended none ∨
      ∃ step, next = some step ∧ (standsAt next : Phase σ κ) = .running (some step) := by
  cases next with
  | none => exact .inl rfl
  | some step => exact .inr ⟨step, rfl, rfl⟩

theorem obey_took (packet : π) (world : ω) (action : Action σ π κ) :
    m.obey d i packet world action = took d m i packet world action := by
  cases action with
  | forkJoin children join =>
    cases children <;>
      simp [obey, fork, replace, took, born, phaseAfter, packetAfter, worldAfter]
  | _ => simp [obey, conclude, replace, took, born, phaseAfter, packetAfter, worldAfter]

/-- What a move that is possible makes of the machine, by the phase in which
it finds its fiber. -/
inductive Moved (d : Dynamics σ π κ α ω) (m : Machine σ π κ ω) (i : FiberId) :
    Fiber σ π κ → Move α → Machine σ π κ ω → Prop where
  | start (p : π) (step : σ) : Moved d m i ⟨p, .created step⟩ .run
      (m.replace i ⟨p, .running (some step)⟩ (d.started m.world))
  | finish (p : π) : Moved d m i ⟨p, .running none⟩ .run (took d m i p m.world .finish)
  | step (p : π) (step : σ) : Moved d m i ⟨p, .running (some step)⟩ .run
      (took d m i (d.apply step p m.world).packet (d.apply step p m.world).world
        (actionOf d step (d.apply step p m.world)))
  | wake (p : π) (wait : Duration) (andThen : Option σ) :
      Moved d m i ⟨p, .sleeping wait andThen⟩ .wake (m.replace i ⟨p, .running andThen⟩ m.world)
  | cancel (p : π) (call : κ) (andThen : Option σ) (a : α)
      (stopping : d.isStopping (d.receive call a m.world) = true) :
      Moved d m i ⟨p, .waiting call andThen⟩ (.answer a)
        (took d m i p (d.receive call a m.world) (.terminate .cancelled))
  | answer (p : π) (call : κ) (andThen : Option σ) (a : α)
      (goesOn : d.isStopping (d.receive call a m.world) = false) :
      Moved d m i ⟨p, .waiting call andThen⟩ (.answer a)
        (m.replace i ⟨d.accept call a p, .running andThen⟩ (d.receive call a m.world))
  | crash (p : π) (call : κ) (andThen : Option σ) (message : String) :
      Moved d m i ⟨p, .waiting call andThen⟩ (.crash message)
        (m.replace i ⟨p, .crashed message⟩ m.world)
  | join (p : π) (children : List FiberId) (andThen : Option σ)
      (verdicts : List (Option FiberError)) (done : m.verdicts? children = some verdicts)
      (clean : verdicts.filterMap id = []) :
      Moved d m i ⟨p, .joining children andThen⟩ .join (m.replace i ⟨p, .running andThen⟩ m.world)
  | fail (p : π) (children : List FiberId) (andThen : Option σ)
      (verdicts : List (Option FiberError)) (done : m.verdicts? children = some verdicts)
      (failed : verdicts.filterMap id ≠ []) :
      Moved d m i ⟨p, .joining children andThen⟩ .join
        (took d m i p m.world (.terminate (.childrenFailed (verdicts.filterMap id))))

private theorem conclude_finish (packet : π) (world : ω) :
    m.conclude d i packet world none = took d m i packet world .finish :=
  obey_took packet world .finish

private theorem conclude_terminate (packet : π) (world : ω) (e : FiberError) :
    m.conclude d i packet world (some e) = took d m i packet world (.terminate e) :=
  obey_took packet world (.terminate e)

private theorem moved_of_move {p : π} {phase : Phase σ κ} (found : m.fiber? i = some ⟨p, phase⟩)
    (moves : m.move? d i move = some m') : Moved d m i ⟨p, phase⟩ move m' := by
  simp only [move?, found, Option.bind_eq_bind, Option.bind_some] at moves
  cases phase with
  | created step =>
    cases move <;> cases moves
    exact .start p step
  | running step =>
    cases step with
    | none =>
      cases move <;> cases moves
      rw [conclude_finish]
      exact .finish p
    | some step =>
      cases move <;> cases moves
      rw [applyStep, obey_took]
      exact .step p step
  | sleeping wait andThen =>
    cases move <;> cases moves
    exact .wake p wait andThen
  | waiting call andThen =>
    cases move with
    | answer a =>
      cases moves
      simp only [takeAnswer]
      split
      · rename_i stopping
        rw [conclude_terminate]
        exact .cancel p call andThen a stopping
      · rename_i goesOn
        exact .answer p call andThen a (by simpa using goesOn)
    | crash message =>
      cases moves
      exact .crash p call andThen message
    | _ => cases moves
  | joining children join =>
    cases move with
    | join =>
      obtain ⟨verdicts, done, rfl⟩ := Option.map_eq_some_iff.mp moves
      simp only [afterJoin]
      split
      · rename_i clean
        exact .join p children join verdicts done clean
      · rename_i failed
        rw [conclude_terminate]
        exact .fail p children join verdicts done failed
    | _ => cases moves
  | ended failure => cases move <;> cases moves
  | crashed message => cases move <;> cases moves

private theorem move_of_moved (found : m.fiber? i = some f) (moved : Moved d m i f move m') :
    m.move? d i move = some m' := by
  simp only [move?, found, Option.bind_eq_bind, Option.bind_some]
  cases moved with
  | start | wake | crash => rfl
  | finish p => exact congrArg some (conclude_finish p m.world)
  | step p step => exact congrArg some (obey_took ..)
  | cancel p call andThen a stopping => simp [takeAnswer, stopping, conclude_terminate]
  | answer p call andThen a goesOn => simp [takeAnswer, goesOn]
  | join p children andThen verdicts done clean =>
    simp only [done, Option.map_some, afterJoin, clean]
  | fail p children andThen verdicts done failed =>
    simp only [done, Option.map_some, afterJoin]
    rw [conclude_terminate]

theorem phase_after_fork (n : Nat) {children : List (σ × π)} (somebody : children ≠ [])
    (join : Option σ) :
    phaseAfter n (.forkJoin children join : Action σ π κ) =
      .joining (List.range' n children.length) join := by
  cases children with
  | nil => exact absurd rfl somebody
  | cons => rfl

/-- Every possible move is one of the nine, and each of the nine is possible. -/
theorem move_iff_moved :
    m.move? d i move = some m' ↔ ∃ f, m.fiber? i = some f ∧ Moved d m i f move m' := by
  constructor
  · intro moves
    cases found : m.fiber? i with
    | none => simp [move?, found] at moves
    | some f => exact ⟨f, rfl, moved_of_move found moves⟩
  · rintro ⟨f, found, moved⟩
    exact move_of_moved found moved

theorem run_step {p : π} {step : σ} (found : m.fiber? i = some ⟨p, .running (some step)⟩)
    (moves : m.move? d i move = some m') :
    m' = took d m i (d.apply step p m.world).packet (d.apply step p m.world).world
      (actionOf d step (d.apply step p m.world)) := by
  obtain ⟨f, found', moved⟩ := move_iff_moved.mp moves
  cases found.symm.trans found'
  cases moved
  rfl

/-- A move replaces its fiber, which was not done, and adds fibers that have
not started. -/
theorem move_shape (moves : m.move? d i move = some m') :
    ∃ f f' added, m.fiber? i = some f ∧ f.verdict? = none ∧
      m'.fibers = m.fibers.set i f' ++ added ∧
      ∀ g ∈ added, ∃ step, g.phase = .created step := by
  obtain ⟨f, found, moved⟩ := move_iff_moved.mp moves
  cases moved with
  | step p step =>
    refine ⟨_, _, _, found, rfl, rfl, ?_⟩
    intro g member
    generalize actionOf d step (d.apply step p m.world) = action at member
    cases action with
    | forkJoin children join =>
      obtain ⟨child, _, rfl⟩ := List.mem_map.mp member
      exact ⟨_, rfl⟩
    | _ => cases member
  | finish | cancel | fail => exact ⟨_, _, _, found, rfl, rfl, by simp [born]⟩
  | _ => exact ⟨_, _, [], found, rfl, by simp [replace]; rfl, by simp⟩

theorem fiber?_changed {fibers added : List (Fiber σ π κ)} {world : ω} (within : i < fibers.length) :
    Machine.fiber? ⟨fibers.set i f ++ added, world⟩ j =
      if j = i then some f
      else if j < fibers.length then fibers[j]? else added[j - fibers.length]? := by
  simp only [fiber?, List.getElem?_append, List.length_set]
  by_cases same : j = i
  · subst same
    simp [within]
  · simp [same, Ne.symm same]

private theorem found_within (found : m.fiber? i = some f) : i < m.fibers.length :=
  (List.getElem?_eq_some_iff.mp found).1

theorem took_fiber {p : π} {world : ω} {action : Action σ π κ} (found : m.fiber? i = some f) :
    (took d m i p world action).fiber? i =
      some ⟨packetAfter d p action, phaseAfter m.fibers.length action⟩ := by
  rw [took, fiber?_changed (found_within found), if_pos rfl]

/-- The fibers that an action forks follow those that were there. -/
theorem took_born {p : π} {world : ω} {action : Action σ π κ} (k : Nat) :
    (took d m i p world action).fiber? (m.fibers.length + k) = (born action)[k]? := by
  have beyond : ¬ m.fibers.length + k < m.fibers.length := by omega
  simp [took, fiber?, List.getElem?_append, beyond]

theorem took_length (p : π) (world : ω) (action : Action σ π κ) :
    (took d m i p world action).fibers.length = m.fibers.length + (born action).length := by
  simp [took]

theorem took_drop (p : π) (world : ω) (action : Action σ π κ) :
    (took d m i p world action).fibers.drop m.fibers.length = born action := by
  simp [took]

theorem replace_fiber {f' : Fiber σ π κ} {world : ω} (found : m.fiber? i = some f) :
    (m.replace i f' world).fiber? i = some f' := by
  simp [replace, fiber?, found_within found]

/-! ## Moves that are possible -/

theorem start_moves {p : π} {step : σ} (found : m.fiber? i = some ⟨p, .created step⟩) :
    ∃ m', m.move? d i .run = some m' ∧ m'.fiber? i = some ⟨p, .running (some step)⟩ ∧
      m'.world = d.started m.world :=
  ⟨_, move_iff_moved.mpr ⟨_, found, .start p step⟩, replace_fiber found, rfl⟩

theorem step_moves {p p' : π} {step : σ} {action : Action σ π κ} {world : ω}
    (found : m.fiber? i = some ⟨p, .running (some step)⟩)
    (applies : d.apply step p m.world = ⟨.ok action, p', world⟩) :
    ∃ m', m.move? d i .run = some m' ∧
      m'.fiber? i = some ⟨packetAfter d p' action, phaseAfter m.fibers.length action⟩ ∧
      m'.world = worldAfter d world action := by
  have moved := move_iff_moved.mpr ⟨_, found, .step (d := d) p step⟩
  rw [applies] at moved
  exact ⟨_, moved, took_fiber found, rfl⟩

/-- After a step that forks nobody, only its fiber has changed; it may have panicked. -/
theorem run_alone {p : π} {step : σ} (found : m.fiber? i = some ⟨p, .running (some step)⟩)
    (moves : m.move? d i move = some m')
    (childless : born (actionOf d step (d.apply step p m.world)) = []) :
    m'.fiber? i = some ⟨packetAfter d (d.apply step p m.world).packet
        (actionOf d step (d.apply step p m.world)),
      phaseAfter m.fibers.length (actionOf d step (d.apply step p m.world))⟩ ∧
      m'.world = worldAfter d (d.apply step p m.world).world
        (actionOf d step (d.apply step p m.world)) ∧
      m'.fibers.length = m.fibers.length := by
  cases run_step found moves
  refine ⟨took_fiber found, rfl, ?_⟩
  rw [took_length, childless, List.length_nil, Nat.add_zero]

/-- A step that forks nobody changes its own fiber and the world. -/
theorem step_alone {p p' : π} {step : σ} {action : Action σ π κ} {world : ω}
    (found : m.fiber? i = some ⟨p, .running (some step)⟩) (moves : m.move? d i move = some m')
    (applies : d.apply step p m.world = ⟨.ok action, p', world⟩) (childless : born action = []) :
    m'.fiber? i = some ⟨packetAfter d p' action, phaseAfter m.fibers.length action⟩ ∧
      m'.world = worldAfter d world action ∧ m'.fibers.length = m.fibers.length := by
  have taken : actionOf d step (d.apply step p m.world) = action := by rw [applies]; rfl
  have alone := run_alone found moves (taken.symm ▸ childless)
  rw [taken, applies] at alone
  exact alone

/-- After a step that goes on, its fiber stands at the next one. -/
theorem step_goes_on {p p' : π} {step : σ} {next : Option σ} {world : ω}
    (found : m.fiber? i = some ⟨p, .running (some step)⟩) (moves : m.move? d i move = some m')
    (applies : d.apply step p m.world = ⟨.ok (.goOn next), p', world⟩) :
    m'.fiber? i = some ⟨p', standsAt next⟩ ∧
      m'.world = worldAfter d world (.goOn next : Action σ π κ) ∧
      m'.fibers.length = m.fibers.length := by
  obtain ⟨here, after, length⟩ := step_alone found moves applies (born_go_on next)
  rw [gone_on] at here
  exact ⟨here, after, length⟩

theorem answer_moves {p : π} {call : κ} {andThen : Option σ} {a : α}
    (found : m.fiber? i = some ⟨p, .waiting call andThen⟩)
    (goesOn : d.isStopping (d.receive call a m.world) = false) :
    ∃ m', m.move? d i (.answer a) = some m' ∧
      m'.fiber? i = some ⟨d.accept call a p, .running andThen⟩ ∧
      m'.world = d.receive call a m.world :=
  ⟨_, move_iff_moved.mpr ⟨_, found, .answer p call andThen a goesOn⟩, replace_fiber found, rfl⟩

theorem wake_moves {p : π} {wait : Duration} {andThen : Option σ}
    (found : m.fiber? i = some ⟨p, .sleeping wait andThen⟩) :
    ∃ m', m.move? d i .wake = some m' ∧ m'.fiber? i = some ⟨p, .running andThen⟩ ∧
      m'.world = m.world :=
  ⟨_, move_iff_moved.mpr ⟨_, found, .wake p wait andThen⟩, replace_fiber found, rfl⟩

/-! ## What stays -/

/-- Every fiber but that of the move stays as it is. -/
theorem others_stay (moves : m.move? d i move = some m') (other : j ≠ i)
    (found : m.fiber? j = some f) : m'.fiber? j = some f := by
  obtain ⟨_, f', added, mover, _, shape, _⟩ := move_shape moves
  have same : m'.fiber? j = Machine.fiber? ⟨m.fibers.set i f' ++ added, m.world⟩ j := by
    simp [fiber?, shape]
  rw [same, fiber?_changed (found_within mover), if_neg other, if_pos (found_within found)]
  exact found

/-- A fiber that is done stays as it is. -/
theorem done_stays (moves : m.move? d i move = some m') (found : m.fiber? j = some f)
    (done : f.verdict? = some verdict) : m'.fiber? j = some f := by
  obtain ⟨_, _, _, mover, busy, _⟩ := move_shape moves
  refine others_stay moves ?_ found
  rintro rfl
  rw [found] at mover
  cases mover
  rw [done] at busy
  cases busy

/-- No move takes fibers away. -/
theorem length_le (moves : m.move? d i move = some m') : m.fibers.length ≤ m'.fibers.length := by
  obtain ⟨_, f', added, _, _, shape, _⟩ := move_shape moves
  simp [shape]

/-- A fiber that ended without a failure. -/
def Succeeded (m : Machine σ π κ ω) (i : FiberId) : Prop :=
  ∃ p, m.fiber? i = some ⟨p, .ended none⟩

theorem succeeded_stays (moves : m.move? d i move = some m') (succeeded : Succeeded m j) :
    Succeeded m' j := by
  obtain ⟨p, found⟩ := succeeded
  exact ⟨p, done_stays moves found rfl⟩

private theorem verdict_none (clean : f.verdict? = some none) : f.phase = .ended none := by
  obtain ⟨p, phase⟩ := f
  cases phase <;> simp_all [Fiber.verdict?]

/-- The verdicts on some fibers are known once each of them has one. -/
theorem verdicts_known {ids : List FiberId} {verdicts : List (Option FiberError)} :
    m.verdicts? ids = some verdicts ↔
      ids.map (fun id => (m.fiber? id).bind Fiber.verdict?) = verdicts.map some := by
  induction ids generalizing verdicts with
  | nil => cases verdicts <;> simp [verdicts?]
  | cons id rest ih =>
    simp only [verdicts?, List.mapM_cons, Option.bind_eq_bind, List.map_cons,
      Option.bind_eq_some_iff] at ih ⊢
    cases verdicts with
    | nil => simp
    | cons verdict others =>
      simp only [List.map_cons, List.cons.injEq, ← ih, Option.pure_def, Option.some.injEq]
      constructor
      · rintro ⟨_, head, _, tail, rfl, rfl⟩
        exact ⟨Option.bind_eq_some_iff.mpr head, tail⟩
      · rintro ⟨head, tail⟩
        exact ⟨verdict, Option.bind_eq_some_iff.mp head, others, tail, rfl, rfl⟩

/-- When the verdicts on some fibers are known, each of the fibers has one of
them. -/
theorem judged {ids : List FiberId} {verdicts : List (Option FiberError)}
    (known : m.verdicts? ids = some verdicts) (member : j ∈ ids) :
    ∃ verdict ∈ verdicts, ∃ f, m.fiber? j = some f ∧ f.verdict? = some verdict := by
  have judged := List.mem_map_of_mem (f := fun id => (m.fiber? id).bind Fiber.verdict?) member
  rw [verdicts_known.mp known] at judged
  obtain ⟨verdict, among, same⟩ := List.mem_map.mp judged
  exact ⟨verdict, among, Option.bind_eq_some_iff.mp same.symm⟩

/-- A join has seen all its fibers done. -/
theorem joined_done {ids : List FiberId} {verdicts : List (Option FiberError)}
    (known : m.verdicts? ids = some verdicts) (member : j ∈ ids) :
    ∃ f, m.fiber? j = some f ∧ f.isDone := by
  obtain ⟨verdict, _, f, found, done⟩ := judged known member
  exact ⟨f, found, Option.isSome_iff_exists.mpr ⟨verdict, done⟩⟩

/-- A join that goes on has seen all its fibers succeed. -/
theorem joined_succeeded {ids : List FiberId} {verdicts : List (Option FiberError)}
    (known : m.verdicts? ids = some verdicts) (clean : verdicts.filterMap id = [])
    (member : j ∈ ids) : Succeeded m j := by
  obtain ⟨verdict, among, ⟨p, phase⟩, found, done⟩ := judged known member
  have none : verdict = none := List.filterMap_eq_nil_iff.mp clean verdict among
  subst none
  have ended : phase = .ended none := verdict_none done
  exact ⟨p, ended ▸ found⟩

/-- A join is possible as soon as all its fibers are done. -/
theorem join_possible {ids : List FiberId} {join : Option σ} {p : π}
    (waits : m.fiber? i = some ⟨p, .joining ids join⟩)
    (done : ∀ id ∈ ids, ∃ f, m.fiber? id = some f ∧ f.isDone) :
    ∃ m', m.move? d i .join = some m' := by
  have known : ∃ verdicts, m.verdicts? ids = some verdicts := by
    clear waits
    induction ids with
    | nil => exact ⟨[], rfl⟩
    | cons id rest ih =>
      obtain ⟨others, tail⟩ := ih (fun id member => done id (List.mem_cons_of_mem _ member))
      obtain ⟨f, found, isDone⟩ := done id List.mem_cons_self
      obtain ⟨verdict, head⟩ := Option.isSome_iff_exists.mp isDone
      exact ⟨verdict :: others, verdicts_known.mpr (by
        simp [found, head, verdicts_known.mp tail])⟩
  obtain ⟨verdicts, known⟩ := known
  by_cases clean : verdicts.filterMap id = []
  · exact ⟨_, move_iff_moved.mpr ⟨_, waits, .join p ids join verdicts known clean⟩⟩
  · exact ⟨_, move_iff_moved.mpr ⟨_, waits, .fail p ids join verdicts known clean⟩⟩

/-! ## Courses -/

/-- Something that happens to a machine: one of its fibers makes a move, or
the world that it shares with others changes by itself. -/
inductive Happening (α ω : Type) where
  | move (i : FiberId) (move : Move α)
  | outside (world : ω)

/-- The machine after something happened to it, if that was possible. -/
def happen? (d : Dynamics σ π κ α ω) (m : Machine σ π κ ω) :
    Happening α ω → Option (Machine σ π κ ω)
  | .move i move => m.move? d i move
  | .outside world => some { m with world }

/-- The machine after one thing after another happened to it. -/
def course? (d : Dynamics σ π κ α ω) :
    Machine σ π κ ω → List (Happening α ω) → Option (Machine σ π κ ω)
  | m, [] => some m
  | m, h :: rest => (happen? d m h).bind (fun m => course? d m rest)

variable {h : Happening α ω}

/-- Whatever happens, a fiber only changes by moves of its own. -/
theorem bystander_stays (happened : happen? d m h = some m')
    (bystander : ∀ move, h ≠ .move j move) (found : m.fiber? j = some f) :
    m'.fiber? j = some f := by
  cases h with
  | move i move => exact others_stay happened (fun same => bystander move (same ▸ rfl)) found
  | outside world =>
    cases happened
    exact found

theorem done_stays_done (happened : happen? d m h = some m') (found : m.fiber? j = some f)
    (done : f.verdict? = some verdict) : m'.fiber? j = some f := by
  cases h with
  | move i move => exact done_stays happened found done
  | outside world =>
    cases happened
    exact found

theorem happen_length (happened : happen? d m h = some m') :
    m.fibers.length ≤ m'.fibers.length := by
  cases h with
  | move i move => exact length_le happened
  | outside world =>
    cases happened
    exact Nat.le_refl _

theorem success_lasts (happened : happen? d m h = some m') (succeeded : Succeeded m j) :
    Succeeded m' j := by
  obtain ⟨p, found⟩ := succeeded
  exact ⟨p, done_stays_done happened found rfl⟩

/-! ## Machines of which only the first fiber moves -/

theorem lone_found (alone : m.fibers = [f]) : m.fiber? 0 = some f := by
  rw [fiber?, alone]
  rfl

theorem lone_only {f' : Fiber σ π κ} (alone : m.fibers = [f]) (found : m.fiber? i = some f') :
    i = 0 ∧ f' = f := by
  rw [fiber?, alone] at found
  cases i with
  | zero => exact ⟨rfl, (Option.some.inj found).symm⟩
  | succ => cases found

/-- A fiber stays alone as long as none is added. -/
theorem lone_after {f' : Fiber σ π κ} (alone : m.fibers = [f]) (found : m'.fiber? 0 = some f')
    (length : m'.fibers.length = m.fibers.length) : m'.fibers = [f'] := by
  obtain ⟨only, same⟩ := List.length_eq_one_iff.mp (length.trans (congrArg List.length alone))
  rw [fiber?, same] at found
  rw [same, Option.some.inj found]

/-- Once all others are done only the first fiber moves. -/
theorem first_moves (finished : ∀ j f, 0 < j → m.fiber? j = some f → f.isDone)
    (moves : m.move? d i move = some m') : i = 0 := by
  obtain ⟨f, _, _, found, busy, _⟩ := move_shape moves
  refine Nat.eq_zero_of_not_pos fun later => ?_
  have done := finished i f later found
  rw [Fiber.isDone, busy] at done
  cases done

/-- The others are still done as long as none is added. -/
theorem others_done (finished : ∀ j f, 0 < j → m.fiber? j = some f → f.isDone)
    (happened : happen? d m h = some m') (length : m'.fibers.length = m.fibers.length) :
    ∀ j f, 0 < j → m'.fiber? j = some f → f.isDone := by
  intro j f later found
  have within : j < m.fibers.length := length ▸ found_within found
  obtain ⟨before, here⟩ : ∃ before, m.fiber? j = some before := ⟨_, List.getElem?_eq_getElem within⟩
  have done := finished j before later here
  obtain ⟨verdict, judged⟩ := Option.isSome_iff_exists.mp done
  cases (done_stays_done happened here judged).symm.trans found
  exact done

end DomainSteward.Moves
