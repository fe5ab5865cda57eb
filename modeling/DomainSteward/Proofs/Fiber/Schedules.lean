import DomainSteward.Chain.Rules
import DomainSteward.Proofs.Fiber.Fate
import DomainSteward.Proofs.Fiber.Packet

/-! Schedules make no difference. In every course in which nobody asks for a
stop each fiber has still to do what is left of its tale, so that the fibers
make at most so many moves, never get stuck, and end as their tales end. -/
namespace DomainSteward.Schedules
open Machine Moves Forks Fates Tale

variable {σ π κ α ω : Type} {d : Dynamics σ π κ α ω} {answer : κ → π → α}
  {m m' : Machine σ π κ ω} {i j : FiberId} {f f' : Fiber σ π κ} {move : Move α}
  {h : Happening α ω} {course : List (Happening α ω)} {todo : Tale σ π}
  {todos : List (Tale σ π)} {known : List (Option FiberError)}

/-! ## Courses without a stop -/

/-- What can happen while every call brings what `answer` says and none
panics. -/
def Owed (answer : κ → π → α) (m : Machine σ π κ ω) : Happening α ω → Prop
  | .move i (.answer a) =>
    ∀ p call andThen, m.fiber? i = some ⟨p, .waiting call andThen⟩ → a = answer call p
  | .move _ (.crash _) => False
  | _ => True

/-- A course in which nobody asks for a stop. Who moves when is left open, and
so is what becomes of the world. -/
inductive Course (d : Dynamics σ π κ α ω) (answer : κ → π → α) :
    Machine σ π κ ω → List (Happening α ω) → Machine σ π κ ω → Prop where
  | here (m : Machine σ π κ ω) : Course d answer m [] m
  | on {m next m' : Machine σ π κ ω} {h : Happening α ω} {rest : List (Happening α ω)}
      (owed : Owed answer m h) (happened : happen? d m h = some next)
      (unstopped : d.isStopping next.world = false) (goesOn : Course d answer next rest m') :
      Course d answer m (h :: rest) m'

theorem course_runs (ran : Course d answer m course m') : course? d m course = some m' := by
  induction ran with
  | here m => rfl
  | on _ happened _ _ ih => rw [course?, happened, Option.bind_some, ih]

/-- The moves of a course, by whatever fibers. -/
def moveCount (course : List (Happening α ω)) : Nat :=
  course.countP (fun h => match h with
    | .move _ _ => true
    | .outside _ => false)

/-! ## What is left of a tale -/

/-- What is still to come of fiber `i`, by where it stands, when `known` says
how all the fibers end. -/
inductive Due (d : Dynamics σ π κ α ω) (answer : κ → π → α) (known : List (Option FiberError))
    (i : FiberId) : Fiber σ π κ → Tale σ π → Prop where
  | created {p : π} {step : σ} {t : Tale σ π} (fares : Fares d answer (some step) p t) :
      Due d answer known i ⟨p, .created step⟩ t.later
  | running {p : π} {step : Option σ} {t : Tale σ π} (fares : Fares d answer step p t) :
      Due d answer known i ⟨p, .running step⟩ t
  | sleeping {p : π} {wait : Duration} {andThen : Option σ} {t : Tale σ π}
      (fares : Fares d answer andThen p t) : Due d answer known i ⟨p, .sleeping wait andThen⟩ t.later
  | waiting {p : π} {call : κ} {andThen : Option σ} {t : Tale σ π}
      (fares : Fares d answer andThen (d.accept call (answer call p) p) t) :
      Due d answer known i ⟨p, .waiting call andThen⟩ t.later
  | joins {p : π} {ids : List FiberId} {join : Option σ} {t : Tale σ π}
      {verdicts : List (Option FiberError)} (younger : ∀ id ∈ ids, i < id)
      (fates : ids.map (known[·]?) = verdicts.map some) (clean : verdicts.filterMap id = [])
      (fares : Fares d answer join p t) : Due d answer known i ⟨p, .joining ids join⟩ t.later
  | fails {p : π} {ids : List FiberId} {join : Option σ} {verdicts : List (Option FiberError)}
      (younger : ∀ id ∈ ids, i < id) (fates : ids.map (known[·]?) = verdicts.map some)
      (failed : verdicts.filterMap id ≠ []) :
      Due d answer known i ⟨p, .joining ids join⟩
        ⟨[], 1, d.keepFailure (.childrenFailed (verdicts.filterMap id)) p,
          some (.childrenFailed (verdicts.filterMap id))⟩
  | ended (p : π) (failure : Option FiberError) :
      Due d answer known i ⟨p, .ended failure⟩ ⟨[], 0, p, failure⟩

/-- Every fiber has what is listed for it still to come. -/
structure Foretold (d : Dynamics σ π κ α ω) (answer : κ → π → α) (m : Machine σ π κ ω)
    (todos : List (Tale σ π)) : Prop where
  all : todos.length = m.fibers.length
  due : ∀ i f todo, m.fiber? i = some f → todos[i]? = some todo →
    Due d answer (fates todos) i f todo

private theorem fate_within {ids : List FiberId} {verdicts : List (Option FiberError)}
    (ends : ids.map (known[·]?) = verdicts.map some) {id : FiberId} (member : id ∈ ids) :
    id < known.length := by
  have among : known[id]? ∈ verdicts.map some := ends ▸ List.mem_map_of_mem member
  obtain ⟨verdict, _, same⟩ := List.mem_map.mp among
  exact (List.getElem?_eq_some_iff.mp same.symm).1

private theorem fate_grows {ids : List FiberId} {verdicts : List (Option FiberError)}
    (ends : ids.map (known[·]?) = verdicts.map some) (more : List (Option FiberError)) :
    ids.map ((known ++ more)[·]?) = verdicts.map some :=
  (List.map_congr_left fun _ member => List.getElem?_append_left (fate_within ends member)).trans
    ends

/-- What is due stays due when there are more fibers. -/
theorem due_grows (due : Due d answer known i f todo) (more : List (Option FiberError)) :
    Due d answer (known ++ more) i f todo := by
  cases due with
  | created fares => exact .created fares
  | running fares => exact .running fares
  | sleeping fares => exact .sleeping fares
  | waiting fares => exact .waiting fares
  | joins younger fates clean fares => exact .joins younger (fate_grows fates more) clean fares
  | fails younger fates failed => exact .fails younger (fate_grows fates more) failed
  | ended p failure => exact .ended p failure

private theorem one_verdict {ids : List FiberId} {verdicts others : List (Option FiberError)}
    (fates : ids.map (known[·]?) = verdicts.map some)
    (fates' : ids.map (known[·]?) = others.map some) : verdicts = others :=
  (List.map_inj_right fun _ _ => Option.some.inj).mp (fates.symm.trans fates')

/-- A fiber that is done has met its fate. -/
theorem due_verdict {verdict : Option FiberError} (due : Due d answer known i f todo)
    (done : f.verdict? = some verdict) : todo.failure = verdict := by
  cases due with
  | ended p failure => exact Option.some.inj done
  | _ => cases done

theorem verdicts_foretold {ids : List FiberId} {verdicts : List (Option FiberError)}
    (told : Foretold d answer m todos) (judges : m.verdicts? ids = some verdicts) :
    ids.map ((fates todos)[·]?) = verdicts.map some := by
  refine Eq.trans (List.map_congr_left fun id member => ?_) (verdicts_known.mp judges)
  obtain ⟨verdict, _, f, found, done⟩ := judged judges member
  have within : id < todos.length := told.all ▸ (List.getElem?_eq_some_iff.mp found).1
  have mine : todos[id]? = some todos[id] := List.getElem?_eq_getElem within
  rw [found, Option.bind_some, done, fates, List.getElem?_map, mine, Option.map_some,
    due_verdict (told.due id f _ found mine) done]

/-! ## One move -/

/-- What becomes of a fiber and of what is due of it by one of its moves, in
which it applies the steps `did`: it turns into `f'` and puts the fibers
`added` behind `n` others. -/
structure Passes (d : Dynamics σ π κ α ω) (answer : κ → π → α)
    (known : List (Option FiberError)) (n : Nat) (i : FiberId) (f' : Fiber σ π κ)
    (added : List (Fiber σ π κ)) (did : List (σ × π)) (todo todo' : Tale σ π)
    (births : List (Tale σ π)) : Prop where
  packet : todo'.packet = todo.packet
  failure : todo'.failure = todo.failure
  applied : todo.applied = did ++ todo'.applied
  moves : todo'.moves + total births + 1 ≤ todo.moves
  all : births.length = added.length
  due : Due d answer (known ++ fates births) i f' todo'
  born : ∀ k g t, added[k]? = some g → births[k]? = some t →
    Due d answer (known ++ fates births) (n + k) g t

/-- A move by which no fibers are added. -/
private theorem passes_alone {n : Nat} {did : List (σ × π)} {todo' : Tale σ π}
    (packet : todo'.packet = todo.packet) (failure : todo'.failure = todo.failure)
    (applied : todo.applied = did ++ todo'.applied) (moves : todo'.moves + 1 ≤ todo.moves)
    (due : Due d answer known i f' todo') :
    Passes d answer known n i f' [] did todo todo' [] where
  packet := packet
  failure := failure
  applied := applied
  moves := moves
  all := rfl
  due := due_grows due _
  born := by simp

/-- A move of a fiber that leaves it the rest of its tale. -/
private theorem passes_later {n : Nat} {t : Tale σ π} (due : Due d answer known i f' t) :
    Passes d answer known n i f' [] [] t.later t [] :=
  passes_alone rfl rfl rfl (Nat.le_refl _) due

private theorem range_fates (known more : List (Option FiberError)) :
    (List.range' known.length more.length).map ((known ++ more)[·]?) = more.map some := by
  refine List.ext_getElem (by simp) fun k within within' => ?_
  have inside : k < more.length := by simpa using within'
  simp [List.getElem?_append_right, List.getElem?_eq_getElem inside]

/-- The fibers that a fork adds have all their tales to come. -/
private theorem newborn_due {children : List (σ × π)} {tales : List (Tale σ π)} {n : Nat}
    (each : ∀ (k : Nat) (child : σ × π) (tale : Tale σ π), children[k]? = some child →
      tales[k]? = some tale → Fares d answer (some child.1) child.2 tale)
    (k : Nat) (g : Fiber σ π κ) (t : Tale σ π)
    (listed : (children.map (fun c => (⟨c.2, .created c.1⟩ : Fiber σ π κ)))[k]? = some g)
    (told : (tales.map later)[k]? = some t) : Due d answer known (n + k) g t := by
  rw [List.getElem?_map, Option.map_eq_some_iff] at listed told
  obtain ⟨child, listed, rfl⟩ := listed
  obtain ⟨tale, told, rfl⟩ := told
  exact .created (each k child tale listed told)

private theorem fates_later (tales : List (Tale σ π)) : fates (tales.map later) = fates tales := by
  simp [fates, later]

/-- What a fork makes of its fiber. -/
private theorem fork_passes {step : σ} {p p' : π} {children : List (σ × π)} {join : Option σ}
    {tales : List (Tale σ π)} {todo' : Tale σ π} (all : tales.length = children.length)
    (each : ∀ (k : Nat) (child : σ × π) (tale : Tale σ π), children[k]? = some child →
      tales[k]? = some tale → Fares d answer (some child.1) child.2 tale)
    (packet : todo'.packet = todo.packet) (failure : todo'.failure = todo.failure)
    (applied : todo.applied = [(step, p)] ++ todo'.applied)
    (moves : todo'.moves + total (tales.map later) + 1 ≤ todo.moves)
    (due : Due d answer (known ++ fates tales) i
      ⟨p', phaseAfter known.length (.forkJoin children join)⟩ todo') :
    Passes d answer known known.length i ⟨p', phaseAfter known.length (.forkJoin children join)⟩
      (born (.forkJoin children join)) [(step, p)] todo todo' (tales.map later) where
  packet := packet
  failure := failure
  applied := applied
  moves := moves
  all := by simp [born, all]
  due := (fates_later tales).symm ▸ due
  born := newborn_due each

/-- The fibers that a fork waits for, and how they end. -/
private theorem fork_waits {children : List (σ × π)} {tales : List (Tale σ π)}
    (within : i < known.length) (all : tales.length = children.length) :
    (∀ id ∈ List.range' known.length children.length, i < id) ∧
      (List.range' known.length children.length).map ((known ++ fates tales)[·]?) =
        (fates tales).map some := by
  refine ⟨fun _ member => Nat.lt_of_lt_of_le within (List.mem_range'_1.mp member).1, ?_⟩
  rw [← all, ← List.length_map (f := Tale.failure)]
  exact range_fates known (fates tales)

/-- A step does to its fiber what its tale says. -/
private theorem step_passes [Inhabited ω] {step : σ} {p p' : π} {t : Tale σ π}
    {action : Action σ π κ} (fares : Fares d answer (some step) p t)
    (own : Own d step p action p') (within : i < known.length) :
    ∃ todo' births, Passes d answer known known.length i
      ⟨packetAfter d p' action, phaseAfter known.length action⟩ (born action) [(step, p)] t todo'
      births := by
  cases fares with
  | @next _ _ _ _ t own' rest =>
    obtain ⟨rfl, rfl⟩ := own_once own own'
    exact ⟨t, [], passes_alone rfl rfl rfl (Nat.le_refl _) (.running rest)⟩
  | finish own' =>
    obtain ⟨rfl, rfl⟩ := own_once own own'
    exact ⟨⟨[], 0, _, _⟩, [], passes_alone rfl rfl rfl (Nat.le_refl _) (.ended _ _)⟩
  | terminate own' =>
    obtain ⟨rfl, rfl⟩ := own_once own own'
    exact ⟨⟨[], 0, _, _⟩, [], passes_alone rfl rfl rfl (Nat.le_refl _) (.ended _ _)⟩
  | @delay _ _ _ t _ _ own' rest =>
    obtain ⟨rfl, rfl⟩ := own_once own own'
    exact ⟨t.later, [], passes_alone rfl rfl rfl (Nat.le_refl _) (.sleeping rest)⟩
  | @suspend _ _ _ t _ _ own' rest =>
    obtain ⟨rfl, rfl⟩ := own_once own own'
    exact ⟨t.later, [], passes_alone rfl rfl rfl (Nat.le_refl _) (.waiting rest)⟩
  | @join _ _ _ t children _ tales own' all each clean rest =>
    obtain ⟨rfl, rfl⟩ := own_once own own'
    cases children with
    | nil =>
      cases List.length_eq_zero_iff.mp all
      exact ⟨t, [], passes_alone rfl rfl rfl (Nat.le_succ _) (.running rest)⟩
    | cons child others =>
      obtain ⟨younger, ends⟩ := fork_waits within all
      refine ⟨t.later, _, fork_passes all each rfl rfl rfl ?_ (.joins younger ends clean rest)⟩
      simp only [after, later]
      omega
  | @fail _ _ _ children _ tales own' all each failed =>
    obtain ⟨rfl, rfl⟩ := own_once own own'
    cases children with
    | nil =>
      cases List.length_eq_zero_iff.mp all
      exact absurd rfl failed
    | cons child others =>
      obtain ⟨younger, ends⟩ := fork_waits within all
      refine ⟨⟨[], 1, _, _⟩, _, fork_passes all each rfl rfl rfl ?_ (.fails younger ends failed)⟩
      simp only
      omega

/-- The end of a fiber is no reason to stop. -/
def Steady (d : Dynamics σ π κ α ω) : Prop :=
  ∀ succeeded world, d.isStopping (d.ended succeeded world) = d.isStopping world

private theorem own_of_fares {step : σ} {p : π} {t : Tale σ π}
    (fares : Fares d answer (some step) p t) (world : ω) :
    Own d step p (actionOf d step (d.apply step p world)) (d.apply step p world).packet := by
  have exact' {action : Action σ π κ} {p' : π} (own : Own d step p action p') :
      Own d step p (actionOf d step (d.apply step p world)) (d.apply step p world).packet := by
    rw [own.asks, own.leaves]
    exact own
  cases fares with
  | next own | finish own | terminate own | delay own | suspend own | join own | fail own =>
    exact exact' own

/-- A move does to its fiber what its tale says. -/
private theorem move_passes [Inhabited ω] (steady : Steady d) (told : Foretold d answer m todos)
    (found : m.fiber? i = some f) (due : Due d answer (fates todos) i f todo)
    (moved : Moved d m i f move m') (owed : Owed answer m (.move i move))
    (unstopped : d.isStopping m'.world = false) :
    ∃ f' added todo' births, m'.fibers = m.fibers.set i f' ++ added ∧
      Passes d answer (fates todos) m.fibers.length i f' added
        (applies? m i (.move i move)).toList todo todo' births := by
  have size : (fates todos).length = m.fibers.length := by rw [fates, List.length_map, told.all]
  have within : i < (fates todos).length := size ▸ (List.getElem?_eq_some_iff.mp found).1
  have idle (busy : ∀ step, f.phase ≠ .running (some step)) :
      (applies? m i (.move i move)).toList = [] := by rw [applies_none found busy]; rfl
  cases moved with
  | start p step =>
    cases due with
    | created fares =>
      rw [idle (by simp)]
      exact ⟨_, [], _, [], (List.append_nil _).symm, passes_later (.running fares)⟩
  | finish p =>
    cases due with
    | running fares =>
      cases fares
      rw [idle (by simp)]
      exact ⟨_, [], ⟨[], 0, p, none⟩, [], rfl,
        passes_alone rfl rfl rfl (Nat.le_refl _) (.ended p none)⟩
  | step p step =>
    cases due with
    | running fares =>
      obtain ⟨todo', births, passes⟩ :=
        step_passes fares (own_of_fares fares m.world) within
      rw [applies_iff.mpr ⟨rfl, found⟩]
      exact ⟨_, _, todo', births, rfl, size ▸ passes⟩
  | wake p wait andThen =>
    cases due with
    | sleeping fares =>
      rw [idle (by simp)]
      exact ⟨_, [], _, [], (List.append_nil _).symm, passes_later (.running fares)⟩
  | cancel p call andThen a stopping =>
    have stops : d.isStopping (d.ended false (d.receive call a m.world)) = false := unstopped
    rw [steady, stopping] at stops
    cases stops
  | answer p call andThen a goesOn =>
    cases due with
    | waiting fares =>
      cases owed p call andThen found
      rw [idle (by simp)]
      exact ⟨_, [], _, [], (List.append_nil _).symm, passes_later (.running fares)⟩
  | crash p call andThen message => exact owed.elim
  | join p ids andThen verdicts done clean =>
    have ends := verdicts_foretold told done
    cases due with
    | joins younger fates clean fares =>
      rw [idle (by simp)]
      exact ⟨_, [], _, [], (List.append_nil _).symm, passes_later (.running fares)⟩
    | fails younger fates failed =>
      have same := one_verdict fates ends
      exact absurd (same ▸ clean) failed
  | fail p ids andThen verdicts done failed =>
    have ends := verdicts_foretold told done
    cases due with
    | joins younger fates clean fares =>
      have same := one_verdict fates ends
      exact absurd (same ▸ clean) failed
    | fails younger fates failed =>
      cases one_verdict fates ends
      rw [idle (by simp)]
      exact ⟨_, [], ⟨[], 0, _, _⟩, [], rfl,
        passes_alone rfl rfl rfl (Nat.le_refl _) (.ended _ _)⟩

/-! ## Whole courses -/

private theorem fates_passed {todo' : Tale σ π} (mine : todos[i]? = some todo)
    (failure : todo'.failure = todo.failure) (births : List (Tale σ π)) :
    fates (todos.set i todo' ++ births) = fates todos ++ fates births := by
  have same : (fates todos)[i]? = some todo'.failure := by
    rw [fates, List.getElem?_map, mine, Option.map_some, failure]
  obtain ⟨within, here⟩ := List.getElem?_eq_some_iff.mp same
  rw [fates, List.map_append, List.map_set]
  exact congrArg (· ++ fates births) (here ▸ List.set_getElem_self within)

private theorem foretold_passed {todo' : Tale σ π} {births : List (Tale σ π)}
    {added : List (Fiber σ π κ)} {did : List (σ × π)} (told : Foretold d answer m todos)
    (found : m.fiber? i = some f) (mine : todos[i]? = some todo)
    (shape : m'.fibers = m.fibers.set i f' ++ added)
    (passes : Passes d answer (fates todos) m.fibers.length i f' added did todo todo' births) :
    Foretold d answer m' (todos.set i todo' ++ births) := by
  have within : i < m.fibers.length := (List.getElem?_eq_some_iff.mp found).1
  refine ⟨by simp [shape, told.all, passes.all], fun j g t here mine' => ?_⟩
  rw [fates_passed mine passes.failure]
  have same : m'.fiber? j = Machine.fiber? ⟨m.fibers.set i f' ++ added, m.world⟩ j := by
    simp [fiber?, shape]
  rw [same, fiber?_changed within] at here
  rw [List.getElem?_append, List.length_set, told.all] at mine'
  by_cases own : j = i
  · subst own
    rw [if_pos rfl] at here
    rw [if_pos within, List.getElem?_set_self (told.all ▸ within)] at mine'
    cases here
    cases mine'
    exact passes.due
  · rw [if_neg own] at here
    by_cases old : j < m.fibers.length
    · rw [if_pos old] at here mine'
      rw [List.getElem?_set_ne (Ne.symm own)] at mine'
      exact due_grows (told.due j g t here mine') _
    · rw [if_neg old] at here mine'
      have due := passes.born (j - m.fibers.length) g t here mine'
      rwa [Nat.add_sub_cancel' (Nat.le_of_not_lt old)] at due

private theorem total_set {todo' : Tale σ π} (mine : todos[i]? = some todo) :
    total (todos.set i todo') + todo.moves = total todos + todo'.moves := by
  induction todos generalizing i with
  | nil => cases mine
  | cons head rest ih =>
    cases i with
    | zero =>
      cases mine
      simp only [total, List.set_cons_zero]
      omega
    | succ i =>
      have rest := ih (i := i) mine
      simp only [total, List.set_cons_succ] at rest ⊢
      omega

/-- What some fibers have still to do once something happened. -/
private structure Goes (m : Machine σ π κ ω) (h : Happening α ω) (todos todos' : List (Tale σ π)) :
    Prop where
  moves : moveCount [h] + total todos' ≤ total todos
  each : ∀ i todo, todos[i]? = some todo → ∃ todo', todos'[i]? = some todo' ∧
    todo'.packet = todo.packet ∧ todo'.failure = todo.failure ∧
    todo.applied = (applies? m i h).toList ++ todo'.applied

private theorem foretold_happen [Inhabited ω] (steady : Steady d)
    (told : Foretold d answer m todos) (owed : Owed answer m h)
    (happened : happen? d m h = some m') (unstopped : d.isStopping m'.world = false) :
    ∃ todos', Foretold d answer m' todos' ∧ Goes m h todos todos' := by
  cases h with
  | outside world =>
    cases happened
    exact ⟨todos, ⟨told.all, told.due⟩, Nat.le_of_eq (Nat.zero_add _),
      fun i todo mine => ⟨todo, mine, rfl, rfl, rfl⟩⟩
  | move i move =>
    obtain ⟨f, found, moved⟩ := move_iff_moved.mp happened
    have within : i < todos.length := told.all ▸ (List.getElem?_eq_some_iff.mp found).1
    obtain ⟨todo, mine⟩ : ∃ todo, todos[i]? = some todo := ⟨_, List.getElem?_eq_getElem within⟩
    obtain ⟨f', added, todo', births, shape, passes⟩ :=
      move_passes steady told found (told.due i f todo found mine) moved owed unstopped
    refine ⟨_, foretold_passed told found mine shape passes, ?_, fun j old mine' => ?_⟩
    · have sum : total (todos.set i todo') + todo.moves = total todos + todo'.moves :=
        total_set mine
      have spent := passes.moves
      have joined : total (todos.set i todo' ++ births) =
          total (todos.set i todo') + total births := total_append _ _
      have one : moveCount [(.move i move : Happening α ω)] = 1 := rfl
      omega
    · have inside : j < (todos.set i todo').length :=
        List.length_set.symm ▸ (List.getElem?_eq_some_iff.mp mine').1
      rw [List.getElem?_append_left inside]
      by_cases own : j = i
      · subst own
        cases mine.symm.trans mine'
        exact ⟨todo', List.getElem?_set_self within, passes.packet, passes.failure,
          passes.applied⟩
      · refine ⟨old, (List.getElem?_set_ne (Ne.symm own)).trans mine', rfl, rfl, ?_⟩
        have idle : applies? m j (.move i move) = none := by
          cases applies : applies? m j (.move i move) with
          | none => rfl
          | some did =>
            cases (applies_iff.mp applies).1
            exact absurd rfl own
        rw [idle]
        rfl

/-- In a course without a stop every fiber does what its tale says, and every
move counts. -/
theorem course_foretold [Inhabited ω] (steady : Steady d) (told : Foretold d answer m todos)
    (ran : Course d answer m course m') :
    ∃ todos', Foretold d answer m' todos' ∧ moveCount course + total todos' ≤ total todos ∧
      ∀ i todo, todos[i]? = some todo → ∃ todo', todos'[i]? = some todo' ∧
        todo'.packet = todo.packet ∧ todo'.failure = todo.failure ∧
        todo.applied = applied d i m course ++ todo'.applied := by
  induction ran generalizing todos with
  | here m =>
    exact ⟨todos, told, Nat.le_of_eq (Nat.zero_add _),
      fun i todo mine => ⟨todo, mine, rfl, rfl, rfl⟩⟩
  | @on m next m' h rest owed happened unstopped _ ih =>
    obtain ⟨between, told, goes⟩ := foretold_happen steady told owed happened unstopped
    obtain ⟨todos', told, moves, each⟩ := ih told
    refine ⟨todos', told, ?_, fun i todo mine => ?_⟩
    · have count : moveCount (h :: rest) = moveCount [h] + moveCount rest := by
        rw [moveCount, moveCount, moveCount, ← List.countP_append, List.singleton_append]
      have first := goes.moves
      omega
    · obtain ⟨middle, mine, packet, failure, did⟩ := goes.each i todo mine
      obtain ⟨todo', mine, packet', failure', did'⟩ := each i middle mine
      refine ⟨todo', mine, packet'.trans packet, failure'.trans failure, ?_⟩
      rw [applied_cons happened, did, did', List.append_assoc]

/-- A fiber that waits for others can go on, or one of them is not done. -/
private theorem joining_moves {p : π} {ids : List FiberId} {join : Option σ}
    (waits : m.fiber? i = some ⟨p, .joining ids join⟩)
    (inside : ∀ id ∈ ids, id < m.fibers.length) :
    (∃ after, m.move? d i .join = some after) ∨
      ∃ id ∈ ids, ∃ g, m.fiber? id = some g ∧ ¬ g.isDone := by
  by_cases all : ∀ id ∈ ids, ∃ g, m.fiber? id = some g ∧ g.isDone
  · exact .inl (join_possible waits all)
  · obtain ⟨id, rest⟩ := Classical.not_forall.mp all
    obtain ⟨member, undone⟩ := Classical.not_imp.mp rest
    have found : m.fiber? id = some _ := List.getElem?_eq_getElem (inside id member)
    exact .inr ⟨id, member, _, found, fun done => undone ⟨_, found, done⟩⟩

/-- While a fiber is not done, some fiber can move. -/
theorem somebody_moves (told : Foretold d answer m todos) (found : m.fiber? i = some f)
    (busy : ¬ f.isDone) :
    ∃ j move after, m.move? d j move = some after ∧ Owed answer m (.move j move) := by
  -- A fiber that waits for others waits for later ones, so the last one that is not done can move.
  induction behind : m.fibers.length - i using Nat.strongRecOn generalizing i f with
  | ind n ih =>
    have within : i < m.fibers.length := (List.getElem?_eq_some_iff.mp found).1
    obtain ⟨todo, mine⟩ : ∃ todo, todos[i]? = some todo :=
      ⟨_, List.getElem?_eq_getElem (told.all ▸ within)⟩
    cases told.due i f todo found mine with
    | created => exact ⟨i, .run, _, move_iff_moved.mpr ⟨_, found, .start _ _⟩, trivial⟩
    | @running p step =>
      cases step with
      | none => exact ⟨i, .run, _, move_iff_moved.mpr ⟨_, found, .finish _⟩, trivial⟩
      | some step => exact ⟨i, .run, _, move_iff_moved.mpr ⟨_, found, .step _ _⟩, trivial⟩
    | sleeping => exact ⟨i, .wake, _, move_iff_moved.mpr ⟨_, found, .wake _ _ _⟩, trivial⟩
    | @waiting p call andThen =>
      have owed : Owed answer m (.move i (.answer (answer call p))) := by
        intro q call' andThen' found'
        cases found.symm.trans found'
        rfl
      cases stops : d.isStopping (d.receive call (answer call p) m.world) with
      | true => exact ⟨i, _, _, move_iff_moved.mpr ⟨_, found, .cancel _ _ _ _ stops⟩, owed⟩
      | false => exact ⟨i, _, _, move_iff_moved.mpr ⟨_, found, .answer _ _ _ _ stops⟩, owed⟩
    | joins younger ends | fails younger ends =>
      have inside : ∀ id ∈ _, id < m.fibers.length := fun id member => by
        have within := fate_within ends member
        rwa [fates, List.length_map, told.all] at within
      rcases joining_moves (d := d) found inside with ⟨after, goes⟩ | ⟨id, member, g, here, undone⟩
      · exact ⟨i, .join, after, goes, trivial⟩
      · have nearer : m.fibers.length - id < n :=
          behind ▸ Nat.sub_lt_sub_left within (younger id member)
        exact ih _ nearer here undone rfl
    | ended => exact absurd rfl busy

end DomainSteward.Schedules
