import DomainSteward.Chain.Rules
import DomainSteward.Proofs.Fiber.Packet
import DomainSteward.Proofs.Fiber.Schedules

/-! Forking and joining, for the chains of steps that the machine runs. Every
finite tree of chains whose steps touch only their own packet ends in one way,
whatever the schedule: joins wait for all the fibers of their fork and run only
if all of them succeeded, a panic ends one fiber, and the failure that ends a
fiber is in its packet. -/
namespace DomainSteward.Barrier
open Machine Moves Forks Fates Schedules

variable {σ π κ α ω ε : Type} {d : Dynamics σ π κ α ω} {first last before after : Machine σ π κ ω}
  {course rest : List (Happening α ω)} {i : FiberId} {step : σ} {p : π}

/-- A moment of a course in which fiber `i` applies a step to its packet. -/
structure Moment (d : Dynamics σ π κ α ω) (first : Machine σ π κ ω)
    (course : List (Happening α ω)) (i : FiberId) (step : σ) (p : π)
    (before after : Machine σ π κ ω) (rest : List (Happening α ω)) : Prop where
  during : ∃ earlier, course = earlier ++ .move i .run :: rest ∧
    course? d first earlier = some before
  found : before.fiber? i = some ⟨p, .running (some step)⟩
  moves : before.move? d i .run = some after

theorem course_append (course rest : List (Happening α ω)) :
    course? d first (course ++ rest) = (course? d first course).bind (course? d · rest) := by
  induction course generalizing first with
  | nil => rfl
  | cons h others ih =>
    cases happened : happen? d first h with
    | none => simp [course?, happened]
    | some next => simp only [List.cons_append, course?, happened, Option.bind_some, ih]

/-- The rest of a course begins where a moment of it ends. -/
theorem moment_rest (moment : Moment d first course i step p before after rest)
    (ran : course? d first course = some last) : course? d after rest = some last := by
  obtain ⟨earlier, rfl, came⟩ := moment.during
  rw [course_append, came, Option.bind_some, course?, happen?, moment.moves,
    Option.bind_some] at ran
  exact ran

/-- The law of a fork by which fiber `i` forks `children`, with packet `p`, as
the fibers from `n` on; `after` is the machine right after that, and `last` one
in which the fiber has applied the steps `log` since. -/
structure Joins (d : Dynamics σ π κ α ω) (after last : Machine σ π κ ω) (i n : FiberId) (p : π)
    (children : List (σ × π)) (join : Option σ) (log : List (σ × π)) : Prop where
  /-- A fork of nobody goes on at once. -/
  at_once : children = [] → after.fiber? i = some ⟨p, .running join⟩
  /-- Every child is a fiber of its own, with its own packet. -/
  begun : ∀ k child, children[k]? = some child →
    after.fiber? (n + k) = some ⟨child.2, .created child.1⟩
  /-- The fiber waits until all its children are done. Only if all of them
  succeeded does it apply the join, to the packet of the fork. -/
  stands : Fork d last i p (List.range' n children.length) join log
  /-- In the end the join was the next thing it applied, if all of them
  succeeded, and otherwise it applied nothing and ended with their failures, in
  the order of the fork. -/
  settles : ∀ f, last.fiber? 0 = some f → f.isDone →
    ((∀ id ∈ List.range' n children.length, Succeeded last id) ∧ log.head? = join.map (·, p)) ∨
      ∃ verdicts, last.verdicts? (List.range' n children.length) = some verdicts ∧
        verdicts.filterMap id ≠ [] ∧ log = [] ∧
        last.fiber? i = some
          ⟨d.keepFailure (.childrenFailed (verdicts.filterMap id)) p,
            .ended (some (.childrenFailed (verdicts.filterMap id)))⟩

variable {root s : σ} {r q q' : π} {world world' : ω}

/-- Every fork of a course keeps its law. -/
theorem forks_join {children : List (σ × π)} {join : Option σ}
    (ran : course? d (solo root r world) course = some last)
    (moment : Moment d (solo root r world) course i s q before after rest)
    (asks : d.apply s q before.world = ⟨.ok (.forkJoin children join), q', world'⟩) :
    Joins d after last i before.fibers.length q' children join (applied d i after rest) := by
  obtain ⟨opens, at_once, begun⟩ := fork_opens moment.found asks moment.moves
  have stands := fork_law opens (moment_rest moment ran)
  have awaited := awaited_course (awaited_solo root r world) ran
  exact ⟨at_once, begun, stands, fun f opened done =>
    fork_settled stands fun g found => nobody_left awaited opened done found⟩

private theorem done_stays_on {f : Fiber σ π κ} {verdict : Option FiberError}
    (ran : course? d first course = some last) (found : first.fiber? i = some f)
    (done : f.verdict? = some verdict) : last.fiber? i = some f := by
  induction course generalizing first with
  | nil =>
    cases ran
    exact found
  | cons h others ih =>
    obtain ⟨next, happened, ran⟩ := Option.bind_eq_some_iff.mp ran
    exact ih ran (done_stays_done happened found done)

/-- The law of a panic by which fiber `i` ends with packet `p`: it is a failure
of that fiber, and all the others stay as they were. -/
structure Contained (d : Dynamics σ π κ α ω) (before after last : Machine σ π κ ω) (i : FiberId)
    (p : π) (e : FiberError) : Prop where
  alone : after.fibers = before.fibers.set i ⟨d.keepFailure e p, .ended (some e)⟩
  forever : last.fiber? i = some ⟨d.keepFailure e p, .ended (some e)⟩

/-- Every panic of a course is contained. -/
theorem panics_end_their_fiber {panic : Panic} (ran : course? d first course = some last)
    (moment : Moment d first course i s q before after rest)
    (panics : d.apply s q before.world = ⟨.error panic, q', world'⟩) :
    Contained d before after last i q' (.panicked (d.nameOf s) panic.message) := by
  have alone := panic_ends_its_fiber moment.found panics moment.moves
  have within := (List.getElem?_eq_some_iff.mp moment.found).1
  have here : after.fiber? i =
      some ⟨d.keepFailure (.panicked (d.nameOf s) panic.message) q',
        .ended (some (.panicked (d.nameOf s) panic.message))⟩ := by
    rw [fiber?, alone, List.getElem?_set_self within]
  exact ⟨alone, done_stays_on (moment_rest moment ran) here rfl⟩

/-! ## Chains of steps -/

variable {c : Conduct} {g : GuestRules ε} {answer : Pending ε → Packet → Answer}

theorem chain_steady (c : Conduct) (g : GuestRules ε) : Steady (chainDynamics c g) := by
  intro succeeded world
  show World.isStopping (c.count _ world) = _
  rw [Conduct.count]
  split <;> rfl

/-- What holds of a machine of chains that a course has reached from one fiber
whose tale is `t`. -/
structure Tells (c : Conduct) (g : GuestRules ε) (answer : Pending ε → Packet → Answer)
    (t : Tale (Step ε) Packet) (first : ChainMachine ε) (course : List (Happening Answer World))
    (last : ChainMachine ε) : Prop where
  /-- No schedule goes on for ever. -/
  bounded : moveCount course ≤ t.moves + 1
  /-- None gets stuck. -/
  goes_on : (∃ f, last.fiber? 0 = some f ∧ f.isDone) ∨
    ∃ i move next, last.move? (chainDynamics c g) i move = some next ∧
      Owed answer last (.move i move)
  /-- The first fiber has applied the steps of its tale, as far as it came. -/
  so_far : applied (chainDynamics c g) 0 first course <+: t.applied
  /-- It ends with the packet and the result of its tale, when it has applied
  all the steps of it. -/
  outcome : ∀ f, last.fiber? 0 = some f → f.isDone →
    f = ⟨t.packet, .ended t.failure⟩ ∧ applied (chainDynamics c g) 0 first course = t.applied
  /-- No panic gets out of its fiber. -/
  caught : ∀ i p message, last.fiber? i ≠ some ⟨p, .crashed message⟩
  /-- A failure that ended a fiber is in its packet. -/
  slots : ∀ i p e, last.fiber? i = some ⟨p, .ended (some e)⟩ → p.failure? = some e

private theorem failure_slot (e : FiberError) (p : Packet) :
    ((chainDynamics c g).keepFailure e p).failure? = some e := by
  show ((p.put Packet.failureKey (.failure e)).value? Packet.failureKey).bind _ = some e
  rw [Packets.value_put_same]
  rfl

private theorem foretold_solo {root : Step ε} {r : Packet} {world : World}
    {t : Tale (Step ε) Packet} (fares : Fares (chainDynamics c g) answer (some root) r t) :
    Foretold (chainDynamics c g) answer (solo root r world) [t.later] := by
  refine ⟨rfl, fun i f todo found mine => ?_⟩
  cases i with
  | zero =>
    cases found
    cases mine
    exact .created fares
  | succ i => cases mine

theorem course_tells {root : Step ε} {r : Packet} {world : World} {t : Tale (Step ε) Packet}
    {course : List (Happening Answer World)} {last : ChainMachine ε}
    (fares : Fares (chainDynamics c g) answer (some root) r t)
    (ran : Course (chainDynamics c g) answer (solo root r world) course last) :
    Tells c g answer t (solo root r world) course last := by
  obtain ⟨todos, told, moves, each⟩ :=
    course_foretold (chain_steady c g) (foretold_solo fares) ran
  obtain ⟨todo, mine, packet, failure, did⟩ := each 0 t.later rfl
  have opens : ∃ f, last.fiber? 0 = some f :=
    ⟨_, List.getElem?_eq_getElem (told.all ▸ (List.getElem?_eq_some_iff.mp mine).1)⟩
  refine ⟨?_, ?_, ⟨todo.applied, did.symm⟩, ?_, ?_, ?_⟩
  · have start : Tale.total [t.later] = t.moves + 1 := by simp [Tale.total, Tale.later]
    omega
  · obtain ⟨f, opens⟩ := opens
    by_cases done : f.isDone
    · exact .inl ⟨f, opens, done⟩
    · exact .inr (somebody_moves told opens done)
  · intro f found done
    have due := told.due 0 f todo found mine
    cases due with
    | ended p failed =>
      cases packet
      cases failure
      exact ⟨rfl, (did.trans (List.append_nil _)).symm⟩
    | _ => cases done
  · intro i p message found
    obtain ⟨todo, mine⟩ : ∃ todo, todos[i]? = some todo :=
      ⟨_, List.getElem?_eq_getElem (told.all ▸ (List.getElem?_eq_some_iff.mp found).1)⟩
    cases told.due i _ todo found mine
  · intro i p e found
    obtain ⟨before, rfl⟩ := slotted_course (slotted_solo root r world) (course_runs ran) i p e found
    exact failure_slot e before

private theorem tale_slot {step : Option (Step ε)} {p : Packet} {t : Tale (Step ε) Packet}
    (fares : Fares (chainDynamics c g) answer step p t) (e : FiberError)
    (failed : t.failure = some e) : t.packet.failure? = some e := by
  induction fares with
  | done | finish => cases failed
  | terminate | fail =>
    cases failed
    exact failure_slot (c := c) (g := g) _ _
  | next _ _ ih | delay _ _ ih | suspend _ _ ih => exact ih failed
  | join _ _ _ _ _ _ ih => exact ih failed

/-- Every finite tree of chains whose steps touch only their own packet has one
tale, and every course without a stop tells it: the result and the packet of
the first fiber are the same for every schedule. All the forks of a course
join by their law, and all its panics are contained. -/
theorem every_schedule_tells_one_tale (c : Conduct) (g : GuestRules ε)
    (answer : Pending ε → Packet → Answer) (root : Step ε) (p : Packet)
    (finite : Finite (chainDynamics c g) answer (some root) p) :
    ∃ t, Fares (chainDynamics c g) answer (some root) p t ∧
      (∀ other, Fares (chainDynamics c g) answer (some root) p other → other = t) ∧
      (∀ e, t.failure = some e → t.packet.failure? = some e) ∧
      ∀ world course last, Course (chainDynamics c g) answer (solo root p world) course last →
        Tells c g answer t (solo root p world) course last ∧
        ∀ i step q before after rest,
          Moment (chainDynamics c g) (solo root p world) course i step q before after rest →
          (∀ children join q' world',
            (chainDynamics c g).apply step q before.world =
              ⟨.ok (.forkJoin children join), q', world'⟩ →
            Joins (chainDynamics c g) after last i before.fibers.length q' children join
              (applied (chainDynamics c g) i after rest)) ∧
          ∀ panic q' world',
            (chainDynamics c g).apply step q before.world = ⟨.error panic, q', world'⟩ →
            Contained (chainDynamics c g) before after last i q'
              (.panicked (step.name g.name) panic.message) := by
  obtain ⟨t, fares⟩ := finite_fares finite
  refine ⟨t, fares, fun other tells => one_tale tells fares, tale_slot fares, ?_⟩
  intro world course last ran
  refine ⟨course_tells fares ran, fun i step q before after rest moment => ⟨?_, ?_⟩⟩
  · intro children join q' world' asks
    exact forks_join (course_runs ran) moment asks
  · intro panic q' world' panics
    exact panics_end_their_fiber (course_runs ran) moment panics

/-! ## A fork of three -/

/-- Steps that fork, sleep, sign their packet, fail or panic. -/
inductive Errand where
  | fork
  | nap
  | sign
  | fail
  | panic

/-- What the errands do. -/
def errands : GuestRules Errand where
  name
    | .fork => "fork"
    | .nap => "nap"
    | .sign => "sign"
    | .fail => "fail"
    | .panic => "panic"
  apply e next branches p w :=
    match e with
    | .fork => .of (.forkJoin (branches.map (fun branch => (branch, p))) next) p w
    | .nap => .of (.delay (.ofSeconds 1) next) p w
    | .sign => .of (.goOn next) (p.put "signed" (.flag true)) w
    | .fail => .of (.terminate (.invalidState "spoiled")) p w
    | .panic => ⟨.error (.said "lost"), p, w⟩
  judge _ x _ p w := .of x.goOn p w
  finish _ w := w
  deliver _ p := p

/-- A step that forks one fiber for each of some errands and then signs. -/
def forkOf (children : List Errand) : Step Errand :=
  .guest .fork (some (.guest .sign none [])) (children.map (fun e => .guest e none []))

/-- A fork of a sleeper, a failure and a panic. -/
def trio : Step Errand := forkOf [.nap, .fail, .panic]

/-- The failures of the trio. -/
def trioFailure : FiberError :=
  .childrenFailed [.invalidState "spoiled", .panicked "panic" "lost"]

/-- None of the trio makes a call. -/
def unasked (_ : Pending Errand) (_ : Packet) : Answer := .done

private theorem trio_finite : Finite (chainDynamics {} errands) unasked (some trio) {} := by
  have forks : Own (chainDynamics {} errands) trio {}
      (.forkJoin
        [(.guest .nap none [], {}), (.guest .fail none [], {}), (.guest .panic none [], {})]
        (some (.guest .sign none []))) {} := ⟨fun _ => rfl, fun _ => rfl⟩
  refine .fork forks ?_ (.finish ⟨fun _ => rfl, fun _ => rfl⟩)
  intro child member
  rcases List.mem_cons.mp member with rfl | member
  · have naps : Own (chainDynamics {} errands) (.guest .nap none []) {}
        (.delay (.ofSeconds 1) none) {} := ⟨fun _ => rfl, fun _ => rfl⟩
    exact .delay naps (.done _)
  rcases List.mem_cons.mp member with rfl | member
  · exact .terminate ⟨fun _ => rfl, fun _ => rfl⟩
  · cases List.mem_singleton.mp member
    exact .terminate ⟨fun _ => rfl, fun _ => rfl⟩

/-- The sleeper of the trio starts last and sleeps on when the others have
failed. -/
def trioCourse : List (Happening Answer World) :=
  [.move 0 .run, .move 0 .run, .move 3 .run, .move 3 .run, .move 2 .run, .move 1 .run,
    .move 1 .run, .move 2 .run, .move 1 .wake, .move 1 .run, .move 0 .join]

private theorem trio_course :
    ∃ last, Course (chainDynamics {} errands) unasked (solo trio {} {}) trioCourse last ∧
      ∃ f, last.fiber? 0 = some f ∧ f.phase = .ended (some trioFailure) := by
  exact ⟨_, .on trivial rfl rfl <| .on trivial rfl rfl <| .on trivial rfl rfl <|
    .on trivial rfl rfl <| .on trivial rfl rfl <| .on trivial rfl rfl <| .on trivial rfl rfl <|
    .on trivial rfl rfl <| .on trivial rfl rfl <| .on trivial rfl rfl <| .on trivial rfl rfl <|
    .here _, _, rfl, rfl⟩

/-- Whatever the schedule, the trio ends with the failures of two of its
fibers, in the order of the fork, and one schedule gets there. -/
theorem trio_tells_one_tale :
    (∃ course last f, Course (chainDynamics {} errands) unasked (solo trio {} {}) course last ∧
      last.fiber? 0 = some f ∧ f.isDone) ∧
    ∀ course last f, Course (chainDynamics {} errands) unasked (solo trio {} {}) course last →
      last.fiber? 0 = some f → f.isDone →
      f.phase = .ended (some trioFailure) ∧ f.packet.failure? = some trioFailure := by
  obtain ⟨t, _, _, slot, tells⟩ :=
    every_schedule_tells_one_tale {} errands unasked trio {} trio_finite
  obtain ⟨last, ran, f, found, ended⟩ := trio_course
  have done : f.isDone := by simp [Fiber.isDone, Fiber.verdict?, ended]
  have one := ((tells {} trioCourse last ran).1.outcome f found done).1
  subst one
  have fails : t.failure = some trioFailure := Phase.ended.inj ended
  refine ⟨⟨trioCourse, last, _, ran, found, done⟩, fun course last f ran found done => ?_⟩
  cases ((tells {} course last ran).1.outcome f found done).1
  exact ⟨ended, slot _ fails⟩

end DomainSteward.Barrier
