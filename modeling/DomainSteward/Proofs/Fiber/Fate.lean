import DomainSteward.Proofs.Fiber.Forks

/-! The fate of a fiber whose steps touch nothing but its packet. Such a fiber
and all that it forks could run one after the other, each on its own, and a
`Tale` tells what comes of that. No schedule makes a difference: whatever the
order of the moves and however long waits and calls take, every fiber does
what its tale says and ends the way its tale ends. -/
namespace DomainSteward.Fates
open Machine Moves Forks

variable {σ π κ α ω : Type}

/-! ## Fibers one after the other -/

/-- What applying a step comes to is a matter of the packet alone. A step that
panics asks for the end of its fiber. -/
structure Own (d : Dynamics σ π κ α ω) (step : σ) (p : π) (action : Action σ π κ) (p' : π) :
    Prop where
  asks : ∀ world, actionOf d step (d.apply step p world) = action
  leaves : ∀ world, (d.apply step p world).packet = p'

variable {d : Dynamics σ π κ α ω} {answer : κ → π → α}

/-- A finite tree of chains and forks, from a step and a packet on, whose steps
touch only their own packet; `answer` says what the calls bring. -/
inductive Finite (d : Dynamics σ π κ α ω) (answer : κ → π → α) : Option σ → π → Prop where
  | done (p : π) : Finite d answer none p
  | next {step after : σ} {p p' : π} (own : Own d step p (.next after) p')
      (rest : Finite d answer (some after) p') : Finite d answer (some step) p
  | finish {step : σ} {p p' : π} (own : Own d step p .finish p') : Finite d answer (some step) p
  | terminate {step : σ} {p p' : π} {e : FiberError} (own : Own d step p (.terminate e) p') :
      Finite d answer (some step) p
  | delay {step : σ} {p p' : π} {wait : Duration} {andThen : Option σ}
      (own : Own d step p (.delay wait andThen) p') (rest : Finite d answer andThen p') :
      Finite d answer (some step) p
  | suspend {step : σ} {p p' : π} {call : κ} {andThen : Option σ}
      (own : Own d step p (.suspend call andThen) p')
      (rest : Finite d answer andThen (d.accept call (answer call p') p')) :
      Finite d answer (some step) p
  | fork {step : σ} {p p' : π} {children : List (σ × π)} {join : Option σ}
      (own : Own d step p (.forkJoin children join) p')
      (each : ∀ child ∈ children, Finite d answer (some child.1) child.2)
      (rest : Finite d answer join p') : Finite d answer (some step) p

/-- What comes of a fiber. -/
structure Tale (σ π : Type) where
  /-- The steps that it applies itself, with the packets. -/
  applied : List (σ × π)
  /-- As many moves as it and all that it forks can make. -/
  moves : Nat
  packet : π
  failure : Option FiberError

namespace Tale

/-- The tale of a fiber that first applies a step, by so many moves. -/
def after (t : Tale σ π) (step : σ) (p : π) (moves : Nat) : Tale σ π :=
  { t with applied := (step, p) :: t.applied, moves := t.moves + moves }

/-- The tale of a fiber that first makes a move by which no step is applied. -/
def later (t : Tale σ π) : Tale σ π := { t with moves := t.moves + 1 }

/-- The moves of some fibers that have yet to start. -/
def total : List (Tale σ π) → Nat
  | [] => 0
  | t :: rest => t.moves + total rest

theorem total_append (tales others : List (Tale σ π)) :
    total (tales ++ others) = total tales + total others := by
  induction tales with
  | nil => exact (Nat.zero_add _).symm
  | cons t rest ih =>
    rw [List.cons_append, total, ih, total, Nat.add_assoc]

/-- How some fibers end. -/
def fates (tales : List (Tale σ π)) : List (Option FiberError) := tales.map (·.failure)

end Tale

open Tale

/-- The tale of a fiber that goes on with a step, or with none: every fiber
that it forks tells its own on its own packet, and the join goes on with the
packet of the fork if none of them ends in a failure. -/
inductive Fares (d : Dynamics σ π κ α ω) (answer : κ → π → α) :
    Option σ → π → Tale σ π → Prop where
  | done (p : π) : Fares d answer none p ⟨[], 1, p, none⟩
  | next {step after : σ} {p p' : π} {t : Tale σ π} (own : Own d step p (.next after) p')
      (rest : Fares d answer (some after) p' t) : Fares d answer (some step) p (t.after step p 1)
  | finish {step : σ} {p p' : π} (own : Own d step p .finish p') :
      Fares d answer (some step) p ⟨[(step, p)], 1, p', none⟩
  | terminate {step : σ} {p p' : π} {e : FiberError} (own : Own d step p (.terminate e) p') :
      Fares d answer (some step) p ⟨[(step, p)], 1, d.keepFailure e p', some e⟩
  | delay {step : σ} {p p' : π} {t : Tale σ π} {wait : Duration} {andThen : Option σ}
      (own : Own d step p (.delay wait andThen) p') (rest : Fares d answer andThen p' t) :
      Fares d answer (some step) p (t.after step p 2)
  | suspend {step : σ} {p p' : π} {t : Tale σ π} {call : κ} {andThen : Option σ}
      (own : Own d step p (.suspend call andThen) p')
      (rest : Fares d answer andThen (d.accept call (answer call p') p') t) :
      Fares d answer (some step) p (t.after step p 2)
  | join {step : σ} {p p' : π} {t : Tale σ π} {children : List (σ × π)} {join : Option σ}
      {tales : List (Tale σ π)} (own : Own d step p (.forkJoin children join) p')
      (all : tales.length = children.length)
      (each : ∀ (k : Nat) (child : σ × π) (tale : Tale σ π), children[k]? = some child →
        tales[k]? = some tale → Fares d answer (some child.1) child.2 tale)
      (clean : (fates tales).filterMap id = []) (rest : Fares d answer join p' t) :
      Fares d answer (some step) p (t.after step p (total (tales.map later) + 2))
  | fail {step : σ} {p p' : π} {children : List (σ × π)} {join : Option σ}
      {tales : List (Tale σ π)} (own : Own d step p (.forkJoin children join) p')
      (all : tales.length = children.length)
      (each : ∀ (k : Nat) (child : σ × π) (tale : Tale σ π), children[k]? = some child →
        tales[k]? = some tale → Fares d answer (some child.1) child.2 tale)
      (failed : (fates tales).filterMap id ≠ []) :
      Fares d answer (some step) p
        ⟨[(step, p)], total (tales.map later) + 2,
          d.keepFailure (.childrenFailed ((fates tales).filterMap id)) p',
          some (.childrenFailed ((fates tales).filterMap id))⟩

/-- The tales of some fibers, given that each of them has one. -/
private theorem tales_of_all {children : List (σ × π)}
    (each : ∀ child ∈ children, ∃ tale, Fares d answer (some child.1) child.2 tale) :
    ∃ tales : List (Tale σ π), tales.length = children.length ∧
      ∀ (k : Nat) child tale, children[k]? = some child → tales[k]? = some tale →
        Fares d answer (some child.1) child.2 tale := by
  induction children with
  | nil => exact ⟨[], rfl, by simp⟩
  | cons child rest ih =>
    obtain ⟨tale, head⟩ := each child List.mem_cons_self
    obtain ⟨tales, all, tail⟩ := ih (fun child member => each child (List.mem_cons_of_mem _ member))
    refine ⟨tale :: tales, by simp [all], fun k child' tale' listed told => ?_⟩
    cases k with
    | zero =>
      cases listed
      cases told
      exact head
    | succ k => exact tail k child' tale' listed told

/-- Every finite tree has a tale. -/
theorem finite_fares {step : Option σ} {p : π} (finite : Finite d answer step p) :
    ∃ tale, Fares d answer step p tale := by
  induction finite with
  | done p => exact ⟨_, .done p⟩
  | next own _ ih => exact ih.elim fun _ rest => ⟨_, .next own rest⟩
  | finish own => exact ⟨_, .finish own⟩
  | terminate own => exact ⟨_, .terminate own⟩
  | delay own _ ih => exact ih.elim fun _ rest => ⟨_, .delay own rest⟩
  | suspend own _ ih => exact ih.elim fun _ rest => ⟨_, .suspend own rest⟩
  | fork own _ _ each ih =>
    obtain ⟨tales, all, told⟩ := tales_of_all each
    by_cases clean : (fates tales).filterMap id = []
    · exact ih.elim fun _ rest => ⟨_, .join own all told clean rest⟩
    · exact ⟨_, .fail own all told clean⟩

/-- A step asks for one thing and leaves one packet. -/
theorem own_once [Inhabited ω] {step : σ} {p p' q : π} {action other : Action σ π κ}
    (own : Own d step p action p') (own' : Own d step p other q) : action = other ∧ p' = q :=
  ⟨(own.asks default).symm.trans (own'.asks default),
    (own.leaves default).symm.trans (own'.leaves default)⟩

private theorem tales_once {children : List (σ × π)} {tales others : List (Tale σ π)}
    (all : tales.length = children.length) (all' : others.length = children.length)
    (each' : ∀ (k : Nat) (child : σ × π) (tale : Tale σ π), children[k]? = some child →
      others[k]? = some tale → Fares d answer (some child.1) child.2 tale)
    (once : ∀ (k : Nat) (child : σ × π) (tale : Tale σ π), children[k]? = some child →
      tales[k]? = some tale → ∀ {other}, Fares d answer (some child.1) child.2 other →
        tale = other) : tales = others := by
  refine List.ext_getElem (all.trans all'.symm) fun k within within' => ?_
  have inside : k < children.length := all ▸ within
  have listed : children[k]? = some children[k] := List.getElem?_eq_getElem inside
  exact once k _ _ listed (List.getElem?_eq_getElem within)
    (each' k _ _ listed (List.getElem?_eq_getElem within'))

/-- A fiber has one tale. -/
theorem one_tale [Inhabited ω] {step : Option σ} {p : π} {t t' : Tale σ π}
    (fares : Fares d answer step p t) (fares' : Fares d answer step p t') : t = t' := by
  induction fares generalizing t' with
  | done p =>
    cases fares'
    rfl
  | next own _ ih =>
    cases fares' with
    | next own' rest' =>
      obtain ⟨⟨⟩, rfl⟩ := own_once own own'
      rw [ih rest']
    | _ => cases (own_once own ‹_›).1
  | finish own =>
    cases fares' with
    | finish own' =>
      obtain ⟨⟨⟩, rfl⟩ := own_once own own'
      rfl
    | _ => cases (own_once own ‹_›).1
  | terminate own =>
    cases fares' with
    | terminate own' =>
      obtain ⟨⟨⟩, rfl⟩ := own_once own own'
      rfl
    | _ => cases (own_once own ‹_›).1
  | delay own _ ih =>
    cases fares' with
    | delay own' rest' =>
      obtain ⟨⟨⟩, rfl⟩ := own_once own own'
      rw [ih rest']
    | _ => cases (own_once own ‹_›).1
  | suspend own _ ih =>
    cases fares' with
    | suspend own' rest' =>
      obtain ⟨⟨⟩, rfl⟩ := own_once own own'
      rw [ih rest']
    | _ => cases (own_once own ‹_›).1
  | join own all each clean _ once ih =>
    cases fares' with
    | join own' all' each' clean' rest' =>
      obtain ⟨⟨⟩, rfl⟩ := own_once own own'
      cases tales_once all all' each' once
      rw [ih rest']
    | fail own' all' each' failed' =>
      obtain ⟨⟨⟩, rfl⟩ := own_once own own'
      cases tales_once all all' each' once
      exact absurd clean failed'
    | _ => cases (own_once own ‹_›).1
  | fail own all each failed once =>
    cases fares' with
    | join own' all' each' clean' rest' =>
      obtain ⟨⟨⟩, rfl⟩ := own_once own own'
      cases tales_once all all' each' once
      exact absurd clean' failed
    | fail own' all' each' failed' =>
      obtain ⟨⟨⟩, rfl⟩ := own_once own own'
      cases tales_once all all' each' once
      rfl
    | _ => cases (own_once own ‹_›).1

end DomainSteward.Fates
