import DomainSteward.Proofs.Fiber.Moves

/-! How a fork fares. The fiber that forks waits until all the fibers it has
forked are done, and then either goes on with its join on the packet of the
fork or ends with their failures. This holds whatever else happens to the
machine. -/
namespace DomainSteward.Forks
open Machine Moves

variable {σ π κ α ω : Type} {d : Dynamics σ π κ α ω} {m m' : Machine σ π κ ω} {i j : FiberId}
  {move : Move α} {h : Happening α ω} {course : List (Happening α ω)}

/-! ## What a fiber applies -/

/-- The step that a fiber applies when something happens, with its packet. -/
def applies? (m : Machine σ π κ ω) (i : FiberId) : Happening α ω → Option (σ × π)
  | .move j .run =>
    if j = i then
      match m.fiber? i with
      | some ⟨p, .running (some step)⟩ => some (step, p)
      | _ => none
    else none
  | _ => none

/-- The steps that a fiber applies in a course, one after another, with its
packets. -/
def applied (d : Dynamics σ π κ α ω) (i : FiberId) :
    Machine σ π κ ω → List (Happening α ω) → List (σ × π)
  | _, [] => []
  | m, h :: rest =>
    (applies? m i h).toList ++
      match happen? d m h with
      | some m => applied d i m rest
      | none => []

theorem applies_iff {step : σ} {p : π} :
    applies? m i h = some (step, p) ↔
      h = .move i .run ∧ m.fiber? i = some ⟨p, .running (some step)⟩ := by
  constructor
  · intro applies
    unfold applies? at applies
    split at applies
    · split at applies
      · rename_i same
        subst same
        split at applies
        · rename_i found
          cases applies
          exact ⟨rfl, found⟩
        · cases applies
      · cases applies
    · cases applies
  · rintro ⟨rfl, found⟩
    simp [applies?, found]

theorem applied_cons (happened : happen? d m h = some m') :
    applied d i m (h :: course) = (applies? m i h).toList ++ applied d i m' course := by
  rw [applied, happened]

/-- A fiber that is not about to apply a step applies none. -/
theorem applies_none {f : Fiber σ π κ} (found : m.fiber? i = some f)
    (busy : ∀ step, f.phase ≠ .running (some step)) : applies? m i h = none := by
  cases applies : applies? m i h with
  | none => rfl
  | some did =>
    obtain ⟨_, running⟩ := applies_iff.mp applies
    cases found.symm.trans running
    exact absurd rfl (busy did.1)

/-! ## The law of a fork -/

/-- How a fork stands by which fiber `i` came to wait for the fibers `ids` with
packet `p`, once it has applied the steps `log` since. -/
inductive Fork (d : Dynamics σ π κ α ω) (m : Machine σ π κ ω) (i : FiberId) (p : π)
    (ids : List FiberId) (join : Option σ) : List (σ × π) → Prop where
  /-- It waits. -/
  | waits (found : m.fiber? i = some ⟨p, .joining ids join⟩) : Fork d m i p ids join []
  /-- They all succeeded and the join is next, on the packet of the fork. -/
  | clear (all : ∀ id ∈ ids, Succeeded m id) (found : m.fiber? i = some ⟨p, .running join⟩) :
      Fork d m i p ids join []
  /-- They all succeeded, and without a join that was the end. -/
  | finished (all : ∀ id ∈ ids, Succeeded m id) (nothing : join = none)
      (found : m.fiber? i = some ⟨p, .ended none⟩) : Fork d m i p ids join []
  /-- They all succeeded and the join was applied, to the packet of the fork. -/
  | joined (all : ∀ id ∈ ids, Succeeded m id) (step : σ) (follows : join = some step)
      (later : List (σ × π)) : Fork d m i p ids join ((step, p) :: later)
  /-- They are done, and some of them failed. -/
  | failed (verdicts : List (Option FiberError)) (known : m.verdicts? ids = some verdicts)
      (some' : verdicts.filterMap id ≠ [])
      (found : m.fiber? i = some
        ⟨d.keepFailure (.childrenFailed (verdicts.filterMap id)) p,
          .ended (some (.childrenFailed (verdicts.filterMap id)))⟩) : Fork d m i p ids join []

/-- A fork of nobody goes on at once, any other one waits. -/
theorem fork_opens {step : σ} {p p' : π} {children : List (σ × π)} {join : Option σ} {world : ω}
    (found : m.fiber? i = some ⟨p, .running (some step)⟩)
    (asks : d.apply step p m.world = ⟨.ok (.forkJoin children join), p', world⟩)
    (moves : m.move? d i move = some m') :
    Fork d m' i p' (List.range' m.fibers.length children.length) join [] ∧
      (children = [] → m'.fiber? i = some ⟨p', .running join⟩) ∧
      ∀ k child, children[k]? = some child →
        m'.fiber? (m.fibers.length + k) = some ⟨child.2, .created child.1⟩ := by
  have taken := run_step found moves
  rw [asks] at taken
  have taken : m' = took d m i p' world (.forkJoin children join) := taken
  have here : m'.fiber? i =
      some ⟨p', phaseAfter m.fibers.length (.forkJoin children join)⟩ := taken ▸ took_fiber found
  refine ⟨?_, ?_, ?_⟩
  · cases children with
    | nil => exact .clear (by simp) here
    | cons => exact .waits here
  · rintro rfl
    exact here
  · intro k child listed
    rw [taken, took_born]
    simp [born, listed]

private theorem verdicts_last {ids : List FiberId} {verdicts : List (Option FiberError)}
    (happened : happen? d m h = some m') (known : m.verdicts? ids = some verdicts) :
    m'.verdicts? ids = some verdicts := by
  have before := verdicts_known.mp known
  refine verdicts_known.mpr (Eq.trans (List.map_congr_left fun id member => ?_) before)
  obtain ⟨verdict, _, f, found, done⟩ := judged known member
  rw [found, done_stays_done happened found done]

/-- Whatever happens, a fork keeps its law. -/
theorem fork_kept {p : π} {ids : List FiberId} {join : Option σ} {log : List (σ × π)}
    (fork : Fork d m i p ids join log) (happened : happen? d m h = some m') :
    Fork d m' i p ids join (log ++ (applies? m i h).toList) := by
  have last {id : FiberId} (succeeded : Succeeded m id) : Succeeded m' id :=
    success_lasts happened succeeded
  cases fork with
  | waits found =>
    rw [applies_none found (by simp)]
    by_cases own : ∃ move, h = .move i move
    · obtain ⟨move, rfl⟩ := own
      obtain ⟨f, found', moved⟩ := move_iff_moved.mp happened
      cases found.symm.trans found'
      cases moved with
      | join _ _ _ verdicts known clean =>
        refine .clear (fun id member => ?_) (replace_fiber found)
        exact last (joined_succeeded known clean member)
      | fail _ _ _ verdicts known failed =>
        exact .failed verdicts (verdicts_last happened known) failed (took_fiber found)
    · exact .waits (bystander_stays happened (fun move same => own ⟨move, same⟩) found)
  | clear all found =>
    have all : ∀ id ∈ ids, Succeeded m' id := fun id member => last (all id member)
    by_cases own : ∃ move, h = .move i move
    · obtain ⟨move, rfl⟩ := own
      obtain ⟨f, found', moved⟩ := move_iff_moved.mp happened
      cases found.symm.trans found'
      cases moved with
      | finish =>
        rw [applies_none found (by simp)]
        exact .finished all rfl (took_fiber found)
      | step _ step =>
        rw [applies_iff.mpr ⟨rfl, found⟩]
        exact .joined all step rfl []
    · have stays := bystander_stays happened (fun move same => own ⟨move, same⟩) found
      have idle : applies? m i h = none := by
        cases applies : applies? m i h with
        | none => rfl
        | some did => exact absurd ⟨_, (applies_iff.mp applies).1⟩ own
      rw [idle]
      exact .clear all stays
  | finished all nothing found =>
    rw [applies_none found (by simp)]
    exact .finished (fun id member => last (all id member)) nothing
      (done_stays_done happened found rfl)
  | joined all step follows later =>
    exact .joined (fun id member => last (all id member)) step follows _
  | failed verdicts known failed found =>
    rw [applies_none found (by simp)]
    exact .failed verdicts (verdicts_last happened known) failed
      (done_stays_done happened found rfl)

/-- A fork keeps its law in every course. -/
theorem fork_law {p : π} {ids : List FiberId} {join : Option σ} {log : List (σ × π)}
    (fork : Fork d m i p ids join log) (ran : course? d m course = some m') :
    Fork d m' i p ids join (log ++ applied d i m course) := by
  induction course generalizing m log with
  | nil =>
    cases ran
    simpa [applied] using fork
  | cons h rest ih =>
    obtain ⟨next, happened, ran⟩ := Option.bind_eq_some_iff.mp ran
    rw [applied_cons happened, ← List.append_assoc]
    exact ih (fork_kept fork happened) ran

/-- Once the fiber that forked is done, either all that it forked succeeded and
its join was the first thing it applied since, or it ended with their failures
in the order of the fork and has applied nothing. -/
theorem fork_settled {p : π} {ids : List FiberId} {join : Option σ} {log : List (σ × π)}
    (fork : Fork d m i p ids join log) (closed : ∀ f, m.fiber? i = some f → f.isDone) :
    ((∀ id ∈ ids, Succeeded m id) ∧ log.head? = join.map (·, p)) ∨
      ∃ verdicts, m.verdicts? ids = some verdicts ∧ verdicts.filterMap id ≠ [] ∧ log = [] ∧
        m.fiber? i = some ⟨d.keepFailure (.childrenFailed (verdicts.filterMap id)) p,
          .ended (some (.childrenFailed (verdicts.filterMap id)))⟩ := by
  cases fork with
  | waits busy | clear _ busy => cases closed _ busy
  | finished all nothing =>
    subst nothing
    exact .inl ⟨all, rfl⟩
  | joined all step follows later =>
    subst follows
    exact .inl ⟨all, rfl⟩
  | failed verdicts known failed ended => exact .inr ⟨verdicts, known, failed, rfl, ended⟩

/-! ## Nobody is left behind -/

/-- Every fiber but the first is done or waited for by an earlier one. -/
def Awaited (m : Machine σ π κ ω) : Prop :=
  ∀ i f, 0 < i → m.fiber? i = some f → f.verdict? = none →
    ∃ j p ids join, j < i ∧ m.fiber? j = some ⟨p, .joining ids join⟩ ∧ i ∈ ids

/-- A fiber goes on waiting for another one until that is done. -/
theorem waiter_stays {k : FiberId} {p : π} {ids : List FiberId} {join : Option σ}
    {f : Fiber σ π κ} (happened : happen? d m h = some m')
    (waits : m.fiber? k = some ⟨p, .joining ids join⟩) (member : j ∈ ids)
    (was : m.fiber? j = some f) (busy : f.verdict? = none) :
    m'.fiber? k = some ⟨p, .joining ids join⟩ := by
  by_cases own : ∃ move, h = .move k move
  · obtain ⟨move, rfl⟩ := own
    obtain ⟨f', found, moved⟩ := move_iff_moved.mp happened
    cases waits.symm.trans found
    have impossible {verdicts : List (Option FiberError)}
        (known : m.verdicts? ids = some verdicts) : False := by
      obtain ⟨f', found', done⟩ := joined_done known member
      cases was.symm.trans found'
      rw [Fiber.isDone, busy] at done
      cases done
    cases moved with
    | join _ _ _ _ known => exact (impossible known).elim
    | fail _ _ _ _ known => exact (impossible known).elim
  · exact bystander_stays happened (fun move same => own ⟨move, same⟩) waits

/-- The fibers that a move adds are waited for by the fiber of that move. -/
theorem newborn_awaited {f : Fiber σ π κ} (moves : m.move? d i move = some m')
    (found : m'.fiber? j = some f) (beyond : m.fibers.length ≤ j) :
    ∃ p ids join, i < j ∧ m'.fiber? i = some ⟨p, .joining ids join⟩ ∧ j ∈ ids := by
  obtain ⟨mover, here, moved⟩ := move_iff_moved.mp moves
  have within : i < m.fibers.length := (List.getElem?_eq_some_iff.mp here).1
  have inside : j < m'.fibers.length := (List.getElem?_eq_some_iff.mp found).1
  cases moved with
  | step p step =>
    generalize actionOf d step (d.apply step p m.world) = action at found inside ⊢
    rw [took_length] at inside
    cases action with
    | forkJoin children join =>
      have inside : j < m.fibers.length + children.length := by simpa [born] using inside
      have somebody : children ≠ [] := by
        rintro rfl
        exact absurd inside (Nat.not_lt.mpr beyond)
      refine ⟨(d.apply step p m.world).packet, List.range' m.fibers.length children.length, join,
        Nat.lt_of_lt_of_le within beyond, ?_, List.mem_range'_1.mpr ⟨beyond, inside⟩⟩
      rw [took_fiber here, phase_after_fork _ somebody]
      rfl
    | _ => exact absurd inside (Nat.not_lt.mpr beyond)
  | finish | cancel | fail =>
    rw [took_length] at inside
    exact absurd inside (Nat.not_lt.mpr beyond)
  | _ =>
    rw [replace, List.length_set] at inside
    exact absurd inside (Nat.not_lt.mpr beyond)

/-- A fiber that is not done was not done before. -/
theorem busy_before {was f : Fiber σ π κ} (happened : happen? d m h = some m')
    (held : m.fiber? j = some was) (found : m'.fiber? j = some f) (busy : f.verdict? = none) :
    was.verdict? = none := by
  cases known : was.verdict? with
  | none => rfl
  | some verdict =>
    cases (done_stays_done happened held known).symm.trans found
    exact absurd (known.symm.trans busy) (by simp)

theorem awaited_kept (awaited : Awaited m) (happened : happen? d m h = some m') : Awaited m' := by
  intro j f later found busy
  by_cases within : j < m.fibers.length
  · obtain ⟨was, held⟩ : ∃ was, m.fiber? j = some was := ⟨_, List.getElem?_eq_getElem within⟩
    have before := busy_before happened held found busy
    obtain ⟨k, p, ids, join, earlier, waits, member⟩ := awaited j was later held before
    exact ⟨k, p, ids, join, earlier, waiter_stays happened waits member held before, member⟩
  · cases h with
    | move i move => exact ⟨i, newborn_awaited happened found (Nat.le_of_not_lt within)⟩
    | outside world =>
      cases happened
      exact absurd (List.getElem?_eq_some_iff.mp found).1 within

theorem awaited_course (awaited : Awaited m) (ran : course? d m course = some m') :
    Awaited m' := by
  induction course generalizing m with
  | nil =>
    cases ran
    exact awaited
  | cons h rest ih =>
    obtain ⟨next, happened, ran⟩ := Option.bind_eq_some_iff.mp ran
    exact ih (awaited_kept awaited happened) ran

/-- A machine with one fiber, which has not started. -/
def solo (step : σ) (p : π) (world : ω) : Machine σ π κ ω := ⟨[⟨p, .created step⟩], world⟩

theorem awaited_solo (step : σ) (p : π) (world : ω) :
    Awaited (solo step p world : Machine σ π κ ω) := by
  intro i f later found
  have within : i < 1 := (List.getElem?_eq_some_iff.mp found).1
  exact absurd later (Nat.not_lt.mpr (Nat.le_of_lt_succ within))

/-- Once the first fiber is done, all are. -/
theorem nobody_left {first f : Fiber σ π κ} (awaited : Awaited m)
    (opens : m.fiber? 0 = some first) (closed : first.isDone) (found : m.fiber? i = some f) :
    f.isDone := by
  induction i using Nat.strongRecOn generalizing f with
  | ind i ih =>
    rcases Nat.eq_zero_or_pos i with rfl | later
    · cases opens.symm.trans found
      exact closed
    · cases known : f.verdict? with
      | some verdict => simp [Fiber.isDone, known]
      | none =>
        obtain ⟨j, p, ids, join, earlier, waits, _⟩ := awaited i f later found known
        exact absurd (ih j earlier waits) (by simp [Fiber.isDone, Fiber.verdict?])

/-! ## Failures and panics -/

/-- A step that panics ends its own fiber, and nothing else happens to the
fibers. -/
theorem panic_ends_its_fiber {step : σ} {p p' : π} {panic : Panic} {world : ω}
    (found : m.fiber? i = some ⟨p, .running (some step)⟩)
    (panics : d.apply step p m.world = ⟨.error panic, p', world⟩)
    (moves : m.move? d i move = some m') :
    m'.fibers = m.fibers.set i
      ⟨d.keepFailure (.panicked (d.nameOf step) panic.message) p',
        .ended (some (.panicked (d.nameOf step) panic.message))⟩ := by
  have taken := run_step found moves
  rw [panics] at taken
  rw [taken]
  exact List.append_nil _

/-- Every failure that ended a fiber was put into its packet. -/
def Slotted (d : Dynamics σ π κ α ω) (m : Machine σ π κ ω) : Prop :=
  ∀ i p e, m.fiber? i = some ⟨p, .ended (some e)⟩ → ∃ before, p = d.keepFailure e before

private theorem slotted_took {f : Fiber σ π κ} {p : π} {world : ω} {action : Action σ π κ}
    (slotted : Slotted d m) (here : m.fiber? i = some f) :
    Slotted d (took d m i p world action) := by
  intro j packet e found
  have within : i < m.fibers.length := (List.getElem?_eq_some_iff.mp here).1
  rw [took, fiber?_changed within] at found
  split at found
  · cases action with
    | terminate e' =>
      cases found
      exact ⟨p, rfl⟩
    | forkJoin children join => cases children <;> cases found
    | _ => cases found
  · split at found
    · exact slotted j packet e found
    · cases action with
      | forkJoin children join =>
        obtain ⟨child, _, same⟩ := List.mem_map.mp (List.mem_of_getElem? found)
        cases same
      | _ => cases found

private theorem slotted_replace {f f' : Fiber σ π κ} {world : ω} (slotted : Slotted d m)
    (here : m.fiber? i = some f) (goesOn : ∀ e, f'.phase ≠ .ended (some e)) :
    Slotted d (m.replace i f' world) := by
  intro j packet e found
  by_cases same : j = i
  · subst same
    rw [replace_fiber here] at found
    cases found
    exact absurd rfl (goesOn e)
  · have elsewhere : (m.replace i f' world).fiber? j = m.fiber? j := by
      simp [replace, fiber?, Ne.symm same]
    exact slotted j packet e (elsewhere ▸ found)

theorem slotted_kept (slotted : Slotted d m) (happened : happen? d m h = some m') :
    Slotted d m' := by
  cases h with
  | outside world =>
    cases happened
    exact slotted
  | move i move =>
    obtain ⟨f, here, moved⟩ := move_iff_moved.mp happened
    cases moved with
    | finish | step | cancel | fail => exact slotted_took slotted here
    | start | wake | answer | crash | join => exact slotted_replace slotted here (by simp)

theorem slotted_course (slotted : Slotted d m) (ran : course? d m course = some m') :
    Slotted d m' := by
  induction course generalizing m with
  | nil =>
    cases ran
    exact slotted
  | cons h rest ih =>
    obtain ⟨next, happened, ran⟩ := Option.bind_eq_some_iff.mp ran
    exact ih (slotted_kept slotted happened) ran

theorem slotted_solo (step : σ) (p : π) (world : ω) :
    Slotted d (solo step p world) := by
  intro i packet e found
  have among := List.mem_of_getElem? found
  simp [solo] at among

end DomainSteward.Forks
