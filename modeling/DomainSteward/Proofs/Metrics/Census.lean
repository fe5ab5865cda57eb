import DomainSteward.Proofs.Fiber.Forks
import DomainSteward.Proofs.Metrics.Counters
import Mathlib.Data.List.ReduceOption
import Mathlib.Logic.Relation

/-! What the counters show once a run is over. All fibers of a machine share
them, so a run is told from the others by its tree: the fiber with which it
begins and whatever is forked below. When the first fiber has ended, so has the
whole tree, and the counters have grown by what its fibers came to, apart from
what the others did meanwhile. -/
namespace DomainSteward.Censuses
open Machine Moves Forks Counters

/-! ## Marked places -/

section Marked

variable {α : Type} {mark mark' : Nat → Bool} {l added : List α} {a b : α} {i : Nat}

/-- What stands at the marked places of a list. -/
def marked (mark : Nat → Bool) (l : List α) : List α :=
  (l.mapIdx fun i a => if mark i then some a else none).reduceOption

private theorem mem_marked : a ∈ marked mark l ↔ ∃ i, mark i = true ∧ l[i]? = some a := by
  simp only [marked, List.reduceOption_mem_iff, List.mem_mapIdx]
  constructor
  · rintro ⟨i, within, here⟩
    by_cases own : mark i = true
    · rw [if_pos own] at here
      exact ⟨i, own, by rw [List.getElem?_eq_getElem within, here]⟩
    · rw [if_neg own] at here
      cases here
  · rintro ⟨i, own, found⟩
    obtain ⟨within, here⟩ := List.getElem?_eq_some_iff.mp found
    exact ⟨i, within, by rw [if_pos own, here]⟩

private theorem marked_append :
    marked mark (l ++ added) = marked mark l ++ marked (fun k => mark (k + l.length)) added := by
  simp [marked, List.mapIdx_append, List.reduceOption_append]

private theorem marked_congr (same : ∀ i < l.length, mark i = mark' i) :
    marked mark l = marked mark' l := by
  unfold marked
  congr 1
  exact List.mapIdx_eq_mapIdx_iff.mpr fun i within => by rw [same i within]

private theorem count_set {P : α → Bool} (found : l[i]? = some a) :
    (l.set i b).countP P + (P a).toNat = l.countP P + (P b).toNat := by
  obtain ⟨within, rfl⟩ := List.getElem?_eq_some_iff.mp found
  have positive : P l[i] = true → 0 < l.countP P := fun holds =>
    List.countP_pos_iff.mpr ⟨_, List.getElem_mem within, holds⟩
  rw [List.countP_set within]
  cases here : P l[i] <;> cases P b <;> simp_all

private theorem count_marked_set {P : α → Bool} (found : l[i]? = some a) :
    (marked mark (l.set i b)).countP P + (mark i && P a).toNat =
      (marked mark l).countP P + (mark i && P b).toNat := by
  let entry (i : Nat) (a : α) : Option α := if mark i then some a else none
  have counted (l : List α) : (marked mark l).countP P =
      (l.mapIdx entry).countP fun here => (here.map P).getD false := List.countP_filterMap
  have counts (a : α) : ((entry i a).map P).getD false = (mark i && P a) := by
    cases own : mark i <;> simp [entry, own]
  have there : (l.mapIdx entry)[i]? = some (entry i a) := by simp [found]
  rw [counted, counted, List.mapIdx_set, ← counts a, ← counts b]
  exact count_set there

end Marked

variable {ε : Type} {c : Conduct} {g : GuestRules ε} {p : Packet} {step : Step ε} {i j : FiberId}
  {f f' : Fiber (Step ε) Packet (Pending ε)} {move : Move Answer} {m m' : ChainMachine ε}

/-! ## Runs -/

/-- A run under way on a machine that it may share with others. -/
structure Watch (ε : Type) where
  machine : ChainMachine ε
  /-- Which fibers belong to the run. -/
  mine : FiberId → Bool
  /-- What its fibers have done that has to be counted. -/
  own : List Entry := []
  /-- What all other fibers have done meanwhile. -/
  others : List Entry := []

namespace Watch

/-- The fibers of the run. -/
def family (s : Watch ε) : List (Fiber (Step ε) Packet (Pending ε)) :=
  marked s.mine s.machine.fibers

/-- A run begins: its first fiber is put behind all fibers that are there. -/
def opened (before : ChainMachine ε) (head : Step ε) (p : Packet) : Watch ε where
  machine := before.create head p
  mine i := i == before.fibers.length

/-- Fiber `i` has moved. What it forked belongs where it belongs. -/
def moved (s : Watch ε) (i : FiberId) (after : ChainMachine ε) (log : List Entry) : Watch ε where
  machine := after
  mine j := s.mine (if j < s.machine.fibers.length then j else i)
  own := if s.mine i then s.own ++ log else s.own
  others := if s.mine i then s.others else s.others ++ log

/-- Another run begins. -/
def joined (s : Watch ε) (step : Step ε) (p : Packet) : Watch ε :=
  { s with
    machine := s.machine.create step p
    mine := fun j => j < s.machine.fibers.length && s.mine j }

theorem moved_mine_old {s : Watch ε} {log : List Entry} (old : j < s.machine.fibers.length) :
    (s.moved i m log).mine j = s.mine j := congrArg s.mine (if_pos old)

theorem moved_mine_new {s : Watch ε} {log : List Entry} (new : ¬ j < s.machine.fibers.length) :
    (s.moved i m log).mine j = s.mine i := congrArg s.mine (if_neg new)

/-- What a fiber of the run does is its own. -/
theorem moved_own {s : Watch ε} {log : List Entry} (own : s.mine i = true) :
    (s.moved i m log).own = s.own ++ log ∧ (s.moved i m log).others = s.others :=
  ⟨if_pos own, if_pos own⟩

theorem moved_foreign {s : Watch ε} {log : List Entry} (foreign : s.mine i = false) :
    (s.moved i m log).own = s.own ∧ (s.moved i m log).others = s.others ++ log :=
  ⟨if_neg (by simp [foreign]), if_neg (by simp [foreign])⟩

theorem joined_mine {s : Watch ε} :
    (s.joined step p).mine j = true ↔ j < s.machine.fibers.length ∧ s.mine j = true := by
  simp [joined]

end Watch

/-- What can happen while a run is under way. -/
inductive Goes (c : Conduct) (g : GuestRules ε) : Watch ε → Watch ε → Prop where
  /-- A fiber moves. -/
  | moves {s : Watch ε} (i : FiberId) (move : Move Answer) (after : ChainMachine ε)
      (f f' : Fiber (Step ε) Packet (Pending ε))
      (moved : s.machine.move? (chainDynamics c g) i move = some after)
      (found : s.machine.fiber? i = some f) (found' : after.fiber? i = some f') :
      Goes c g s (s.moved i after (entries c g s.machine.world move f f'))
  /-- Another run begins on the same machine. -/
  | begins {s : Watch ε} (step : Step ε) (p : Packet) : Goes c g s (s.joined step p)
  /-- The world changes by itself, but not what is counted. -/
  | outside {s : Watch ε} (world : World)
      (kept : reading world = reading s.machine.world) :
      Goes c g s { s with machine := { s.machine with world } }

variable {s s' : Watch ε} {before : Reading} {root : FiberId}

/-! ## What stays true during a run -/

/-- The counters show what has been done, each fiber of the run has been counted at the stages to
which it has come, and whoever of the run is not done, but for the first, is waited for by a fiber
of the run. -/
structure Sound (before : Reading) (root : FiberId) (s : Watch ε) : Prop where
  counters : reading s.machine.world = before.after (s.own ++ s.others)
  stages : ∀ stage : Stage, s.own.count (.fiber stage) = s.family.countP stage.isReached
  awaited : ∀ i f, s.mine i = true → i ≠ root → s.machine.fiber? i = some f → f.verdict? = none →
    ∃ j p ids join, j < i ∧ s.mine j = true ∧ s.machine.fiber? j = some ⟨p, .joining ids join⟩ ∧
      i ∈ ids

private theorem created_reaches_nothing {stage : Stage} (fresh : f.phase = .created step) :
    stage.isReached f = false := by
  unfold Stage.isReached
  rw [fresh]
  cases stage <;> rfl

private theorem young_reach_nothing {mark : Nat → Bool} {stage : Stage}
    {added : List (Fiber (Step ε) Packet (Pending ε))}
    (young : ∀ f ∈ added, ∃ step, f.phase = .created step) :
    (marked mark added).countP stage.isReached = 0 := by
  rw [List.countP_eq_zero]
  intro f among
  obtain ⟨i, _, found⟩ := mem_marked.mp among
  obtain ⟨step, fresh⟩ := young f (List.mem_of_getElem? found)
  rw [created_reaches_nothing fresh]
  exact Bool.false_ne_true

private theorem sound_opened (m : ChainMachine ε) :
    Sound (reading m.world) m.fibers.length (.opened m step p) where
  counters := (after_nothing _).symm
  stages stage := by
    have nobody : marked (· == m.fibers.length) m.fibers = [] := by
      refine List.eq_nil_iff_forall_not_mem.mpr fun f among => ?_
      obtain ⟨i, own, found⟩ := mem_marked.mp among
      have within := (List.getElem?_eq_some_iff.mp found).1
      exact Nat.ne_of_lt within (beq_iff_eq.mp own)
    show 0 =
      (marked (· == m.fibers.length) (m.fibers ++ [⟨p, .created step⟩])).countP stage.isReached
    rw [marked_append, nobody, List.nil_append, young_reach_nothing (by simp)]
  awaited i f own other := absurd (beq_iff_eq.mp own) other

/-- A fiber that has moved is counted in place of what it was, and those that it forked are at no
stage yet. -/
private theorem family_moved (stage : Stage) (log : List Entry)
    (moved : s.machine.move? (chainDynamics c g) i move = some m)
    (found : s.machine.fiber? i = some f) (found' : m.fiber? i = some f') :
    (s.moved i m log).family.countP stage.isReached + (s.mine i && stage.isReached f).toNat =
      s.family.countP stage.isReached + (s.mine i && stage.isReached f').toNat := by
  obtain ⟨f₀, f₁, added, found₀, _, shape, young⟩ := move_shape moved
  cases found.symm.trans found₀
  have within := (List.getElem?_eq_some_iff.mp found).1
  have same : f₁ = f' := by
    have here : m.fiber? i = some f₁ := by
      rw [Machine.fiber?, shape, List.getElem?_append_left (by simpa using within),
        List.getElem?_set_self within]
    exact Option.some.inj (here.symm.trans found')
  subst same
  have old : marked (s.moved i m log).mine (s.machine.fibers.set i f₁) =
      marked s.mine (s.machine.fibers.set i f₁) :=
    marked_congr fun j inside => Watch.moved_mine_old (by simpa using inside)
  have family : (s.moved i m log).family =
      marked (s.moved i m log).mine (s.machine.fibers.set i f₁ ++ added) :=
    congrArg (marked _) shape
  rw [family, marked_append, List.countP_append, old, young_reach_nothing young, Nat.add_zero]
  exact count_marked_set found

private theorem family_joined {stage : Stage} :
    (s.joined step p).family.countP stage.isReached = s.family.countP stage.isReached := by
  have old : marked (s.joined step p).mine s.machine.fibers = s.family :=
    marked_congr fun j within => by simp [Watch.joined, within]
  show (marked (s.joined step p).mine (s.machine.fibers ++ [⟨p, .created step⟩])).countP _ = _
  rw [marked_append, List.countP_append, old, young_reach_nothing (by simp), Nat.add_zero]

private theorem sound_moves (counted : c.countsCalls = true) (upright : Upright c g)
    (sound : Sound before root s)
    (moved : s.machine.move? (chainDynamics c g) i move = some m)
    (found : s.machine.fiber? i = some f) (found' : m.fiber? i = some f') :
    Sound before root (s.moved i m (entries c g s.machine.world move f f')) where
  counters := by
    show reading m.world = _
    rw [move_reading counted upright moved found found', sound.counters, ← after_append]
    refine after_perm ?_
    cases own : s.mine i with
    | true =>
      obtain ⟨own, others⟩ := Watch.moved_own own
      rw [own, others, List.append_assoc, List.append_assoc]
      exact List.perm_append_comm.append_left _
    | false =>
      obtain ⟨own, others⟩ := Watch.moved_foreign own
      rw [own, others, List.append_assoc]
  stages stage := by
    have stages := sound.stages stage
    have reached := stage_counted stage moved found found'
    have family :=
      family_moved stage (entries c g s.machine.world move f f') moved found found'
    cases own : s.mine i with
    | true =>
      rw [own, Bool.true_and, Bool.true_and] at family
      rw [(Watch.moved_own own).1, List.count_append]
      omega
    | false =>
      rw [own, Bool.false_and, Bool.false_and] at family
      rw [(Watch.moved_foreign own).1]
      omega
  awaited j f₀ own other found₀ busy := by
    have happened : happen? (chainDynamics c g) s.machine (.move i move) = some m := moved
    have within := (List.getElem?_eq_some_iff.mp found).1
    -- A fiber was there before the move and so was who waits for it, or the move has forked it.
    by_cases old : j < s.machine.fibers.length
    · rw [Watch.moved_mine_old old] at own
      obtain ⟨was, held⟩ : ∃ was, s.machine.fiber? j = some was :=
        ⟨_, List.getElem?_eq_getElem old⟩
      have before := busy_before happened held found₀ busy
      obtain ⟨k, p, ids, join, earlier, mine, waits, member⟩ :=
        sound.awaited j was own other held before
      have stays := waiter_stays happened waits member held before
      refine ⟨k, p, ids, join, earlier, ?_, stays, member⟩
      rwa [Watch.moved_mine_old (Nat.lt_trans earlier old)]
    · rw [Watch.moved_mine_new old] at own
      obtain ⟨p, ids, join, earlier, waits, member⟩ :=
        newborn_awaited moved found₀ (Nat.le_of_not_lt old)
      refine ⟨i, p, ids, join, earlier, ?_, waits, member⟩
      rwa [Watch.moved_mine_old within]

private theorem sound_begins (sound : Sound before root s) :
    Sound before root (s.joined step p) where
  counters := sound.counters
  stages stage := (sound.stages stage).trans family_joined.symm
  awaited j f own other found busy := by
    obtain ⟨old, own⟩ := Watch.joined_mine.mp own
    have stays {k : FiberId} (within : k < s.machine.fibers.length) :
        (s.machine.create step p).fiber? k = s.machine.fiber? k :=
      List.getElem?_append_left within
    obtain ⟨k, p, ids, join, earlier, mine, waits, member⟩ :=
      sound.awaited j f own other ((stays old).symm.trans found) busy
    have within := Nat.lt_trans earlier old
    exact ⟨k, p, ids, join, earlier, Watch.joined_mine.mpr ⟨within, mine⟩,
      (stays within).trans waits, member⟩

private theorem sound_goes (counted : c.countsCalls = true) (upright : Upright c g)
    (sound : Sound before root s) (goes : Goes c g s s') : Sound before root s' := by
  cases goes with
  | moves i move after f f' moved found found' =>
    exact sound_moves counted upright sound moved found found'
  | begins step p => exact sound_begins sound
  | outside world kept => exact ⟨kept.trans sound.counters, sound.stages, sound.awaited⟩

private theorem sound_run {before : ChainMachine ε} (counted : c.countsCalls = true)
    (upright : Upright c g)
    (ran : Relation.ReflTransGen (Goes c g) (.opened before step p) s) :
    Sound (reading before.world) before.fibers.length s := by
  induction ran with
  | refl => exact sound_opened before
  | tail _ goes ih => exact sound_goes counted upright ih goes

/-- What others have done can be counted before what the run has done. -/
private theorem sound_shows (sound : Sound before root s) :
    reading s.machine.world = (before.after s.others).after s.own := by
  rw [sound.counters, ← after_append]
  exact after_perm List.perm_append_comm

/-- Once the first fiber of a run is done, all its fibers are. -/
private theorem family_done (sound : Sound before root s)
    (closed : ∀ f, s.machine.fiber? root = some f → f.isDone = true) :
    ∀ f ∈ s.family, f.isDone = true := by
  -- The induction is on the place of a fiber: whoever waits for it stands before it.
  have done (i : FiberId) : ∀ f, s.mine i = true → s.machine.fiber? i = some f →
      f.isDone = true := by
    induction i using Nat.strongRecOn with
    | ind i ih =>
      intro f own found
      by_cases first : i = root
      · exact closed f (first ▸ found)
      · cases known : f.verdict? with
        | some verdict => simp [Fiber.isDone, known]
        | none =>
          obtain ⟨j, p, ids, join, earlier, mine, waits, _⟩ :=
            sound.awaited i f own first found known
          exact absurd (ih j earlier _ mine waits) (by simp [Fiber.isDone, Fiber.verdict?])
  intro f among
  obtain ⟨i, own, found⟩ := mem_marked.mp among
  exact done i f own found

/-! ## What the counters show in the end -/

/-- Whether a fiber was torn down by its call. -/
def isTornDown (f : Fiber (Step ε) Packet (Pending ε)) : Bool :=
  match f.phase with
  | .crashed _ => true
  | _ => false

/-- Whether a call has panicked on which a fiber of the run waited. -/
def Watch.isHarmed (s : Watch ε) : Bool := s.family.any isTornDown

/-- The run is over, and the counters show what they would show without it and, on top of that, what
its fibers came to. A fiber that was torn down is left out of account. -/
structure Accounted (without : Reading) (s : Watch ε) : Prop where
  finished : ∀ f ∈ s.family, f.isDone = true
  active : s.isHarmed = false → (reading s.machine.world).active = without.active
  succeeded : (reading s.machine.world).ended true =
    without.ended true + s.family.countP (Stage.ended true).isReached
  failed : s.isHarmed = false → (reading s.machine.world).ended false =
    without.ended false + s.family.countP fun f => !(Stage.ended true).isReached f
  calls : ∀ verb outcome, (reading s.machine.world).calls (outcome, verb) =
    without.calls (outcome, verb) + s.own.count (.call verb outcome)
  retried : (reading s.machine.world).retries "retry" =
    without.retries "retry" + s.own.count .resent
  rerouted : (reading s.machine.world).retries "conflict" =
    without.retries "conflict" + s.own.count .rerouted
  retriedOnly : ∀ kind, kind ≠ "retry" → kind ≠ "conflict" →
    (reading s.machine.world).retries kind = without.retries kind

/-- Fibers that are done and were not torn down have ended by themselves. -/
private theorem family_ended (finished : ∀ f ∈ s.family, f.isDone = true)
    (whole : s.isHarmed = false) : ∀ f ∈ s.family, ∃ failure, f.phase = .ended failure := by
  intro f among
  have done := finished f among
  have whole : ¬ isTornDown f = true := List.any_eq_false.mp whole f among
  unfold Fiber.isDone Fiber.verdict? at done
  unfold isTornDown at whole
  cases phase : f.phase with
  | ended failure => exact ⟨failure, rfl⟩
  | crashed message => simp [phase] at whole
  | _ => simp [phase] at done

section Ended

variable {family : List (Fiber (Step ε) Packet (Pending ε))}
  (ended : ∀ f ∈ family, ∃ failure, f.phase = .ended failure)
include ended

private theorem failed_otherwise :
    family.countP (Stage.ended false).isReached =
      family.countP fun f => !(Stage.ended true).isReached f :=
  List.countP_congr fun f among => by
    obtain ⟨failure, phase⟩ := ended f among
    cases failure <;> simp [Stage.isReached, phase]

/-- Whoever has ended has started, and has succeeded or failed. -/
private theorem started_ended :
    family.countP Stage.started.isReached =
      family.countP (Stage.ended true).isReached + family.countP (Stage.ended false).isReached := by
  have started : family.countP Stage.started.isReached = family.length :=
    List.countP_eq_length.mpr fun f among => by
      obtain ⟨failure, phase⟩ := ended f among
      simp [Stage.isReached, phase]
  have split := List.length_eq_countP_add_countP (Stage.ended true).isReached (l := family)
  rw [started, failed_otherwise ended, split]
  simp

end Ended

private theorem count_kind (log : List Entry) (entry : Entry) (kind : String)
    (only : ∀ e : Entry, e.kind? = some kind ↔ e = entry) :
    log.countP (·.kind? = some kind) = log.count entry :=
  List.countP_congr fun e _ => by simp [only e]

/-- When a run is over, each counter has grown by what the fibers of the run have come to, whichever
way they ended, and by nothing else but what other runs did meanwhile. -/
theorem counters_account_for_run {before : ChainMachine ε} {head : Step ε} {last : Watch ε}
    {failure : Option FiberError} {p' : Packet}
    (counted : c.countsCalls = true) (upright : Upright c g)
    (ran : Relation.ReflTransGen (Goes c g) (.opened before head p) last)
    (returned : last.machine.fiber? before.fibers.length = some ⟨p', .ended failure⟩) :
    Accounted ((reading before.world).after last.others) last := by
  have sound := sound_run counted upright ran
  have finished : ∀ f ∈ last.family, f.isDone = true :=
    family_done sound fun f found => by
      cases returned.symm.trans found
      rfl
  have shows := sound_shows sound
  have stages := sound.stages
  refine
    { finished
      active := fun whole => ?active
      succeeded := ?succeeded
      failed := fun whole => ?failed
      calls := fun verb outcome => ?calls
      retried := ?retried
      rerouted := ?rerouted
      retriedOnly := fun kind notRetry notConflict => ?retriedOnly }
  all_goals rw [shows]
  case active =>
    -- Each of its fibers has started once and ended once, so the gauge is back.
    have either := started_ended (family_ended finished whole)
    rw [← stages, ← stages, ← stages] at either
    show _ + (last.own.count _ : Int) - (last.own.count _ + last.own.count _) = _
    omega
  case succeeded =>
    rw [← stages]
    rfl
  case failed =>
    rw [← failed_otherwise (family_ended finished whole), ← stages]
    rfl
  case calls => rfl
  case retried =>
    rw [← count_kind last.own .resent "retry" (by rintro (_ | _) <;> simp [Entry.kind?])]
    rfl
  case rerouted =>
    rw [← count_kind last.own .rerouted "conflict" (by rintro (_ | _) <;> simp [Entry.kind?])]
    rfl
  case retriedOnly =>
    have never : last.own.countP (·.kind? = some kind) = 0 :=
      List.countP_eq_zero.mpr fun e _ => by
        cases e <;> simp [Entry.kind?, notRetry.symm, notConflict.symm]
    show _ + last.own.countP (·.kind? = some kind) = _
    rw [never, Nat.add_zero]

/-! ## A failure that is told to a domain -/

/-- Tries again what failed as far as the retry budget allows, and goes on after a success. -/
def dutiful (c : Conduct) : GuestRules Unit where
  name _ := "Dutiful"
  apply _ next _ p w := .of (.goOn next) p w
  judge _ x r p w := if r.isFailure then x.retryOrEnd c r p w else .of x.goOn p w
  finish _ w := w
  deliver _ p := p

theorem dutiful_upright : Upright c (dutiful c) where
  applies _ _ _ _ _ := rfl
  finishes _ _ := rfl
  succeeds e x r p w succeeded := by
    have judged : (dutiful c).judge e x r p w = .of x.goOn p w := if_neg (by simp [succeeded])
    rw [judged]
    exact ⟨rfl, fun same => by cases same⟩
  fails e x r p w failed := by
    have judged : (dutiful c).judge e x r p w =
        .of ((x.retry? c (some r) p w).1.getD (Exchange.endWith r)) p
          (x.retry? c (some r) p w).2 := if_pos failed
    have written := Writers.retry_written (c := c) (x := x) (p := p) (w := w) (some r) .finish
    rw [judged]
    cases granted : (x.retry? c (some r) p w).1 with
    | none =>
      rw [granted] at written
      exact .inl ⟨written_reading written, fun verdict same => ⟨_, (Except.ok.inj same).symm⟩⟩
    | some verdict => exact .inr ⟨verdict, rfl, rfl, rfl⟩

/-- A machine without fibers, on which nothing has been counted. -/
def quiet : ChainMachine Unit := ⟨[], {}⟩

/-- Reads a domain; a failure that is given up on is told to the domain. -/
def readDomain : Step Unit :=
  .request { resource := .domain, namespaceName := some "ns1", operation := .get "d" }
    { id := .readDomain, request := none, handler := .guest (), sink := some (.domain 0)
      next := none }

/-- Reads a domain in a fiber of its own. -/
def forked : Step Unit := .restartNow [("ms1", readDomain, {})]

def refusal (status : UInt16) : Response :=
  .failure { (default : CallFailure) with statusCode := some status }

/-- The forked call fails, is made again and fails for good. The write of the status that the domain
then asks for has begun, but not ended, when the run is over. -/
private theorem told : ∃ last : Watch Unit,
    Relation.ReflTransGen (Goes {} (dutiful {})) (.opened quiet forked {}) last ∧
      (∃ p e, last.machine.fiber? 0 = some ⟨p, .ended (some e)⟩) ∧ last.isHarmed = false ∧
      last.machine.world.publications = [0] ∧ last.own.count .resent = 1 ∧
      (reading last.machine.world).active = 1 := by
  refine ⟨?last, ?ran, ?returned, ?whole, ?asked, ?resent, ?active⟩
  case ran =>
    refine .head (.moves 0 .run _ _ _ rfl rfl rfl) ?_
    refine .head (.moves 0 .run _ _ _ rfl rfl rfl) ?_
    refine .head (.moves 1 .run _ _ _ rfl rfl rfl) ?_
    refine .head (.moves 1 .run _ _ _ rfl rfl rfl) ?_
    refine .head (.moves 1 (.answer (.response (refusal 503))) _ _ _ rfl rfl rfl) ?_
    refine .head (.moves 1 .run _ _ _ rfl rfl rfl) ?_
    refine .head (.moves 1 .wake _ _ _ rfl rfl rfl) ?_
    refine .head (.moves 1 .run _ _ _ rfl rfl rfl) ?_
    refine .head (.moves 1 (.answer (.response (refusal 422))) _ _ _ rfl rfl rfl) ?_
    refine .head (.moves 1 .run _ _ _ rfl rfl rfl) ?_
    refine .head (.begins (writeStatus {} none) { presence := some 0 }) ?_
    refine .head (.moves 2 .run _ _ _ rfl rfl rfl) ?_
    refine .head (.moves 0 .join _ _ _ rfl rfl rfl) ?_
    exact .refl
  case returned => exact ⟨_, _, rfl⟩
  case whole => rfl
  case asked => rfl
  case resent => rfl
  case active => rfl

/-- The fork and its call are accounted for, beside the write of the status. -/
theorem told_run_accounted : ∃ last : Watch Unit,
    Relation.ReflTransGen (Goes {} (dutiful {})) (.opened quiet forked {}) last ∧
      last.isHarmed = false ∧ last.own.count .resent = 1 ∧
      Accounted ((reading quiet.world).after last.others) last := by
  obtain ⟨last, ran, ⟨p, e, returned⟩, whole, -, resent, -⟩ := told
  exact ⟨last, ran, whole, resent, counters_account_for_run rfl dutiful_upright ran returned⟩

/-! ## What the tree alone does not account for -/

/-- The forked call panics, so that its fiber is torn down. -/
private theorem torn : ∃ last : Watch Unit,
    Relation.ReflTransGen (Goes {} (dutiful {})) (.opened quiet forked {}) last ∧
      (∃ p e, last.machine.fiber? 0 = some ⟨p, .ended (some e)⟩) ∧
      last.family.countP (fun f => !(Stage.ended true).isReached f) = 2 ∧
      (reading last.machine.world).ended false = 1 ∧ (reading last.machine.world).active = 1 := by
  refine ⟨?last, ?ran, ?returned, ?family, ?failed, ?active⟩
  case ran =>
    refine .head (.moves 0 .run _ _ _ rfl rfl rfl) ?_
    refine .head (.moves 0 .run _ _ _ rfl rfl rfl) ?_
    refine .head (.moves 1 .run _ _ _ rfl rfl rfl) ?_
    refine .head (.moves 1 .run _ _ _ rfl rfl rfl) ?_
    refine .head (.moves 1 (.crash "lost connection") _ _ _ rfl rfl rfl) ?_
    refine .head (.moves 0 .join _ _ _ rfl rfl rfl) ?_
    exact .refl
  case returned => exact ⟨_, _, rfl⟩
  case family => rfl
  case failed => rfl
  case active => rfl

/-- Sends a request again whenever it fails, without consulting the retry budget. -/
def insistent : GuestRules Unit :=
  { dutiful {} with
    judge := fun _ x r p w => if r.isFailure then x.startOver p w else .of x.goOn p w }

/-- The call fails, is made again at once by its handler, and succeeds. -/
private theorem insisted : ∃ last : Watch Unit,
    Relation.ReflTransGen (Goes {} insistent) (.opened quiet readDomain {}) last ∧
      (∃ p, last.machine.fiber? 0 = some ⟨p, .ended none⟩) ∧ last.own.count .resent = 1 ∧
      (reading last.machine.world).retries "retry" = 0 := by
  refine ⟨?last, ?ran, ?returned, ?resent, ?retried⟩
  case ran =>
    refine .head (.moves 0 .run _ _ _ rfl rfl rfl) ?_
    refine .head (.moves 0 .run _ _ _ rfl rfl rfl) ?_
    refine .head (.moves 0 (.answer (.response (refusal 503))) _ _ _ rfl rfl rfl) ?_
    refine .head (.moves 0 .run _ _ _ rfl rfl rfl) ?_
    refine .head (.moves 0 .run _ _ _ rfl rfl rfl) ?_
    refine .head (.moves 0 (.answer (.response (.list {}))) _ _ _ rfl rfl rfl) ?_
    refine .head (.moves 0 .run _ _ _ rfl rfl rfl) ?_
    exact .refl
  case returned => exact ⟨_, rfl⟩
  case resent => rfl
  case retried => rfl

/-- A run that is over need not leave the gauge where it was, nor need each of its fibers and each
request sent again be counted: a failure that is told to a domain begins a run that goes on, a fiber
whose call panics never counts as ended, and a handler can send a request again on its own. -/
theorem tree_alone_not_accounted :
    (reading quiet.world).active = 0 ∧
    (∃ last : Watch Unit,
      Relation.ReflTransGen (Goes {} (dutiful {})) (.opened quiet forked {}) last ∧
        (∃ p e, last.machine.fiber? 0 = some ⟨p, .ended (some e)⟩) ∧ last.isHarmed = false ∧
        last.machine.world.publications = [0] ∧ (reading last.machine.world).active = 1) ∧
    (∃ last : Watch Unit,
      Relation.ReflTransGen (Goes {} (dutiful {})) (.opened quiet forked {}) last ∧
        (∃ p e, last.machine.fiber? 0 = some ⟨p, .ended (some e)⟩) ∧
        last.family.countP (fun f => !(Stage.ended true).isReached f) = 2 ∧
        (reading last.machine.world).ended false = 1 ∧ (reading last.machine.world).active = 1) ∧
    ∃ last : Watch Unit,
      Relation.ReflTransGen (Goes {} insistent) (.opened quiet readDomain {}) last ∧
        (∃ p, last.machine.fiber? 0 = some ⟨p, .ended none⟩) ∧ last.own.count .resent = 1 ∧
        (reading last.machine.world).retries "retry" = 0 := by
  obtain ⟨last, ran, returned, whole, asked, -, active⟩ := told
  exact ⟨rfl, ⟨last, ran, returned, whole, asked, active⟩, torn, insisted⟩

end DomainSteward.Censuses
