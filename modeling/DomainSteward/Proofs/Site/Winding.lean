import Mathlib.Logic.Hydra
import Mathlib.Logic.Relation
import Mathlib.Tactic.Abel
import DomainSteward.Proofs.Rehearsal.Sleepers
import DomainSteward.Proofs.Site.Brevity

/-! How the fibers wind down once the operator is stopping. A fiber has few
moves left, those that it forks have fewer, and no call is answered but to end
its fiber; so however the fibers are scheduled, and whatever becomes of the
world around them, all of them come to their ends. -/
namespace DomainSteward.Winding
open Machine Moves Paths Seclusion Brevity

variable {ε : Type} {c : Conduct} {g : GuestRules ε} {m m' : ChainMachine ε} {i j : FiberId}
  {move : Move Answer} {f f' : Fiber (Step ε) Packet (Pending ε)} {p : Packet} {step : Step ε}
  {next : Option (Step ε)} {q : Request} {a : Answer} {n l : Nat}

/-! ## What happens under the flag -/

/-- What a fiber has done since the operator began to stop. -/
structure Tally where
  moves : Nat := 0
  /-- The steps that it applied. -/
  steps : Nat := 0
  /-- The calls that it made. -/
  calls : Nat := 0

/-- Whether a fiber is about to apply a step. -/
def isApplying (f : Fiber (Step ε) Packet (Pending ε)) : Bool :=
  match f.phase with
  | .running (some _) => true
  | _ => false

/-- Whether a fiber has made a call and waits for the answer. -/
def isCalling (f : Fiber (Step ε) Packet (Pending ε)) : Bool :=
  match f.phase with
  | .waiting (.call _) _ => true
  | _ => false

/-- What a fiber has done after one move more. -/
def Tally.more (t : Tally) (before after : Fiber (Step ε) Packet (Pending ε)) : Tally where
  moves := t.moves + 1
  steps := t.steps + (isApplying before).toNat
  calls := t.calls + (isCalling after).toNat

/-- The fibers under the flag, and what each of them has done there. -/
structure Closing (ε : Type) where
  machine : ChainMachine ε
  tally : FiberId → Tally := fun _ => {}

/-- What can happen under the flag: all that can happen at other times, but the flag is not taken
back. -/
inductive Winds (c : Conduct) (g : GuestRules ε) (s : Closing ε) : Closing ε → Prop where
  | reconciles (domain : Domain) (id : PresenceId) (head : Step ε) (p : Packet) (w : World)
      (begins : beginReconcile c domain s.machine.world = .fiber id head p w) :
      Winds c g s { s with machine := { s.machine with world := w }.create head p }
  | publishes (id : PresenceId) :
      Winds c g s
        { s with machine := s.machine.create (writeStatus c none) { presence := some id } }
  | moves (i : FiberId) (move : Move Answer) (after : ChainMachine ε)
      (f f' : Fiber (Step ε) Packet (Pending ε)) (proper : Proper s.machine (.move i move))
      (moved : s.machine.move? (chainDynamics c g) i move = some after)
      (found : s.machine.fiber? i = some f) (found' : after.fiber? i = some f') :
      Winds c g s ⟨after, fun j => if j = i then (s.tally i).more f f' else s.tally j⟩
  | outside (world : World) (same : world.budgets = s.machine.world.budgets)
      (stopping : world.isStopping = true) :
      Winds c g s { s with machine := { s.machine with world } }

/-- Some fiber makes a move, its call being answered as the server likes. -/
def Goes (c : Conduct) (g : GuestRules ε) (after before : ChainMachine ε) : Prop :=
  ∃ i move, Proper before (.move i move) ∧ before.move? (chainDynamics c g) i move = some after

/-- How a fiber stands under the flag. Nobody sleeps until a time, and nobody is stuck. -/
inductive Standing (c : Conduct) (g : GuestRules ε) (m : ChainMachine ε) (i : FiberId)
    (f : Fiber (Step ε) Packet (Pending ε)) : Prop where
  | done (done : f.isDone = true)
  /-- It can go on at once. -/
  | goesOn (move : Move Answer) (own : move = .run ∨ move = .wake ∨ move = .join)
      (after : ChainMachine ε) (moved : m.move? (chainDynamics c g) i move = some after)
  | calls (calls : isCalling f = true)
  /-- It waits for a fiber that is not done. -/
  | joins (p : Packet) (children : List FiberId) (next : Option (Step ε))
      (here : f = ⟨p, .joining children next⟩) (j : FiberId) (awaited : j ∈ children)
      (later : i < j) (f' : Fiber (Step ε) Packet (Pending ε)) (found : m.fiber? j = some f')
      (busy : f'.verdict? = none)

/-- Fibers wind down. -/
structure WindsDown (c : Conduct) (g : GuestRules ε) (s : Closing ε) : Prop where
  /-- Each makes few moves, -/
  moves : ∀ i, (s.tally i).moves ≤ 9
  /-- applies few steps, -/
  steps : ∀ i, (s.tally i).steps ≤ 9
  /-- and makes one call at most. -/
  calls : ∀ i, (s.tally i).calls ≤ 1
  /-- An answer ends its fiber, and nothing of it comes into the packet. -/
  cancels : ∀ i p q next r after, s.machine.fiber? i = some ⟨p, .waiting (.call q) next⟩ →
    s.machine.move? (chainDynamics c g) i (.answer (.response r)) = some after →
    after.fiber? i =
      some ⟨p.put Packet.failureKey (.failure .cancelled), .ended (some .cancelled)⟩
  standing : ∀ i f, s.machine.fiber? i = some f → Standing c g s.machine i f
  /-- Moves come to an end, -/
  ends : Acc (Goes c g) s.machine
  /-- and not before all fibers are done. -/
  settled : (∀ after, ¬ Goes c g after s.machine) →
    ∀ i f, s.machine.fiber? i = some f → f.isDone = true

/-! ## Whoever waits for fibers came before them -/

/-- Fibers wait only for fibers that came after them. -/
def Elder (m : ChainMachine ε) : Prop :=
  ∀ i p children next, m.fiber? i = some ⟨p, .joining children next⟩ →
    ∀ j ∈ children, i < j ∧ j < m.fibers.length

private theorem joined_later (moved : Moved (chainDynamics c g) m i f move m')
    (found : m.fiber? i = some f) {children : List FiberId}
    (joins : m'.fiber? i = some ⟨p, .joining children next⟩) :
    ∀ j ∈ children, m.fibers.length ≤ j ∧ j < m'.fibers.length := by
  cases moved with
  | step p step =>
    rw [took_length]
    rw [took_fiber found] at joins
    generalize actionOf (chainDynamics c g) step _ = action at joins ⊢
    cases action with
    | forkJoin forked join =>
      cases forked with
      | nil => cases joins
      | cons first rest =>
        cases joins
        intro j among
        have inside := List.mem_range'_1.mp among
        exact ⟨inside.1, by simpa [born] using inside.2⟩
    | _ => cases joins
  | finish | cancel | fail =>
    rw [took_fiber found] at joins
    cases joins
  | _ =>
    rw [replace_fiber found] at joins
    cases joins

private theorem elder_move (elder : Elder m)
    (moves : m.move? (chainDynamics c g) i move = some m') : Elder m' := by
  intro k p children next joins j among
  obtain ⟨f, found, moved⟩ := move_iff_moved.mp moves
  have within : i < m.fibers.length := (List.getElem?_eq_some_iff.mp found).1
  by_cases own : k = i
  · subst own
    have later := joined_later moved found joins j among
    exact ⟨Nat.lt_of_lt_of_le within later.1, later.2⟩
  · obtain ⟨_, f', added, _, _, shape, young⟩ := move_shape moves
    have same : m'.fiber? k = Machine.fiber? ⟨m.fibers.set i f' ++ added, m.world⟩ k := by
      simp [Machine.fiber?, shape]
    rw [same, fiber?_changed within, if_neg own] at joins
    split at joins
    · have later := elder k p children next joins j among
      exact ⟨later.1, Nat.lt_of_lt_of_le later.2 (length_le moves)⟩
    · obtain ⟨step, created⟩ := young _ (List.mem_of_getElem? joins)
      cases created

private theorem elder_create (elder : Elder m) : Elder (m.create step p) := by
  intro k p children next joins j among
  rcases Orders.create_fiber joins with joins | created
  · have later := elder k p children next joins j among
    exact ⟨later.1, Nat.lt_of_lt_of_le later.2 (by simp [Machine.create])⟩
  · cases created

/-! ## Nobody is stuck -/

private theorem fiber_standing (elder : Elder m) (left : Left n f)
    (found : m.fiber? i = some f) : Standing c g m i f := by
  obtain ⟨p, phase⟩ := f
  cases phase with
  | created step => exact .goesOn .run (.inl rfl) _ (move_iff_moved.mpr ⟨_, found, .start p step⟩)
  | running next =>
    cases next with
    | none => exact .goesOn .run (.inl rfl) _ (move_iff_moved.mpr ⟨_, found, .finish p⟩)
    | some step => exact .goesOn .run (.inl rfl) _ (move_iff_moved.mpr ⟨_, found, .step p step⟩)
  | sleeping wait next =>
    exact .goesOn .wake (.inr (.inl rfl)) _ (move_iff_moved.mpr ⟨_, found, .wake p wait next⟩)
  | waiting call next =>
    cases left
    exact .calls rfl
  | joining children next =>
    by_cases done : ∀ j ∈ children, ∃ f, m.fiber? j = some f ∧ f.isDone
    · obtain ⟨after, moved⟩ := join_possible (d := chainDynamics c g) found done
      exact .goesOn .join (.inr (.inr rfl)) after moved
    · push Not at done
      obtain ⟨j, among, busy⟩ := done
      obtain ⟨later, within⟩ := elder i p children next found j among
      have there : m.fiber? j = some m.fibers[j] := List.getElem?_eq_getElem within
      refine .joins p children next rfl j among later _ there ?_
      exact Option.not_isSome_iff_eq_none.mp (busy _ there)
  | ended | crashed => exact .done rfl

private theorem calling_shape (calls : isCalling f = true) :
    ∃ p q next, f = ⟨p, .waiting (.call q) next⟩ := by
  obtain ⟨p, phase⟩ := f
  unfold isCalling at calls
  split at calls
  · rename_i q next here
    exact ⟨p, q, next, congrArg _ here⟩
  · cases calls

private theorem answer_possible (found : m.fiber? i = some ⟨p, .waiting (.call q) next⟩)
    (r : Response) : m.move? (chainDynamics c g) i (.answer (.response r)) =
      some (m.takeAnswer (chainDynamics c g) i p (.call q) (.response r) next) := by
  simp [Machine.move?, found]

/-- When nobody can move any more, everybody is done. -/
private theorem all_done (standing : ∀ i f, m.fiber? i = some f → Standing c g m i f)
    (still : ∀ after, ¬ Goes c g after m) (found : m.fiber? i = some f) : f.isDone = true := by
  -- Whoever waits for fibers came before them, so the last ones are looked at first.
  induction gap : m.fibers.length - i using Nat.strong_induction_on generalizing i f with
  | _ k ih =>
    have stuck (move : Move Answer) (after : ChainMachine ε) (proper : Proper m (.move i move)) :
        m.move? (chainDynamics c g) i move ≠ some after := fun moved =>
      still after ⟨i, move, proper, moved⟩
    cases standing i f found with
    | done done => exact done
    | goesOn move own after moved =>
      refine absurd moved (stuck move after (proper_of_no_answer fun _ _ same => ?_))
      obtain ⟨rfl, rfl⟩ := Happening.move.inj same
      simp at own
    | calls calls =>
      obtain ⟨p, q, next, rfl⟩ := calling_shape calls
      exact absurd (answer_possible found default)
        (stuck _ _ (proper_of_response i default))
    | joins p children next here j awaited later f' found' busy =>
      have within : i < m.fibers.length := (List.getElem?_eq_some_iff.mp found).1
      have nearer : m.fibers.length - j < k := gap ▸ Nat.sub_lt_sub_left within later
      have done := ih _ nearer found' rfl
      rw [Fiber.isDone, busy] at done
      cases done

/-! ## Moves under the flag -/

private theorem stands_own (stands : Stands ⟨p, .running (some step)⟩) : Flags.IsOwn step := by
  cases stands with
  | running _ _ ready =>
    cases (ready _ rfl).1 with
    | _ => trivial
  | told _ q x r engaged => exact (clean_exchange engaged.clean).1

private theorem move_stopping (secluded : Secluded c m) (stopping : m.world.isStopping = true)
    (moved : m.move? (chainDynamics c g) i move = some m') : m'.world.isStopping = true := by
  have kept : m'.world.shutdown = m.world.shutdown := by
    refine Flags.move_keeps_flag (fun p step found => stands_own (secluded.stands i _ found))
      (fun p e next found => ?_) moved
    cases secluded.stands i _ found
  exact (congrArg Shutdown.isStopping kept).trans stopping

/-- A move leaves one move less to its fiber, and no more than that to those that it forks. -/
private theorem move_less (secluded : Secluded c m) (stopping : m.world.isStopping = true)
    (left : Left n f) (found : m.fiber? i = some f)
    (moved : m.move? (chainDynamics c g) i move = some m') :
    ∃ l f' added, n = l + 1 ∧ m'.fibers = m.fibers.set i f' ++ added ∧ Left l f' ∧
      ∀ f ∈ added, Left l f := by
  obtain ⟨_, _, _, found', busy, _⟩ := move_shape moved
  cases found.symm.trans found'
  obtain ⟨l, rfl⟩ := Nat.exists_eq_add_of_le' (left_pos left busy)
  have enough : Enough (l + 1) m.world l := by
    refine ⟨Nat.le_refl _, fun goesOn => ?_⟩
    cases stopping.symm.trans goesOn
  obtain ⟨f', added, shape, left', young⟩ :=
    move_leaves (secluded.stands i f found) left found moved enough
  exact ⟨l, f', added, rfl, shape, left', young⟩

/-- The same at the places of the fibers. -/
private theorem one_less (secluded : Secluded c m) (stopping : m.world.isStopping = true)
    (left : Left n f) (moved : m.move? (chainDynamics c g) i move = some m')
    (found : m.fiber? i = some f) (found' : m'.fiber? i = some f') :
    ∃ l, n = l + 1 ∧ Left l f' ∧ ∀ j f, m.fiber? j = none → m'.fiber? j = some f → Left l f := by
  have within : i < m.fibers.length := (List.getElem?_eq_some_iff.mp found).1
  obtain ⟨l, f₁, added, rfl, shape, left', young⟩ := move_less secluded stopping left found moved
  have same (k : FiberId) :
      m'.fiber? k = Machine.fiber? ⟨m.fibers.set i f₁ ++ added, m.world⟩ k := by
    simp [Machine.fiber?, shape]
  refine ⟨l, rfl, ?_, fun j f absent found => ?_⟩
  · rw [same, fiber?_changed within, if_pos rfl] at found'
    cases found'
    exact left'
  · have beyond : m.fibers.length ≤ j := List.getElem?_eq_none_iff.mp absent
    have other : j ≠ i := fun own => Nat.not_lt.mpr (own ▸ beyond) within
    rw [same, fiber?_changed within, if_neg other, if_neg (Nat.not_lt.mpr beyond)] at found
    exact young f (List.mem_of_getElem? found)

/-! ## Moves come to an end -/

/-- After a move the numbers of moves that are left come from those before it by putting smaller
ones in the place of one of them. -/
private theorem fewer_left {ns : List Nat} {fibers : List (Fiber (Step ε) Packet (Pending ε))}
    (lasts : List.Forall₂ Left ns fibers) (found : fibers[i]? = some f) :
    ∃ n, Left n f ∧ ∀ l f' added, l < n → Left l f' → (∀ f ∈ added, Left l f) →
      ∃ ns', List.Forall₂ Left ns' (fibers.set i f' ++ added) ∧
        Relation.CutExpand (· < ·) (ns' : Multiset Nat) ns := by
  induction lasts generalizing i with
  | nil => cases found
  | @cons n first ns rest left lasts ih =>
    cases i with
    | zero =>
      cases found
      refine ⟨n, left, fun l f' added less left' young => ?_⟩
      have newborn : List.Forall₂ Left (added.map fun _ => l) added :=
        List.forall₂_map_left_iff.mpr (List.forall₂_same.mpr young)
      refine ⟨l :: (ns ++ added.map fun _ => l), .cons left' (List.rel_append lasts newborn), ?_⟩
      refine ⟨l ::ₘ (added.map fun _ => l : List Nat), n, fun k among => ?_, ?_⟩
      · rcases Multiset.mem_cons.mp among with rfl | among
        · exact less
        · obtain ⟨_, _, rfl⟩ := List.mem_map.mp among
          exact less
      · simp only [← Multiset.cons_coe, ← Multiset.coe_add, ← Multiset.singleton_add]
        abel
    | succ i =>
      obtain ⟨k, left', follows⟩ := ih found
      refine ⟨k, left', fun l f' added less left' young => ?_⟩
      obtain ⟨ns', lasts', cut⟩ := follows l f' added less left' young
      exact ⟨n :: ns', .cons left lasts', (Relation.cutExpand_add_left {n}).mpr cut⟩

private theorem moves_end (secluded : Secluded c m) (stopping : m.world.isStopping = true)
    {ns : List Nat} (lasts : List.Forall₂ Left ns m.fibers) : Acc (Goes c g) m := by
  have reached : Acc (Relation.CutExpand (· < ·)) (ns : Multiset Nat) :=
    wellFounded_lt.cutExpand.apply _
  generalize same : (ns : Multiset Nat) = numbers at reached
  induction reached generalizing m ns with
  | intro numbers _ ih =>
    subst same
    refine .intro m fun after goes => ?_
    obtain ⟨i, move, proper, moved⟩ := goes
    obtain ⟨f, _, _, found, _⟩ := move_shape moved
    obtain ⟨n, left, follows⟩ := fewer_left lasts found
    obtain ⟨l, f', added, rfl, shape, left', young⟩ := move_less secluded stopping left found moved
    obtain ⟨ns', lasts', cut⟩ := follows l f' added (Nat.lt_succ_self l) left' young
    have secluded' := secluded_unfolds secluded (.moves i move after proper moved)
    exact ih _ cut secluded' (move_stopping secluded stopping moved) (shape ▸ lasts') rfl

/-! ## What the fibers have done -/

/-- What a fiber has done leaves room for what is left to it. After its call it waits, or is
done. -/
structure Spent (t : Tally) (f : Fiber (Step ε) Packet (Pending ε)) : Prop where
  left : ∃ n, Left n f ∧ t.moves + n ≤ 9
  steps : t.steps ≤ t.moves
  calls : t.calls = 0 ∨ t.calls = 1 ∧ (isCalling f = true ∨ f.isDone = true)

theorem spent_nothing (left : Left n f) (few : n ≤ 9) : Spent {} f :=
  ⟨⟨n, left, Nat.le_trans (Nat.zero_add n).le few⟩, Nat.le_refl 0, .inl rfl⟩

/-- An answer under the flag ends its fiber, and nothing of it comes into the packet. -/
private theorem answer_cancels (stopping : m.world.isStopping = true)
    (found : m.fiber? i = some ⟨p, .waiting (.call q) next⟩)
    (moved : m.move? (chainDynamics c g) i (.answer a) = some m') :
    m'.fiber? i =
      some ⟨p.put Packet.failureKey (.failure .cancelled), .ended (some .cancelled)⟩ := by
  obtain ⟨_, here, moved⟩ := move_iff_moved.mp moved
  cases found.symm.trans here
  cases moved with
  | cancel => exact took_fiber found
  | answer _ _ _ _ goesOn =>
    have received := congrArg Shutdown.isStopping
      (Flags.received_keeps_flag (c := c) (g := g) (w := m.world) q a)
    cases (received.trans stopping).symm.trans goesOn

/-- Whatever becomes of a call under the flag ends its fiber. -/
private theorem call_ends (stopping : m.world.isStopping = true)
    (found : m.fiber? i = some ⟨p, .waiting (.call q) next⟩)
    (moves : m.move? (chainDynamics c g) i move = some m') (found' : m'.fiber? i = some f') :
    f'.isDone = true := by
  obtain ⟨_, here, moved⟩ := move_iff_moved.mp moves
  cases found.symm.trans here
  cases moved with
  | cancel | answer =>
    cases (answer_cancels stopping found moves).symm.trans found'
    rfl
  | crash =>
    cases (replace_fiber found).symm.trans found'
    rfl

private theorem done_calls_no_more (done : f.isDone = true) : isCalling f = false := by
  obtain ⟨p, phase⟩ := f
  cases phase <;> first | rfl | cases done

private theorem spent_more {t : Tally} (stopping : m.world.isStopping = true)
    (spent : Spent t f) (found : m.fiber? i = some f)
    (moved : m.move? (chainDynamics c g) i move = some m') (found' : m'.fiber? i = some f')
    (left : ∀ n, Left n f → ∃ l, n = l + 1 ∧ Left l f') : Spent (t.more f f') f' := by
  obtain ⟨_, _, _, here, busy, _⟩ := move_shape moved
  cases found.symm.trans here
  refine ⟨?_, ?_, ?_⟩
  · obtain ⟨n, before, room⟩ := spent.left
    obtain ⟨l, rfl, after⟩ := left n before
    refine ⟨l, after, ?_⟩
    simp only [Tally.more]
    omega
  · have applied : (isApplying f).toNat ≤ 1 := Bool.toNat_le _
    exact Nat.add_le_add spent.steps applied
  · rcases spent.calls with none | ⟨once, calling | done⟩
    · cases calls : isCalling f' with
      | false => exact .inl (by simp [Tally.more, none, calls])
      | true => exact .inr ⟨by simp [Tally.more, none, calls], .inl rfl⟩
    · obtain ⟨p, q, next, rfl⟩ := calling_shape calling
      have done := call_ends stopping found moved found'
      exact .inr ⟨by simp [Tally.more, once, done_calls_no_more done], .inr done⟩
    · rw [Fiber.isDone, busy] at done
      cases done

/-- What the fibers have done is in keeping with where they stand. -/
structure Wanes (c : Conduct) (s : Closing ε) : Prop where
  secluded : Secluded c s.machine
  stopping : s.machine.world.isStopping = true
  elder : Elder s.machine
  spent : ∀ i f, s.machine.fiber? i = some f → Spent (s.tally i) f
  fresh : ∀ i, s.machine.fiber? i = none → s.tally i = {}

variable {s s' : Closing ε}

/-- Nothing has happened to a fiber, or it is new. -/
private theorem wanes_others (wanes : Wanes c s)
    (stays : ∀ f, s.machine.fiber? j = some f → m'.fiber? j = some f)
    (young : ∀ f, s.machine.fiber? j = none → m'.fiber? j = some f → ∃ n ≤ 9, Left n f) :
    (∀ f, m'.fiber? j = some f → Spent (s.tally j) f) ∧
      (m'.fiber? j = none → s.tally j = {}) := by
  cases before : s.machine.fiber? j with
  | some f =>
    have same := stays f before
    refine ⟨fun f' found => ?_, fun absent => ?_⟩
    · cases same.symm.trans found
      exact wanes.spent j f before
    · cases same.symm.trans absent
  | none =>
    have nothing := wanes.fresh j before
    refine ⟨fun f' found => ?_, fun _ => nothing⟩
    obtain ⟨n, few, left⟩ := young f' before found
    exact nothing ▸ spent_nothing left few

private theorem wanes_create {w : World} (wanes : Wanes c s) (stopping : w.isStopping = true)
    (secluded : Secluded c ({ s.machine with world := w }.create step p))
    (brief : Brief n step) (few : n ≤ 8) :
    Wanes c { s with machine := { s.machine with world := w }.create step p } := by
  have stays (j : FiberId) (f : Fiber (Step ε) Packet (Pending ε))
      (found : s.machine.fiber? j = some f) :
      ({ s.machine with world := w }.create step p).fiber? j = some f :=
    (List.getElem?_append_left (List.getElem?_eq_some_iff.mp found).1).trans found
  have young (j : FiberId) (f : Fiber (Step ε) Packet (Pending ε))
      (absent : s.machine.fiber? j = none)
      (found : ({ s.machine with world := w }.create step p).fiber? j = some f) :
      ∃ n ≤ 9, Left n f := by
    rcases Orders.create_fiber found with found | rfl
    · cases absent.symm.trans found
    · exact ⟨9, Nat.le_refl 9, .created p step brief (Nat.succ_le_succ few)⟩
  have others (j : FiberId) := wanes_others wanes (stays j) (young j)
  have elder : Elder ({ s.machine with world := w } : ChainMachine ε) := wanes.elder
  exact ⟨secluded, stopping, elder_create elder, fun i => (others i).1, fun i => (others i).2⟩

private theorem wanes_move (wanes : Wanes c s) (proper : Proper s.machine (.move i move))
    (moved : s.machine.move? (chainDynamics c g) i move = some m')
    (found : s.machine.fiber? i = some f) (found' : m'.fiber? i = some f') :
    Wanes c ⟨m', fun j => if j = i then (s.tally i).more f f' else s.tally j⟩ := by
  obtain ⟨n, left, room⟩ := (wanes.spent i f found).left
  have less (n : Nat) (left : Left n f) :=
    one_less wanes.secluded wanes.stopping left moved found found'
  obtain ⟨l, rfl, -, young⟩ := less n left
  have others (j : FiberId) (other : j ≠ i) :
      (∀ f, m'.fiber? j = some f → Spent (s.tally j) f) ∧ (m'.fiber? j = none → s.tally j = {}) :=
    wanes_others wanes (fun f => others_stay moved other)
      fun f absent found => ⟨l, by omega, young j f absent found⟩
  refine ⟨secluded_unfolds wanes.secluded (.moves i move m' proper moved),
    move_stopping wanes.secluded wanes.stopping moved, elder_move wanes.elder moved,
    fun j f₀ found₀ => ?_, fun j absent => ?_⟩
  · by_cases own : j = i
    · subst own
      cases found'.symm.trans found₀
      dsimp only
      rw [if_pos rfl]
      exact spent_more wanes.stopping (wanes.spent j f found) found moved found'
        fun n left => (less n left).imp fun l ⟨same, left, _⟩ => ⟨same, left⟩
    · dsimp only
      rw [if_neg own]
      exact (others j own).1 f₀ found₀
  · have other : j ≠ i := by
      rintro rfl
      cases found'.symm.trans absent
    exact (if_neg other).trans ((others j other).2 absent)

private theorem wanes_winds (wanes : Wanes c s) (winds : Winds c g s s') : Wanes c s' := by
  cases winds with
  | reconciles domain id head p w begins =>
    have secluded := secluded_unfolds (g := g) wanes.secluded
      (.reconciles domain id head p w begins)
    have kept := congrArg Shutdown.isStopping (Flags.begin_keeps_flag begins)
    have stopping : w.isStopping = true := kept.trans wanes.stopping
    exact wanes_create wanes stopping secluded (reconcile_brief begins) (by omega)
  | publishes id =>
    have secluded := secluded_unfolds (g := g) wanes.secluded (.publishes id)
    exact wanes_create wanes wanes.stopping secluded write_brief (by omega)
  | moves i move after f f' proper moved found found' =>
    exact wanes_move wanes proper moved found found'
  | outside world same stopping =>
    exact ⟨secluded_unfolds (g := g) wanes.secluded (.outside world same), stopping, wanes.elder,
      wanes.spent, wanes.fresh⟩

/-! ## Before the stop -/

private theorem young_left {w : World} (left : ∀ f ∈ m.fibers, Left 9 f) (brief : Brief n step)
    (few : n ≤ 8) : ∀ f ∈ ({ m with world := w }.create step p).fibers, Left 9 f := by
  intro f among
  rcases List.mem_append.mp among with old | new
  · exact left f old
  · cases List.mem_singleton.mp new
    exact .created p step brief (Nat.succ_le_succ few)

private theorem left_unfolds (secluded : Secluded c m) (left : ∀ f ∈ m.fibers, Left 9 f)
    (unfolds : Unfolds c g m m') : ∀ f ∈ m'.fibers, Left 9 f := by
  cases unfolds with
  | reconciles domain id head p w begins =>
    exact young_left left (reconcile_brief begins) (by omega)
  | publishes id => exact young_left left write_brief (by omega)
  | moves i move after proper moved =>
    obtain ⟨f, _, _, found, _⟩ := move_shape moved
    have enough : Enough 9 m.world 9 := ⟨Nat.le_succ 9, fun _ => Nat.le_refl 9⟩
    obtain ⟨f', added, shape, left', young⟩ := move_leaves (secluded.stands i f found)
      (left f (List.mem_of_getElem? found)) found moved enough
    intro f₀ among
    rw [shape] at among
    rcases List.mem_append.mp among with old | new
    · rcases List.mem_or_eq_of_mem_set old with old | rfl
      · exact left f₀ old
      · exact left'
    · exact young f₀ new
  | outside world same => exact left

private theorem elder_unfolds (elder : Elder m) (unfolds : Unfolds c g m m') : Elder m' := by
  cases unfolds with
  | reconciles domain id head p w begins =>
    have elder : Elder { m with world := w } := elder
    exact elder_create elder
  | publishes id => exact elder_create elder
  | moves i move after proper moved => exact elder_move elder moved
  | outside world same => exact elder

/-- Nobody has done anything when the operator begins to stop, and each fiber has nine moves at
most. -/
private theorem wanes_begin {start : ChainMachine ε} (nobody : start.fibers = [])
    (tuned : Tuned c start.world) (ran : Relation.ReflTransGen (Unfolds c g) start m)
    (stopping : m.world.isStopping = true) : Wanes c { machine := m } := by
  have before : Secluded c m ∧ Elder m ∧ ∀ f ∈ m.fibers, Left 9 f := by
    clear stopping
    induction ran with
    | refl =>
      have absent (i : FiberId) : start.fiber? i = none := by simp [Machine.fiber?, nobody]
      refine ⟨⟨fun i f found => ?_, tuned, fun i f b found => ?_, fun i j f f' b found => ?_⟩,
        fun i p children next found => ?_, by simp [nobody]⟩
      all_goals cases (absent i).symm.trans found
    | tail _ unfolds ih =>
      obtain ⟨secluded, elder, left⟩ := ih
      exact ⟨secluded_unfolds secluded unfolds, elder_unfolds elder unfolds,
        left_unfolds secluded left unfolds⟩
  obtain ⟨secluded, elder, left⟩ := before
  exact ⟨secluded, stopping, elder,
    fun i f found => spent_nothing (left f (List.mem_of_getElem? found)) (Nat.le_refl 9),
    fun _ _ => rfl⟩

/-! ## The end of all fibers -/

private theorem numbers_left {fibers : List (Fiber (Step ε) Packet (Pending ε))}
    (left : ∀ f ∈ fibers, ∃ n, Left n f) : ∃ ns, List.Forall₂ Left ns fibers := by
  induction fibers with
  | nil => exact ⟨[], .nil⟩
  | cons f rest ih =>
    obtain ⟨n, first⟩ := left f List.mem_cons_self
    obtain ⟨ns, others⟩ := ih fun f among => left f (List.mem_cons_of_mem _ among)
    exact ⟨n :: ns, .cons first others⟩

private theorem wanes_down (wanes : Wanes c s) : WindsDown c g s := by
  have spent (i : FiberId) : (s.tally i).moves ≤ 9 ∧ (s.tally i).steps ≤ 9 ∧
      (s.tally i).calls ≤ 1 := by
    cases found : s.machine.fiber? i with
    | none => simp [wanes.fresh i found]
    | some f =>
      obtain ⟨⟨n, _, room⟩, steps, calls⟩ := wanes.spent i f found
      omega
  have standing : ∀ i f, s.machine.fiber? i = some f → Standing c g s.machine i f :=
    fun i f found => by
      obtain ⟨_, left, _⟩ := (wanes.spent i f found).left
      exact fiber_standing wanes.elder left found
  have left : ∀ f ∈ s.machine.fibers, ∃ n, Left n f := fun f among => by
    obtain ⟨i, found⟩ := List.mem_iff_getElem?.mp among
    obtain ⟨n, left, _⟩ := (wanes.spent i f found).left
    exact ⟨n, left⟩
  obtain ⟨ns, lasts⟩ := numbers_left left
  exact
    { moves := fun i => (spent i).1
      steps := fun i => (spent i).2.1
      calls := fun i => (spent i).2.2
      cancels := fun i p q next r after found moved => answer_cancels wanes.stopping found moved
      standing
      ends := moves_end wanes.secluded wanes.stopping lasts
      settled := fun still i f found => all_done standing still found }

/-- After a stop every fiber winds down, whoever was under way when it came and whoever is forked or
begun later, in whatever order they move and whatever the server answers. Nor does time go on, in a
rehearsal, while one of them sleeps. -/
theorem fibers_wind_down {start : ChainMachine ε} {opening play : Play}
    (nobody : start.fibers = []) (tuned : Tuned c start.world)
    (ran : Relation.ReflTransGen (Unfolds c g) start m) (stopping : m.world.isStopping = true)
    (winds : Relation.ReflTransGen (Winds c g) { machine := m } s)
    (opens : opening.machine.fibers = [])
    (plays : Relation.ReflTransGen Sleepers.Takes opening play)
    (stops : play.world.isStopping = true) (idle : play.queue = []) :
    WindsDown c g s ∧ ∀ i, ¬ Sleepers.Asleep play i := by
  have wanes : Wanes c s := by
    induction winds with
    | refl => exact wanes_begin nobody tuned ran stopping
    | tail _ winds ih => exact wanes_winds ih winds
  have settled : Sleepers.IsSettled play := by
    rw [Sleepers.IsSettled, Shutdown.isSettled, Bool.or_eq_true]
    exact .inl stops
  exact ⟨wanes_down wanes, Sleepers.nobody_sleeps_on opens plays settled idle⟩

/-! ## A stop while pods are listed, and one during a nap -/

private theorem goes {m m' : ChainMachine Empty}
    (moved : m.move? (chainDynamics {} .nobody) i .run = some m') : Unfolds {} .nobody m m' :=
  .moves i .run m' (proper_of_no_answer fun _ _ same => by cases same) moved

private theorem stops (m : ChainMachine Empty) : Unfolds {} .nobody m
    { m with world := { m.world with shutdown := m.world.shutdown.stop "SIGTERM" } } :=
  .outside _ rfl

private theorem winds_on {s : Closing Empty} {after : ChainMachine Empty}
    {f f' : Fiber (Step Empty) Packet (Pending Empty)}
    (moved : s.machine.move? (chainDynamics {} .nobody) i .run = some after)
    (found : s.machine.fiber? i = some f) (found' : after.fiber? i = some f') :
    Winds {} .nobody s ⟨after, fun j => if j = i then (s.tally i).more f f' else s.tally j⟩ :=
  .moves i .run after f f' (proper_of_no_answer fun _ _ same => by cases same) moved found found'

private theorem answered {s : Closing Empty} {after : ChainMachine Empty}
    {f f' : Fiber (Step Empty) Packet (Pending Empty)} (r : Response)
    (moved : s.machine.move? (chainDynamics {} .nobody) i (.answer (.response r)) = some after)
    (found : s.machine.fiber? i = some f) (found' : after.fiber? i = some f') :
    Winds {} .nobody s ⟨after, fun j => if j = i then (s.tally i).more f f' else s.tally j⟩ :=
  .moves i _ after f f' (proper_of_response i r) moved found found'

/-- The operator is asked to stop while the pods of a domain are listed. A fiber that is begun
afterwards makes its call, and the answers to both calls end their fibers. -/
private theorem stopped_listing : ∃ (m : ChainMachine Empty) (s : Closing Empty),
    Relation.ReflTransGen (Unfolds {} .nobody) (⟨[], {}⟩ : ChainMachine Empty) m ∧
      m.world.isStopping = true ∧
      Relation.ReflTransGen (Winds {} .nobody) { machine := m } s ∧
      (s.tally 0).moves = 1 ∧ (s.tally 1).calls = 1 := by
  refine ⟨?m, ?s, ?ran, ?stopping, ?winds, ?moves, ?calls⟩
  case ran =>
    refine .head (.reconciles paged _ _ _ _ rfl) ?_
    refine .head (goes (i := 0) rfl) ?_
    refine .head (goes (i := 0) rfl) ?_
    refine .head (stops _) ?_
    exact .refl
  case stopping => rfl
  case winds =>
    refine .head (.publishes 0) ?_
    refine .head (winds_on (i := 1) rfl rfl rfl) ?_
    refine .head (winds_on (i := 1) rfl rfl rfl) ?_
    refine .head (winds_on (i := 1) rfl rfl rfl) ?_
    refine .head (answered (i := 0) lastPage rfl rfl rfl) ?_
    refine .head (answered (i := 1) lastPage rfl rfl rfl) ?_
    exact .refl
  case moves => rfl
  case calls => rfl

/-- A rehearsal in which the operator is asked to stop after half a second. -/
def halfSecond : Play where
  staging := {}
  machine := ⟨[], {}⟩
  server := {}
  alarms := [(500, .deed (.stop "SIGTERM"))]

/-- A nap of a second. -/
def nap : Step Cue := .guest ⟨0, "nap", .sleep 1000 false⟩ none []

/-- It is over when the operator is asked to stop. -/
private theorem nap_over : ∃ play : Play,
    Relation.ReflTransGen Sleepers.Takes halfSecond play ∧ play.world.isStopping = true ∧
      play.queue = [] ∧ play.now = 500 ∧ play.isDone 0 = true := by
  refine ⟨?play, ?plays, ?stopping, ?idle, ?now, ?done⟩
  case plays =>
    refine .head (.starts nap {}) ?_
    refine .head (.fiber 0 [] _ rfl (.goesOn rfl (.goesOn rfl (.waits rfl)))) ?_
    refine .head (.passes 500 rfl) ?_
    refine .head (.deed _ _ rfl) ?_
    refine .head (.fiber 0 [] _ rfl (.goesOn rfl (.goesOn rfl (.waits rfl)))) ?_
    exact .refl
  case stopping => rfl
  case idle => rfl
  case now => rfl
  case done => rfl

/-- Both fibers of the stopped reconcile wind down, and nobody sleeps when time goes on after the
nap. -/
theorem stopped_midway : ∃ (m : ChainMachine Empty) (s : Closing Empty) (play : Play),
    Relation.ReflTransGen (Unfolds {} .nobody) (⟨[], {}⟩ : ChainMachine Empty) m ∧
      m.world.isStopping = true ∧
      Relation.ReflTransGen (Winds {} .nobody) { machine := m } s ∧
      (s.tally 0).moves = 1 ∧ (s.tally 1).calls = 1 ∧
      Relation.ReflTransGen Sleepers.Takes halfSecond play ∧ play.now = 500 ∧
      play.isDone 0 = true ∧ WindsDown {} .nobody s ∧ ∀ i, ¬ Sleepers.Asleep play i := by
  obtain ⟨m, s, ran, stopping, winds, moves, calls⟩ := stopped_listing
  obtain ⟨play, plays, stops, idle, now, done⟩ := nap_over
  have tuned : Tuned {} (⟨[], {}⟩ : ChainMachine Empty).world :=
    fun _ among => absurd among List.not_mem_nil
  exact ⟨m, s, play, ran, stopping, winds, moves, calls, plays, now, done,
    fibers_wind_down rfl tuned ran stopping winds rfl plays stops idle⟩

end DomainSteward.Winding
