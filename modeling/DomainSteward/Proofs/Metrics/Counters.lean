import DomainSteward.Proofs.Chain.Writers
import DomainSteward.Proofs.Fiber.Moves

/-! What a move of a fiber adds to the counters. Fibers that start and end,
calls that come to an outcome, and calls that are made again or rerouted are
each counted once, by the move in which they happen, and no other move touches
the counters. -/
namespace DomainSteward.Counters
open Machine Moves Writers

/-! ## What the counters show -/

/-- What a fiber comes to once at most. -/
inductive Stage where
  | started
  | ended (succeeded : Bool)
deriving DecidableEq

/-- Something that is counted. -/
inductive Entry where
  /-- A fiber comes to a stage. -/
  | fiber (stage : Stage)
  /-- A call is answered or times out. -/
  | call (verb outcome : String)
  /-- A request is sent again after a failure. -/
  | resent
  /-- The conflict step takes over from a request. -/
  | rerouted
deriving DecidableEq

/-- The kind of retry as which something is counted. -/
def Entry.kind? : Entry → Option String
  | .resent => some "retry"
  | .rerouted => some "conflict"
  | _ => none

/-- What the counters of fibers and calls show. -/
@[ext] structure Reading where
  active : Int
  /-- The fibers that have ended, by whether they succeeded. -/
  ended : Bool → Nat
  /-- The calls that have come to an outcome, by outcome and verb. -/
  calls : String × String → Nat
  /-- The calls made again or rerouted, by kind. -/
  retries : String → Nat

/-- What the counters show in a world. -/
def reading (w : World) : Reading where
  active := w.metrics.fibersActive
  ended := w.metrics.fibersTotal.count
  calls := w.metrics.apiCalls.count
  retries := w.metrics.apiRetries.count

/-- What the counters show after more has happened. -/
def Reading.after (r : Reading) (log : List Entry) : Reading where
  active := r.active + log.count (.fiber .started) -
    (log.count (.fiber (.ended true)) + log.count (.fiber (.ended false)))
  ended succeeded := r.ended succeeded + log.count (.fiber (.ended succeeded))
  calls label := r.calls label + log.count (.call label.2 label.1)
  retries kind := r.retries kind + log.countP (·.kind? = some kind)

variable {ε : Type} {c : Conduct} {g : GuestRules ε} {p : Packet} {w w' : World}
  {x : Exchange ε (Step ε)} {r : Response} {m m' : ChainMachine ε} {i : FiberId}
  {f f' : Fiber (Step ε) Packet (Pending ε)} {move : Move Answer}

@[simp] theorem after_nothing (r : Reading) : r.after [] = r := by
  simp [Reading.after]

theorem after_append (r : Reading) (first second : List Entry) :
    r.after (first ++ second) = (r.after first).after second := by
  ext <;> simp only [Reading.after, List.count_append, List.countP_append] <;> push_cast <;> omega

/-- The order in which things happened does not show. -/
theorem after_perm {r : Reading} {log log' : List Entry} (same : log.Perm log') :
    r.after log = r.after log' := by
  simp only [Reading.after, same.count_eq, same.countP_eq]

theorem written_reading (written : Written w w') : reading w' = reading w := by
  obtain ⟨_, _, _, _, _, rfl⟩ := written
  rfl

/-! ## What is counted -/

theorem started_reading (counted : c.countsCalls = true) :
    reading (c.count (·.fiberStarted) w) = (reading w).after [.fiber .started] := by
  ext <;> simp [Conduct.count, counted, World.count, reading, Reading.after, Entry.kind?,
    Metrics.fiberStarted]

theorem ended_reading (counted : c.countsCalls = true) (succeeded : Bool) :
    reading (c.count (·.fiberFinished succeeded) w) =
      (reading w).after [.fiber (.ended succeeded)] := by
  simp only [Conduct.count, counted, ↓reduceIte]
  ext other
  · cases succeeded <;>
      simp [reading, Reading.after, World.count, Metrics.fiberFinished, Int.sub_eq_add_neg]
  · simp only [reading, Reading.after, World.count, Metrics.fiberFinished, Tally.count_bump]
    cases other <;> cases succeeded <;> rfl
  · rfl
  · rfl

theorem called_reading (counted : c.countsCalls = true) (verb outcome : String) :
    reading (c.count (·.callMade verb outcome) w) =
      (reading w).after [.call verb outcome] := by
  simp only [Conduct.count, counted, ↓reduceIte]
  ext label
  · simp [reading, Reading.after, World.count, Metrics.callMade]
  · rfl
  · obtain ⟨outcome', verb'⟩ := label
    by_cases same : outcome' = outcome ∧ verb' = verb
    · obtain ⟨rfl, rfl⟩ := same
      simp [reading, Reading.after, World.count, Metrics.callMade, Tally.count_bump]
    · have other : ¬ (verb = verb' ∧ outcome = outcome') := fun equal =>
        same ⟨equal.2.symm, equal.1.symm⟩
      simp [reading, Reading.after, World.count, Metrics.callMade, Tally.count_bump, same,
        List.count_singleton, other]
  · rfl

theorem retried_reading (counted : c.countsCalls = true) (entry : Entry) (kind : String)
    (is : entry.kind? = some kind) :
    reading (c.count (·.callRetried kind) w) = (reading w).after [entry] := by
  simp only [Conduct.count, counted, ↓reduceIte]
  have noStage (stage : Stage) : [entry].count (.fiber stage) = 0 := by
    cases entry <;> first | rfl | cases is
  have noCall (verb outcome : String) : [entry].count (.call verb outcome) = 0 := by
    cases entry <;> first | rfl | cases is
  ext other
  · simp [reading, Reading.after, World.count, Metrics.callRetried, noStage]
  · simp [reading, Reading.after, World.count, Metrics.callRetried, noStage]
  · simp [reading, Reading.after, World.count, Metrics.callRetried, noCall]
  · simp [reading, Reading.after, World.count, Metrics.callRetried, Tally.count_bump, is,
      List.countP_singleton, eq_comm]

/-! ## Verdicts -/

/-- What a verdict on a response comes to. A response step that stands alone has no request to send
again, and nobody counts for it. -/
def ruled (x : Exchange ε (Step ε)) (failed : Bool) : Except Panic (Verdict ε) → List Entry
  | .ok (.resend _) => if failed && x.request.isSome then [.resent] else []
  | .ok .reroute => if x.request.isSome then [.rerouted] else []
  | _ => []

theorem charged_reading (counted : c.countsCalls = true) (failed : Bool)
    (verdict : Except Panic (Verdict ε)) :
    reading (charged c x failed verdict w) = (reading w).after (ruled x failed verdict) := by
  have exchange (entry : Entry) (kind : String) (is : entry.kind? = some kind) :
      reading (x.count c (·.callRetried kind) w) =
        (reading w).after (if x.request.isSome then [entry] else []) := by
    unfold Exchange.count
    split
    · exact retried_reading counted entry kind is
    · exact (after_nothing _).symm
  match verdict with
  | .ok (.resend wait) =>
    cases failed with
    | true => simpa [charged, ruled] using exchange .resent "retry" rfl
    | false => simp [charged, ruled]
  | .ok .reroute => exact exchange .rerouted "conflict" rfl
  | .ok (.proceed action) => exact (after_nothing _).symm
  | .error panic => exact (after_nothing _).symm

theorem counts_reading (counted : c.countsCalls = true) {failed : Bool} {j : Judged ε}
    (counts : Counts c x failed w j) :
    reading j.world = (reading w).after (ruled x failed j.verdict) :=
  (written_reading counts).trans (charged_reading counted failed j.verdict)

/-- Guests leave the counters to the operator: their steps and errands do not touch them, and their
handlers send a request again after a failure, or hand it to the conflict step, only as the retry
budget allows, which they do not consult about a success. -/
structure Upright (c : Conduct) (g : GuestRules ε) : Prop where
  applies : ∀ e next branches p w, reading (g.apply e next branches p w).world = reading w
  finishes : ∀ e w, reading (g.finish e w) = reading w
  succeeds : ∀ e x r p w, r.isFailure = false →
    reading (g.judge e x r p w).world = reading w ∧ (g.judge e x r p w).verdict ≠ .ok .reroute
  fails : ∀ e x r p w, r.isFailure = true →
    (reading (g.judge e x r p w).world = reading w ∧
      ∀ verdict, (g.judge e x r p w).verdict = .ok verdict → ∃ action, verdict = .proceed action) ∨
    ∃ verdict, (x.retry? c (some r) p w).1 = some verdict ∧
      (g.judge e x r p w).verdict = .ok verdict ∧
      reading (g.judge e x r p w).world = reading (x.retry? c (some r) p w).2

variable (counted : c.countsCalls = true) (upright : Upright c g)
include counted upright

private theorem guest_reading (e : ε) :
    reading (g.judge e x r p w).world =
      (reading w).after (ruled x r.isFailure (g.judge e x r p w).verdict) := by
  cases failed : r.isFailure with
  | false =>
    obtain ⟨kept, stays⟩ := upright.succeeds e x r p w failed
    rw [kept]
    match judged : (g.judge e x r p w).verdict with
    | .ok (.resend _) | .ok (.proceed _) | .error _ => exact (after_nothing _).symm
    | .ok .reroute => exact absurd judged stays
  | true =>
    rcases upright.fails e x r p w failed with ⟨kept, proceeds⟩ | ⟨verdict, granted, takes, same⟩
    · rw [kept]
      match judged : (g.judge e x r p w).verdict with
      | .ok verdict =>
        obtain ⟨action, rfl⟩ := proceeds verdict judged
        exact (after_nothing _).symm
      | .error _ => exact (after_nothing _).symm
    · have written := retry_written (c := c) (x := x) (p := p) (w := w) (some r) .finish
      rw [granted] at written
      rw [same, takes]
      exact (written_reading written).trans (charged_reading counted true (.ok verdict))

private theorem judge_reading :
    reading (Step.judge c g x r p w).world =
      (reading w).after (ruled x r.isFailure (Step.judge c g x r p w).verdict) := by
  by_cases own : ∀ e, x.handler ≠ .guest e
  · exact counts_reading counted (judge_counts own)
  · obtain ⟨e, guest⟩ : ∃ e, x.handler = .guest e := by simpa using own
    have judged : Step.judge c g x r p w = g.judge e x r p w := by rw [Step.judge, guest]
    rw [judged]
    exact guest_reading counted upright e

/-- Every judgement counts its verdict. -/
theorem judgement_reading :
    reading (judgement c g x p w).world =
      (reading w).after (ruled x (seesFailure p) (judgement c g x p w).verdict) := by
  unfold judgement seesFailure
  cases p.response? with
  | none => exact counts_reading (j := .of _ _ _) counted (retry_written none _)
  | some r => exact judge_reading counted upright

omit counted upright

/-! ## Moves -/

/-- What the start of a fiber comes to. -/
def begun (phase : Phase (Step ε) (Pending ε)) : List Entry :=
  match phase with
  | .created _ => [.fiber .started]
  | _ => []

/-- What the answer to a call comes to, whether it is used or not. -/
def answered (phase : Phase (Step ε) (Pending ε)) (move : Move Answer) : List Entry :=
  match phase, move with
  | .waiting (.call q) _, .answer (.response r) => [.call q.operation.verb r.outcome]
  | _, _ => []

/-- What comes of the response that a fiber is about to handle. -/
def decided (c : Conduct) (g : GuestRules ε) (w : World) (f : Fiber (Step ε) Packet (Pending ε)) :
    List Entry :=
  match f.phase with
  | .running (some (.response x)) =>
    ruled x (seesFailure f.packet) (judgement c g x f.packet w).verdict
  | _ => []

/-- What the end of a fiber comes to. A fiber that is torn down has no end of its own. -/
def closed (phase : Phase (Step ε) (Pending ε)) : List Entry :=
  match phase with
  | .ended failure => [.fiber (.ended failure.isNone)]
  | _ => []

/-- What a move by which a fiber `f` becomes `f'` has to be counted as. -/
def entries (c : Conduct) (g : GuestRules ε) (w : World) (move : Move Answer)
    (f f' : Fiber (Step ε) Packet (Pending ε)) : List Entry :=
  begun f.phase ++ answered f.phase move ++ decided c g w f ++ closed f'.phase

private theorem world_after_reading (counted : c.countsCalls = true) (n : Nat)
    (action : StepAction ε) :
    reading (worldAfter (chainDynamics c g) w action) =
      (reading w).after (closed (phaseAfter n action)) := by
  cases action with
  | finish => exact ended_reading counted true
  | terminate e => exact ended_reading counted false
  | forkJoin children join => cases children <;> exact (after_nothing _).symm
  | _ => exact (after_nothing _).symm

private theorem receive_reading (counted : c.countsCalls = true) (upright : Upright c g)
    (call : Pending ε) (next : Option (Step ε)) (a : Answer) :
    reading ((chainDynamics c g).receive call a w) =
      (reading w).after (answered (.waiting call next) (.answer a)) := by
  cases call with
  | call q =>
    cases a with
    | response r => exact called_reading counted _ _
    | done => exact (after_nothing _).symm
  | guest e =>
    cases a with
    | response r => exact (after_nothing _).symm
    | done => exact (upright.finishes e w).trans (after_nothing _).symm

private theorem apply_reading (counted : c.countsCalls = true) (upright : Upright c g)
    (step : Step ε) :
    reading ((chainDynamics c g).apply step p w).world =
      (reading w).after (decided c g w ⟨p, .running (some step)⟩) := by
  cases step with
  | guest e next branches =>
    exact (upright.applies e next branches p w).trans (after_nothing _).symm
  | response x =>
    exact (congrArg reading settle_world).trans (judgement_reading counted upright)
  | _ =>
    refine (written_reading (plain_written ?_)).trans (after_nothing _).symm
    trivial

/-- A move adds to the counters what it has to be counted as. -/
theorem move_reading (counted : c.countsCalls = true) (upright : Upright c g)
    (moved : m.move? (chainDynamics c g) i move = some m')
    (found : m.fiber? i = some f) (found' : m'.fiber? i = some f') :
    reading m'.world = (reading m.world).after (entries c g m.world move f f') := by
  obtain ⟨f₀, found₀, moved⟩ := move_iff_moved.mp moved
  cases found.symm.trans found₀
  cases moved with
  | start p step =>
    cases found'.symm.trans (replace_fiber found)
    exact started_reading counted
  | finish p =>
    cases found'.symm.trans (took_fiber found)
    exact ended_reading counted true
  | step p step =>
    cases found'.symm.trans (took_fiber found)
    have applied := apply_reading (p := p) (w := m.world) counted upright step
    refine (world_after_reading counted m.fibers.length _).trans ?_
    rw [applied, ← after_append]
    rfl
  | wake p wait next =>
    cases found'.symm.trans (replace_fiber found)
    exact (after_nothing _).symm
  | cancel p call next a stopping =>
    cases found'.symm.trans (took_fiber found)
    -- The call is counted although its answer is not used, and then the end of the fiber.
    have received := receive_reading (w := m.world) counted upright call next a
    refine (ended_reading counted false).trans ?_
    rw [received, ← after_append]
    simp [entries, begun, decided, closed, phaseAfter]
  | answer p call next a goesOn =>
    cases found'.symm.trans (replace_fiber found)
    refine (receive_reading (w := m.world) counted upright call next a).trans ?_
    simp [entries, begun, decided, closed]
  | crash p call next message =>
    cases found'.symm.trans (replace_fiber found)
    have nothing : answered (.waiting call next) (.crash message) = [] := by
      cases call <;> rfl
    simp [entries, begun, nothing, decided, closed, replace]
  | join p children next verdicts known clean =>
    cases found'.symm.trans (replace_fiber found)
    exact (after_nothing _).symm
  | fail p children next verdicts known failed =>
    cases found'.symm.trans (took_fiber found)
    exact ended_reading counted false

/-! ## Stages -/

/-- Whether a fiber has come to a stage. -/
def Stage.isReached (stage : Stage) (f : Fiber (Step ε) Packet (Pending ε)) : Bool :=
  match stage, f.phase with
  | .started, .created _ => false
  | .started, _ => true
  | .ended succeeded, .ended failure => failure.isNone == succeeded
  | .ended _, _ => false

private theorem mover_started (moved : m.move? (chainDynamics c g) i move = some m')
    (found' : m'.fiber? i = some f') : Stage.started.isReached f' = true := by
  obtain ⟨f, found, moved⟩ := move_iff_moved.mp moved
  cases moved with
  | step p step =>
    cases found'.symm.trans (took_fiber found)
    generalize Moves.actionOf (chainDynamics c g) step _ = action
    cases action with
    | forkJoin children join => cases children <;> rfl
    | _ => rfl
  | finish | cancel | fail =>
    cases found'.symm.trans (took_fiber found)
    rfl
  | _ =>
    cases found'.symm.trans (replace_fiber found)
    rfl

/-- A fiber comes to a stage in the move that has to be counted as that, and only then. -/
theorem stage_counted (stage : Stage) (moved : m.move? (chainDynamics c g) i move = some m')
    (found : m.fiber? i = some f) (found' : m'.fiber? i = some f') :
    (stage.isReached f').toNat =
      (stage.isReached f).toNat + (entries c g m.world move f f').count (.fiber stage) := by
  have started := mover_started moved found'
  obtain ⟨f₀, f'', added, found₀, busy, _⟩ := move_shape moved
  cases found.symm.trans found₀
  obtain ⟨p, phase⟩ := f
  obtain ⟨p', phase'⟩ := f'
  have noAnswer : (answered phase move).count (.fiber stage) = 0 := by
    unfold answered
    split <;> rfl
  have noDecision (f : Fiber (Step ε) Packet (Pending ε)) :
      (decided c g m.world f).count (.fiber stage) = 0 := by
    unfold decided ruled
    repeat' split
    all_goals rfl
  simp only [entries, List.count_append, noAnswer, noDecision, Nat.add_zero]
  -- Whoever moves has started by then, and was not done before.
  cases stage with
  | started =>
    have noEnd : (closed phase').count (.fiber .started) = 0 := by cases phase' <;> rfl
    rw [started, noEnd]
    cases phase <;> rfl
  | ended succeeded =>
    have noStart : (begun phase).count (.fiber (.ended succeeded)) = 0 := by cases phase <;> rfl
    have before : (Stage.ended succeeded).isReached ⟨p, phase⟩ = false := by
      cases phase with
      | ended failure => cases busy
      | _ => rfl
    rw [before, noStart]
    cases phase' with
    | ended failure => cases failure <;> cases succeeded <;> rfl
    | _ => rfl

end DomainSteward.Counters
