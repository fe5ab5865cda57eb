import DomainSteward.Proofs.Exchange.Steps

/-! What an exchange has drawn from its retry budget, whatever it has spent on conflicts. A call takes
nothing, a failure that is tried again takes one retry and only while some are left, and a conflict
that is rerouted takes none. -/
namespace DomainSteward.Draws
open Packets Exchanges

variable {ε : Type} {c : Conduct} {x : Exchange ε (Step ε)} {p p' : Packet} {w w' : World}
  {f : CallFailure} {n : UInt32}

/-- A packet holds a budget from which so many retries have been taken. -/
def Holds (c : Conduct) (p : Packet) (w : World) (n : UInt32) : Prop :=
  ∃ b, w.budget? p = some b ∧ b.tuning = c.tuning ∧ b.retries = n

/-- So many retries have been taken, none if there is no budget yet. -/
def Drawn (c : Conduct) (p : Packet) (w : World) (n : UInt32) : Prop :=
  p.budget = none ∧ n = 0 ∨ Holds c p w n

theorem holds_kept (holds : Holds c p w n) (same : w'.budget? p' = w.budget? p) :
    Holds c p' w' n := by
  obtain ⟨b, found, tuned, taken⟩ := holds
  exact ⟨b, same.trans found, tuned, taken⟩

theorem drawn_kept (drawn : Drawn c p w n) (same : w'.budget? p = w.budget? p) :
    Drawn c p w' n :=
  drawn.imp id fun holds => holds_kept holds same

/-- A call makes sure of a budget and takes nothing from it. -/
theorem asked_holds (drawn : Drawn c p w n) :
    Holds c (asked c x p w).1 (asked c x p w).2 n := by
  have put (q : Packet) (w : World) (key : String) (value : PacketValue) :
      w.budget? (q.put key value) = w.budget? q := rfl
  unfold asked
  dsimp only
  refine holds_kept (p := (Exchange.withBudget c p w).1) ?_ (put ..)
  unfold Exchange.withBudget
  rcases drawn with ⟨nothing, rfl⟩ | ⟨b, found, tuned, taken⟩
  · refine ⟨.fresh c.tuning, ?_, rfl, rfl⟩
    simp [nothing, World.budget?, World.newBudget]
  · obtain ⟨id, has, _⟩ := Option.bind_eq_some_iff.mp found
    simp only [has, Option.isSome_some, ↓reduceIte]
    exact ⟨b, found, tuned, taken⟩

theorem modified (found : w.budget? p = some b) (f : RetryBudget → RetryBudget) :
    (w.modifyBudget p f).budget? p = some (f b) := by
  obtain ⟨id, has, held⟩ := Option.bind_eq_some_iff.mp found
  simp [World.budget?, World.modifyBudget, has, held]

/-- What is decided about a failed call. -/
inductive Decides (c : Conduct) (x : Exchange ε (Step ε)) (f : CallFailure) (p : Packet)
    (w : World) (n : UInt32) : Verdict ε → Prop where
  /-- One more retry is taken. -/
  | again (wait : Duration) (other : f.statusCode ≠ some codeConflict)
      (left : n + 1 ≤ c.tuning.maxRetries) (holds : Holds c p w (n + 1)) :
      Decides c x f p w n (.resend (some wait))
  | reroutes (conflict : f.statusCode = some codeConflict) (step : x.conflict.isSome = true)
      (holds : Holds c p w n) : Decides c x f p w n .reroute
  | ends : Decides c x f p w n (.proceed (.terminate f.toFiberError))

/-- A failed call is made again, rerouted, or the last one. -/
theorem retry_decides (holds : Holds c p w n) (paired : x.isPaired p = true) (f : CallFailure) :
    ∃ verdict w', x.retryOrEnd c (.failure f) p w = .of verdict p w' ∧
      Decides c x f p w' n verdict := by
  obtain ⟨b, found, tuned, taken⟩ := holds
  have counted (kind : String) (spent : RetryBudget) :
      (x.count c (·.callRetried kind) (w.modifyBudget p fun _ => spent)).budget? p = some spent :=
    (exchange_count_budget _).trans (modified found _)
  unfold Exchange.retryOrEnd Exchange.retry?
  simp only [found, Option.bind_some, Response.statusCode?]
  by_cases conflict : f.statusCode = some codeConflict ∧ x.conflict.isSome = true
  · by_cases bears : b.conflicts + 1 ≤ b.tuning.maxRetries
    · simp only [RetryBudget.decide, conflict, and_self, ↓reduceIte, bears, Option.getD_some]
      exact ⟨_, _, rfl, .reroutes conflict.1 conflict.2 ⟨_, counted .., tuned, taken⟩⟩
    · simp only [RetryBudget.decide, conflict, and_self, ↓reduceIte, bears, Option.getD_none]
      exact ⟨_, _, rfl, .ends⟩
  · by_cases retryable : isRetryable f.statusCode = true
    · have other := Budgets.retryable_no_conflict retryable
      by_cases left : b.retries + 1 ≤ b.tuning.maxRetries
      · simp only [RetryBudget.decide, conflict, ↓reduceIte, retryable, left, paired,
          Option.getD_some]
        refine ⟨_, _, rfl, .again _ other (tuned ▸ taken ▸ left) ⟨_, counted .., tuned, ?_⟩⟩
        exact congrArg (· + 1) taken
      · simp only [RetryBudget.decide, conflict, ↓reduceIte, retryable, left, Option.getD_none]
        exact ⟨_, _, rfl, .ends⟩
    · simp only [RetryBudget.decide, conflict, ↓reduceIte, retryable, Option.getD_none,
        Bool.false_eq_true]
      exact ⟨_, _, rfl, .ends⟩

/-! ## Whose budget is drawn from -/

theorem decide_tuning (b : RetryBudget) (status : Option UInt16) (hasStep : Bool) :
    (b.decide status hasStep).2.tuning = b.tuning := by
  unfold RetryBudget.decide
  repeat' split
  all_goals rfl

theorem exchange_count_budgets (f : Metrics → Metrics) : (x.count c f w).budgets = w.budgets := by
  unfold Exchange.count
  split
  · exact count_budgets f
  · rfl

theorem give_up_budgets (x : Exchange ε (Step ε)) (r : Option Response) :
    (x.giveUp r w).budgets = w.budgets := by
  unfold Exchange.giveUp
  repeat' split
  all_goals simp

/-- Of all budgets only that of one packet has changed, and not in its tuning. Before a call is made
again at once, its budget has become one as at the start. -/
def Spends (p : Packet) (w w' : World) (verdict : Verdict ε) : Prop :=
  ∃ f : RetryBudget → RetryBudget, w'.budgets = (w.modifyBudget p f).budgets ∧
    (∀ b, w.budget? p = some b → (f b).tuning = b.tuning) ∧
    (verdict = .resend none → f = RetryBudget.reset)

theorem spends_nothing {verdict : Verdict ε} (same : w'.budgets = w.budgets)
    (other : verdict ≠ .resend none) : Spends p w w' verdict := by
  refine ⟨id, same.trans ?_, fun _ _ => rfl, fun again => absurd again other⟩
  rw [Worlds.budgets_modify_budget]
  cases p.budget with
  | none => rfl
  | some b => exact (List.modify_id _ w.budgets).symm

/-- One more failure has been counted. -/
theorem spends_failure {verdict : Verdict ε} {b spent : RetryBudget} (found : w.budget? p = some b)
    (tuning : spent.tuning = b.tuning)
    (same : w'.budgets = (w.modifyBudget p fun _ => spent).budgets)
    (other : verdict ≠ .resend none) : Spends p w w' verdict := by
  refine ⟨_, same, fun held found' => ?_, fun again => absurd again other⟩
  cases found.symm.trans found'
  exact tuning

end DomainSteward.Draws
