import DomainSteward.Chain.Rules
import DomainSteward.Proofs.Call.Budget
import DomainSteward.Proofs.Chain.World
import DomainSteward.Proofs.Fiber.Packet

/-! What the two steps of an exchange do, one statement for each case. An
exchange keeps three values and a budget in the packet and counts calls in the
world; it leaves everything else alone. -/
namespace DomainSteward.Exchanges
open Packets Worlds Budgets

variable {ε : Type} {c : Conduct} {x : Exchange ε (Step ε)} {r : Request} {p p' p'' : Packet}
  {w w' w'' : World} {f : CallFailure} {n : Nat}

/-! ## What an exchange leaves alone -/

/-- The names under which an exchange keeps values of its own. -/
def exchangeKeys : List String := [Packet.continueKey, Packet.requestKey, Packet.responseKey]

/-- Packet and world differ only in what exchanges keep for themselves. -/
structure Aside (p : Packet) (w : World) (p' : Packet) (w' : World) : Prop where
  values : ∀ key, key ∉ exchangeKeys → p'.value? key = p.value? key
  presence : p'.presence = p.presence
  tokens : p'.tokens = p.tokens
  world : w' = { w with budgets := w'.budgets, metrics := w'.metrics }

namespace Aside

theorem refl : Aside p w p w := ⟨fun _ _ => rfl, rfl, rfl, rfl⟩

theorem trans (first : Aside p w p' w') (second : Aside p' w' p'' w'') : Aside p w p'' w'' := by
  refine ⟨?_, second.presence.trans first.presence, second.tokens.trans first.tokens, ?_⟩
  · exact fun key own => (second.values key own).trans (first.values key own)
  · rw [second.world, first.world]

theorem put {key : String} {value : PacketValue} (own : key ∈ exchangeKeys) :
    Aside p w (p.put key value) w := by
  refine ⟨fun other foreign => value_put_other ?_, rfl, rfl, rfl⟩
  rintro rfl
  exact foreign own

theorem remove {key : String} (own : key ∈ exchangeKeys) : Aside p w (p.remove key) w := by
  refine ⟨fun other foreign => value_remove_other ?_, rfl, rfl, rfl⟩
  rintro rfl
  exact foreign own

theorem budget {b : Option BudgetId} : Aside p w { p with budget := b } w :=
  ⟨fun _ _ => rfl, rfl, rfl, rfl⟩

theorem count {f : Metrics → Metrics} : Aside p w p (c.count f w) := by
  unfold Conduct.count
  split
  · exact ⟨fun _ _ => rfl, rfl, rfl, rfl⟩
  · exact refl

theorem modifyBudget {f : RetryBudget → RetryBudget} : Aside p w p (w.modifyBudget p f) := by
  unfold World.modifyBudget
  split
  · exact ⟨fun _ _ => rfl, rfl, rfl, rfl⟩
  · exact refl

theorem exchangeCount {f : Metrics → Metrics} : Aside p w p (x.count c f w) := by
  unfold Exchange.count
  split
  · exact count
  · exact refl

theorem feed (aside : Aside p w p' w') : w'.feed = w.feed := by rw [aside.world]

theorem known (aside : Aside p w p' w') (id : PresenceId) : w'.presence? id = w.presence? id := by
  rw [World.presence?, World.registry, aside.feed, World.presence?, World.registry]

theorem stopping (aside : Aside p w p' w') : w'.isStopping = w.isStopping := by
  rw [aside.world]
  rfl

theorem notes (aside : Aside p w p' w') : w'.notes = w.notes := by rw [aside.world]

end Aside

/-! ## Budgets -/

/-- The budget of an exchange that has been retried so many times. -/
def spentBudget (c : Conduct) (n : Nat) : RetryBudget :=
  { tuning := c.tuning, retries := .ofNat n }

/-- The packet of an exchange under way holds a budget spent so far. -/
def Holds (c : Conduct) (p : Packet) (w : World) (n : Nat) : Prop :=
  w.budget? p = some (spentBudget c n)

/-- The packet has a budget spent so far, or will get a new one. -/
def Spent (c : Conduct) (p : Packet) (w : World) (n : Nat) : Prop :=
  match p.budget with
  | none => n = 0
  | some id => w.budgets[id]? = some (spentBudget c n)

theorem holds_spent (holds : Holds c p w n) : Spent c p w n := by
  obtain ⟨id, has, budget⟩ := Option.bind_eq_some_iff.mp holds
  simpa [Spent, has] using budget

theorem with_budget_aside : Aside p w (Exchange.withBudget c p w).1 (Exchange.withBudget c p w).2 := by
  unfold Exchange.withBudget
  split
  · exact .refl
  · exact ⟨fun _ _ => rfl, rfl, rfl, rfl⟩

theorem with_budget_values (key : String) :
    (Exchange.withBudget c p w).1.value? key = p.value? key := by
  unfold Exchange.withBudget
  split <;> rfl

theorem with_budget_holds (spent : Spent c p w n) :
    Holds c (Exchange.withBudget c p w).1 (Exchange.withBudget c p w).2 n := by
  unfold Spent at spent
  cases has : p.budget with
  | none =>
    rw [has] at spent
    simp only at spent
    subst spent
    simp [Holds, Exchange.withBudget, has, World.budget?, World.newBudget, RetryBudget.fresh,
      spentBudget]
  | some id =>
    rw [has] at spent
    simpa [Holds, Exchange.withBudget, has, World.budget?] using spent

theorem modify_budget_holds {budget : RetryBudget} (holds : Holds c p w n)
    (f : RetryBudget → RetryBudget) (next : f (spentBudget c n) = budget) :
    (w.modifyBudget p f).budget? p = some budget := by
  obtain ⟨id, has, found⟩ := Option.bind_eq_some_iff.mp holds
  simp [World.budget?, World.modifyBudget, has, found, next]

theorem holds_kept (holds : Holds c p w n) (budget : p'.budget = p.budget)
    (budgets : w'.budgets = w.budgets) : Holds c p' w' n := by
  unfold Holds World.budget? at *
  rw [budget, budgets]
  exact holds

theorem count_budgets (f : Metrics → Metrics) : (c.count f w).budgets = w.budgets := by
  unfold Conduct.count
  split <;> rfl

theorem exchange_count_budget (f : Metrics → Metrics) :
    (x.count c f w).budget? p = w.budget? p := by
  unfold Exchange.count Conduct.count
  repeat' split
  all_goals rfl

/-- A budget decides on one more failure that is worth repeating. -/
theorem decide_retryable {status : Option UInt16} (retryable : isRetryable status = true)
    (within : n + 1 < UInt32.size) (conflictStep : Bool) :
    (spentBudget c n).decide status conflictStep =
      (if n + 1 ≤ c.tuning.maxRetries.toNat
        then .retry (c.tuning.backoff (.ofNat (n + 1))) else .giveUp, spentBudget c (n + 1)) := by
  have passing : kindOf status conflictStep = .passing := if_pos (retryable_iff.mp retryable)
  have next : UInt32.ofNat n + 1 = UInt32.ofNat (n + 1) := (UInt32.ofNat_add n 1).symm
  rw [decide_spends, passing]
  simp only [spend, spentBudget, next, UInt32.ofNat_le_iff within]

/-! ## Asking -/

/-- The packet and the world once a request step has made its call. -/
def asked (c : Conduct) (x : Exchange ε (Step ε)) (p : Packet) (w : World) : Packet × World :=
  ((Exchange.withBudget c p w).1.put Packet.requestKey (.exchange x.id),
    (Exchange.withBudget c p w).2)

/-- An exchange once its request step has made a call. -/
def sent (r : Request) (x : Exchange ε (Step ε)) : Exchange ε (Step ε) :=
  { x with request := some r }

theorem send_asks (c : Conduct) (r : Request) (x : Exchange ε (Step ε)) (p : Packet) (w : World) :
    x.send c r p w =
      .of (.suspend (.call (r.continuedAt p.continueToken?))
        (some (.response (sent r x)))) (asked c x p w).1 (asked c x p w).2 := by
  have other : Packet.continueKey ≠ Packet.requestKey := by decide
  have token : (asked c x p w).1.continueToken? = p.continueToken? := by
    rw [Packet.continueToken?, Packet.text?, asked, value_put_other other, with_budget_values]
    rfl
  rw [← token]
  rfl

theorem asked_aside : Aside p w (asked c x p w).1 (asked c x p w).2 :=
  with_budget_aside.trans (.put (by decide))

theorem asked_holds (spent : Spent c p w n) : Holds c (asked c x p w).1 (asked c x p w).2 n :=
  with_budget_holds spent

theorem asked_exchange : (asked c x p w).1.exchange? = some x.id := by
  rw [Packet.exchange?, asked, value_put_same]
  rfl

/-- The packet of an exchange when its response step finds an answer. -/
def answered (c : Conduct) (x : Exchange ε (Step ε)) (p : Packet) (w : World)
    (response : Response) : Packet :=
  (asked c x p w).1.put Packet.responseKey (.response response)

variable {response : Response}

theorem answered_response : (answered c x p w response).response? = some response := by
  rw [Packet.response?, answered, value_put_same]
  rfl

private theorem answered_value {key : String} (other : key ≠ Packet.responseKey) :
    ((answered c x p w response).remove Packet.responseKey).value? key =
      (asked c x p w).1.value? key := by
  rw [value_remove_other other, answered, value_put_other other]

theorem answered_exchange :
    ((answered c x p w response).remove Packet.responseKey).exchange? = some x.id := by
  have other : Packet.requestKey ≠ Packet.responseKey := by decide
  rw [Packet.exchange?, answered_value other]
  exact asked_exchange

theorem answered_token :
    ((answered c x p w response).remove Packet.responseKey).continueToken? =
      p.continueToken? := by
  have other : Packet.continueKey ≠ Packet.responseKey := by decide
  have other' : Packet.continueKey ≠ Packet.requestKey := by decide
  rw [Packet.continueToken?, Packet.text?, answered_value other, asked, value_put_other other',
    with_budget_values]
  rfl

theorem answered_aside :
    Aside p w ((answered c x p w response).remove Packet.responseKey) (asked c x p w).2 :=
  asked_aside.trans ((Aside.put (by decide)).trans (.remove (by decide)))

theorem answered_holds (spent : Spent c p w n) (budgets : w'.budgets = (asked c x p w).2.budgets) :
    Holds c ((answered c x p w response).remove Packet.responseKey) w' n :=
  holds_kept (asked_holds spent) rfl budgets

/-! ## Judging -/

/-- A failure worth repeating is answered with the same request again after a
wait, as long as the budget lasts. -/
theorem retry_again (retryable : isRetryable f.statusCode = true) (holds : Holds c p w n)
    (paired : x.isPaired p = true) (left : n < c.tuning.maxRetries.toNat) :
    ∃ w', x.retryOrEnd c (.failure f) p w =
        .of (.resend (some (c.tuning.backoff (.ofNat (n + 1))))) p w' ∧
      Aside p w p w' ∧ Holds c p w' (n + 1) := by
  have within : n + 1 < UInt32.size :=
    Nat.lt_of_le_of_lt left (UInt32.toNat_lt_size c.tuning.maxRetries)
  refine ⟨x.count c (·.callRetried "retry") (w.modifyBudget p fun _ => spentBudget c (n + 1)),
    ?_, ?_, ?_⟩
  · have again : n + 1 ≤ c.tuning.maxRetries.toNat := left
    unfold Holds at holds
    simp [Exchange.retryOrEnd, Exchange.retry?, holds, Response.statusCode?,
      decide_retryable retryable within, again, paired]
  · exact Aside.modifyBudget.trans .exchangeCount
  · exact (exchange_count_budget _).trans (modify_budget_holds holds _ rfl)

/-- Once the budget is spent, a failure worth repeating is told to the sink and
ends the fiber. -/
theorem retry_spent (retryable : isRetryable f.statusCode = true) (holds : Holds c p w n)
    (spent : n = c.tuning.maxRetries.toNat) (within : n + 1 < UInt32.size) :
    ∃ w', x.retryOrEnd c (.failure f) p w =
        .of (.proceed (.terminate f.toFiberError)) p (x.giveUp (some (.failure f)) w') ∧
      Aside p w p w' := by
  refine ⟨w.modifyBudget p fun _ => spentBudget c (n + 1), ?_, .modifyBudget⟩
  have beyond : ¬ n + 1 ≤ c.tuning.maxRetries.toNat := by omega
  unfold Holds at holds
  simp [Exchange.retryOrEnd, Exchange.retry?, holds, Response.statusCode?,
    decide_retryable retryable within, beyond, Exchange.endWith, Response.failure?]

/-- A failure that is not worth repeating ends the fiber without a conflict
step, whatever is left of the budget. -/
theorem retry_refused (refused : isRetryable f.statusCode = false) (holds : Holds c p w n)
    (plain : x.conflict = none) :
    ∃ w', x.retryOrEnd c (.failure f) p w =
        .of (.proceed (.terminate f.toFiberError)) p (x.giveUp (some (.failure f)) w') ∧
      Aside p w p w' := by
  refine ⟨w.modifyBudget p fun _ => spentBudget c n, ?_, .modifyBudget⟩
  unfold Holds at holds
  simp [Exchange.retryOrEnd, Exchange.retry?, holds, Response.statusCode?, plain,
    RetryBudget.decide, refused, Exchange.endWith, Response.failure?]

/-- Whatever the failure, a call without a conflict step is made again after a
wait, or the fiber ends, and no more than the sink is told. -/
theorem retry_outcome (c : Conduct) (p : Packet) (w : World) (plain : x.conflict = none)
    (f : CallFailure) :
    ∃ verdict w₁ w', x.retryOrEnd c (.failure f) p w = .of verdict p w' ∧ Aside p w p w₁ ∧
      (w' = w₁ ∨ w' = x.giveUp (some (.failure f)) w₁) ∧
      ((∃ wait, verdict = .resend (some wait)) ∨ ∃ e, verdict = .proceed (.terminate e)) := by
  unfold Exchange.retryOrEnd Exchange.retry?
  cases w.budget? p with
  | none => exact ⟨_, w, _, rfl, .refl, .inr rfl, .inr ⟨_, rfl⟩⟩
  | some budget =>
    have noConflict : (budget.decide f.statusCode false).1 ≠ .conflict :=
      fun decided => nomatch conflict_needs_step decided
    simp only [plain, Option.isSome_none, Option.bind_some, Response.statusCode?]
    generalize budget.decide f.statusCode false = decided at noConflict
    obtain ⟨decision, budget⟩ := decided
    cases decision with
    | retry wait =>
      by_cases paired : x.isPaired p = true
      · simp only [paired, ↓reduceIte, Option.getD_some]
        exact ⟨_, _, _, rfl, Aside.modifyBudget.trans .exchangeCount, .inl rfl, .inl ⟨wait, rfl⟩⟩
      · simp only [paired, Bool.false_eq_true, ↓reduceIte, Option.getD_none]
        exact ⟨_, _, _, rfl, .modifyBudget, .inl rfl, .inr ⟨_, rfl⟩⟩
    | conflict => exact absurd rfl noConflict
    | giveUp => exact ⟨_, _, _, rfl, .modifyBudget, .inr rfl, .inr ⟨_, rfl⟩⟩

/-- A page with a token is followed by the same request, with a budget as at
the start. -/
theorem next_page {page : ObjectPage} {token : String}
    (more : (Response.list page).continueToken? = some token) (holds : Holds c p w n)
    (paired : x.isPaired p = true) (andThen : Option (Step ε)) :
    ∃ w', x.nextPageOr (.list page) andThen p w =
        .of (.resend none) (p.put Packet.continueKey (.text token)) w' ∧
      Aside p w p w' ∧ Holds c (p.put Packet.continueKey (.text token)) w' 0 := by
  have still : x.isPaired (p.put Packet.continueKey (.text token)) = true := by
    have other : Packet.requestKey ≠ Packet.continueKey := by decide
    rw [Exchange.isPaired, Packet.exchange?, value_put_other other]
    exact paired
  refine ⟨w.modifyBudget p (·.reset), ?_, .modifyBudget, modify_budget_holds holds _ rfl⟩
  simp only [Exchange.nextPageOr, more, Exchange.startOver, still, ↓reduceIte]
  rfl

/-- The last page is followed by whatever comes after the list. -/
theorem last_page {page : ObjectPage} (last : (Response.list page).continueToken? = none)
    (andThen : Option (Step ε)) :
    x.nextPageOr (.list page) andThen p w = .of (.proceed (.goOn andThen)) p w := by
  simp only [Exchange.nextPageOr, last]

/-- The response step takes the response out of the packet and does as its
handler decides. -/
theorem settle_does {judge : Response → Packet → World → Judged ε} {response : Response}
    {verdict : Verdict ε} (waits : p.response? = some response)
    (judged : judge response (p.remove Packet.responseKey) w = .of verdict p' w') :
    x.settle c judge p w = .of (x.actionOf verdict) (Exchange.tidy verdict p') w' := by
  simp [Exchange.settle, waits, judged, Judged.of]

/-! ## What is left behind -/

/-- Once the request in flight and the token are forgotten, an exchange has no
value left. -/
theorem values_forgotten (gone : p.value? Packet.responseKey = none) {key : String}
    (own : key ∈ exchangeKeys) :
    ((p.remove Packet.requestKey).remove Packet.continueKey).value? key = none := by
  rw [value_remove, value_remove]
  simp only [exchangeKeys, List.mem_cons, List.not_mem_nil, or_false] at own
  rcases own with rfl | rfl | rfl
  · rfl
  · rw [if_pos rfl]
    exact ite_self _
  · rw [gone]
    decide

/-- What an exchange leaves behind when it is over. -/
theorem tidied_aside (action : StepAction ε) :
    Aside p w (Exchange.tidy (.proceed action) p) w := by
  have request : Aside p w (p.remove Packet.requestKey) w := .remove (by decide)
  have token : Aside (p.remove Packet.requestKey) w
      ((p.remove Packet.requestKey).remove Packet.continueKey) w := .remove (by decide)
  exact request.trans (token.trans .budget)

/-! ## Telling -/

/-- Whether a note tells of a failure that was given up on. -/
def isTelling : Note → Bool
  | .condition .. => true
  | .event (.failed ..) => true
  | _ => false

/-- All that has been told of failures, latest first. -/
def tellings (w : World) : List Note := (w.notes.map (·.2)).filter isTelling

/-- What a sink is told of a failure. -/
def tellingOf (sink : FailureSink) (f : CallFailure) : Note :=
  match sink with
  | .recorder own => .condition own kubernetesFailureReason f.message
  | .domain _ => .event (.failed kubernetesFailureReason f.message)

/-- The world once a failure is told, if there is anybody to be told. -/
def toldOf (sink : Option FailureSink) (f : CallFailure) (w : World) : World :=
  match sink with
  | some sink => w.tell sink kubernetesFailureReason f.message
  | none => w

/-- Who is told of a failure that is given up on; nobody is told of a race. -/
def heard (sink : Option FailureSink) (f : CallFailure) : Option FailureSink :=
  if f.isBenign then none else sink

theorem give_up_tells : x.giveUp (some (.failure f)) w = toldOf (heard x.sink f) f w := by
  cases told : x.sink with
  | none => simp [Exchange.giveUp, told, heard, toldOf]
  | some sink =>
    by_cases race : f.isBenign = true
    · simp [Exchange.giveUp, told, heard, race, toldOf, Response.failure?]
    · simp [Exchange.giveUp, told, heard, race, toldOf, Response.failure?]

/-- No failure worth repeating is a race. -/
theorem retryable_heard (retryable : isRetryable f.statusCode = true) (sink : Option FailureSink) :
    heard sink f = sink := by
  have notBenign : f.isBenign = false := by
    have noConflict := retryable_no_conflict retryable
    have here : f.statusCode ≠ some codeNotFound := by
      intro gone
      rw [gone] at retryable
      revert retryable
      decide
    simp [CallFailure.isBenign, noConflict, here]
  rw [heard, notBenign]
  rfl

/-- A failure after so many retries that is not tried again: one that is not
worth repeating, or one more than the budget allows. -/
inductive Final (c : Conduct) (x : Exchange ε (Step ε)) (n : Nat) (f : CallFailure) : Prop where
  | refused (refused : isRetryable f.statusCode = false) (plain : x.conflict = none)
  | spent (retryable : isRetryable f.statusCode = true) (spent : n = c.tuning.maxRetries.toNat)
      (within : n + 1 < UInt32.size)

/-- A final failure is told and ends the fiber. -/
theorem retry_final (final : Final c x n f) (holds : Holds c p w n) :
    ∃ w', x.retryOrEnd c (.failure f) p w =
        .of (.proceed (.terminate f.toFiberError)) p (toldOf (heard x.sink f) f w') ∧
      Aside p w p w' := by
  simp only [← give_up_tells]
  cases final with
  | refused refused plain => exact retry_refused refused holds plain
  | spent retryable spent within => exact retry_spent retryable holds spent within

/-- What is told is told once. -/
theorem tellings_told (sink : Option FailureSink) (f : CallFailure) (w : World) :
    tellings (toldOf sink f w) = (sink.map (tellingOf · f)).toList ++ tellings w := by
  cases sink with
  | none => rfl
  | some sink => cases sink <;> rfl

end DomainSteward.Exchanges
