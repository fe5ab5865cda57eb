import DomainSteward.Proofs.Chain.Face
import DomainSteward.Proofs.Exchange.Draws

/-! What a response step makes of its answer, for every handler of the
operator's own. A success goes on, perhaps with another page, and may bring a
domain; a failure is overcome, tried again, rerouted, or given up and told. -/
namespace DomainSteward.Verdicts
open Faces Exchanges Packets Draws Worlds

variable {ε : Type}

/-- The domain that an answer brings, if its handler holds domains. -/
def brought? (x : Exchange ε (Step ε)) (r : Response) : Option Domain :=
  match x.handler with
  | .statusPatched | .domainReread => r.object?.bind Domain.ofObject?
  | _ => none

theorem failure_brings_nothing (x : Exchange ε (Step ε)) (f : CallFailure) :
    brought? x (.failure f) = none := by
  unfold brought?
  split <;> rfl

/-- What is decided about an answer, and what is shown of a domain before and after. -/
inductive Settles (id : PresenceId) (x : Exchange ε (Step ε)) (r : Response)
    (works : Option PresenceId) (before : Option Face) : Option Face → Verdict ε → Prop where
  | goesOn (nothing : brought? x r = none) :
      Settles id x r works before before (.proceed (.goOn x.next))
  /-- The domain that was brought is held. -/
  | holds (domain : Domain) (brings : brought? x r = some domain) :
      Settles id x r works before
        (before.map (fun face =>
          if works = some id then { face with domain := some domain } else face))
        (.proceed (.goOn x.next))
  /-- The next page is asked for. -/
  | turns (nothing : brought? x r = none) : Settles id x r works before before (.resend none)
  /-- The call is made again after a wait. -/
  | again (f : CallFailure) (failed : r = .failure f) (wait : Duration) :
      Settles id x r works before before (.resend (some wait))
  | reroutes (f : CallFailure) (failed : r = .failure f) (conflict : x.conflict.isSome = true) :
      Settles id x r works before before .reroute
  /-- The call is given up, and the failure is told. -/
  | givesUp (f : CallFailure) (failed : r = .failure f) :
      Settles id x r works before (before.map (Face.told id x.sink f))
        (.proceed (.terminate f.toFiberError))
  /-- The answer is of no use. -/
  | breaks (e : FiberError) (success : r.isFailure = false) (nothing : brought? x r = none) :
      Settles id x r works before before (.proceed (.terminate e))

variable {c : Conduct} {g : GuestRules ε} {id : PresenceId} {w : World} {p : Packet}
  {x : Exchange ε (Step ε)} {r : Response} {q : Request} {f : CallFailure}

/-- An answer is settled, nothing is kept in the packet but perhaps the token of a page, and no
budget is drawn from but that of the packet. -/
private def IsSettled (id : PresenceId) (x : Exchange ε (Step ε)) (r : Response) (p : Packet)
    (w : World) (judged : Judged ε) : Prop :=
  ∃ verdict p' w', judged = .of verdict p' w' ∧
    Settles id x r p.presence (face? id w) (face? id w') verdict ∧
    (p' = p ∨ ∃ token, p' = p.put Packet.continueKey (.text token)) ∧ Spends p w w' verdict

/-- A failed call is tried again, rerouted, or given up. -/
private theorem retry_settles (id : PresenceId) (paired : x.isPaired p = true) :
    ∃ verdict w', x.retryOrEnd c (.failure f) p w = .of verdict p w' ∧
      Settles id x (.failure f) p.presence (face? id w) (face? id w') verdict ∧
      Spends p w w' verdict := by
  unfold Exchange.retryOrEnd Exchange.retry?
  cases found : w.budget? p with
  | none =>
    refine ⟨_, _, rfl, ?_, spends_nothing (give_up_budgets x _) nofun⟩
    rw [face_give_up]
    exact .givesUp f rfl
  | some budget =>
    have needs : (budget.decide f.statusCode x.conflict.isSome).1 = .conflict →
        x.conflict.isSome = true := Budgets.conflict_needs_step
    have tuning := decide_tuning budget f.statusCode x.conflict.isSome
    simp only [Option.bind_some, Response.statusCode?]
    generalize budget.decide f.statusCode x.conflict.isSome = decided at needs tuning
    obtain ⟨decision, spent⟩ := decided
    have counted (kind : String) : face? id (x.count c (·.callRetried kind)
        (w.modifyBudget p fun _ => spent)) = face? id w :=
      face_aside (Aside.modifyBudget.trans .exchangeCount : Aside p w p _)
    cases decision with
    | retry wait =>
      simp only [paired, ↓reduceIte, Option.getD_some]
      refine ⟨_, _, rfl, ?_, spends_failure found tuning (exchange_count_budgets _) (by simp)⟩
      rw [counted]
      exact .again f rfl wait
    | conflict =>
      refine ⟨_, _, rfl, ?_, spends_failure found tuning (exchange_count_budgets _) (by simp)⟩
      rw [counted]
      exact .reroutes f rfl (needs rfl)
    | giveUp =>
      refine ⟨_, _, rfl, ?_, spends_failure found tuning (give_up_budgets x _) (by simp [Exchange.endWith])⟩
      rw [face_give_up, face_modify_budget]
      exact .givesUp f rfl

/-- A page is followed by the next one or by what comes after the list. -/
private theorem page_settles (paired : x.isPaired p = true) (nothing : brought? x r = none)
    {w' : World} (same : face? id w' = face? id w) (kept : w'.budgets = w.budgets) :
    IsSettled id x r p w (x.nextPageOr r x.next p w') := by
  unfold Exchange.nextPageOr
  cases r.continueToken? with
  | none => exact ⟨_, p, w', rfl, same ▸ .goesOn nothing, .inl rfl, spends_nothing kept nofun⟩
  | some token =>
    have still : x.isPaired (p.put Packet.continueKey (.text token)) = true := by
      have other : Packet.requestKey ≠ Packet.continueKey := by decide
      rw [Exchange.isPaired, Packet.exchange?, value_put_other other]
      exact paired
    simp only [Exchange.startOver, still, ↓reduceIte]
    refine ⟨_, _, _, rfl, ?_, .inr ⟨token, rfl⟩, RetryBudget.reset, ?_, fun _ _ => rfl, fun _ => rfl⟩
    · rw [face_modify_budget, same]
      exact .turns nothing
    · rw [budgets_modify_budget, budgets_modify_budget, kept]
      rfl

private theorem domain_held {domain : Domain} :
    face? id (w.modifyPresenceOf p (·.setDomain domain)) = (face? id w).map (fun face =>
      if p.presence = some id then { face with domain := some domain } else face) :=
  face_modify_of fun _ _ => rfl

private theorem pods_unseen (pods : List (String × Pod)) :
    face? id (pods.foldl (fun w (server, pod) => w.modifyPresenceOf p (·.setPod server pod)) w) =
      face? id w := by
  induction pods generalizing w with
  | nil => rfl
  | cons first rest ih => exact ih.trans (face_modify_of_kept fun _ _ => rfl)

private theorem pods_free (pods : List (String × Pod)) :
    (pods.foldl (fun w (server, pod) => w.modifyPresenceOf p (·.setPod server pod)) w).budgets =
      w.budgets := by
  induction pods generalizing w with
  | nil => rfl
  | cons first rest ih => exact ih.trans (budgets_modify_presence_of _)

/-- Every handler of the operator's own settles a failure. -/
private theorem failure_settles (id : PresenceId) (own : ∀ e, x.handler ≠ .guest e)
    (paired : x.isPaired p = true) (f : CallFailure) :
    IsSettled id x (.failure f) p w (Step.judge c g x (.failure f) p w) := by
  have nothing := failure_brings_nothing x f
  obtain ⟨verdict, w', retried, settles, spends⟩ :=
    retry_settles (c := c) (w := w) (f := f) id paired
  have failed : (Response.failure f).isFailure = true := rfl
  cases handler : x.handler with
  | guest e => exact absurd handler (own e)
  | podsListed | statusPatched | domainReread =>
    refine ⟨verdict, p, w', ?_, settles, .inl rfl, spends⟩
    simp only [Step.judge, handler, failed, ↓reduceIte, retried]
  | podCreated server =>
    have judges : Step.judge c g x (.failure f) p w =
        if f.statusCode = some codeConflict then .of x.goOn p w
        else x.retryOrEnd c (.failure f) p w := by
      simp only [Step.judge, handler, failed, ↓reduceIte]
      rfl
    rw [judges]
    split
    · exact ⟨_, p, w, rfl, .goesOn nothing, .inl rfl, spends_nothing rfl nofun⟩
    · exact ⟨verdict, p, w', retried, settles, .inl rfl, spends⟩
  | podDeleted server =>
    have judges : Step.judge c g x (.failure f) p w =
        if f.statusCode = some codeNotFound then
          .of x.goOn p (w.modifyPresenceOf p (·.removePod server))
        else if (x.retryOrEnd c (.failure f) p w).isFailure then
          { x.retryOrEnd c (.failure f) p w with
            world := (x.retryOrEnd c (.failure f) p w).world.modifyPresenceOf p
              (·.unmark server) }
        else x.retryOrEnd c (.failure f) p w := by
      simp only [Step.judge, handler, failed, ↓reduceIte]
      rfl
    rw [judges, retried]
    split
    · refine ⟨_, p, _, rfl, ?_, .inl rfl,
        spends_nothing (budgets_modify_presence_of _) nofun⟩
      have same : face? id (w.modifyPresenceOf p (·.removePod server)) = face? id w :=
        face_modify_of_kept fun _ _ => rfl
      rw [same]
      exact .goesOn nothing
    · split
      · obtain ⟨f, same, rest⟩ := spends
        refine ⟨verdict, p, w'.modifyPresenceOf p (·.unmark server), rfl, ?_, .inl rfl,
          f, (budgets_modify_presence_of _).trans same, rest⟩
        have same : face? id (w'.modifyPresenceOf p (·.unmark server)) = face? id w' :=
          face_modify_of_kept fun _ _ => rfl
        rw [same]
        exact settles
      · exact ⟨verdict, p, w', rfl, settles, .inl rfl, spends⟩

/-- Every handler of the operator's own settles a success. -/
private theorem success_settles (id : PresenceId) (own : ∀ e, x.handler ≠ .guest e)
    (paired : x.isPaired p = true) (success : r.isFailure = false) :
    IsSettled id x r p w (Step.judge c g x r p w) := by
  cases handler : x.handler with
  | guest e => exact absurd handler (own e)
  | podsListed =>
    have nothing : brought? x r = none := by simp only [brought?, handler]
    have judges : Step.judge c g x r p w = podsListed x r p w := by
      simp only [Step.judge, handler, success, Bool.false_eq_true, ↓reduceIte]
    rw [judges, podsListed]
    cases w.presenceOf? p with
    | none =>
      exact ⟨_, p, w, rfl, .breaks _ success nothing, .inl rfl, spends_nothing rfl nofun⟩
    | some now => exact page_settles paired nothing (pods_unseen _) (pods_free _)
  | podDeleted server =>
    have nothing : brought? x r = none := by simp only [brought?, handler]
    refine ⟨_, p, w, ?_, .goesOn nothing, .inl rfl, spends_nothing rfl nofun⟩
    simp only [Step.judge, handler, success, Bool.false_eq_true, ↓reduceIte]
    rfl
  | podCreated server =>
    have nothing : brought? x r = none := by simp only [brought?, handler]
    have judges : Step.judge c g x r p w = podCreated server x r p w := by
      simp only [Step.judge, handler, success, Bool.false_eq_true, ↓reduceIte]
    refine ⟨_, p, _, judges, ?_, .inl rfl, spends_nothing ?budgets nofun⟩
    case budgets =>
      split
      · exact budgets_modify_presence_of _
      · rfl
    have same : face? id (podCreated server x r p w).world = face? id w := by
      unfold podCreated
      split
      · refine face_modify_of_kept fun events now => ?_
        split <;> rfl
      · rfl
    exact same ▸ .goesOn nothing
  | statusPatched =>
    have judges : Step.judge c g x r p w = statusPatched x r p w := by
      simp only [Step.judge, handler, success, Bool.false_eq_true, ↓reduceIte]
    have brings : brought? x r = r.object?.bind Domain.ofObject? := by
      simp only [brought?, handler]
    refine ⟨_, p, _, judges, ?_, .inl rfl, spends_nothing ?budgets nofun⟩
    case budgets =>
      split
      · exact budgets_modify_presence_of _
      · rfl
    cases answer : r.object?.bind Domain.ofObject? with
    | none => exact .goesOn (brings.trans answer)
    | some domain =>
      exact domain_held ▸ .holds domain (brings.trans answer)
  | domainReread =>
    have judges : Step.judge c g x r p w = domainReread x r p w := by
      simp only [Step.judge, handler, success, Bool.false_eq_true, ↓reduceIte]
    have brings : brought? x r = r.object?.bind Domain.ofObject? := by
      simp only [brought?, handler]
    rw [judges, domainReread]
    cases answer : r.object?.bind Domain.ofObject? with
    | none =>
      exact ⟨_, p, w, rfl, .breaks _ success (brings.trans answer), .inl rfl, spends_nothing rfl nofun⟩
    | some domain =>
      exact ⟨_, p, _, rfl, domain_held ▸ .holds domain (brings.trans answer), .inl rfl,
        spends_nothing (budgets_modify_presence_of _) nofun⟩

private theorem judge_settles (id : PresenceId) (own : ∀ e, x.handler ≠ .guest e)
    (paired : x.isPaired p = true) (r : Response) :
    IsSettled id x r p w (Step.judge c g x r p w) := by
  cases r with
  | failure f => exact failure_settles id own paired f
  | object | list | status => exact success_settles id own paired rfl

/-- What a verdict leaves in the packet has no answer in it, and otherwise differs only in what
exchanges keep for themselves. -/
private theorem tidy_clears (verdict : Verdict ε) {p' : Packet}
    (clear : p'.response? = none) (aside : Aside p w p' w) :
    (Exchange.tidy verdict p').response? = none ∧ Aside p w (Exchange.tidy verdict p') w := by
  have request : Packet.responseKey ≠ Packet.requestKey := by decide
  have token : Packet.responseKey ≠ Packet.continueKey := by decide
  have cleared : ((p'.remove Packet.requestKey).remove Packet.continueKey).response? = none := by
    rw [Packet.response?, value_remove_other token, value_remove_other request]
    exact clear
  have forgot : Aside p w ((p'.remove Packet.requestKey).remove Packet.continueKey) w :=
    aside.trans ((Aside.remove (by decide)).trans (.remove (by decide)))
  cases verdict with
  | resend => exact ⟨clear, aside⟩
  | reroute => exact ⟨cleared, forgot⟩
  | proceed => exact ⟨cleared, forgot.trans .budget⟩

/-- The response step of an exchange that was sent takes the answer it was told out of the packet
and settles it. -/
theorem response_settles (id : PresenceId) (own : ∀ e, x.handler ≠ .guest e)
    (told : p.response? = some r) (paired : p.exchange? = some x.id) :
    ∃ verdict p' w', (chainDynamics c g).apply (.response (sent q x)) p w =
        .of ((sent q x).actionOf verdict) (Exchange.tidy verdict p') w' ∧
      Settles id (sent q x) r p.presence (face? id w) (face? id w') verdict ∧
      (p' = p.remove Packet.responseKey ∨
        ∃ token, p' = (p.remove Packet.responseKey).put Packet.continueKey (.text token)) ∧
      Spends (p.remove Packet.responseKey) w w' verdict := by
  have apart : Packet.requestKey ≠ Packet.responseKey := by decide
  have still : (sent q x).isPaired (p.remove Packet.responseKey) = true := by
    rw [Exchange.isPaired, Packet.exchange?, value_remove_other apart]
    exact decide_eq_true paired
  obtain ⟨verdict, p', w', judged, settles, kept, spends⟩ :=
    judge_settles (c := c) (g := g) (w := w) (x := sent q x) id own still r
  exact ⟨verdict, p', w', settle_does told judged, settles, kept, spends⟩

/-- After an answer has been settled, no answer waits. -/
theorem response_does (id : PresenceId) (own : ∀ e, x.handler ≠ .guest e)
    (told : p.response? = some r) (paired : p.exchange? = some x.id) :
    ∃ verdict p' w', (chainDynamics c g).apply (.response (sent q x)) p w =
        .of ((sent q x).actionOf verdict) p' w' ∧
      Settles id (sent q x) r p.presence (face? id w) (face? id w') verdict ∧
      p'.response? = none ∧ Aside p w p' w := by
  have token : Packet.responseKey ≠ Packet.continueKey := by decide
  have gone : (p.remove Packet.responseKey).response? = none := by
    rw [Packet.response?, value_remove_same]
    rfl
  obtain ⟨verdict, p', w', applies, settles, kept, _⟩ :=
    response_settles (c := c) (g := g) (q := q) (w := w) id own told paired
  refine ⟨verdict, _, w', applies, settles, tidy_clears verdict ?_ ?_⟩
  · rcases kept with rfl | ⟨token', rfl⟩
    · exact gone
    · rw [Packet.response?, value_put_other token]
      exact gone
  · have removed : Aside p w (p.remove Packet.responseKey) w := .remove (by decide)
    rcases kept with rfl | ⟨token', rfl⟩
    · exact removed
    · exact removed.trans (.put (by decide))

end DomainSteward.Verdicts
