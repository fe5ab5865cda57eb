import DomainSteward.Proofs.Site.Path

/-! What a reconcile does besides its roll: before, it lists the pods and looks
for work; after, it writes the status. None of this deletes a pod or makes one
or forks anybody. -/
namespace DomainSteward.Errands
open Machine Moves RollSteps Exchanges Packets Views Calm Paths

variable {ε : Type} {c : Conduct} {g : GuestRules ε} {id : PresenceId} {w : World} {p : Packet}
  {v : View} {q : Request} {x z : Exchange ε (Step ε)} {step : Step ε} {next : Option (Step ε)}
  {m m' : ChainMachine ε} {i : FiberId} {move : Move Answer}
  {f : Fiber (Step ε) Packet (Pending ε)} {Honest : Response → Prop}

/-- Whether an operation makes an object or deletes one. -/
def makesOrDeletes : Operation → Bool
  | .create _ | .delete .. => true
  | _ => false

/-- A call that neither deletes nor makes anything. -/
def Harmless (q : Request) : Prop := makesOrDeletes q.operation = false

theorem harmless_continued (harmless : Harmless q) (token : Option String) :
    Harmless (q.continuedAt token) := by
  unfold Request.continuedAt
  split
  · rfl
  · exact harmless

/-! ## Listing -/

/-- Where a fiber stands that lists pods page by page; whatever it was answered
was honest. -/
inductive Lists (q : Request) (x : Exchange ε (Step ε)) (Honest : Response → Prop) :
    Fiber (Step ε) Packet (Pending ε) → Prop where
  | first (p : Packet) : Lists q x Honest ⟨p, .created (.request q x)⟩
  | asks (p : Packet) (z : Exchange ε (Step ε)) (again : sent q z = sent q x) :
      Lists q x Honest ⟨p, .running (some (.request q z))⟩
  | waits (p : Packet) (token : Option String) (paired : p.exchange? = some x.id) :
      Lists q x Honest
        ⟨p, .waiting (.call (q.continuedAt token)) (some (.response (sent q x)))⟩
  | told (p : Packet) (r : Response) (told : p.response? = some r) (honest : Honest r)
      (paired : p.exchange? = some x.id) :
      Lists q x Honest ⟨p, .running (some (.response (sent q x)))⟩
  | pauses (p : Packet) (wait : Duration) :
      Lists q x Honest ⟨p, .sleeping wait (some (.request q (sent q x)))⟩

/-- What a move of a fiber that lists pods comes to. -/
inductive Listed (q : Request) (x : Exchange ε (Step ε)) (Honest : Response → Prop) :
    Fiber (Step ε) Packet (Pending ε) → Prop where
  | lists (f : Fiber (Step ε) Packet (Pending ε)) (lists : Lists q x Honest f) : Listed q x Honest f
  /-- All pages are taken in. -/
  | finished (p : Packet) : Listed q x Honest ⟨p, standsAt x.next⟩
  /-- A call failed for good. -/
  | failed (p : Packet) (e : FiberError) (r : Response) (honest : Honest r)
      (failure : r.isFailure = true) : Listed q x Honest ⟨p, .ended (some e)⟩

/-- Every pod that is seen was seen before or is on a page. -/
def Brought (Honest : Response → Prop) (v v' : View) : Prop :=
  ∀ server pod, v'.servers.get? server = some pod → v.servers.get? server = some pod ∨
    ∃ r, Honest r ∧ (server, pod) ∈ podsOnPage r

/-- Pods that are taken in one after another. -/
private theorem pods_seen (pods : List (String × Pod)) (works : p.presence = some id)
    (seen : view? id w = some v) :
    ∃ v', view? id (pods.foldl
        (fun w (server, pod) => w.modifyPresenceOf p (·.setPod server pod)) w) = some v' ∧
      ∀ server pod, v'.servers.get? server = some pod →
        v.servers.get? server = some pod ∨ (server, pod) ∈ pods := by
  induction pods generalizing w v with
  | nil => exact ⟨v, seen, fun _ _ held => .inl held⟩
  | cons first rest ih =>
    obtain ⟨owner, own⟩ := first
    have taken : view? id (w.modifyPresenceOf p (·.setPod owner own)) =
        some { v with servers := v.servers.insert owner own } := by
      have taken : view? id (w.modifyPresenceOf p (·.setPod owner own)) = (view? id w).map
          (fun v => { v with servers := v.servers.insert owner own }) :=
        view_modify_of works (fun _ => rfl)
      rw [taken, seen, Option.map_some]
    obtain ⟨v', seen', brought⟩ := ih taken
    refine ⟨v', seen', fun server pod held => ?_⟩
    rcases brought server pod held with held | among
    · rw [NameMap.get?_insert] at held
      split at held
      · rename_i same
        cases held
        exact .inr (same ▸ List.mem_cons_self)
      · exact .inl held
    · exact .inr (List.mem_cons_of_mem _ among)

private theorem sent_again (again : sent q z = sent q x) : z.id = x.id := by
  have same : (sent q z).id = (sent q x).id := by rw [again]
  exact same

/-- A page is taken in, and the next one asked for. -/
private theorem page_does {r : Response} (handler : x.handler = .podsListed)
    (works : p.presence = some id) (seen : view? id w = some v) (told : p.response? = some r)
    (honest : Honest r) (paired : p.exchange? = some x.id) (success : r.isFailure = false) :
    ∃ action p' w' v', (chainDynamics c g).apply (.response (sent q x)) p w = .of action p' w' ∧
      p'.presence = some id ∧ view? id w' = some v' ∧ Brought Honest v v' ∧
      (action = .next (.request q (sent q x)) ∨ action = .goOn x.next) := by
  have working : (p.remove Packet.responseKey).presence = some id := works
  obtain ⟨now, known, _⟩ := view_known seen
  have present : w.presenceOf? (p.remove Packet.responseKey) = some now :=
    RollSteps.presence_found working known
  obtain ⟨v', seen', brought⟩ := pods_seen (podsOnPage r) working seen
  generalize taken : (podsOnPage r).foldl (fun w (server, pod) =>
    w.modifyPresenceOf (p.remove Packet.responseKey) (·.setPod server pod)) w = w' at seen'
  have judges : Step.judge c g (sent q x) r (p.remove Packet.responseKey) w =
      (sent q x).nextPageOr r x.next (p.remove Packet.responseKey) w' := by
    simp only [Step.judge, sent, handler, success, podsListed, present, Bool.false_eq_true,
      ↓reduceIte, ← taken]
  have honestly : Brought Honest v v' := fun server pod held =>
    (brought server pod held).imp_right fun among => ⟨r, honest, among⟩
  cases more : r.continueToken? with
  | none =>
    have judged : Step.judge c g (sent q x) r (p.remove Packet.responseKey) w =
        .of (.proceed (.goOn x.next)) (p.remove Packet.responseKey) w' := by
      rw [judges, Exchange.nextPageOr, more]
    exact ⟨_, _, w', v', settle_does told judged, works, seen', honestly, .inr rfl⟩
  | some token =>
    have still : (sent q x).isPaired
        ((p.remove Packet.responseKey).put Packet.continueKey (.text token)) = true := by
      have other : Packet.requestKey ≠ Packet.continueKey := by decide
      have another : Packet.requestKey ≠ Packet.responseKey := by decide
      have kept : ((p.remove Packet.responseKey).put Packet.continueKey (.text token)).exchange? =
          some x.id := by
        rw [Packet.exchange?, value_put_other other, value_remove_other another]
        exact paired
      simp [Exchange.isPaired, sent, kept]
    have judged : Step.judge c g (sent q x) r (p.remove Packet.responseKey) w =
        .of (.resend none) ((p.remove Packet.responseKey).put Packet.continueKey (.text token))
          (w'.modifyBudget ((p.remove Packet.responseKey).put Packet.continueKey (.text token))
            (·.reset)) := by
      rw [judges, Exchange.nextPageOr, more]
      simp only [Exchange.startOver, still, ↓reduceIte]
    refine ⟨_, _, _, v', settle_does told judged, works, ?_, honestly, .inl rfl⟩
    rw [view?, Worlds.presence_modify_budget]
    exact seen'

/-- A list that failed is asked for again, or was the last thing the fiber
did. -/
private theorem list_failed_does {failure : CallFailure} (handler : x.handler = .podsListed)
    (plain : x.conflict = none) (told : p.response? = some (.failure failure)) :
    ∃ action p' w', (chainDynamics c g).apply (.response (sent q x)) p w = .of action p' w' ∧
      p'.presence = p.presence ∧ view? id w' = view? id w ∧
      ((∃ wait, action = .delay wait (some (.request q (sent q x)))) ∨
        ∃ e, action = .terminate e) := by
  have judges : Step.judge c g (sent q x) (.failure failure) (p.remove Packet.responseKey) w =
      (sent q x).retryOrEnd c (.failure failure) (p.remove Packet.responseKey) w := by
    simp only [Step.judge, sent, handler, Response.isFailure, ↓reduceIte]
  have plain : (sent q x).conflict = none := plain
  obtain ⟨verdict, w₁, w', retried, aside, told', outcome⟩ :=
    retry_outcome c (p.remove Packet.responseKey) w plain failure
  have unseen : view? id w' = view? id w := by
    rcases told' with rfl | rfl
    · exact view_aside aside
    · exact (view_give_up _ _).trans (view_aside aside)
  rw [retried] at judges
  rcases outcome with ⟨wait, rfl⟩ | ⟨e, rfl⟩
  · exact ⟨_, _, w', settle_does told judges, rfl, unseen, .inl ⟨wait, rfl⟩⟩
  · exact ⟨_, _, w', settle_does told judges, rfl, unseen, .inr ⟨e, rfl⟩⟩

/-- A fiber that lists pods goes on listing until it has taken in all pages, or
a call has failed for good. -/
theorem lists_moves (handler : x.handler = .podsListed) (plain : x.conflict = none)
    (lists : Lists q x Honest f) (found : m.fiber? i = some f)
    (works : f.packet.presence = some id) (seen : view? id m.world = some v)
    (own : move = .run ∨ move = .wake ∨ move = .join)
    (moved : m.move? (chainDynamics c g) i move = some m') :
    ∃ f' v', m'.fiber? i = some f' ∧ f'.packet.presence = some id ∧
      m'.fibers.length = m.fibers.length ∧ view? id m'.world = some v' ∧ Brought Honest v v' ∧
      Listed q x Honest f' := by
  have same : Brought Honest v v := fun _ _ held => .inl held
  obtain ⟨_, found', shape⟩ := move_iff_moved.mp moved
  cases found.symm.trans found'
  cases lists with
  | first p =>
    cases shape with
    | start =>
      exact ⟨_, v, replace_fiber found, works, by simp [replace], (view_count _).trans seen, same,
        .lists _ (.asks p x rfl)⟩
  | asks p z again =>
    have applies : (chainDynamics c g).apply (.request q z) p m.world = _ :=
      send_asks c q z p m.world
    rw [again] at applies
    have aside : Aside p m.world (asked c z p m.world).1 (asked c z p m.world).2 := asked_aside
    obtain ⟨here, world, length⟩ := step_alone found moved applies rfl
    refine ⟨_, v, here, aside.presence.trans works, length, ?_, same,
      .lists _ (.waits _ _ (asked_exchange.trans (congrArg some (sent_again again))))⟩
    rw [world]
    exact (view_aside aside).trans seen
  | waits p token paired =>
    cases shape with
    | cancel | answer | crash => rcases own with own | own | own <;> cases own
  | told p r told honest paired =>
    cases failure : r.isFailure with
    | false =>
      obtain ⟨action, p', w', v', applies, works', seen', brought, goes⟩ :=
        page_does (c := c) (g := g) (q := q) handler works seen told honest paired failure
      rcases goes with rfl | rfl
      · obtain ⟨here, world, length⟩ := step_alone found moved applies rfl
        exact ⟨_, v', here, works', length, world ▸ seen', brought, .lists _ (.asks p' _ rfl)⟩
      · obtain ⟨here, world, length⟩ := step_goes_on found moved applies
        refine ⟨_, v', here, works', length, ?_, brought, .finished p'⟩
        rw [world, view_after]
        exact seen'
    | true =>
      cases r with
      | failure called =>
        obtain ⟨action, p', w', applies, works', unseen, goes⟩ :=
          list_failed_does (c := c) (g := g) (q := q) (w := m.world) handler plain told
        rcases goes with ⟨wait, rfl⟩ | ⟨e, rfl⟩
        · obtain ⟨here, world, length⟩ := step_alone found moved applies rfl
          exact ⟨_, v, here, works'.trans works, length, world ▸ unseen.trans seen, same,
            .lists _ (.pauses p' wait)⟩
        · obtain ⟨here, world, length⟩ := step_alone found moved applies rfl
          refine ⟨_, v, here, works'.trans works, length, ?_, same, .failed _ e _ honest failure⟩
          rw [world, view_after]
          exact unseen.trans seen
      | _ => cases failure
  | pauses p wait =>
    cases shape with
    | wake =>
      exact ⟨_, v, replace_fiber found, works, by simp [replace], seen, same,
        .lists _ (.asks p _ rfl)⟩

/-- A fiber that lists pods waits for nothing but pages. -/
theorem lists_calls {call : Pending ε} (lists : Lists q x Honest ⟨p, .waiting call next⟩) :
    ∃ token, call = .call (q.continuedAt token) ∧ next = some (.response (sent q x)) ∧
      p.exchange? = some x.id := by
  cases lists with
  | waits _ token paired => exact ⟨token, rfl, rfl, paired⟩

/-- A page is told. -/
theorem lists_told {r : Response} (paired : p.exchange? = some x.id) (honest : Honest r) :
    Lists q x Honest
      ⟨p.put Packet.responseKey (.response r), .running (some (.response (sent q x)))⟩ := by
  have other : Packet.requestKey ≠ Packet.responseKey := by decide
  refine .told _ r ?_ honest ?_
  · rw [Packet.response?, value_put_same]
    rfl
  · rw [Packet.exchange?, value_put_other other]
    exact paired

/-! ## Looking for work -/

/-- What a look comes to: where the fiber stands after it. -/
inductive Found (p : Packet) (sink : Option FailureSink) (next : Option (Step ε))
    (now : Presence) : Phase (Step ε) (Pending ε) → Prop where
  | unknown (domain : now.domain = none) : Found p sink next now (standsAt next)
  | nothing (d : Domain) (domain : now.domain = some d)
      (empty : (workOf (ε := ε) sink now d.restartVersion p).isEmpty = true) :
      Found p sink next now (standsAt next)
  | work (d : Domain) (domain : now.domain = some d) :
      Found p sink next now
        (.running (some (.rolling (workOf sink now d.restartVersion p).entries next)))

/-- A fiber looks for work. -/
theorem look_finds {sink : Option FailureSink} {now : Presence}
    (found : m.fiber? i = some ⟨p, .running (some (.rollIfNeeded sink next))⟩)
    (works : p.presence = some id) (known : m.world.presence? id = some now)
    (moved : m.move? (chainDynamics c g) i .run = some m') :
    ∃ phase, m'.fiber? i = some ⟨p, phase⟩ ∧ Found p sink next now phase ∧
      view? id m'.world = view? id m.world ∧ m'.fibers.length = m.fibers.length := by
  have goesOn (applies : (chainDynamics c g).apply (.rollIfNeeded sink next) p m.world =
      .of (.goOn next) p m.world) : m'.fiber? i = some ⟨p, standsAt next⟩ ∧
        view? id m'.world = view? id m.world ∧ m'.fibers.length = m.fibers.length := by
    obtain ⟨here, world, length⟩ := step_goes_on found moved applies
    exact ⟨here, world ▸ view_after _, length⟩
  cases domain : now.domain with
  | none =>
    have applies : (chainDynamics c g).apply (.rollIfNeeded sink next) p m.world =
        .of (.goOn next) p m.world := by
      show rollIfNeeded sink next p m.world = _
      rw [rollIfNeeded, with_presence_found works known, domain]
    obtain ⟨here, unseen, length⟩ := goesOn applies
    exact ⟨_, here, .unknown domain, unseen, length⟩
  | some d =>
    have applies : (chainDynamics c g).apply (.rollIfNeeded sink next) p m.world = _ :=
      roll_if_needed_found sink next works known domain
    split at applies
    · rename_i empty
      obtain ⟨here, unseen, length⟩ := goesOn applies
      exact ⟨_, here, .nothing d domain empty, unseen, length⟩
    · obtain ⟨here, world, length⟩ := step_alone found moved applies rfl
      exact ⟨_, here, .work d domain, world ▸ view_after _, length⟩

/-! ## Writing the status -/

/-- A call by which a status is written, or by which the domain is read
again. -/
structure Report (q : Request) (x : Exchange ε (Step ε)) : Prop where
  harmless : Harmless q
  asked : ∀ other, x.request = some other → other = q
  follows : x.handler = .statusPatched ∧ x.next = none ∧
      (∀ step, x.conflict = some step → ∃ left, step = .rereadDomain left none) ∨
    x.handler = .domainReread ∧ x.conflict = none ∧ ∃ left, x.next = some (.updateStatus left none)

/-- The steps of a chain that writes a status. -/
inductive Writing : Step ε → Prop where
  | clear (left : UInt32) : Writing (.clearFailure (some (.updateStatus left none)))
  | update (left : UInt32) : Writing (.updateStatus left none)
  | reread (left : UInt32) : Writing (.rereadDomain left none)
  | asks (q : Request) (x : Exchange ε (Step ε)) (report : Report q x) : Writing (.request q x)
  | judges (q : Request) (x : Exchange ε (Step ε)) (report : Report q x) : Writing (.response x)

/-- A chain that writes a status goes on. -/
def Continues (next : Option (Step ε)) : Prop := ∀ step, next = some step → Writing step

/-- Where a fiber stands that writes a status, or has done so. -/
inductive Writes : Phase (Step ε) (Pending ε) → Prop where
  | running (next : Option (Step ε)) (continues : Continues next) : Writes (.running next)
  | pauses (wait : Duration) (next : Option (Step ε)) (continues : Continues next) :
      Writes (.sleeping wait next)
  | waits (q : Request) (next : Option (Step ε)) (harmless : Harmless q)
      (continues : Continues next) : Writes (.waiting (.call q) next)
  | finished (failure : Option FiberError) : Writes (.ended failure)

theorem continues_none : Continues (none : Option (Step ε)) := nofun

theorem continues_with (writing : Writing step) : Continues (some step) := by
  rintro _ ⟨⟩
  exact writing

theorem writes_stands (continues : Continues next) :
    Writes (standsAt next : Phase (Step ε) (Pending ε)) := by
  cases next with
  | none => exact .finished none
  | some step => exact .running _ continues

/-- What a step of a chain that writes a status does. -/
private structure Does (c : Conduct) (g : GuestRules ε) (step : Step ε) (p : Packet) (w : World) :
    Prop where
  childless : born (actionOf (chainDynamics c g) step ((chainDynamics c g).apply step p w)) = []
  writes : ∀ n,
    Writes (phaseAfter n (actionOf (chainDynamics c g) step ((chainDynamics c g).apply step p w)))

private theorem does_of {action : StepAction ε} {p' : Packet} {w' : World}
    (applies : (chainDynamics c g).apply step p w = .of action p' w') (childless : born action = [])
    (writes : ∀ n, Writes (phaseAfter n action)) : Does c g step p w := by
  have taken : actionOf (chainDynamics c g) step ((chainDynamics c g).apply step p w) = action := by
    rw [applies]
    rfl
  exact ⟨taken.symm ▸ childless, taken.symm ▸ writes⟩

private theorem does_panic {panic : Panic} {p' : Packet} {w' : World}
    (applies : (chainDynamics c g).apply step p w = .panicked panic p' w') : Does c g step p w := by
  have taken : ∃ e, actionOf (chainDynamics c g) step ((chainDynamics c g).apply step p w) =
      .terminate e := by
    rw [applies]
    exact ⟨_, rfl⟩
  obtain ⟨e, taken⟩ := taken
  exact ⟨by rw [taken]; rfl, fun _ => by rw [taken]; exact .finished _⟩

private theorem does_go_on {p' : Packet} {w' : World} (continues : Continues next)
    (applies : (chainDynamics c g).apply step p w = .of (.goOn next) p' w') : Does c g step p w := by
  refine does_of applies (born_go_on next) fun n => ?_
  cases next with
  | none => exact .finished none
  | some step => exact .running _ continues

private theorem does_end {p' : Packet} {w' : World} {e : FiberError}
    (applies : (chainDynamics c g).apply step p w = .of (.terminate e) p' w') : Does c g step p w :=
  does_of applies rfl fun _ => .finished _

/-- What a handler of such a chain may decide. -/
inductive Fits (x : Exchange ε (Step ε)) : Verdict ε → Prop where
  | resend (wait : Option Duration) : Fits x (.resend wait)
  | reroute : Fits x .reroute
  | goesOn : Fits x (.proceed (.goOn x.next))
  | ends (e : FiberError) : Fits x (.proceed (.terminate e))

private theorem retry_fits (x : Exchange ε (Step ε)) (r : Option Response) (p : Packet) (w : World)
    (e : FiberError) :
    Fits x (((x.retry? c r p w).1).getD (.proceed (.terminate e))) := by
  unfold Exchange.retry?
  split
  · exact .ends e
  · dsimp only
    split
    · split
      · exact .resend _
      · exact .ends e
    · exact .reroute
    · exact .ends e

private theorem judge_fits (report : Report q x) (r : Response) (p : Packet) (w : World) :
    ∃ verdict p' w', Step.judge c g x r p w = .of verdict p' w' ∧ Fits x verdict := by
  cases failure : r.isFailure with
  | true =>
    have retries : Step.judge c g x r p w = x.retryOrEnd c r p w := by
      rcases report.follows with ⟨handler, _⟩ | ⟨handler, _⟩
      · simp only [Step.judge, handler, failure, ↓reduceIte]
      · simp only [Step.judge, handler, failure, ↓reduceIte]
    exact ⟨_, p, _, retries, retry_fits x (some r) p w _⟩
  | false =>
    rcases report.follows with ⟨handler, _⟩ | ⟨handler, _⟩
    · have judges : Step.judge c g x r p w = statusPatched x r p w := by
        simp only [Step.judge, handler, failure, Bool.false_eq_true, ↓reduceIte]
      exact ⟨_, _, _, judges, .goesOn⟩
    · have judges : Step.judge c g x r p w = domainReread x r p w := by
        simp only [Step.judge, handler, failure, Bool.false_eq_true, ↓reduceIte]
      unfold domainReread at judges
      split at judges
      · exact ⟨_, _, _, judges, .goesOn⟩
      · exact ⟨_, _, _, judges, .ends _⟩

private theorem next_continues (report : Report q x) : Continues x.next := by
  rcases report.follows with ⟨_, nothing, _⟩ | ⟨_, _, left, next⟩
  · rw [nothing]
    exact continues_none
  · rw [next]
    exact continues_with (.update left)

private theorem conflict_continues (report : Report q x) : Continues x.conflict := by
  rcases report.follows with ⟨_, _, conflict⟩ | ⟨_, nothing, _⟩
  · intro step same
    obtain ⟨left, rfl⟩ := conflict step same
    exact .reread left
  · rw [nothing]
    exact continues_none

/-- Whatever a handler of such a chain decides, the chain goes on or ends. -/
private theorem verdict_does (report : Report q x) {verdict : Verdict ε} {p' : Packet} {w' : World}
    (fits : Fits x verdict) (applies : (chainDynamics c g).apply (.response x) p w =
      .of (x.actionOf verdict) p' w') : Does c g (.response x) p w := by
  cases fits with
  | resend wait =>
    cases asked : x.request with
    | none =>
      have action : x.actionOf (.resend wait) = .terminate Exchange.unpaired := by
        simp only [Exchange.actionOf, asked]
      rw [action] at applies
      exact does_end applies
    | some other =>
      have again : Writing (.request other x) := .asks other x (report.asked other asked ▸ report)
      cases wait with
      | none =>
        have action : x.actionOf (.resend none) = .next (.request other x) := by
          simp only [Exchange.actionOf, asked]
        rw [action] at applies
        exact does_of applies rfl fun _ => .running _ (continues_with again)
      | some wait =>
        have action : x.actionOf (.resend (some wait)) = .delay wait (some (.request other x)) := by
          simp only [Exchange.actionOf, asked]
        rw [action] at applies
        exact does_of applies rfl fun _ => .pauses wait _ (continues_with again)
  | reroute => exact does_go_on (conflict_continues report) applies
  | goesOn => exact does_go_on (next_continues report) applies
  | ends e => exact does_end applies

private theorem response_does (report : Report q x) : Does c g (.response x) p w := by
  cases told : p.response? with
  | some r =>
    obtain ⟨verdict, p', w', judges, fits⟩ :=
      judge_fits (c := c) (g := g) report r (p.remove Packet.responseKey) w
    exact verdict_does report fits (settle_does told judges)
  | none =>
    have fits : Fits x (((x.retry? c none (p.remove Packet.responseKey) w).1).getD
        (.proceed (.terminate Exchange.unanswered))) := retry_fits x none _ w _
    have applies : (chainDynamics c g).apply (.response x) p w = .of (x.actionOf
        (((x.retry? c none (p.remove Packet.responseKey) w).1).getD
          (.proceed (.terminate Exchange.unanswered))))
        (Exchange.tidy (((x.retry? c none (p.remove Packet.responseKey) w).1).getD
          (.proceed (.terminate Exchange.unanswered))) (p.remove Packet.responseKey))
        (x.retry? c none (p.remove Packet.responseKey) w).2 := by
      show x.settle c (Step.judge c g x) p w = _
      simp only [Exchange.settle, told]
      rfl
    exact verdict_does report fits applies

private theorem looking_does {act : PresenceId → Presence → StepApplied ε}
    (applies : (chainDynamics c g).apply step p w = withPresence p w act)
    (found : ∀ id now, (chainDynamics c g).apply step p w = act id now → Does c g step p w) :
    Does c g step p w := by
  unfold withPresence at applies
  split at applies
  · exact found _ _ applies
  · exact does_end applies

private theorem update_does (left : UInt32) : Does c g (.updateStatus left none) p w := by
  have applies : (chainDynamics c g).apply (.updateStatus left none) p w =
      updateStatus left none p w := rfl
  refine looking_does applies fun id now applies => ?_
  split at applies
  · exact does_go_on continues_none applies
  · rename_i domain _
    split at applies
    · exact does_panic applies
    · rename_i status _
      split at applies
      · exact does_go_on continues_none applies
      · have report : Report (patchStatusRequest now domain status)
            { id := .patchStatus, request := none, handler := .statusPatched, sink := none
              next := (none : Option (Step ε))
              conflict := if 0 < left then some (.rereadDomain (left - 1) none) else none } := by
          refine ⟨rfl, fun _ same => (Option.some_ne_none _ same.symm).elim, .inl ⟨rfl, rfl, ?_⟩⟩
          intro step same
          dsimp only at same
          split at same
          · cases same
            exact ⟨_, rfl⟩
          · cases same
        exact does_of applies rfl fun _ => .running _ (continues_with (.asks _ _ report))

private theorem reread_does (left : UInt32) : Does c g (.rereadDomain left none) p w := by
  have applies : (chainDynamics c g).apply (.rereadDomain left none) p w =
      rereadDomain left none p w := rfl
  refine looking_does applies fun id now applies => ?_
  split at applies
  · exact does_go_on continues_none applies
  · rename_i domain _
    have report : Report (readDomainRequest now domain)
        ({ id := .readDomain, request := none, handler := .domainReread, sink := none
           next := some (.updateStatus left none) } : Exchange ε (Step ε)) :=
      ⟨rfl, fun _ same => (Option.some_ne_none _ same.symm).elim, .inr ⟨rfl, rfl, left, rfl⟩⟩
    exact does_of applies rfl fun _ => .running _ (continues_with (.asks _ _ report))

private theorem report_sent (report : Report q x) : Report q (sent q x) :=
  ⟨report.harmless, fun _ same => (Option.some.inj same).symm, report.follows⟩

private theorem writing_does (writing : Writing step) : Does c g step p w := by
  cases writing with
  | clear left => exact does_go_on (continues_with (.update left)) rfl
  | update left => exact update_does left
  | reread left => exact reread_does left
  | asks q x report =>
    have applies : (chainDynamics c g).apply (.request q x) p w = _ := send_asks c q x p w
    refine does_of applies rfl fun _ => .waits _ _ (harmless_continued report.harmless _) ?_
    exact continues_with (.judges q _ (report_sent report))
  | judges q x report => exact response_does report

/-- A fiber that writes a status goes on writing it, and forks nobody. -/
theorem writes_moves (writes : Writes f.phase) (found : m.fiber? i = some f)
    (own : move = .run ∨ move = .wake ∨ move = .join)
    (moved : m.move? (chainDynamics c g) i move = some m') :
    ∃ f', m'.fiber? i = some f' ∧ Writes f'.phase ∧ m'.fibers.length = m.fibers.length := by
  obtain ⟨p, phase⟩ := f
  obtain ⟨_, found', shape⟩ := move_iff_moved.mp moved
  cases found.symm.trans found'
  cases writes with
  | running next continues =>
    cases next with
    | none =>
      cases shape with
      | finish => exact ⟨_, took_fiber found, .finished none, by rw [took_length]; rfl⟩
    | some step =>
      have does := writing_does (c := c) (g := g) (p := p) (w := m.world) (continues step rfl)
      obtain ⟨here, _, length⟩ := run_alone found moved does.childless
      exact ⟨_, here, does.writes _, length⟩
  | pauses wait next continues =>
    cases shape with
    | wake => exact ⟨_, replace_fiber found, .running next continues, by simp [replace]⟩
  | waits q next harmless continues =>
    cases shape with
    | cancel | answer | crash => rcases own with own | own | own <;> cases own
  | finished failure => cases shape

end DomainSteward.Errands
