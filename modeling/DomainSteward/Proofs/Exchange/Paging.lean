import DomainSteward.Proofs.Data.NameMap
import DomainSteward.Proofs.Exchange.Steps
import DomainSteward.Proofs.Fiber.Solo

/-! Listing page after page. However the calls fail in between, each page is
asked for by the token of the page before and handed over once, and what
follows the list runs once, with nothing left of the exchange. -/
namespace DomainSteward.Paging
open Machine Moves Solo Packets Exchanges

variable {ε : Type}

/-- One page of a list as the server gives it: after some failures. -/
structure Turn where
  failures : List CallFailure
  page : ObjectPage

/-- Where the page after a turn starts, if there is one; an empty token points nowhere. -/
def Turn.token? (turn : Turn) : Option String := turn.page.continueToken.filter (· ≠ "")

/-- The call for the page of a list that starts where a token points. -/
def pageCall (r : Request) (options : ListOptions) (token : Option String) : Request :=
  { r with operation := .list { options with continueToken := token } }

/-- A handler that takes in one page after the other and leaves failures to the
retry budget. `Fit` is whatever the handler makes of the pages it has been
handed, and needs of the packet and the world to go on; it must not depend on
what exchanges keep for themselves. -/
structure Pager (c : Conduct) (g : GuestRules ε) (y : Exchange ε (Step ε))
    (Fit : List ObjectPage → Packet → World → Prop)
    (take : ObjectPage → Packet → World → Packet × World) : Prop where
  page : ∀ handed page p w, Fit handed p w →
    Step.judge c g y (.list page) p w =
      y.nextPageOr (.list page) y.next (take page p w).1 (take page p w).2
  failure : ∀ handed f p w, Fit handed p w →
    Step.judge c g y (.failure f) p w = y.retryOrEnd c (.failure f) p w
  takes : ∀ handed page p w, Fit handed p w →
    Fit (handed ++ [page]) (take page p w).1 (take page p w).2
  aside : ∀ handed p w p' w', Fit handed p w → Aside p w p' w' → Fit handed p' w'
  /-- The handler keeps its hands off the exchange. -/
  values : ∀ page p w, ∀ key ∈ exchangeKeys, (take page p w).1.value? key = p.value? key
  budget : ∀ page p w, (take page p w).1.budget = p.budget
  budgets : ∀ page p w, (take page p w).2.budgets = w.budgets
  shutdown : ∀ page p w, (take page p w).2.shutdown = w.shutdown
  /-- It tells nobody of failures. -/
  quiet : ∀ page p w, tellings (take page p w).2 = tellings w

/-- A handler that leaves failures to the retry budget, whatever it makes of the
rest. -/
structure Patient (c : Conduct) (g : GuestRules ε) (y : Exchange ε (Step ε))
    (Fit : List ObjectPage → Packet → World → Prop) : Prop where
  failure : ∀ handed f p w, Fit handed p w →
    Step.judge c g y (.failure f) p w = y.retryOrEnd c (.failure f) p w
  aside : ∀ handed p w p' w', Fit handed p w → Aside p w p' w' → Fit handed p' w'

/-- The moves of one attempt: the call, its answer, and the response step. -/
def attempt (response : Response) : List (Move Answer) :=
  [.run, .answer (.response response), .run]

/-- The moves by which a fiber bears some failures. -/
def bear (failures : List CallFailure) : List (Move Answer) :=
  failures.flatMap (fun f => attempt (.failure f) ++ [.wake])

/-- The moves by which a fiber gets a page. -/
def Turn.moves (turn : Turn) : List (Move Answer) :=
  bear turn.failures ++ attempt (.list turn.page)

/-- The calls by which a page is got from where a token points, with their
answers; `ask` says which call asks for the page of a token. -/
def Turn.calls (ask : Option String → Request) (token : Option String) (turn : Turn) :
    List (Request × Response) :=
  turn.failures.map (fun f => (ask token, .failure f)) ++ [(ask token, .list turn.page)]

/-- The calls of some turns, each of which goes on where the one before left
off. -/
def callsFrom (ask : Option String → Request) :
    Option String → List Turn → List (Request × Response)
  | _, [] => []
  | token, turn :: rest => turn.calls ask token ++ callsFrom ask turn.token? rest

/-- The calls that a fiber had answered. -/
def calls (deeds : List (Solo.Deed (Step ε) Packet (Pending ε) Answer)) :
    List (Request × Response) :=
  deeds.filterMap (fun
    | .answered (.call r) (.response response) => some (r, response)
    | _ => none)

/-- The responses that were handed to a handler. -/
def handed (deeds : List (Solo.Deed (Step ε) Packet (Pending ε) Answer)) : List Response :=
  deeds.filterMap (fun
    | .applied (.response _) p => p.response?
    | _ => none)

/-- The steps of an exchange. -/
inductive Part (r : Request) (x : Exchange ε (Step ε)) : Step ε → Prop where
  | first : Part r x (.request r x)
  | again : Part r x (.request r (sent r x))
  | response : Part r x (.response (sent r x))

/-- What a fiber did was this: some calls, whose answers were all handed over
in order, and no step but those of the exchange. -/
structure Did (r : Request) (x : Exchange ε (Step ε)) (expected : List (Request × Response))
    (deeds : List (Solo.Deed (Step ε) Packet (Pending ε) Answer)) : Prop where
  calls : calls deeds = expected
  handed : handed deeds = expected.map (·.2)
  only : ∀ step p, .applied step p ∈ deeds → Part r x step

variable {c : Conduct} {g : GuestRules ε} {r : Request} {x z : Exchange ε (Step ε)}
  {Fit : List ObjectPage → Packet → World → Prop}
  {take : ObjectPage → Packet → World → Packet × World} {i : FiberId}
  {start m m' after : ChainMachine ε} {p q : Packet} {token : Option String} {n : Nat}
  {pages : List ObjectPage} {told : List Note} {options : ListOptions}

theorem Pager.patient {y : Exchange ε (Step ε)} (handles : Pager c g y Fit take) :
    Patient c g y Fit :=
  ⟨handles.failure, handles.aside⟩

theorem did_append {first second : List (Request × Response)}
    {deeds deeds' : List (Solo.Deed (Step ε) Packet (Pending ε) Answer)}
    (did : Did r x first deeds) (did' : Did r x second deeds') :
    Did r x (first ++ second) (deeds ++ deeds') := by
  refine ⟨?_, ?_, ?_⟩
  · rw [calls, List.filterMap_append, ← did.calls, ← did'.calls]
    rfl
  · rw [handed, List.filterMap_append, List.map_append, ← did.handed, ← did'.handed]
    rfl
  · intro step p among
    rcases List.mem_append.mp among with among | among
    · exact did.only step p among
    · exact did'.only step p among

/-! ## One attempt -/

/-- A fiber that is about to make a call of the exchange. -/
structure Asking (c : Conduct) (r : Request) (x : Exchange ε (Step ε)) (i : FiberId)
    (Fit : List ObjectPage → Packet → World → Prop) (told : List Note) (pages : List ObjectPage)
    (token : Option String) (n : Nat) (m : ChainMachine ε) (p : Packet) : Prop where
  stands : m.fiber? i = some ⟨p, .running (some (.request r x))⟩ ∨
    m.fiber? i = some ⟨p, .running (some (.request r (sent r x)))⟩
  token : p.continueToken? = token
  spent : Spent c p m.world n
  goesOn : m.world.isStopping = false
  fits : Fit pages p m.world
  told : tellings m.world = told

/-- A fiber that is about to judge a response; it has left the exchange as it
needs it. -/
structure Judging (c : Conduct) (r : Request) (x : Exchange ε (Step ε)) (i : FiberId)
    (Fit : List ObjectPage → Packet → World → Prop) (told : List Note) (pages : List ObjectPage)
    (token : Option String) (n : Nat) (response : Response) (m : ChainMachine ε) (q : Packet) :
    Prop where
  stands : m.fiber? i = some ⟨q, .running (some (.response (sent r x)))⟩
  response : q.response? = some response
  paired : (sent r x).isPaired (q.remove Packet.responseKey) = true
  token : (q.remove Packet.responseKey).continueToken? = token
  holds : Holds c (q.remove Packet.responseKey) m.world n
  goesOn : m.world.isStopping = false
  fits : Fit pages (q.remove Packet.responseKey) m.world
  told : tellings m.world = told

private theorem ask_from (again : sent r z = sent r x)
    (found : m.fiber? i = some ⟨p, .running (some (.request r z))⟩)
    (asking : Asking c r x i Fit told pages token n m p)
    (patient : Patient c g (sent r x) Fit) (response : Response) :
    ∃ m' q, run? (chainDynamics c g) i m [.run, .answer (.response response)] = some m' ∧
      Judging c r x i Fit told pages token n response m' q ∧
      deeds (chainDynamics c g) i m [.run, .answer (.response response)] =
        [.applied (.request r z) p,
          .answered (.call (r.continuedAt token)) (.response response)] ∧
      signs (chainDynamics c g) i m [.run, .answer (.response response)] =
        [.answered (.call (r.continuedAt token)) (.response response)] := by
  have applies : (chainDynamics c g).apply (.request r z) p m.world =
      .of (.suspend (.call (r.continuedAt token)) (some (.response (sent r x))))
        (asked c z p m.world).1 (asked c z p m.world).2 := by
    rw [← again, ← asking.token]
    exact send_asks c r z p m.world
  obtain ⟨waiting, called, waits, world⟩ := step_moves found applies
  let w := receive c g (.call (r.continuedAt token)) (.response response) waiting.world
  have counted : w = c.count (·.callMade (r.continuedAt token).operation.verb response.outcome)
      (asked c z p m.world).2 := by
    rw [← show waiting.world = (asked c z p m.world).2 from world]
    rfl
  have aside : Aside p m.world
      ((answered c z p m.world response).remove Packet.responseKey) w := by
    rw [counted]
    exact answered_aside.trans .count
  have goesOn : w.isStopping = false := aside.stopping.trans asking.goesOn
  obtain ⟨m', answers, stands, world'⟩ := answer_moves (d := chainDynamics c g) waits goesOn
  have same : m'.world = w := world'
  have paired : (sent r x).isPaired ((answered c z p m.world response).remove
      Packet.responseKey) = true := by
    have ids : (sent r z).id = (sent r x).id := by rw [again]
    have exchange : z.id = x.id := ids
    simp [Exchange.isPaired, sent, answered_exchange, exchange]
  refine ⟨m', answered c z p m.world response, ?_, ⟨stands, answered_response, paired, ?_, ?_, ?_, ?_,
    ?_⟩, ?_, ?_⟩
  · simp [run?, called, answers]
  · exact answered_token.trans asking.token
  · refine answered_holds asking.spent ?_
    rw [same, counted, count_budgets]
  · rw [same]
    exact goesOn
  · rw [same]
    exact patient.aside _ _ _ _ _ asking.fits aside
  · rw [same, tellings, aside.notes]
    exact asking.told
  · simp [deeds, deed?, found, called, answers, waits]
    rfl
  · simp [signs, seen, sign?, called, answers, waits]
    rfl

/-- An attempt gets as far as the judging of the response; whatever comes of
that, the fiber has made one call and handed its answer over. -/
private theorem attempted (asking : Asking c r x i Fit told pages token n m p)
    (patient : Patient c g (sent r x) Fit) (response : Response) :
    ∃ m' q, Judging c r x i Fit told pages token n response m' q ∧
      ∀ after, m'.move? (chainDynamics c g) i .run = some after →
        run? (chainDynamics c g) i m (attempt response) = some after ∧
        Did r x [(r.continuedAt token, response)]
          (deeds (chainDynamics c g) i m (attempt response)) ∧
        signs (chainDynamics c g) i m (attempt response) =
          [.answered (.call (r.continuedAt token)) (.response response)] := by
  have ask : ∃ z m' q, Part r x (.request r z) ∧
      run? (chainDynamics c g) i m [.run, .answer (.response response)] = some m' ∧
      Judging c r x i Fit told pages token n response m' q ∧
      deeds (chainDynamics c g) i m [.run, .answer (.response response)] =
        [.applied (.request r z) p,
          .answered (.call (r.continuedAt token)) (.response response)] ∧
      signs (chainDynamics c g) i m [.run, .answer (.response response)] =
        [.answered (.call (r.continuedAt token)) (.response response)] := by
    rcases asking.stands with found | found
    · obtain ⟨m', q, asked⟩ := ask_from rfl found asking patient response
      exact ⟨x, m', q, .first, asked⟩
    · have again : sent r (sent r x) = sent r x := rfl
      obtain ⟨m', q, asked⟩ := ask_from again found asking patient response
      exact ⟨sent r x, m', q, .again, asked⟩
  obtain ⟨z, m', q, part, runs, judging, did, shown⟩ := ask
  refine ⟨m', q, judging, fun after moves => ?_⟩
  have split : attempt response = [.run, .answer (.response response)] ++ [.run] := rfl
  have last : deeds (chainDynamics c g) i m' [.run] =
      [.applied (.response (sent r x)) q] := by
    simp [deeds, deed?, judging.stands, moves]
  have quiet : signs (chainDynamics c g) i m' [.run] = [] := by
    simp [signs, seen, sign?, moves]
  rw [split, run_append runs, deeds_append runs, did, last, signs, seen_append runs]
  refine ⟨by simp [run?, moves], ⟨rfl, ?_, ?_⟩, ?_⟩
  · simp [handed, judging.response]
  · intro step p among
    simp only [List.cons_append, List.nil_append, List.mem_cons, Solo.Deed.applied.injEq,
      reduceCtorEq, List.not_mem_nil, or_false, false_or] at among
    rcases among with ⟨rfl, _⟩ | ⟨rfl, _⟩
    · exact part
    · exact .response
  · rw [signs] at shown quiet
    rw [shown, quiet]
    rfl

/-- The response step does as the handler decides. -/
private theorem judged_moves {response : Response} {verdict : Verdict ε} {p' : Packet} {w' : World}
    (judging : Judging c r x i Fit told pages token n response m q)
    (judged : Step.judge c g (sent r x) response (q.remove Packet.responseKey) m.world =
      .of verdict p' w') :
    ∃ m', m.move? (chainDynamics c g) i .run = some m' ∧
      m'.fiber? i = some ⟨packetAfter (chainDynamics c g) (Exchange.tidy verdict p')
          ((sent r x).actionOf verdict),
        phaseAfter m.fibers.length ((sent r x).actionOf verdict)⟩ ∧
      m'.world = worldAfter (chainDynamics c g) w' ((sent r x).actionOf verdict) :=
  step_moves judging.stands (settle_does judging.response judged)

/-- A failure worth repeating is borne while the budget lasts: the fiber waits
and is about to make the call again. -/
theorem bears_failure {f : CallFailure} (asking : Asking c r x i Fit told pages token n m p)
    (patient : Patient c g (sent r x) Fit) (retryable : isRetryable f.statusCode = true)
    (left : n < c.tuning.maxRetries.toNat) :
    ∃ m' p', run? (chainDynamics c g) i m (attempt (.failure f) ++ [.wake]) = some m' ∧
      Asking c r x i Fit told pages token (n + 1) m' p' ∧
      Did r x [(r.continuedAt token, .failure f)]
        (deeds (chainDynamics c g) i m (attempt (.failure f) ++ [.wake])) ∧
      signs (chainDynamics c g) i m (attempt (.failure f) ++ [.wake]) =
        [.answered (.call (r.continuedAt token)) (.response (.failure f)),
          .slept (c.tuning.backoff (.ofNat (n + 1)))] := by
  obtain ⟨judges, q, judging, goes⟩ := attempted asking patient (.failure f)
  obtain ⟨w', judged, aside, holds⟩ := retry_again retryable judging.holds judging.paired left
  rw [← patient.failure pages f _ _ judging.fits] at judged
  obtain ⟨sleeps, moves, stands, world⟩ := judged_moves judging judged
  obtain ⟨runs, did, shown⟩ := goes sleeps moves
  have stands : sleeps.fiber? i = some ⟨q.remove Packet.responseKey,
      .sleeping (c.tuning.backoff (.ofNat (n + 1))) (some (.request r (sent r x)))⟩ := stands
  have world : sleeps.world = w' := world
  obtain ⟨m', woken, stands', world'⟩ := wake_moves (d := chainDynamics c g) stands
  have same : m'.world = w' := world'.trans world
  refine ⟨m', q.remove Packet.responseKey, ?_, ⟨.inr stands', judging.token, ?_, ?_, ?_, ?_⟩, ?_, ?_⟩
  · rw [run_append runs]
    simp [run?, woken]
  · rw [same]
    exact holds_spent holds
  · rw [same]
    exact aside.stopping.trans judging.goesOn
  · rw [same]
    exact patient.aside _ _ _ _ _ judging.fits aside
  · rw [same, tellings, aside.notes]
    exact judging.told
  · rw [deeds_append runs]
    have nothing : deeds (chainDynamics c g) i sleeps [.wake] = [] := by
      simp [deeds, deed?, woken]
    rw [nothing, List.append_nil]
    exact did
  · have slept : seen sign? (chainDynamics c g) i sleeps [.wake] =
        [.slept (c.tuning.backoff (.ofNat (n + 1)))] := by
      simp [seen, sign?, stands, woken]
    rw [signs, seen_append runs, slept]
    exact congrArg (· ++ [_]) shown

/-- What a handler makes of a page leaves the exchange as it was. -/
private theorem take_kept (page : ObjectPage) {w : World} {y : Exchange ε (Step ε)}
    (handles : Pager c g y Fit take) (paired : y.isPaired p = true) (holds : Holds c p w n) :
    y.isPaired (take page p w).1 = true ∧ Holds c (take page p w).1 (take page p w).2 n := by
  refine ⟨?_, holds_kept holds (handles.budget page p w) (handles.budgets page p w)⟩
  rw [Exchange.isPaired, Packet.exchange?, handles.values page p w _ (by decide)]
  exact paired

private theorem take_goes_on {page : ObjectPage} {w : World} {y : Exchange ε (Step ε)}
    (handles : Pager c g y Fit take) (goesOn : w.isStopping = false) :
    (take page p w).2.isStopping = false := by
  rw [World.isStopping, handles.shutdown page p w]
  exact goesOn

/-- A page with a token is handed over, and the next one is asked for. -/
private theorem gets_page {page : ObjectPage} {next : String}
    (asking : Asking c r x i Fit told pages token n m p)
    (handles : Pager c g (sent r x) Fit take)
    (more : (Response.list page).continueToken? = some next) :
    ∃ m' p', run? (chainDynamics c g) i m (attempt (.list page)) = some m' ∧
      Asking c r x i Fit told (pages ++ [page]) (some next) 0 m' p' ∧
      Did r x [(r.continuedAt token, .list page)]
        (deeds (chainDynamics c g) i m (attempt (.list page))) := by
  obtain ⟨judges, q, judging, goes⟩ := attempted asking handles.patient (.list page)
  let p' := q.remove Packet.responseKey
  obtain ⟨paired, holds⟩ := take_kept page handles judging.paired judging.holds
  obtain ⟨w', judged, aside, fresh⟩ := next_page more holds paired (sent r x).next
  rw [← handles.page pages page _ _ judging.fits] at judged
  obtain ⟨m', moves, stands, world⟩ := judged_moves judging judged
  obtain ⟨runs, did, _⟩ := goes m' moves
  have same : m'.world = w' := world
  have kept : Aside (take page p' judges.world).1 (take page p' judges.world).2
      ((take page p' judges.world).1.put Packet.continueKey (.text next)) w' :=
    aside.trans (.put (by decide))
  have stands : m'.fiber? i = some ⟨(take page p' judges.world).1.put Packet.continueKey (.text next),
      .running (some (.request r (sent r x)))⟩ := stands
  refine ⟨m', _, runs, ⟨.inr stands, ?_, ?_, ?_, ?_, ?_⟩, did⟩
  · rw [Packet.continueToken?, Packet.text?, value_put_same]
    rfl
  · rw [same]
    exact holds_spent fresh
  · rw [same]
    exact aside.stopping.trans (take_goes_on handles judging.goesOn)
  · rw [same]
    exact handles.aside _ _ _ _ _ (handles.takes pages page _ _ judging.fits) kept
  · rw [same, tellings, aside.notes]
    exact (handles.quiet page _ _).trans judging.told

/-- The list is done: what follows it is about to run, and nothing is left of
the exchange. -/
structure HandedOver (next : Option (Step ε)) (i : FiberId) (m : ChainMachine ε) (p : Packet) :
    Prop where
  stands : m.fiber? i = some ⟨p, standsAt next⟩
  values : ∀ key ∈ exchangeKeys, p.value? key = none
  budget : p.budget = none

/-- Whatever comes after an exchange, the world learns of nothing but a fiber
that is done. -/
private theorem handed_over_world {w : World} (next : Option (Step ε)) :
    Aside p w p (worldAfter (chainDynamics c g) w (.goOn next)) := by
  cases next with
  | none => exact Aside.count
  | some step => exact Aside.refl

/-- A response after which the handler goes on is handed over, and then the
exchange is done; `q` is the packet that the handler finds, and `w` the world. -/
theorem goes_on {response : Response} (took : Packet → World → Packet × World)
    (asking : Asking c r x i Fit told pages token n m p) (patient : Patient c g (sent r x) Fit)
    (judges : ∀ q w, Fit pages q w → Step.judge c g (sent r x) response q w =
      .of (.proceed (.goOn x.next)) (took q w).1 (took q w).2)
    (gone : ∀ q w, q.value? Packet.responseKey = none →
      (took q w).1.value? Packet.responseKey = none) :
    ∃ m' p', run? (chainDynamics c g) i m (attempt response) = some m' ∧
      HandedOver x.next i m' p' ∧
      (∃ q w, Fit pages q w ∧ tellings w = told ∧
        Aside (took q w).1 (took q w).2 p' m'.world) ∧
      Did r x [(r.continuedAt token, response)]
        (deeds (chainDynamics c g) i m (attempt response)) ∧
      signs (chainDynamics c g) i m (attempt response) =
        [.answered (.call (r.continuedAt token)) (.response response)] := by
  obtain ⟨judge, q, judging, goes⟩ := attempted asking patient response
  let p' := q.remove Packet.responseKey
  obtain ⟨m', moves, stands, world⟩ := judged_moves judging (judges _ _ judging.fits)
  have same : m'.world = worldAfter (chainDynamics c g) (took p' judge.world).2 (.goOn x.next) :=
    world
  have stands := stands.trans (congrArg some (gone_on _ x.next))
  refine ⟨m', _, (goes m' moves).1, ⟨stands, ?_, rfl⟩, ⟨p', _, judging.fits, judging.told, ?_⟩,
    (goes m' moves).2⟩
  · exact fun key own => values_forgotten (gone p' _ value_remove_same) own
  · rw [same]
    exact (tidied_aside _).trans (handed_over_world x.next)

/-- The last page is handed over, and then the list is done. -/
private theorem gets_last {page : ObjectPage}
    (asking : Asking c r x i Fit told pages token n m p)
    (handles : Pager c g (sent r x) Fit take)
    (last : (Response.list page).continueToken? = none) :
    ∃ m' p', run? (chainDynamics c g) i m (attempt (.list page)) = some m' ∧
      HandedOver x.next i m' p' ∧ Fit (pages ++ [page]) p' m'.world ∧
      tellings m'.world = told ∧
      Did r x [(r.continuedAt token, .list page)]
        (deeds (chainDynamics c g) i m (attempt (.list page))) := by
  obtain ⟨m', p', runs, handed, ⟨q, w, fits, told, kept⟩, did, _⟩ :=
    goes_on (take page) asking handles.patient
      (fun q w fits => (handles.page pages page q w fits).trans (last_page last _))
      (fun q w gone => (handles.values page q w _ (by decide)).trans gone)
  refine ⟨m', p', runs, handed, ?_, ?_, did⟩
  · exact handles.aside _ _ _ _ _ (handles.takes pages page q w fits) kept
  · rw [tellings, kept.notes]
    exact (handles.quiet page q w).trans told

/-- A failure is told, once, and nothing else comes of it. -/
structure Told (Fit : List ObjectPage → Packet → World → Prop) (sink : Option FailureSink)
    (f : CallFailure) (pages : List ObjectPage) (told : List Note) (after : World) : Prop where
  once : tellings after = (sink.map (tellingOf · f)).toList ++ told
  before : ∃ p w, Fit pages p w ∧ tellings w = told ∧ Aside p (toldOf sink f w) p after

/-- A final failure ends the fiber, and is told. -/
theorem gives_up {f : CallFailure} (asking : Asking c r x i Fit told pages token n m p)
    (patient : Patient c g (sent r x) Fit) (final : Final c (sent r x) n f) :
    ∃ m' p', run? (chainDynamics c g) i m (attempt (.failure f)) = some m' ∧
      m'.fiber? i = some ⟨p', .ended (some f.toFiberError)⟩ ∧
      (∀ key ∈ exchangeKeys, p'.value? key = none) ∧ p'.budget = none ∧
      Told Fit (heard x.sink f) f pages told m'.world ∧
      Did r x [(r.continuedAt token, .failure f)]
        (deeds (chainDynamics c g) i m (attempt (.failure f))) ∧
      signs (chainDynamics c g) i m (attempt (.failure f)) =
        [.answered (.call (r.continuedAt token)) (.response (.failure f))] := by
  obtain ⟨judges, q, judging, goes⟩ := attempted asking patient (.failure f)
  obtain ⟨w', judged, aside⟩ := retry_final final judging.holds
  rw [← patient.failure pages f _ _ judging.fits] at judged
  obtain ⟨m', moves, stands, world⟩ := judged_moves judging judged
  let p' := q.remove Packet.responseKey
  have counted : Aside p' (toldOf (heard x.sink f) f w') p' m'.world := by
    rw [world]
    exact Aside.count
  have before : tellings w' = told := by
    rw [tellings, aside.notes]
    exact judging.told
  refine ⟨m', _, (goes m' moves).1, stands, ?_, rfl, ⟨?_, p', w', ?_, before, counted⟩,
    (goes m' moves).2⟩
  · intro key own
    refine (value_put_other ?_).trans (values_forgotten value_remove_same own)
    rintro rfl
    exact absurd own (by decide)
  · rw [tellings, counted.notes, ← before]
    exact tellings_told (heard x.sink f) f w'
  · exact patient.aside _ _ _ _ _ judging.fits aside

/-! ## Failures and turns -/

/-- What the budget of an exchange can bear: failures worth repeating, and not
too many. -/
structure Bearable (c : Conduct) (failures : List CallFailure) : Prop where
  retryable : ∀ f ∈ failures, isRetryable f.statusCode = true
  few : failures.length ≤ c.tuning.maxRetries.toNat

private theorem bears {failures : List CallFailure}
    (asking : Asking c r x i Fit told pages token n m p)
    (handles : Pager c g (sent r x) Fit take)
    (retryable : ∀ f ∈ failures, isRetryable f.statusCode = true)
    (few : n + failures.length ≤ c.tuning.maxRetries.toNat) :
    ∃ m' p', run? (chainDynamics c g) i m (bear failures) = some m' ∧
      Asking c r x i Fit told pages token (n + failures.length) m' p' ∧
      Did r x (failures.map (fun f => (r.continuedAt token, .failure f)))
        (deeds (chainDynamics c g) i m (bear failures)) := by
  induction failures generalizing n m p with
  | nil => exact ⟨m, p, rfl, asking, rfl, rfl, fun _ _ among => nomatch among⟩
  | cons f rest ih =>
    have left : n < c.tuning.maxRetries.toNat := by
      rw [List.length_cons] at few
      omega
    obtain ⟨next, p', runs, asking', did, _⟩ :=
      bears_failure asking handles.patient (retryable f List.mem_cons_self) left
    have few' : n + 1 + rest.length ≤ c.tuning.maxRetries.toNat := by
      rw [List.length_cons] at few
      omega
    obtain ⟨m', p'', runs', asking'', did'⟩ :=
      ih asking' (fun f among => retryable f (List.mem_cons_of_mem _ among)) few'
    have count : n + (f :: rest).length = n + 1 + rest.length := by
      rw [List.length_cons]
      omega
    have split : bear (f :: rest) = (attempt (.failure f) ++ [.wake]) ++ bear rest := rfl
    refine ⟨m', p'', ?_, ?_, ?_⟩
    · rw [split, run_append runs]
      exact runs'
    · rw [count]
      exact asking''
    · rw [split, deeds_append runs]
      exact did_append did did'

theorem token_told (turn : Turn) : (Response.list turn.page).continueToken? = turn.token? := by
  have same (token : String) : (!token.isEmpty) = decide (token ≠ "") := by
    rw [decide_not, Bool.not_inj_iff, Bool.eq_iff_iff, decide_eq_true_iff, String.isEmpty_iff]
  rw [Response.continueToken?, Turn.token?, Response.page?, Option.bind_some]
  simp only [same]

/-- A page with a token is got, however often that takes. -/
private theorem gets_turn {turn : Turn} {next : String}
    (asking : Asking c r x i Fit told pages token 0 m p)
    (handles : Pager c g (sent r x) Fit take) (bearable : Bearable c turn.failures)
    (more : turn.token? = some next) :
    ∃ m' p', run? (chainDynamics c g) i m turn.moves = some m' ∧
      Asking c r x i Fit told (pages ++ [turn.page]) turn.token? 0 m' p' ∧
      Did r x (turn.calls r.continuedAt token) (deeds (chainDynamics c g) i m turn.moves) := by
  have few : 0 + turn.failures.length ≤ c.tuning.maxRetries.toNat := by
    rw [Nat.zero_add]
    exact bearable.few
  obtain ⟨m', p', runs, asking', did⟩ := bears asking handles bearable.retryable few
  obtain ⟨m'', p'', runs', asking'', did'⟩ :=
    gets_page asking' handles ((token_told turn).trans more)
  refine ⟨m'', p'', ?_, ?_, ?_⟩
  · rw [Turn.moves, run_append runs]
    exact runs'
  · rw [more]
    exact asking''
  · rw [Turn.moves, deeds_append runs]
    exact did_append did did'

/-- Where the page after some turns starts. -/
def tokenAfter : Option String → List Turn → Option String
  | token, [] => token
  | _, turn :: rest => tokenAfter turn.token? rest

theorem calls_from_append (ask : Option String → Request) (first second : List Turn) :
    callsFrom ask token (first ++ second) =
      callsFrom ask token first ++ callsFrom ask (tokenAfter token first) second := by
  induction first generalizing token with
  | nil => rfl
  | cons turn rest ih =>
    rw [List.cons_append, callsFrom, ih, callsFrom, tokenAfter, List.append_assoc]

private theorem gets_turns {turns : List Turn}
    (asking : Asking c r x i Fit told pages token 0 m p)
    (handles : Pager c g (sent r x) Fit take)
    (bearable : ∀ turn ∈ turns, Bearable c turn.failures)
    (more : ∀ turn ∈ turns, turn.token? ≠ none) :
    ∃ m' p', run? (chainDynamics c g) i m (turns.flatMap Turn.moves) = some m' ∧
      Asking c r x i Fit told (pages ++ turns.map (·.page)) (tokenAfter token turns) 0 m' p' ∧
      Did r x (callsFrom r.continuedAt token turns)
        (deeds (chainDynamics c g) i m (turns.flatMap Turn.moves)) := by
  induction turns generalizing m p token pages with
  | nil =>
    refine ⟨m, p, rfl, ?_, rfl, rfl, fun _ _ among => nomatch among⟩
    rw [List.map_nil, List.append_nil]
    exact asking
  | cons turn rest ih =>
    obtain ⟨next, token'⟩ := Option.ne_none_iff_exists'.mp (more turn List.mem_cons_self)
    obtain ⟨m', p', runs, asking', did⟩ :=
      gets_turn asking handles (bearable turn List.mem_cons_self) token'
    obtain ⟨m'', p'', runs', asking'', did'⟩ := ih asking'
      (fun turn among => bearable turn (List.mem_cons_of_mem _ among))
      (fun turn among => more turn (List.mem_cons_of_mem _ among))
    have split : (turn :: rest).flatMap Turn.moves = turn.moves ++ rest.flatMap Turn.moves := rfl
    refine ⟨m'', p'', ?_, ?_, ?_⟩
    · rw [split, run_append runs]
      exact runs'
    · rw [List.map_cons, List.append_cons]
      exact asking''
    · rw [split, deeds_append runs]
      exact did_append did did'

/-! ## The whole list -/

/-- The moves by which a new fiber gets some pages. -/
def readMoves (turns : List Turn) : List (Move Answer) := .run :: turns.flatMap Turn.moves

/-- A new fiber that is to list pages, with nothing of an earlier exchange. -/
structure Ready (r : Request) (options : ListOptions) (x : Exchange ε (Step ε)) (i : FiberId)
    (start : ChainMachine ε) (p : Packet) : Prop where
  isList : r.operation = .list options
  begins : start.fiber? i = some ⟨p, .created (.request r x)⟩
  noToken : p.continueToken? = none
  noBudget : p.budget = none
  goesOn : start.world.isStopping = false

/-- The call for the page after some turns. A list starts where its own options
say, which is at the beginning if they say nothing. -/
private theorem page_asked {turns : List Turn} (isList : r.operation = .list options)
    (more : ∀ turn ∈ turns, turn.token? ≠ none) :
    r.continuedAt (tokenAfter none turns) =
      pageCall r options (tokenAfter options.continueToken turns) := by
  have asked (token : String) : r.continuedAt (some token) = pageCall r options (some token) := by
    simp only [Request.continuedAt, isList, pageCall]
  induction turns with
  | nil =>
    obtain ⟨_, _, _⟩ := r
    obtain rfl := isList
    rfl
  | cons turn rest ih =>
    cases rest with
    | nil =>
      obtain ⟨token, points⟩ := Option.ne_none_iff_exists'.mp (more turn List.mem_cons_self)
      rw [tokenAfter, tokenAfter, tokenAfter, tokenAfter, points]
      exact asked token
    | cons => exact ih fun other among => more other (List.mem_cons_of_mem _ among)

private theorem calls_asked {turns : List Turn} (isList : r.operation = .list options)
    (more : ∀ turn ∈ turns.dropLast, turn.token? ≠ none) :
    callsFrom r.continuedAt none turns =
      callsFrom (pageCall r options) options.continueToken turns := by
  induction turns using List.reverseRecOn with
  | nil => rfl
  | append_singleton earlier last ih =>
    rw [List.dropLast_concat] at more
    have before := ih fun turn among => more turn (List.dropLast_subset _ among)
    have asked := page_asked isList more
    rw [calls_from_append, calls_from_append, before]
    simp only [callsFrom, Turn.calls, asked]

private theorem reads {turns : List Turn} (ready : Ready r options x i start p)
    (handles : Pager c g (sent r x) Fit take) (fits : Fit [] p start.world)
    (bearable : ∀ turn ∈ turns, Bearable c turn.failures)
    (more : ∀ turn ∈ turns, turn.token? ≠ none) :
    ∃ m' p', run? (chainDynamics c g) i start (readMoves turns) = some m' ∧
      Asking c r x i Fit (tellings start.world) (turns.map (·.page)) (tokenAfter none turns) 0
        m' p' ∧
      Did r x (callsFrom r.continuedAt none turns)
        (deeds (chainDynamics c g) i start (readMoves turns)) := by
  obtain ⟨begun, moves, stands, world⟩ := start_moves (d := chainDynamics c g) ready.begins
  have aside : Aside p start.world p begun.world := by
    rw [world]
    exact Aside.count
  have asking : Asking c r x i Fit (tellings start.world) [] none 0 begun p := by
    refine ⟨.inl stands, ready.noToken, ?_, ?_, ?_, ?_⟩
    · simp only [Spent, ready.noBudget]
    · exact aside.stopping.trans ready.goesOn
    · exact handles.aside _ _ _ _ _ fits aside
    · rw [tellings, aside.notes]
      rfl
  obtain ⟨m', p', runs, asking', did⟩ := gets_turns asking handles bearable more
  have one : run? (chainDynamics c g) i start [.run] = some begun := by
    simp [run?, moves]
  have quiet : deeds (chainDynamics c g) i start [.run] = [] := by
    simp [deeds, deed?, ready.begins, moves]
  have split : readMoves turns = [.run] ++ turns.flatMap Turn.moves := rfl
  refine ⟨m', p', ?_, asking', ?_⟩
  · rw [split, run_append one]
    exact runs
  · rw [split, deeds_append one, quiet]
    exact did

/-- Some pages are all there was, and they are drained. -/
structure Drained (c : Conduct) (g : GuestRules ε) (r : Request) (options : ListOptions)
    (x : Exchange ε (Step ε)) (i : FiberId) (start : ChainMachine ε)
    (Fit : List ObjectPage → Packet → World → Prop) (turns : List Turn) (after : ChainMachine ε)
    (p : Packet) : Prop where
  course : Course (chainDynamics c g) i start (readMoves turns) after
  /-- The list is asked for from where its own options say, which is the beginning if they say
  nothing, and then from where each page says; a failed call is repeated as it was. -/
  did : Did r x (callsFrom (pageCall r options) options.continueToken turns)
    (deeds (chainDynamics c g) i start (readMoves turns))
  handed : HandedOver x.next i after p
  fits : Fit (turns.map (·.page)) p after.world
  told : tellings after.world = tellings start.world
  /-- What follows the list has not run before, and is what runs now. -/
  once : ∀ step, x.next = some step →
    (∀ q, .applied step q ∉ deeds (chainDynamics c g) i start (readMoves turns)) ∧
      deeds (chainDynamics c g) i after [.run] = [.applied step p]

/-- One page could not be got, which is told, and nothing follows. -/
structure GivenUp (c : Conduct) (g : GuestRules ε) (r : Request) (options : ListOptions)
    (x : Exchange ε (Step ε)) (i : FiberId) (start : ChainMachine ε)
    (Fit : List ObjectPage → Packet → World → Prop) (turns : List Turn)
    (borne : List CallFailure) (final : CallFailure) (after : ChainMachine ε) (p : Packet) :
    Prop where
  course : Course (chainDynamics c g) i start
    (readMoves turns ++ bear borne ++ attempt (.failure final)) after
  did : Did r x
    (callsFrom (pageCall r options) options.continueToken turns ++
      (borne ++ [final]).map
        (fun f => (pageCall r options (tokenAfter options.continueToken turns), .failure f)))
    (deeds (chainDynamics c g) i start (readMoves turns ++ bear borne ++ attempt (.failure final)))
  ended : after.fiber? i = some ⟨p, .ended (some final.toFiberError)⟩
  told : Told Fit x.sink final (turns.map (·.page)) (tellings start.world) after.world
  never : ∀ step, x.next = some step → ∀ q, .applied step q ∉
    deeds (chainDynamics c g) i start (readMoves turns ++ bear borne ++ attempt (.failure final))

/-- Every list is drained whose failures the budget can bear, and every list is
given up on that fails once more. The budget counts with 32 bits. -/
structure Drains (c : Conduct) (g : GuestRules ε) (r : Request) (options : ListOptions)
    (x : Exchange ε (Step ε)) (i : FiberId) (start : ChainMachine ε)
    (Fit : List ObjectPage → Packet → World → Prop) : Prop where
  drained : ∀ earlier last,
    (∀ turn ∈ earlier ++ [last], Bearable c turn.failures) →
    (∀ turn ∈ earlier, turn.token? ≠ none) → last.token? = none →
    ∃ after p, Drained c g r options x i start Fit (earlier ++ [last]) after p
  givenUp : ∀ turns borne final, c.tuning.maxRetries.toNat + 1 < UInt32.size →
    (∀ turn ∈ turns, Bearable c turn.failures) → (∀ turn ∈ turns, turn.token? ≠ none) →
    (∀ f ∈ borne ++ [final], isRetryable f.statusCode = true) →
    borne.length = c.tuning.maxRetries.toNat →
    ∃ after p, GivenUp c g r options x i start Fit turns borne final after p

theorem calm_attempt (response : Response) : Calm (attempt response) := by
  simp [Calm, attempt]

private theorem calm_bear (failures : List CallFailure) : Calm (bear failures) := by
  simp [Calm, bear, attempt]

private theorem calm_read (turns : List Turn) : Calm (readMoves turns) := by
  intro message among
  rcases List.mem_cons.mp among with same | among
  · cases same
  · obtain ⟨turn, _, among⟩ := List.mem_flatMap.mp among
    exact calm_append (calm_bear _) (calm_attempt _) message among

private theorem next_smaller {step : Step ε} (next : x.next = some step) :
    sizeOf step < sizeOf x := by
  obtain ⟨_, _, _, _, _, _, _⟩ := x
  simp only at next
  subst next
  simp only [Exchange.mk.sizeOf_spec, Option.some.sizeOf_spec]
  omega

/-- What follows an exchange is none of its own steps. -/
theorem next_no_part {step : Step ε} (next : x.next = some step) : ¬ Part r x step := by
  intro part
  have next' : (sent r x).next = some step := next
  cases part with
  | first =>
    have smaller := next_smaller next
    simp only [Step.request.sizeOf_spec] at smaller
    omega
  | again =>
    have smaller := next_smaller next'
    simp only [Step.request.sizeOf_spec] at smaller
    omega
  | response =>
    have smaller := next_smaller next'
    simp only [Step.response.sizeOf_spec] at smaller
    omega

/-- A handler that takes in pages and leaves failures to the budget drains
every list. -/
private theorem pager_drains (ready : Ready r options x i start p)
    (handles : Pager c g (sent r x) Fit take) (fits : Fit [] p start.world) :
    Drains c g r options x i start Fit := by
  refine ⟨?_, ?_⟩
  · intro earlier last bearable more done
    have bearableEarlier : ∀ turn ∈ earlier, Bearable c turn.failures :=
      fun turn among => bearable turn (List.mem_append_left _ among)
    have bearableLast := bearable last (List.mem_append_right _ List.mem_cons_self)
    have few : 0 + last.failures.length ≤ c.tuning.maxRetries.toNat := by
      rw [Nat.zero_add]
      exact bearableLast.few
    obtain ⟨_, _, runs, asking, did⟩ := reads ready handles fits bearableEarlier more
    obtain ⟨_, _, runs', asking', did'⟩ := bears asking handles bearableLast.retryable few
    rw [← token_told] at done
    obtain ⟨after, p', runs'', handed, fits', told, did''⟩ := gets_last asking' handles done
    have split : readMoves (earlier ++ [last]) =
        readMoves earlier ++ (bear last.failures ++ attempt (.list last.page)) := by
      simp [readMoves, Turn.moves]
    have ran : run? (chainDynamics c g) i start (readMoves (earlier ++ [last])) = some after := by
      rw [split, run_append runs, run_append runs']
      exact runs''
    have pointed : ∀ turn ∈ (earlier ++ [last]).dropLast, turn.token? ≠ none := by
      rw [List.dropLast_concat]
      exact more
    have does : Did r x (callsFrom (pageCall r options) options.continueToken (earlier ++ [last]))
        (deeds (chainDynamics c g) i start (readMoves (earlier ++ [last]))) := by
      rw [← calls_asked ready.isList pointed, split, deeds_append runs, deeds_append runs',
        calls_from_append]
      have whole : callsFrom r.continuedAt (tokenAfter none earlier) [last] =
          last.calls r.continuedAt (tokenAfter none earlier) := List.append_nil _
      rw [whole]
      exact did_append did (did_append did' did'')
    refine ⟨after, p', course_of_run ran (calm_read _), does, handed, ?_, told, ?_⟩
    · rw [List.map_append]
      exact fits'
    · intro step next
      refine ⟨fun q among => next_no_part next (does.only step q among), ?_⟩
      have stands := handed.stands
      rw [next] at stands
      have stands : after.fiber? i = some ⟨p', .running (some step)⟩ := stands
      simp only [deeds, deed?, stands]
      split <;> rfl
  · intro turns borne final within bearable more retryable spent
    obtain ⟨_, _, runs, asking, did⟩ := reads ready handles fits bearable more
    have all : 0 + borne.length = c.tuning.maxRetries.toNat := by
      rw [Nat.zero_add]
      exact spent
    obtain ⟨_, _, runs', asking', did'⟩ := bears asking handles
      (fun f among => retryable f (List.mem_append_left _ among)) (Nat.le_of_eq all)
    have within' : 0 + borne.length + 1 < UInt32.size := by
      rw [all]
      exact within
    have retryableFinal := retryable final (List.mem_append_right _ List.mem_cons_self)
    obtain ⟨after, p', runs'', ended, _, _, told, did'', _⟩ :=
      gives_up asking' handles.patient (.spent retryableFinal all within')
    rw [retryable_heard retryableFinal] at told
    have ran : run? (chainDynamics c g) i start
        (readMoves turns ++ bear borne ++ attempt (.failure final)) = some after := by
      rw [List.append_assoc, run_append runs, run_append runs']
      exact runs''
    have pointed : ∀ turn ∈ turns.dropLast, turn.token? ≠ none := fun turn among =>
      more turn (List.dropLast_subset _ among)
    have does : Did r x
        (callsFrom (pageCall r options) options.continueToken turns ++ (borne ++ [final]).map
          (fun f => (pageCall r options (tokenAfter options.continueToken turns), .failure f)))
        (deeds (chainDynamics c g) i start
          (readMoves turns ++ bear borne ++ attempt (.failure final))) := by
      rw [← calls_asked ready.isList pointed, ← page_asked ready.isList more, List.append_assoc,
        deeds_append runs, deeds_append runs', List.map_append]
      exact did_append did (did_append did' did'')
    have calm := calm_append (calm_append (calm_read turns) (calm_bear borne))
      (calm_attempt (.failure final))
    exact ⟨after, p', course_of_run ran calm, does, ended, told,
      fun step next q among => next_no_part next (does.only step q among)⟩

/-! ## Listing pods -/

/-- An object is a pod that says of itself that it runs a server. -/
def IsPodOf (o : ApiObject) (server : String) (pod : Pod) : Prop :=
  Pod.ofObject? o = some pod ∧ pod.metadata.label? Label.serverName = some server

/-- What is stored under a server after some objects have been listed: the last of them that is a
pod of the server, or what was stored before if there is none. -/
inductive Stored (before : Option Pod) (items : List ApiObject) (server : String) :
    Option Pod → Prop where
  | listed (earlier later : List ApiObject) (o : ApiObject) (pod : Pod)
      (split : items = earlier ++ o :: later) (own : IsPodOf o server pod)
      (last : ∀ other ∈ later, ∀ pod', ¬ IsPodOf other server pod') :
      Stored before items server (some pod)
  | kept (nobody : ∀ o ∈ items, ∀ pod, ¬ IsPodOf o server pod) :
      Stored before items server before

/-- The pods of some pages are stored under their servers, the later ones over
the earlier ones; all other servers are as they were. -/
structure Gathered (id : PresenceId) (before : Presence) (pages : List ObjectPage) (p : Packet)
    (w : World) : Prop where
  works : p.presence = some id
  known : ∃ servers, w.presence? id = some { before with servers } ∧ ∀ server,
    Stored (before.pod? server) (pages.flatMap (·.items)) server (servers.get? server)

private theorem stored_on {before held held' : Option Pod} {items items' : List ApiObject}
    {server : String} (stored : Stored before items server held)
    (stored' : Stored held items' server held') : Stored before (items ++ items') server held' := by
  cases stored' with
  | listed earlier later o pod split own last =>
    refine .listed (items ++ earlier) later o pod ?_ own last
    rw [split, List.append_assoc]
  | kept nobody =>
    cases stored with
    | listed earlier later o pod split own last =>
      refine .listed earlier (later ++ items') o pod ?_ own fun other among => ?_
      · rw [split, List.append_assoc, List.cons_append]
      · exact (List.mem_append.mp among).elim (last other) (nobody other)
    | kept nobody' =>
      exact .kept fun o among => (List.mem_append.mp among).elim (nobody' o) (nobody o)

/-- The pods of some objects are put under their servers one after another. -/
private theorem stored_in_turn {read : ApiObject → Option (String × Pod)}
    (reads : ∀ o server pod, read o = some (server, pod) ↔ IsPodOf o server pod)
    (items : List ApiObject) (servers : NameMap Pod) (server : String) :
    Stored (servers.get? server) items server
      (((items.filterMap read).foldl (fun m e => m.insert e.1 e.2) servers).get? server) := by
  induction items generalizing servers with
  | nil => exact .kept fun _ among => nomatch among
  | cons o rest ih =>
    show Stored _ ([o] ++ rest) _ _
    cases found : read o with
    | none =>
      rw [List.filterMap_cons_none found]
      refine stored_on (.kept fun other among pod own => ?_) (ih servers)
      obtain rfl := List.mem_singleton.mp among
      exact nomatch found.symm.trans ((reads other server pod).mpr own)
    | some entry =>
      obtain ⟨owner, pod⟩ := entry
      rw [List.filterMap_cons_some found, List.foldl_cons]
      refine stored_on ?_ (ih (servers.insert owner pod))
      rw [NameMap.get?_insert]
      split
      · rename_i same
        subst same
        exact .listed [] [] o pod rfl ((reads o server pod).mp found) fun _ among => nomatch among
      · rename_i other
        refine .kept fun o' among pod' own => ?_
        obtain rfl := List.mem_singleton.mp among
        have same := found.symm.trans ((reads o' server pod').mpr own)
        exact other (congrArg Prod.fst (Option.some.inj same)).symm

private theorem page_stored (page : ObjectPage) (servers : NameMap Pod) (server : String) :
    Stored (servers.get? server) page.items server
      (((podsOnPage (.list page)).foldl (fun m e => m.insert e.1 e.2) servers).get? server) := by
  refine stored_in_turn (fun o server pod => ?_) page.items servers server
  simp [IsPodOf, Pod.serverName?, Option.bind_eq_some_iff]

/-- Takes a page of pods in. -/
def takePods (page : ObjectPage) (p : Packet) (w : World) : Packet × World :=
  (p, (podsOnPage (.list page)).foldl
    (fun w (server, pod) => w.modifyPresenceOf p (·.setPod server pod)) w)

private theorem take_pods_feed (page : ObjectPage) (p : Packet) (w : World) :
    ∃ feed, (takePods page p w).2 = { w with feed } := by
  unfold takePods
  generalize podsOnPage (.list page) = entries
  induction entries generalizing w with
  | nil => exact ⟨w.feed, rfl⟩
  | cons entry rest ih =>
    obtain ⟨feed, same⟩ := ih (w.modifyPresenceOf p (·.setPod entry.1 entry.2))
    refine ⟨feed, same.trans ?_⟩
    unfold World.modifyPresenceOf
    split <;> rfl

private theorem pods_set {id : PresenceId} {w : World} {servers : NameMap Pod}
    {before : Presence} (works : p.presence = some id) (entries : List (String × Pod))
    (known : w.presence? id = some { before with servers }) :
    (entries.foldl (fun w (server, pod) => w.modifyPresenceOf p (·.setPod server pod))
        w).presence? id =
      some { before with servers := entries.foldl (fun m e => m.insert e.1 e.2) servers } := by
  induction entries generalizing w servers with
  | nil => exact known
  | cons entry rest ih =>
    refine ih ?_
    rw [Worlds.presence_modify_of works, known]
    rfl

/-- The listing of pods is a handler that takes in one page after the other. -/
private theorem pods_listed_pages (x : Exchange ε (Step ε)) (handler : x.handler = .podsListed)
    (id : PresenceId) (before : Presence) :
    Pager c g (sent r x) (Gathered id before) takePods := by
  have handler : (sent r x).handler = .podsListed := handler
  refine ⟨?_, ?_, ?_, ?_, fun _ _ _ _ _ => rfl, fun _ _ _ => rfl, ?_, ?_, ?_⟩
  · intro pages page p w gathered
    obtain ⟨servers, known, _⟩ := gathered.known
    have here : w.presenceOf? p = some { before with servers } := by
      rw [World.presenceOf?, gathered.works]
      exact known
    simp only [Step.judge, handler, Response.isFailure, Bool.false_eq_true, ↓reduceIte,
      podsListed, here]
    rfl
  · intro pages f p w _
    simp only [Step.judge, handler, Response.isFailure, ↓reduceIte]
  · intro pages page p w gathered
    obtain ⟨servers, known, stored⟩ := gathered.known
    refine ⟨gathered.works, _, pods_set gathered.works _ known, fun server => ?_⟩
    have both : (pages ++ [page]).flatMap (·.items) = pages.flatMap (·.items) ++ page.items := by
      simp
    rw [both]
    exact stored_on (stored server) (page_stored page servers server)
  · intro pages p w p' w' gathered aside
    refine ⟨aside.presence.trans gathered.works, ?_⟩
    rw [aside.known]
    exact gathered.known
  · intro page p w
    obtain ⟨feed, same⟩ := take_pods_feed page p w
    rw [same]
  · intro page p w
    obtain ⟨feed, same⟩ := take_pods_feed page p w
    rw [same]
  · intro page p w
    obtain ⟨feed, same⟩ := take_pods_feed page p w
    rw [same]
    rfl

/-- A list is drained page after page by every handler that takes in pages and
leaves failures to the budget; by the listing of pods, every pod that is listed
ends up under its server. -/
theorem pages_are_drained (ready : Ready r options x i start p) :
    (∀ Fit take, Pager c g (sent r x) Fit take → Fit [] p start.world →
      Drains c g r options x i start Fit) ∧
    (∀ id before, x.handler = .podsListed → p.presence = some id →
      start.world.presence? id = some before →
      Drains c g r options x i start (Gathered id before)) := by
  refine ⟨fun Fit take handles fits => pager_drains ready handles fits, ?_⟩
  intro id before handler works known
  have fits : Gathered id before [] p start.world :=
    ⟨works, before.servers, known, fun server => .kept fun _ among => nomatch among⟩
  exact pager_drains ready (pods_listed_pages x handler id before) fits

def homes : Presence := { namespaceName := "ns", domainUid := "d" }

def homesOptions : ListOptions := { labelSelector := some "weblogic.domainUID=d" }

def homesRequest : Request :=
  { resource := .pod, namespaceName := some "ns", operation := .list homesOptions }

def listing : Exchange Empty (Step Empty) :=
  { id := .listPods, request := none, handler := .podsListed, sink := some (.recorder true),
    next := some .idle }

def listingStart : ChainMachine Empty :=
  { fibers := [⟨{ presence := some 0 }, .created (.request homesRequest listing)⟩]
    world := { feed := { registry := { presences := [homes] } } } }

def oneRetry : Conduct := { tuning := { maxRetries := 1 } }

def noAnswer : CallFailure := .timeout homesRequest (.ofSeconds 30)

def podNamed (server : String) : ApiObject :=
  { metadata :=
      { name := some server
        labels := some (({} : NameMap String).insert Label.serverName server) } }

/-- Two pages, the second of which comes only when it is asked for again. -/
theorem two_pages_are_drained :
    (∃ after p, Drained oneRetry .nobody homesRequest homesOptions listing 0 listingStart
      (Gathered 0 homes) [⟨[], { continueToken := some "t1", items := [podNamed "ms1"] }⟩,
        ⟨[noAnswer], { items := [podNamed "ms2"] }⟩] after p) ∧
    ∃ after p, GivenUp oneRetry .nobody homesRequest homesOptions listing 0 listingStart
      (Gathered 0 homes) [⟨[], { continueToken := some "t1", items := [podNamed "ms1"] }⟩]
      [noAnswer] noAnswer after p := by
  have ready : Ready homesRequest homesOptions listing 0 listingStart { presence := some 0 } :=
    ⟨rfl, rfl, rfl, rfl, rfl⟩
  have drains := (pages_are_drained (c := oneRetry) (g := .nobody) ready).2 0 homes rfl rfl rfl
  have calm : Bearable oneRetry [] := by
    refine ⟨?_, by decide⟩
    intro f among
    cases among
  have retryable : ∀ f ∈ [noAnswer], isRetryable f.statusCode = true := by
    intro f among
    cases List.mem_singleton.mp among
    rfl
  refine ⟨drains.drained [_] _ ?_ ?_ rfl, drains.givenUp [_] [noAnswer] noAnswer ?_ ?_ ?_ ?_ rfl⟩
  · intro turn among
    rcases List.mem_cons.mp among with rfl | among
    · exact calm
    · cases List.mem_singleton.mp among
      exact ⟨retryable, by decide⟩
  · intro turn among
    cases List.mem_singleton.mp among
    exact Option.some_ne_none "t1"
  · decide
  · intro turn among
    cases List.mem_singleton.mp among
    exact calm
  · intro turn among
    cases List.mem_singleton.mp among
    exact Option.some_ne_none "t1"
  · intro f among
    rcases List.mem_cons.mp among with rfl | among
    · rfl
    · cases List.mem_singleton.mp among
      rfl

end DomainSteward.Paging
