import DomainSteward.Proofs.Exchange.Paging

/-! One exchange from its first call to its end. The same request is sent until
the outcome is no failure worth repeating or the budget is spent, with the waits
of the tuning in between. Then the answer goes to the handler or the failure to
the sink, once, and nothing of the exchange stays in the packet. -/
namespace DomainSteward.Attempts
open Machine Moves Solo Packets Exchanges Paging

variable {ε : Type}

/-- Whether an outcome is a failure worth repeating. -/
def isPassing (outcome : Response) : Bool :=
  outcome.failure?.any (fun f => isRetryable f.statusCode)

/-- How many outcomes in a row are failures worth repeating, from the first one
on; no more are looked at than the budget has retries. -/
def retries (budget : Nat) (outcomes : Nat → Response) : Nat :=
  (List.range budget).findIdx (fun j => !isPassing (outcomes j))

/-- A handler that leaves failures to the retry budget and goes on with the next
step after a success, of which it makes what `take` says. It needs `Fit` of the
packet and the world, which must not depend on what exchanges keep for
themselves. -/
structure Simple (c : Conduct) (g : GuestRules ε) (y : Exchange ε (Step ε))
    (Fit : Packet → World → Prop) (take : Response → Packet → World → Packet × World) : Prop where
  failure : ∀ f p w, Fit p w → Step.judge c g y (.failure f) p w = y.retryOrEnd c (.failure f) p w
  success : ∀ response p w, response.isFailure = false → Fit p w →
    Step.judge c g y response p w =
      .of (.proceed (.goOn y.next)) (take response p w).1 (take response p w).2
  aside : ∀ p w p' w', Fit p w → Aside p w p' w' → Fit p' w'
  /-- It puts no response back. -/
  gone : ∀ response p w, p.value? Packet.responseKey = none →
    (take response p w).1.value? Packet.responseKey = none
  /-- It tells nobody of failures. -/
  quiet : ∀ response p w, tellings (take response p w).2 = tellings w

/-- The moves by which a fiber makes a call as often again. -/
def repeats (outcomes : Nat → Response) (k : Nat) : List (Move Answer) :=
  (List.range k).flatMap (fun j => attempt (outcomes j) ++ [.wake])

/-- The moves of an exchange with so many retries. -/
def exchangeMoves (outcomes : Nat → Response) (k : Nat) : List (Move Answer) :=
  repeats outcomes k ++ attempt (outcomes k)

/-- Calls that fail, and the wait after each of them. -/
def repeatSigns (c : Conduct) (r : Request) (outcomes : Nat → Response) (k : Nat) :
    List (Sign (Pending ε) Answer) :=
  (List.range k).flatMap (fun j =>
    [.answered (.call r) (.response (outcomes j)), .slept (c.tuning.backoff (.ofNat (j + 1)))])

/-- What a sink is told of the last outcome: nothing of a success, nor of an
object that is gone or has changed. -/
def telling? (sink : Option FailureSink) (outcome : Response) : Option Note := do
  let f ← outcome.failure?
  if f.statusCode = some 404 ∨ f.statusCode = some 409 then none else sink.map (tellingOf · f)

/-- A fiber that is about to make a call, without a retry budget. -/
structure Begins (r : Request) (x : Exchange ε (Step ε)) (i : FiberId) (start : ChainMachine ε)
    (p : Packet) : Prop where
  stands : start.fiber? i = some ⟨p, .running (some (.request r x))⟩
  noBudget : p.budget = none
  goesOn : start.world.isStopping = false

/-- What comes of the last outcome; `p` is the packet before the exchange. Up to
then the exchange has kept to itself. -/
inductive Comes (x : Exchange ε (Step ε)) (take : Response → Packet → World → Packet × World)
    (i : FiberId) (start : ChainMachine ε) (p : Packet) (after : ChainMachine ε) (p' : Packet) :
    Response → Prop where
  /-- The handler has taken it, and what follows the exchange is about to run. -/
  | taken (response : Response) (success : response.isFailure = false)
      (stands : after.fiber? i = some ⟨p', standsAt x.next⟩)
      (once : ∃ q w, Aside p start.world q w ∧
        Aside (take response q w).1 (take response q w).2 p' after.world) :
      Comes x take i start p after p' response
  /-- The fiber has ended with it. -/
  | ends (f : CallFailure) (ended : after.fiber? i = some ⟨p', .ended (some f.toFiberError)⟩)
      (once : ∃ q w, Aside p start.world q w ∧
        Aside q (toldOf (heard x.sink f) f w) q after.world) :
      Comes x take i start p after p' (.failure f)

/-- An exchange is over after so many retries. -/
structure Settled (c : Conduct) (g : GuestRules ε) (r : Request) (x : Exchange ε (Step ε))
    (take : Response → Packet → World → Packet × World) (i : FiberId) (start : ChainMachine ε)
    (p : Packet) (outcomes : Nat → Response) (k : Nat) (after : ChainMachine ε) (p' : Packet) :
    Prop where
  course : Course (chainDynamics c g) i start (exchangeMoves outcomes k) after
  /-- The same request is sent each time, with the waits of the tuning between. -/
  signs : signs (chainDynamics c g) i start (exchangeMoves outcomes k) =
    repeatSigns c r outcomes k ++ [.answered (.call r) (.response (outcomes k))]
  /-- Every outcome is handed over once, in order, and no other step is applied. -/
  did : Did r x ((List.range (k + 1)).map (fun j => (r, outcomes j)))
    (deeds (chainDynamics c g) i start (exchangeMoves outcomes k))
  /-- The handler is given a success only at the end, if at all. -/
  successes : (handed (deeds (chainDynamics c g) i start (exchangeMoves outcomes k))).filter
    (!·.isFailure) = [outcomes k].filter (!·.isFailure)
  comes : Comes x take i start p after p' (outcomes k)
  told : tellings after.world = (telling? x.sink (outcomes k)).toList ++ tellings start.world
  values : ∀ key ∈ exchangeKeys, p'.value? key = none
  budget : p'.budget = none

variable {c : Conduct} {g : GuestRules ε} {r : Request} {x : Exchange ε (Step ε)}
  {Fit : Packet → World → Prop} {take : Response → Packet → World → Packet × World} {i : FiberId}
  {start m : ChainMachine ε} {p q : Packet} {outcomes : Nat → Response} {k n : Nat}
  {outcome : Response} {f : CallFailure}

/-! ## Outcomes -/

private theorem passing_failure (passing : isPassing outcome = true) :
    ∃ f, outcome = .failure f ∧ isRetryable f.statusCode = true := by
  cases outcome with
  | failure f => exact ⟨f, rfl, passing⟩
  | object | list | status => cases passing

theorem retries_within (budget : Nat) (outcomes : Nat → Response) :
    retries budget outcomes ≤ budget := by
  have within : retries budget outcomes ≤ (List.range budget).length := List.findIdx_le_length
  rwa [List.length_range] at within

/-- Whatever is tried again was worth it. -/
theorem retries_passing {j : Nat} (before : j < retries k outcomes) :
    isPassing (outcomes j) = true := by
  have passing := List.not_of_lt_findIdx before
  simpa using passing

/-- The last outcome is not worth repeating, unless the budget is spent. -/
theorem retries_last (left : retries k outcomes < k) :
    isPassing (outcomes (retries k outcomes)) = false := by
  have within : (List.range k).findIdx (fun j => !isPassing (outcomes j)) <
      (List.range k).length := by
    rw [List.length_range]
    exact left
  have last := List.findIdx_getElem (w := within)
  simpa [retries] using last

private theorem telling_heard (sink : Option FailureSink) (f : CallFailure) :
    telling? sink (.failure f) = (heard sink f).map (tellingOf · f) := by
  have benign : f.isBenign = decide (f.statusCode = some 404 ∨ f.statusCode = some 409) :=
    (Bool.decide_or ..).symm
  by_cases race : f.statusCode = some 404 ∨ f.statusCode = some 409
  · simp [telling?, Response.failure?, heard, benign, race]
  · simp [telling?, Response.failure?, heard, benign, race]

/-! ## The retries -/

private theorem patient (handles : Simple c g (sent r x) Fit take) (fits : Fit p start.world) :
    Patient c g (sent r x) (fun _ => Aside p start.world) :=
  ⟨fun _ f q w kept => handles.failure f q w (handles.aside _ _ _ _ fits kept),
    fun _ _ _ _ _ kept => kept.trans⟩

private theorem continued_same (single : ∀ options, r.operation ≠ .list options)
    (token : Option String) : r.continuedAt token = r := by
  unfold Request.continuedAt
  split
  · rename_i options _ operation
    exact absurd operation (single options)
  · rfl

/-- Where the fiber stands after so many retries, and what it has done. -/
private structure Repeated (c : Conduct) (g : GuestRules ε) (r : Request)
    (x : Exchange ε (Step ε)) (i : FiberId) (start : ChainMachine ε) (p : Packet)
    (outcomes : Nat → Response) (k : Nat) (m : ChainMachine ε) (q : Packet) : Prop where
  runs : run? (chainDynamics c g) i start (repeats outcomes k) = some m
  asking : Asking c r x i (fun _ => Aside p start.world) (tellings start.world) []
    p.continueToken? k m q
  did : Did r x ((List.range k).map (fun j => (r, outcomes j)))
    (deeds (chainDynamics c g) i start (repeats outcomes k))
  signs : signs (chainDynamics c g) i start (repeats outcomes k) = repeatSigns c r outcomes k

private theorem repeated (begins : Begins r x i start p)
    (single : ∀ options, r.operation ≠ .list options)
    (patient : Patient c g (sent r x) (fun _ => Aside p start.world))
    (passing : ∀ j < k, isPassing (outcomes j) = true) (few : k ≤ c.tuning.maxRetries.toNat) :
    ∃ m q, Repeated c g r x i start p outcomes k m q := by
  induction k with
  | zero =>
    have spent : Spent c p start.world 0 := by simp only [Spent, begins.noBudget]
    exact ⟨start, p, rfl, ⟨.inl begins.stands, rfl, spent, begins.goesOn, .refl, rfl⟩,
      ⟨rfl, rfl, fun _ _ among => absurd among List.not_mem_nil⟩, rfl⟩
  | succ k ih =>
    obtain ⟨m, q, sofar⟩ :=
      ih (fun j before => passing j (Nat.lt_succ_of_lt before)) (Nat.le_of_succ_le few)
    obtain ⟨f, fails, retryable⟩ := passing_failure (passing k (Nat.lt_succ_self k))
    obtain ⟨m', q', runs, asking, did, shown⟩ :=
      bears_failure sofar.asking patient retryable few
    rw [← fails] at runs did shown
    rw [continued_same single] at did shown
    have split : repeats outcomes (k + 1) =
        repeats outcomes k ++ (attempt (outcomes k) ++ [.wake]) := by
      simp [repeats, List.range_succ]
    refine ⟨m', q', ?_, asking, ?_, ?_⟩
    · rw [split, run_append sofar.runs]
      exact runs
    · rw [split, deeds_append sofar.runs, List.range_succ, List.map_append]
      exact did_append sofar.did did
    · have signs_split : signs (chainDynamics c g) i start (repeats outcomes (k + 1)) =
          repeatSigns c r outcomes k ++ signs (chainDynamics c g) i m
            (attempt (outcomes k) ++ [.wake]) := by
        rw [split, ← sofar.signs]
        exact seen_append sofar.runs
      rw [signs_split, shown]
      simp [repeatSigns, List.range_succ]

private theorem calm_moves (outcomes : Nat → Response) (k : Nat) :
    Calm (exchangeMoves outcomes k) := by
  refine calm_append ?_ (calm_attempt _)
  intro message among
  obtain ⟨j, _, among⟩ := List.mem_flatMap.mp among
  simp [attempt] at among

/-! ## The end -/

/-- What a fiber did is one more outcome than it did retries. -/
private theorem successes_last (passing : ∀ j < k, isPassing (outcomes j) = true) :
    ((List.range (k + 1)).map outcomes).filter (!·.isFailure) =
      [outcomes k].filter (!·.isFailure) := by
  have none : ((List.range k).map outcomes).filter (!·.isFailure) = [] := by
    rw [List.filter_eq_nil_iff]
    intro outcome among
    obtain ⟨j, before, rfl⟩ := List.mem_map.mp among
    obtain ⟨f, fails, _⟩ := passing_failure (passing j (List.mem_range.mp before))
    rw [fails]
    exact fun success => nomatch success
  rw [List.range_succ, List.map_append, List.filter_append, none]
  rfl

/-- What the attempt does after which the exchange is over. -/
private structure Closes (c : Conduct) (g : GuestRules ε) (r : Request) (x : Exchange ε (Step ε))
    (take : Response → Packet → World → Packet × World) (i : FiberId) (start : ChainMachine ε)
    (p : Packet) (outcome : Response) (m after : ChainMachine ε) (p' : Packet) : Prop where
  runs : run? (chainDynamics c g) i m (attempt outcome) = some after
  did : Did r x [(r, outcome)] (deeds (chainDynamics c g) i m (attempt outcome))
  signs : signs (chainDynamics c g) i m (attempt outcome) =
    [.answered (.call r) (.response outcome)]
  comes : Comes x take i start p after p' outcome
  told : tellings after.world = (telling? x.sink outcome).toList ++ tellings start.world
  values : ∀ key ∈ exchangeKeys, p'.value? key = none
  budget : p'.budget = none

private theorem closes_failed (single : ∀ options, r.operation ≠ .list options)
    (sofar : Repeated c g r x i start p outcomes k m q)
    (patient : Patient c g (sent r x) (fun _ => Aside p start.world))
    (final : Final c (sent r x) k f) :
    ∃ after p', Closes c g r x take i start p (.failure f) m after p' := by
  obtain ⟨after, p', runs, ended, values, budget, told, did, shown⟩ :=
    gives_up sofar.asking patient final
  rw [continued_same single] at did shown
  obtain ⟨q, w, kept, _, same⟩ := told.before
  refine ⟨after, p', runs, did, shown, .ends f ended ⟨q, w, kept, same⟩, ?_, values, budget⟩
  rw [telling_heard]
  exact told.once

private theorem closes_taken (single : ∀ options, r.operation ≠ .list options)
    (sofar : Repeated c g r x i start p outcomes k m q)
    (handles : Simple c g (sent r x) Fit take) (fits : Fit p start.world)
    (success : outcome.isFailure = false) :
    ∃ after p', Closes c g r x take i start p outcome m after p' := by
  obtain ⟨after, p', runs, handed, ⟨q, w, kept, told, same⟩, did, shown⟩ :=
    goes_on (take outcome) sofar.asking (patient handles fits)
      (fun q w kept => handles.success _ q w success (handles.aside _ _ _ _ fits kept))
      (handles.gone _)
  rw [continued_same single] at did shown
  refine ⟨after, p', runs, did, shown, .taken _ success handed.stands ⟨q, w, kept, same⟩, ?_,
    handed.values, handed.budget⟩
  have nothing : telling? x.sink outcome = none := by
    cases outcome with
    | failure f => cases success
    | object | list | status => rfl
  rw [nothing, tellings, same.notes]
  exact (handles.quiet _ q w).trans told

/-- The exchange is over with the outcome that follows the retries, if a failure
is final there. -/
private theorem settled (begins : Begins r x i start p)
    (single : ∀ options, r.operation ≠ .list options) (handles : Simple c g (sent r x) Fit take)
    (fits : Fit p start.world) (passing : ∀ j < k, isPassing (outcomes j) = true)
    (few : k ≤ c.tuning.maxRetries.toNat)
    (final : ∀ f, outcomes k = .failure f → Final c (sent r x) k f) :
    ∃ after p', Settled c g r x take i start p outcomes k after p' := by
  have patient := patient handles fits
  obtain ⟨m, q, sofar⟩ := repeated begins single patient passing few
  have closes : ∃ after p', Closes c g r x take i start p (outcomes k) m after p' := by
    cases outcome : outcomes k with
    | failure f => exact closes_failed single sofar patient (final f outcome)
    | object | list | status => exact closes_taken single sofar handles fits rfl
  obtain ⟨after, p', closes⟩ := closes
  have ran : run? (chainDynamics c g) i start (exchangeMoves outcomes k) = some after := by
    rw [exchangeMoves, run_append sofar.runs]
    exact closes.runs
  have did : Did r x ((List.range (k + 1)).map (fun j => (r, outcomes j)))
      (deeds (chainDynamics c g) i start (exchangeMoves outcomes k)) := by
    rw [exchangeMoves, deeds_append sofar.runs, List.range_succ, List.map_append]
    exact did_append sofar.did closes.did
  refine ⟨after, p', course_of_run ran (calm_moves outcomes k), ?_, did, ?_, closes.comes,
    closes.told, closes.values, closes.budget⟩
  · rw [← sofar.signs, ← closes.signs]
    exact seen_append sofar.runs
  · rw [did.handed, List.map_map]
    exact successes_last passing

/-! ## Writing a status -/

/-- Holds the domain that was written. -/
def takeWritten (response : Response) (p : Packet) (w : World) : Packet × World :=
  (p, match response.object?.bind Domain.ofObject? with
    | some domain => w.modifyPresenceOf p (·.setDomain domain)
    | none => w)

private theorem status_patched_simple (handler : x.handler = .statusPatched) :
    Simple c g (sent r x) (fun _ _ => True) takeWritten := by
  have handler : (sent r x).handler = .statusPatched := handler
  refine ⟨?_, ?_, fun _ _ _ _ _ _ => trivial, fun _ _ _ gone => gone, ?_⟩
  · intro f p w _
    simp only [Step.judge, handler, Response.isFailure, ↓reduceIte]
  · intro response p w success _
    simp only [Step.judge, handler, success, Bool.false_eq_true, ↓reduceIte]
    rfl
  · intro response p w
    unfold takeWritten World.modifyPresenceOf
    dsimp only
    split
    · split <;> rfl
    · rfl

/-- A request that is no list is sent once more for each failure worth repeating
that its outcomes begin with, as far as the budget goes; then the outcome goes
to the handler or, as a failure, to the sink, and the exchange leaves nothing in
the packet. Retries are counted with 32 bits. -/
theorem exchange_ends_as_its_outcomes_say (begins : Begins r x i start p)
    (single : ∀ options, r.operation ≠ .list options) (plain : x.conflict = none)
    (outcomes : Nat → Response)
    (counted : retries c.tuning.maxRetries.toNat outcomes = c.tuning.maxRetries.toNat →
      isPassing (outcomes c.tuning.maxRetries.toNat) = true →
      c.tuning.maxRetries.toNat + 1 < UInt32.size) :
    (∀ Fit take, Simple c g (sent r x) Fit take → Fit p start.world →
      ∃ after p', Settled c g r x take i start p outcomes
        (retries c.tuning.maxRetries.toNat outcomes) after p') ∧
    (x.handler = .statusPatched →
      ∃ after p', Settled c g r x takeWritten i start p outcomes
        (retries c.tuning.maxRetries.toNat outcomes) after p') := by
  have few := retries_within c.tuning.maxRetries.toNat outcomes
  have final : ∀ f, outcomes (retries c.tuning.maxRetries.toNat outcomes) = .failure f →
      Final c (sent r x) (retries c.tuning.maxRetries.toNat outcomes) f := by
    intro f fails
    by_cases retryable : isRetryable f.statusCode = true
    · have passing : isPassing (outcomes (retries c.tuning.maxRetries.toNat outcomes)) = true := by
        rw [fails]
        exact retryable
      have spent : retries c.tuning.maxRetries.toNat outcomes = c.tuning.maxRetries.toNat := by
        by_contra left
        rw [retries_last (Nat.lt_of_le_of_ne few left)] at passing
        cases passing
      refine .spent retryable spent ?_
      rw [spent] at passing ⊢
      exact counted spent passing
    · exact .refused (by simpa using retryable) plain
  have general : ∀ Fit take, Simple c g (sent r x) Fit take → Fit p start.world →
      ∃ after p', Settled c g r x take i start p outcomes
        (retries c.tuning.maxRetries.toNat outcomes) after p' :=
    fun Fit take handles fits =>
      settled begins single handles fits (fun j before => retries_passing before) few final
  exact ⟨general, fun handler => general _ _ (status_patched_simple handler) trivial⟩

/-! ## A write that is tried again -/

def written : Request :=
  { resource := .domain, namespaceName := some "ns",
    operation := .patchStatus "domain1" { type := .merge, body := .object [] } }

def writing : Exchange Empty (Step Empty) :=
  { id := .patchStatus, request := none, handler := .statusPatched, sink := some (.recorder true),
    next := some .idle }

def writingStart : ChainMachine Empty :=
  { fibers := [⟨{}, .running (some (.request written writing))⟩], world := {} }

/-- The server is busy once, and then answers. -/
def busyOnce : Nat → Response
  | 0 => .failure (.http written { code := 503 })
  | _ => .status { code := 200 }

/-- The server is busy for good. -/
def busy (_ : Nat) : Response := .failure (.http written { code := 503 })

/-- With one retry, one failure is borne and two are told. -/
theorem busy_server_is_asked_again :
    (∃ after p, Settled oneRetry .nobody written writing takeWritten 0 writingStart {} busyOnce 1
      after p) ∧
    ∃ after p, Settled oneRetry .nobody written writing takeWritten 0 writingStart {} busy 1
      after p := by
  have begins : Begins written writing 0 writingStart {} := ⟨rfl, rfl, rfl⟩
  have single : ∀ options, written.operation ≠ .list options := fun _ same => nomatch same
  have counted : oneRetry.tuning.maxRetries.toNat + 1 < UInt32.size := by decide
  exact ⟨(exchange_ends_as_its_outcomes_say (c := oneRetry) (g := .nobody) begins single rfl
      busyOnce (fun _ _ => counted)).2 rfl,
    (exchange_ends_as_its_outcomes_say (c := oneRetry) (g := .nobody) begins single rfl
      busy (fun _ _ => counted)).2 rfl⟩

end DomainSteward.Attempts
