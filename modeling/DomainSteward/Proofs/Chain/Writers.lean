import DomainSteward.Chain.Rules

/-! What the operator's own steps write, whatever they find. Presences, notes,
budgets, publications and the number of rolls are theirs to change. A call that
is made again or rerouted is counted by the verdict on its response and by
nothing else. -/
namespace DomainSteward.Writers

variable {ε : Type} {c : Conduct} {g : GuestRules ε} {p : Packet} {w w' w'' : World}
  {x : Exchange ε (Step ε)} {r : Response}

/-- Between two worlds nothing was written but what is a step's to write. -/
def Written (w w' : World) : Prop :=
  ∃ feed notes budgets publications rolls,
    w' = { w with
      feed, notes, budgets, publications
      metrics := { w.metrics with rollsCompleted := rolls } }

namespace Written

theorem refl : Written w w := ⟨_, _, _, _, _, rfl⟩

theorem trans (first : Written w w') (second : Written w' w'') : Written w w'' := by
  obtain ⟨_, _, _, _, _, rfl⟩ := first
  obtain ⟨_, _, _, _, _, rfl⟩ := second
  exact ⟨_, _, _, _, _, rfl⟩

theorem shutdown (written : Written w w') : w'.shutdown = w.shutdown := by
  obtain ⟨_, _, _, _, _, rfl⟩ := written
  rfl

theorem note (n : Note) : Written w (w.note n) := ⟨_, _, _, _, _, rfl⟩

theorem modifyPresence (id : PresenceId) (f : Presence → Presence) :
    Written w (w.modifyPresence id f) := ⟨_, _, _, _, _, rfl⟩

theorem modifyPresenceOf (p : Packet) (f : Presence → Presence) :
    Written w (w.modifyPresenceOf p f) := by
  unfold World.modifyPresenceOf
  split
  · exact modifyPresence _ f
  · exact refl

theorem newBudget (tuning : RetryTuning) : Written w (w.newBudget tuning).2 :=
  ⟨_, _, _, _, _, rfl⟩

theorem modifyBudget (p : Packet) (f : RetryBudget → RetryBudget) :
    Written w (w.modifyBudget p f) := by
  unfold World.modifyBudget
  split
  · exact ⟨_, _, _, _, _, rfl⟩
  · exact refl

theorem tell (sink : FailureSink) (reason message : String) :
    Written w (w.tell sink reason message) := by
  cases sink with
  | recorder own => exact note _
  | domain id => exact ⟨_, _, _, _, _, rfl⟩

theorem countRoll : Written w (c.countRoll (·.rollCompleted) w) := by
  unfold Conduct.countRoll
  split
  · exact ⟨_, _, _, _, _, rfl⟩
  · exact refl

/-- What is written does not show in what an exchange counts. -/
theorem exchangeCount (kind : String) (written : Written w w') :
    Written (x.count c (·.callRetried kind) w) (x.count c (·.callRetried kind) w') := by
  obtain ⟨_, _, _, _, _, rfl⟩ := written
  unfold Exchange.count Conduct.count
  repeat' split
  all_goals exact ⟨_, _, _, _, _, rfl⟩

end Written

/-! ## The verdict on a response -/

/-- The world once a verdict on a response is counted; only a failure is retried. -/
def charged (c : Conduct) (x : Exchange ε (Step ε)) (failed : Bool)
    (verdict : Except Panic (Verdict ε)) (w : World) : World :=
  match verdict with
  | .ok (.resend _) => if failed then x.count c (·.callRetried "retry") w else w
  | .ok .reroute => x.count c (·.callRetried "conflict") w
  | _ => w

/-- What comes of the response in a packet: its handler judges it, and without one the retry
budget is consulted. -/
def judgement (c : Conduct) (g : GuestRules ε) (x : Exchange ε (Step ε)) (p : Packet)
    (w : World) : Judged ε :=
  match p.response? with
  | some r => Step.judge c g x r (p.remove Packet.responseKey) w
  | none =>
    let (verdict, w) := x.retry? c none (p.remove Packet.responseKey) w
    .of (verdict.getD (.proceed (.terminate Exchange.unanswered)))
      (p.remove Packet.responseKey) w

/-- Whether a response step is about to see a failure; a missing response counts as one. -/
def seesFailure (p : Packet) : Bool := p.response?.all (·.isFailure)

theorem settle_world :
    (x.settle c (Step.judge c g x) p w).world = (judgement c g x p w).world := by
  unfold Exchange.settle judgement
  cases p.response? with
  | none =>
    dsimp only
    split <;> rfl
  | some r =>
    dsimp only
    split <;> rfl

private theorem give_up_written (r : Option Response) : Written w (x.giveUp r w) := by
  unfold Exchange.giveUp
  split
  · split
    · exact .refl
    · exact .tell ..
  · exact .refl

/-- The budget counts what it grants. -/
theorem retry_written (r : Option Response) (last : StepAction ε) :
    Written (charged c x true (.ok ((x.retry? c r p w).1.getD (.proceed last))) w)
      (x.retry? c r p w).2 := by
  unfold Exchange.retry?
  cases w.budget? p with
  | none => exact give_up_written r
  | some budget =>
    dsimp only
    generalize budget.decide (r.bind (·.statusCode?)) x.conflict.isSome = outcome
    obtain ⟨decision, spent⟩ := outcome
    -- The budget is drawn from before the retry is counted.
    have drawn : Written w (w.modifyBudget p fun _ => spent) := .modifyBudget ..
    cases decision with
    | retry wait =>
      dsimp only
      split
      · exact drawn.exchangeCount "retry"
      · exact drawn
    | conflict => exact drawn.exchangeCount "conflict"
    | giveUp => exact drawn.trans (give_up_written r)

/-- A judgement that counts its verdict and writes nothing else but what is a step's to write. -/
def Counts (c : Conduct) (x : Exchange ε (Step ε)) (failed : Bool) (w : World)
    (j : Judged ε) : Prop :=
  Written (charged c x failed j.verdict w) j.world

private theorem retry_or_end_counts (r : Response) :
    Counts c x true w (x.retryOrEnd c r p w) := retry_written (some r) _

private theorem pods_written (pods : List (String × Pod)) :
    Written w
      (pods.foldl (fun w (server, pod) => w.modifyPresenceOf p (·.setPod server pod)) w) := by
  induction pods generalizing w with
  | nil => exact .refl
  | cons first rest ih => exact (Written.modifyPresenceOf ..).trans ih

/-- A page that is fetched next is no failure. -/
private theorem next_page_counts (andThen : Option (Step ε)) (written : Written w w') :
    Counts c x false w (x.nextPageOr r andThen p w') := by
  unfold Exchange.nextPageOr
  split
  · unfold Exchange.startOver
    dsimp only
    split
    all_goals exact written.trans (.modifyBudget ..)
  · exact written

private theorem pod_deletion_counts (server : String) :
    Counts c x true w (podDeletionFailed c server x r p w) := by
  have again := retry_or_end_counts (c := c) (x := x) (p := p) (w := w) r
  unfold podDeletionFailed
  dsimp only
  repeat' split
  · exact .modifyPresenceOf ..
  · exact Written.trans again (.modifyPresenceOf ..)
  · exact again

private theorem pod_creation_counts : Counts c x true w (podCreationFailed c x r p w) := by
  unfold podCreationFailed
  split
  · exact .refl
  · exact retry_or_end_counts r

private theorem pods_listed_counts : Counts c x false w (podsListed x r p w) := by
  unfold podsListed
  split
  · exact .refl
  · exact next_page_counts _ (pods_written _)

private theorem pod_created_counts (server : String) :
    Counts c x false w (podCreated server x r p w) := by
  unfold podCreated
  split
  · exact .modifyPresenceOf ..
  · exact .refl

private theorem status_patched_counts : Counts c x false w (statusPatched x r p w) := by
  unfold statusPatched
  split
  · exact .modifyPresenceOf ..
  · exact .refl

private theorem reread_counts : Counts c x false w (domainReread x r p w) := by
  unfold domainReread
  split
  · exact .modifyPresenceOf ..
  · exact .refl

/-- Every handler of the operator's own counts its verdict. -/
theorem judge_counts (own : ∀ e, x.handler ≠ .guest e) :
    Counts c x r.isFailure w (Step.judge c g x r p w) := by
  unfold Step.judge
  cases handler : x.handler with
  | guest e => exact absurd handler (own e)
  | podsListed =>
    cases r.isFailure with
    | true => exact retry_or_end_counts r
    | false => exact pods_listed_counts
  | podDeleted server =>
    cases r.isFailure with
    | true => exact pod_deletion_counts server
    | false => exact .refl
  | podCreated server =>
    cases r.isFailure with
    | true => exact pod_creation_counts
    | false => exact pod_created_counts server
  | statusPatched =>
    cases r.isFailure with
    | true => exact retry_or_end_counts r
    | false => exact status_patched_counts
  | domainReread =>
    cases r.isFailure with
    | true => exact retry_or_end_counts r
    | false => exact reread_counts

/-- What comes of a response, or of none, is counted as its verdict wants it, if handlers count
theirs. -/
theorem judgement_counts
    (judged : ∀ r q, Counts c x r.isFailure w (Step.judge c g x r q w)) :
    Counts c x (seesFailure p) w (judgement c g x p w) := by
  unfold judgement seesFailure
  cases p.response? with
  | none => exact retry_written none _
  | some r => exact judged r _

/-! ## All other steps -/

/-- A step of the operator's own that has no verdict to give. -/
def IsPlain : Step ε → Prop
  | .guest _ _ _ | .response _ => False
  | _ => True

private theorem with_presence_written {act : PresenceId → Presence → StepApplied ε}
    (written : ∀ id now, Written w (act id now).world) :
    Written w (withPresence p w act).world := by
  unfold withPresence
  split
  · exact written _ _
  · exact .refl

private theorem announce_written {id : PresenceId} {servers : List String} :
    Written w (announce id servers p w).2 := by
  unfold announce
  split
  · exact .refl
  · exact (Written.note _).trans (.modifyPresence ..)

/-- All other steps of the operator's own count no calls. -/
theorem plain_written {step : Step ε} (plain : IsPlain step) :
    Written w ((chainDynamics c g).apply step p w).world := by
  cases step with
  | idle | restartNow => exact .refl
  | guest | response => exact plain.elim
  | request q x =>
    show Written w (x.send c q p w).world
    unfold Exchange.send Exchange.withBudget
    dsimp only
    split
    · exact .refl
    · exact .newBudget _
  | rollIfNeeded sink next =>
    refine with_presence_written fun id now => ?_
    split
    · exact .refl
    · dsimp only
      split <;> exact .refl
  | rolling members next =>
    refine with_presence_written fun id now => ?_
    exact announce_written
  | rollCluster cluster queue topology =>
    show Written w (rollCluster c cluster queue topology p w).world
    unfold rollCluster
    split
    · exact .refl
    · refine with_presence_written fun id now => ?_
      repeat' split
      all_goals exact .refl
  | afterRoll next =>
    show Written w (afterRoll c next p w).world
    unfold afterRoll
    dsimp only
    split
    · exact ((Written.modifyPresenceOf ..).trans (.note _)).trans .countRoll
    · exact .refl
  | beginRestart =>
    exact with_presence_written fun id now => (Written.modifyPresence ..).trans (.note _)
  | waitRemoved | waitReady =>
    refine with_presence_written fun id now => ?_
    repeat' split
    all_goals first | exact .modifyPresence .. | exact .refl
  | updateStatus left next =>
    refine with_presence_written fun id now => ?_
    repeat' split
    all_goals exact .refl
  | rereadDomain left next =>
    refine with_presence_written fun id now => ?_
    split <;> exact .refl
  | clearFailure => exact .modifyPresenceOf ..

end DomainSteward.Writers
