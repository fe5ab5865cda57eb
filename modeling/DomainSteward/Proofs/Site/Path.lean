import DomainSteward.Proofs.Roll.Calm
import DomainSteward.Proofs.Site.Restart

/-! The path of a restart, whatever its calls are answered and however the
world changes under it. A restart goes from one leg of its path to the next;
what each of its moves may do, to itself and to the presence that it works for,
is said here once. -/
namespace DomainSteward.Paths
open Machine Moves Exchanges Sites Restarts RollSteps Views Calm

variable {ε : Type}

variable {c : Conduct} {g : GuestRules ε} {id : PresenceId} {w w' : World} {p p' : Packet}
  {v : View}

theorem view_aside (aside : Aside p w p' w') : view? id w' = view? id w := by
  rw [view?, aside.known, view?]

theorem view_give_up (x : Exchange ε (Step ε)) (r : Option Response) :
    view? id (x.giveUp r w) = view? id w := by
  unfold Exchange.giveUp
  split
  · rename_i sink _ _
    split
    · rfl
    · cases sink with
      | recorder own => rfl
      | domain told =>
        exact view_modify_kept (f := (·.recordFailure _ _)) (fun _ => rfl)
  · rfl

/-! ## Legs -/

/-- How far a restart has come on its path. -/
inductive Leg where
  /-- It has not begun. -/
  | fresh
  | deleting
  /-- The deletion has been answered. -/
  | deleted (r : Response)
  /-- It waits until the old pod is gone. -/
  | removing
  | creating
  /-- The making of the new pod has been answered. -/
  | created (r : Response)
  /-- It waits until the server is Ready. -/
  | starting
  | finished (failure : Option FiberError)
  /-- A call of it panicked. -/
  | crashed

/-- Where a fiber stands until its call is answered. -/
inductive Asking (r : Request) (x : Exchange ε (Step ε)) : Phase (Step ε) (Pending ε) → Prop where
  | first : Asking r x (.running (some (.request r x)))
  | again : Asking r x (.running (some (.request r (sent r x))))
  | waits : Asking r x (.waiting (.call r) (some (.response (sent r x))))
  | pauses (wait : Duration) : Asking r x (.sleeping wait (some (.request r (sent r x))))

/-- Where a fiber stands that looks again and again. -/
inductive Looking (look : Step ε) : Phase (Step ε) (Pending ε) → Prop where
  | now : Looking look (.running (some look))
  | pauses (wait : Duration) : Looking look (.sleeping wait (some look))

/-- A fiber stands on a leg of the path of a restart. -/
inductive On (t : Mandate ε) (server : String) (old : Pod) :
    Leg → Fiber (Step ε) Packet (Pending ε) → Prop where
  | fresh (p : Packet) (phase : Phase (Step ε) (Pending ε))
      (next : phase = .created (t.chain server old) ∨
        phase = .running (some (t.chain server old))) : On t server old .fresh ⟨p, phase⟩
  | deleting (p : Packet) (phase : Phase (Step ε) (Pending ε))
      (asks : Asking (t.deleteCall old) (t.deletion server old) phase) :
      On t server old .deleting ⟨p, phase⟩
  | deleted (p : Packet) (r : Response) (told : p.response? = some r) :
      On t server old (.deleted r)
        ⟨p, .running (some (.response (sent (t.deleteCall old) (t.deletion server old))))⟩
  | removing (p : Packet) (phase : Phase (Step ε) (Pending ε))
      (looks : Looking (t.removal server old) phase) : On t server old .removing ⟨p, phase⟩
  | creating (p : Packet) (phase : Phase (Step ε) (Pending ε))
      (asks : Asking (t.createCall old) (t.creation server) phase) :
      On t server old .creating ⟨p, phase⟩
  | created (p : Packet) (r : Response) (told : p.response? = some r) :
      On t server old (.created r)
        ⟨p, .running (some (.response (sent (t.createCall old) (t.creation server))))⟩
  | starting (p : Packet) (phase : Phase (Step ε) (Pending ε))
      (looks : Looking (.waitReady server none) phase) : On t server old .starting ⟨p, phase⟩
  | finished (p : Packet) (failure : Option FiberError) :
      On t server old (.finished failure) ⟨p, .ended failure⟩
  | crashed (p : Packet) (message : String) : On t server old .crashed ⟨p, .crashed message⟩

/-- A restart that waits for an answer has called for the deletion of the old
pod or for the making of the new one. -/
theorem on_calls {t : Mandate ε} {server : String} {old : Pod} {leg : Leg} {q : Request}
    {next : Option (Step ε)} (stands : On t server old leg ⟨p, .waiting (.call q) next⟩) :
    leg = .deleting ∧ q = t.deleteCall old ∨ leg = .creating ∧ q = t.createCall old := by
  cases stands with
  | fresh _ _ next => simp at next
  | deleting _ _ asks =>
    cases asks
    exact .inl ⟨rfl, rfl⟩
  | removing _ _ looks => cases looks
  | creating _ _ asks =>
    cases asks
    exact .inr ⟨rfl, rfl⟩
  | starting _ _ looks => cases looks

theorem ended_finished {t : Mandate ε} {server : String} {old : Pod} {leg : Leg}
    {failure : Option FiberError} (stands : On t server old leg ⟨p, .ended failure⟩) :
    leg = .finished failure := by
  cases stands with
  | finished => rfl
  | fresh _ _ next => simp at next
  | deleting _ _ asks => cases asks
  | creating _ _ asks => cases asks
  | removing _ _ looks => cases looks
  | starting _ _ looks => cases looks

/-- What a move of a restart can make of the leg that it is on and of what it
sees. -/
inductive Advances (server : String) (old : Pod) (stopping : Bool) :
    Leg → Option View → Move Answer → Leg → Option View → Prop where
  /-- It stays on its leg. -/
  | stays (leg : Leg) (unanswered : ∀ r, leg ≠ .deleted r ∧ leg ≠ .created r) (v : Option View)
      (move : Move Answer) (own : move = .run ∨ move = .wake) :
      Advances server old stopping leg v move leg v
  /-- It marks its server. -/
  | begins (v : View) :
      Advances server old stopping .fresh (some v) .run .deleting (some (v.mark server))
  | deletes (v : Option View) (r : Response) (goesOn : stopping = false) :
      Advances server old stopping .deleting v (.answer (.response r)) (.deleted r) v
  | makes (v : Option View) (r : Response) (goesOn : stopping = false) :
      Advances server old stopping .creating v (.answer (.response r)) (.created r) v
  /-- The deletion succeeded. -/
  | removes (v : Option View) (r : Response) (success : r.isFailure = false) :
      Advances server old stopping (.deleted r) v .run .removing v
  /-- There was no such pod. -/
  | misses (v : Option View) (f : CallFailure) (status : f.statusCode = some codeNotFound) :
      Advances server old stopping (.deleted (.failure f)) v .run .removing (v.map (·.without server))
  | deletesAgain (v : Option View) (f : CallFailure) (status : f.statusCode ≠ some codeNotFound) :
      Advances server old stopping (.deleted (.failure f)) v .run .deleting v
  | keeps (v : Option View) (f : CallFailure) (status : f.statusCode ≠ some codeNotFound)
      (e : FiberError) :
      Advances server old stopping (.deleted (.failure f)) v .run (.finished (some e))
        (v.map (·.unmark server))
  /-- The old pod is gone. -/
  | gone (v : View) (gone : v.IsGone server old) :
      Advances server old stopping .removing (some v) .run .creating (some (v.unmark server))
  /-- The new pod was made, and may be seen so for the first time. -/
  | made (v v' : Option View) (r : Response) (success : r.isFailure = false)
      (offers : v' = v ∨ ∃ pod, r.object?.bind Pod.ofObject? = some pod ∧
        v' = v.map (·.offered server pod)) :
      Advances server old stopping (.created r) v .run .starting v'
  /-- There was such a pod already. -/
  | taken (v : Option View) (f : CallFailure) (status : f.statusCode = some codeConflict) :
      Advances server old stopping (.created (.failure f)) v .run .starting v
  | makesAgain (v : Option View) (f : CallFailure) (status : f.statusCode ≠ some codeConflict) :
      Advances server old stopping (.created (.failure f)) v .run .creating v
  | gives (v : Option View) (f : CallFailure) (status : f.statusCode ≠ some codeConflict)
      (e : FiberError) :
      Advances server old stopping (.created (.failure f)) v .run (.finished (some e)) v
  /-- The server is Ready. -/
  | done (v : View) (held : v.servers.get? server ≠ none) :
      Advances server old stopping .starting (some v) .run (.finished none) (some v)
  /-- It is cancelled while it waits until something can be seen. -/
  | stops (leg : Leg) (waits : leg = .removing ∨ leg = .starting) (v : View)
      (stops : stopping = true) (still : leg = .removing → ¬ v.IsGone server old) :
      Advances server old stopping leg (some v) .run (.finished (some .cancelled)) (some v)
  /-- It is cancelled when its call is answered. -/
  | discards (leg : Leg) (waits : leg = .deleting ∨ leg = .creating) (v : Option View)
      (a : Answer) (stops : stopping = true) :
      Advances server old stopping leg v (.answer a) (.finished (some .cancelled)) v
  /-- There is no presence to work for. -/
  | astray (leg : Leg) (waits : leg = .fresh ∨ leg = .removing ∨ leg = .starting) :
      Advances server old stopping leg none .run (.finished (some missingPresence)) none
  | crashes (leg : Leg) (waits : leg = .deleting ∨ leg = .creating) (v : Option View)
      (message : String) : Advances server old stopping leg v (.crash message) .crashed v

/-- A restart changes nothing of what is seen of other servers. -/
theorem advances_leaves_others {server other : String} {old : Pod} {stopping : Bool}
    {leg leg' : Leg} {v v' : Option View} {move : Move Answer}
    (advances : Advances server old stopping leg v move leg' v')
    (foreign : other ≠ server) : v'.map (·.part other) = v.map (·.part other) := by
  cases advances with
  | begins => exact congrArg some (View.mark_other foreign)
  | gone => exact congrArg some (View.unmark_other foreign)
  | misses =>
    cases v with
    | none => rfl
    | some v => exact congrArg some (View.without_other foreign)
  | keeps =>
    cases v with
    | none => rfl
    | some v => exact congrArg some (View.unmark_other foreign)
  | made _ _ _ _ offers =>
    rcases offers with rfl | ⟨pod, _, rfl⟩
    · rfl
    · cases v with
      | none => rfl
      | some v => exact congrArg some (View.offered_other foreign)
  | _ => rfl

variable {t : Mandate ε} {server : String} {old : Pod} {leg : Leg}

/-- What applying a step does to a restart on some leg. -/
private def Does (c : Conduct) (g : GuestRules ε) (t : Mandate ε) (server : String) (old : Pod)
    (leg : Leg) (step : Step ε) (p : Packet) (w : World) : Prop :=
  ∃ action p' w' leg', (chainDynamics c g).apply step p w = .of action p' w' ∧ born action = [] ∧
    p'.presence = some t.id ∧
    (∀ n, On t server old leg' ⟨packetAfter (chainDynamics c g) p' action, phaseAfter n action⟩) ∧
    Advances server old w.isStopping leg (view? t.id w) .run leg' (view? t.id w')

/-- A step that needs the presence finds it, or ends the fiber. -/
private theorem looks (works : p.presence = some id)
    (act : PresenceId → Presence → StepApplied ε) :
    (∃ now v, view? id w = some v ∧ now.servers = v.servers ∧ now.beingDeleted = v.marks ∧
        withPresence p w act = act id now) ∨
      view? id w = none ∧ withPresence p w act = .of (.terminate missingPresence) p w := by
  cases known : w.presence? id with
  | none =>
    refine .inr ⟨by rw [view?, known]; rfl, with_presence_missing ?_ act⟩
    rw [World.presenceOf?, works, Option.bind_some, known]
  | some now =>
    refine .inl ⟨now, viewOf now, by rw [view?, known]; rfl, rfl, rfl, ?_⟩
    exact with_presence_found works known act

private theorem begin_does (works : p.presence = some t.id) :
    Does c g t server old .fresh (t.chain server old) p w := by
  rcases looks works (fun id _ => .of (.goOn (some (.request (t.deleteCall old)
      (t.deletion server old)))) p ((w.modifyPresence id (·.mark server)).emit (t.reported server)))
    with ⟨now, v, seen, _, _, applies⟩ | ⟨seen, applies⟩
  · refine ⟨_, p, _, .deleting, applies, rfl, works, fun n => .deleting p _ .first, ?_⟩
    have marked : view? t.id ((w.modifyPresence t.id (·.mark server)).emit (t.reported server)) =
        (view? t.id w).map (·.mark server) := view_mark server
    rw [marked, seen]
    exact .begins v
  · refine ⟨_, p, w, .finished _, applies, rfl, works, fun n => .finished _ _, ?_⟩
    rw [seen]
    exact .astray .fresh (.inl rfl)

/-- A request step makes its call. -/
private theorem request_does {r : Request} {x : Exchange ε (Step ε)}
    (single : ∀ token, r.continuedAt token = r) (works : p.presence = some id) :
    ∃ p' w', (chainDynamics c g).apply (.request r x) p w =
        .of (.suspend (.call r) (some (.response (sent r x)))) p' w' ∧
      p'.presence = some id ∧ view? id w' = view? id w := by
  have applies : (chainDynamics c g).apply (.request r x) p w = _ := send_asks c r x p w
  rw [single] at applies
  have aside : Aside p w (asked c x p w).1 (asked c x p w).2 := asked_aside
  exact ⟨_, _, applies, aside.presence.trans works, view_aside aside⟩

private theorem removal_does (works : p.presence = some t.id) :
    Does c g t server old .removing (t.removal server old) p w := by
  rcases looks works (fun id presence =>
      if (presence.pod? server).all (fun pod => pod.metadata.uid ≠ old.metadata.uid) then
        .of (.goOn (some (t.create server old))) p (w.modifyPresence id (·.unmark server))
      else if w.isStopping then .of (.terminate .cancelled) p w
      else .of (.delay c.pollDelay (some (t.removal server old))) p w)
    with ⟨now, v, seen, servers, _, applies⟩ | ⟨seen, applies⟩
  · have held : now.pod? server = v.servers.get? server := by rw [Presence.pod?, servers]
    by_cases gone : (now.pod? server).all (fun pod => pod.metadata.uid ≠ old.metadata.uid)
    · refine ⟨_, p, _, .creating, applies.trans (if_pos gone), rfl, works,
        fun n => .creating p _ .first, ?_⟩
      rw [view_unmark, seen]
      refine .gone v fun pod found => ?_
      rw [held, found] at gone
      simpa using gone
    · have there : ¬ v.IsGone server old := by
        intro away
        refine gone (Option.all_eq_true _ _ |>.mpr fun pod found => ?_)
        exact decide_eq_true (away pod (held ▸ found))
      by_cases stops : w.isStopping = true
      · refine ⟨_, p, w, .finished _, applies.trans ((if_neg gone).trans (if_pos stops)), rfl, works,
          fun n => .finished _ _, ?_⟩
        rw [seen]
        exact .stops .removing (.inl rfl) v stops (fun _ => there)
      · exact ⟨_, p, w, .removing, applies.trans ((if_neg gone).trans (if_neg stops)), rfl, works,
          fun n => .removing p _ (.pauses _), .stays _ (by simp) _ _ (.inl rfl)⟩
  · refine ⟨_, p, w, .finished _, applies, rfl, works, fun n => .finished _ _, ?_⟩
    rw [seen]
    exact .astray .removing (.inr (.inl rfl))

private theorem ready_does (works : p.presence = some t.id) :
    Does c g t server old .starting (.waitReady server none) p w := by
  rcases looks works (fun _ presence =>
      if presence.isServerReady server then .of (.goOn (none : Option (Step ε))) p w
      else if w.isStopping then .of (.terminate .cancelled) p w
      else .of (.delay c.pollDelay (some (.waitReady server none))) p w)
    with ⟨now, v, seen, servers, _, applies⟩ | ⟨seen, applies⟩
  · by_cases ready : now.isServerReady server = true
    · refine ⟨_, p, w, .finished none, applies.trans (if_pos ready), rfl, works,
        fun n => .finished p none, ?_⟩
      rw [seen]
      refine .done v fun nobody => ?_
      rw [Presence.isServerReady, Presence.pod?, servers, nobody] at ready
      cases ready
    · by_cases stops : w.isStopping = true
      · refine ⟨_, p, w, .finished _, applies.trans ((if_neg ready).trans (if_pos stops)), rfl, works,
          fun n => .finished _ _, ?_⟩
        rw [seen]
        exact .stops .starting (.inr rfl) v stops (fun same => by cases same)
      · exact ⟨_, p, w, .starting, applies.trans ((if_neg ready).trans (if_neg stops)), rfl, works,
          fun n => .starting p _ (.pauses _), .stays _ (by simp) _ _ (.inl rfl)⟩
  · refine ⟨_, p, w, .finished _, applies, rfl, works, fun n => .finished _ _, ?_⟩
    rw [seen]
    exact .astray .starting (.inr (.inr rfl))

/-- What becomes of a call that failed: it is made again, or it was the last
thing the fiber did. -/
private theorem retried_does {r : Request} {x : Exchange ε (Step ε)} {f : CallFailure}
    (plain : x.conflict = none) :
    ∃ verdict w', (sent r x).retryOrEnd c (.failure f) (p.remove Packet.responseKey) w =
        .of verdict (p.remove Packet.responseKey) w' ∧ view? id w' = view? id w ∧
      ((∃ wait, verdict = .resend (some wait)) ∨ ∃ e, verdict = .proceed (.terminate e)) := by
  have plain : (sent r x).conflict = none := plain
  obtain ⟨verdict, w₁, w', retried, aside, told, outcome⟩ :=
    retry_outcome c (p.remove Packet.responseKey) w plain f
  refine ⟨verdict, w', retried, ?_, outcome⟩
  rcases told with rfl | rfl
  · exact view_aside aside
  · exact (view_give_up _ _).trans (view_aside aside)

private theorem deleted_does {r : Response} (works : p.presence = some t.id)
    (told : p.response? = some r) :
    Does c g t server old (.deleted r)
      (.response (sent (t.deleteCall old) (t.deletion server old))) p w := by
  cases success : r.isFailure with
  | false =>
    obtain ⟨p', applies, works'⟩ := delete_succeeds (c := c) (g := g) (t := t) server old w told
      works success
    exact ⟨_, p', w, .removing, applies, rfl, works', fun n => .removing p' _ .now,
      .removes _ r success⟩
  | true =>
    cases r with
    | failure f =>
      have judges : Step.judge c g (sent (t.deleteCall old) (t.deletion server old)) (.failure f)
          (p.remove Packet.responseKey) w = podDeletionFailed c server
            (sent (t.deleteCall old) (t.deletion server old)) (.failure f)
            (p.remove Packet.responseKey) w := rfl
      by_cases missing : f.statusCode = some codeNotFound
      · have there : (Response.failure f).statusCode? = some codeNotFound := missing
        rw [podDeletionFailed, if_pos there] at judges
        refine ⟨_, _, _, .removing, settle_does told judges, rfl, ?_, fun n => .removing _ _ .now, ?_⟩
        · exact works
        · have away : view? t.id (w.modifyPresenceOf (p.remove Packet.responseKey)
              (·.removePod server)) = (view? t.id w).map (·.without server) :=
            view_modify_of works (fun _ => rfl)
          rw [away]
          exact .misses _ f missing
      · have there : (Response.failure f).statusCode? ≠ some codeNotFound := missing
        obtain ⟨verdict, w', retried, unseen, outcome⟩ := retried_does (c := c) (w := w)
          (r := t.deleteCall old) (x := t.deletion server old) rfl
        rw [podDeletionFailed, if_neg there, retried] at judges
        rcases outcome with ⟨wait, rfl⟩ | ⟨e, rfl⟩
        · refine ⟨_, _, w', .deleting, settle_does told judges, rfl, ?_,
            fun n => .deleting _ _ (.pauses wait), ?_⟩
          · exact works
          · rw [unseen]
            exact .deletesAgain _ f missing
        · refine ⟨_, _, _, .finished (some e), settle_does told judges, rfl, ?_,
            fun n => .finished _ _, ?_⟩
          · exact works
          · have free : view? t.id (w'.modifyPresenceOf (p.remove Packet.responseKey)
                (·.unmark server)) = (view? t.id w').map (·.unmark server) :=
              view_modify_of works (fun _ => rfl)
            have advances : Advances server old w.isStopping (.deleted (.failure f))
                (view? t.id w) .run (.finished (some e)) ((view? t.id w).map (·.unmark server)) :=
              .keeps _ f missing e
            rw [← unseen, ← free, unseen] at advances
            exact advances
    | _ => cases success

private theorem offered_view (server : String) (pod : Pod) (works : p.presence = some id) :
    view? id (w.modifyPresenceOf p (fun presence =>
        if (presence.pod? server).isNone then presence.setPod server pod else presence)) =
      (view? id w).map (·.offered server pod) := by
  refine view_modify_of works fun now => ?_
  show viewOf (if (now.servers.get? server).isNone then _ else now) = _
  by_cases nobody : (now.servers.get? server).isNone = true
  · simp only [View.offered, viewOf, nobody, ↓reduceIte, Presence.setPod]
  · simp only [View.offered, viewOf, nobody, Bool.false_eq_true, ↓reduceIte]

private theorem created_does {r : Response} (works : p.presence = some t.id)
    (told : p.response? = some r) :
    Does c g t server old (.created r)
      (.response (sent (t.createCall old) (t.creation server))) p w := by
  cases success : r.isFailure with
  | false =>
    have judges : Step.judge c g (sent (t.createCall old) (t.creation server)) r
        (p.remove Packet.responseKey) w = podCreated server
          (sent (t.createCall old) (t.creation server)) r (p.remove Packet.responseKey) w := by
      simp only [Step.judge, sent, Mandate.creation, success, Bool.false_eq_true, ↓reduceIte]
    cases answer : r.object?.bind Pod.ofObject? with
    | none =>
      rw [podCreated, answer] at judges
      exact ⟨_, _, w, .starting, settle_does told judges, rfl, works,
        fun n => .starting _ _ .now, .made _ _ r success (.inl rfl)⟩
    | some pod =>
      rw [podCreated, answer] at judges
      refine ⟨_, _, _, .starting, settle_does told judges, rfl, works,
        fun n => .starting _ _ .now, .made _ _ r success (.inr ⟨pod, answer, ?_⟩)⟩
      exact offered_view server pod works
  | true =>
    cases r with
    | failure f =>
      have judges : Step.judge c g (sent (t.createCall old) (t.creation server)) (.failure f)
          (p.remove Packet.responseKey) w = podCreationFailed c
            (sent (t.createCall old) (t.creation server)) (.failure f)
            (p.remove Packet.responseKey) w := rfl
      by_cases conflict : f.statusCode = some codeConflict
      · have there : (Response.failure f).statusCode? = some codeConflict := conflict
        rw [podCreationFailed, if_pos there] at judges
        exact ⟨_, _, w, .starting, settle_does told judges, rfl, works,
          fun n => .starting _ _ .now, .taken _ f conflict⟩
      · have there : (Response.failure f).statusCode? ≠ some codeConflict := conflict
        obtain ⟨verdict, w', retried, unseen, outcome⟩ := retried_does (c := c) (w := w)
          (r := t.createCall old) (x := t.creation server) rfl
        rw [podCreationFailed, if_neg there, retried] at judges
        rcases outcome with ⟨wait, rfl⟩ | ⟨e, rfl⟩
        · refine ⟨_, _, w', .creating, settle_does told judges, rfl, works,
            fun n => .creating _ _ (.pauses wait), ?_⟩
          rw [unseen]
          exact .makesAgain _ f conflict
        · refine ⟨_, _, w', .finished (some e), settle_does told judges, rfl, works,
            fun n => .finished _ _, ?_⟩
          rw [unseen]
          exact .gives _ f conflict e
    | _ => cases success

/-! ## Moves -/

variable {m m' : ChainMachine ε} {i : FiberId} {move : Move Answer}
  {f : Fiber (Step ε) Packet (Pending ε)} {phase : Phase (Step ε) (Pending ε)} {r : Request}
  {x : Exchange ε (Step ε)}

/-- Calls are answered with responses. -/
def Proper (m : ChainMachine ε) (h : Happening Answer World) : Prop :=
  ∀ i a p r next, h = .move i (.answer a) → m.fiber? i = some ⟨p, .waiting (.call r) next⟩ →
    ∃ response, a = .response response

theorem proper_of_no_answer {h : Happening Answer World} (other : ∀ i a, h ≠ .move i (.answer a)) :
    Proper m h :=
  fun i a _ _ _ same => absurd same (other i a)

theorem proper_of_response (i : FiberId) (response : Response) :
    Proper m (.move i (.answer (.response response))) := by
  rintro _ _ _ _ _ same _
  cases same
  exact ⟨response, rfl⟩

/-- What a move has made of a restart: it stands on its path again and has
forked nobody. -/
structure Goes (t : Mandate ε) (server : String) (old : Pod) (i : FiberId) (m : ChainMachine ε)
    (leg : Leg) (move : Move Answer) (m' : ChainMachine ε) (leg' : Leg) : Prop where
  stands : ∃ f, m'.fiber? i = some f ∧ f.packet.presence = some t.id ∧ On t server old leg' f
  length : m'.fibers.length = m.fibers.length
  advances : Advances server old m.world.isStopping leg (view? t.id m.world) move leg'
    (view? t.id m'.world)

private theorem kept_presence (action : StepAction ε) (p : Packet) :
    (packetAfter (chainDynamics c g) p action).presence = p.presence := by
  cases action <;> rfl

private theorem does_moves {step : Step ε}
    (found : m.fiber? i = some ⟨p, .running (some step)⟩)
    (does : Does c g t server old leg step p m.world)
    (moved : m.move? (chainDynamics c g) i move = some m') :
    ∃ leg', Goes t server old i m leg move m' leg' := by
  obtain ⟨action, p', w', leg', applies, childless, works, stands, advances⟩ := does
  obtain ⟨here, world, length⟩ := step_alone found moved applies childless
  obtain ⟨_, found', shape⟩ := move_iff_moved.mp moved
  cases found.symm.trans found'
  cases shape with
  | step =>
    refine ⟨leg', ⟨_, here, (kept_presence action p').trans works, stands _⟩, length, ?_⟩
    rw [world, view_after]
    exact advances

/-- A move after which a restart stands where it stood. -/
private theorem stays_moves {f' : Fiber (Step ε) Packet (Pending ε)}
    (here : m'.fiber? i = some f') (works : f'.packet.presence = some t.id)
    (stands : On t server old leg f') (length : m'.fibers.length = m.fibers.length)
    (unseen : view? t.id m'.world = view? t.id m.world) (own : move = .run ∨ move = .wake)
    (unanswered : ∀ r, leg ≠ .deleted r ∧ leg ≠ .created r) :
    Goes t server old i m leg move m' leg := by
  refine ⟨⟨f', here, works, stands⟩, length, ?_⟩
  rw [unseen]
  exact .stays leg unanswered _ move own

/-- What a move makes of a fiber with a call to make. -/
private inductive Called (r : Request) (x : Exchange ε (Step ε)) (stopping : Bool) :
    Move Answer → Fiber (Step ε) Packet (Pending ε) → Prop where
  | asks (p : Packet) (phase : Phase (Step ε) (Pending ε)) (asks : Asking r x phase)
      (move : Move Answer) (own : move = .run ∨ move = .wake) : Called r x stopping move ⟨p, phase⟩
  | told (p : Packet) (response : Response) (told : p.response? = some response)
      (goesOn : stopping = false) :
      Called r x stopping (.answer (.response response))
        ⟨p, .running (some (.response (sent r x)))⟩
  | discards (p : Packet) (a : Answer) (stops : stopping = true) :
      Called r x stopping (.answer a) ⟨p, .ended (some .cancelled)⟩
  | crashes (p : Packet) (message : String) :
      Called r x stopping (.crash message) ⟨p, .crashed message⟩

theorem view_received (call : Pending ε) (a : Answer) (isCall : ∃ r, call = .call r) :
    view? id ((chainDynamics c g).receive call a w) = view? id w := by
  obtain ⟨r, rfl⟩ := isCall
  cases a with
  | response => exact view_count _
  | done => rfl

theorem stopping_received (call : Pending ε) (a : Answer) (isCall : ∃ r, call = .call r) :
    ((chainDynamics c g).receive call a w).isStopping = w.isStopping := by
  obtain ⟨r, rfl⟩ := isCall
  cases a with
  | response => exact (Aside.count (p := ({} : Packet))).stopping
  | done => rfl

/-- A call that is answered while no stop is requested. -/
theorem call_answered {response : Response} {next : Option (Step ε)}
    (found : m.fiber? i = some ⟨p, .waiting (.call r) next⟩) (goesOn : m.world.isStopping = false)
    (moved : m.move? (chainDynamics c g) i (.answer (.response response)) = some m') :
    m'.fiber? i = some ⟨p.put Packet.responseKey (.response response), .running next⟩ ∧
      (∀ id, view? id m'.world = view? id m.world) ∧ m'.fibers.length = m.fibers.length := by
  obtain ⟨_, found', shape⟩ := move_iff_moved.mp moved
  cases found.symm.trans found'
  cases shape with
  | cancel _ _ _ _ stopping =>
    have same := stopping_received (c := c) (g := g) (w := m.world) (.call r) (.response response)
      ⟨r, rfl⟩
    exact absurd (stopping.symm.trans (same.trans goesOn)) Bool.true_eq_false.mp
  | answer => exact ⟨replace_fiber found, fun _ => view_received _ _ ⟨r, rfl⟩, by simp [replace]⟩

private theorem asking_moves (single : ∀ token, r.continuedAt token = r)
    (found : m.fiber? i = some ⟨p, phase⟩) (asks : Asking r x phase)
    (works : p.presence = some id) (proper : Proper m (.move i move))
    (moved : m.move? (chainDynamics c g) i move = some m') :
    ∃ f, m'.fiber? i = some f ∧ f.packet.presence = some id ∧
      m'.fibers.length = m.fibers.length ∧ view? id m'.world = view? id m.world ∧
      Called r x m.world.isStopping move f := by
  have requests (x' : Exchange ε (Step ε)) (same : sent r x' = sent r x)
      (found : m.fiber? i = some ⟨p, .running (some (.request r x'))⟩) :
      ∃ f, m'.fiber? i = some f ∧ f.packet.presence = some id ∧
        m'.fibers.length = m.fibers.length ∧ view? id m'.world = view? id m.world ∧
        Called r x m.world.isStopping move f := by
    obtain ⟨p', w', applies, works, unseen⟩ := request_does (c := c) (g := g) (w := m.world)
      (x := x') single works
    obtain ⟨here, world, length⟩ := step_alone found moved applies rfl
    rw [same] at here
    obtain ⟨_, found', shape⟩ := move_iff_moved.mp moved
    cases found.symm.trans found'
    cases shape with
    | step =>
      refine ⟨_, here, works, length, ?_, .asks _ _ .waits _ (.inl rfl)⟩
      rw [world]
      exact unseen
  obtain ⟨_, found', shape⟩ := move_iff_moved.mp moved
  cases found.symm.trans found'
  cases asks with
  | first => exact requests x rfl found
  | again => exact requests (sent r x) rfl found
  | waits =>
    cases shape with
    | cancel _ _ _ a stopping =>
      refine ⟨_, took_fiber found, works, took_length .., ?_, .discards _ a ?_⟩
      · exact (view_after _).trans (view_received _ a ⟨r, rfl⟩)
      · exact (stopping_received _ a ⟨r, rfl⟩).symm.trans stopping
    | answer _ _ _ a goesOn =>
      obtain ⟨response, rfl⟩ := proper i a p r _ rfl found
      refine ⟨_, replace_fiber found, works, by simp [replace],
        view_received _ _ ⟨r, rfl⟩, .told _ response ?_ ?_⟩
      · show ((p.put Packet.responseKey _).value? Packet.responseKey).bind (·.response?) = _
        rw [Packets.value_put_same]
        rfl
      · exact (stopping_received _ (.response response) ⟨r, rfl⟩).symm.trans goesOn
    | crash _ _ _ message =>
      exact ⟨_, replace_fiber found, works, by simp [replace], rfl, .crashes _ message⟩
  | pauses wait =>
    cases shape with
    | wake =>
      exact ⟨_, replace_fiber found, works, by simp [replace], rfl,
        .asks _ _ .again _ (.inr rfl)⟩

/-- Whatever move a restart makes, it stands on its path again. -/
theorem path_moves (found : m.fiber? i = some f) (works : f.packet.presence = some t.id)
    (stands : On t server old leg f) (proper : Proper m (.move i move))
    (moved : m.move? (chainDynamics c g) i move = some m') :
    ∃ leg', Goes t server old i m leg move m' leg' := by
  cases stands with
  | fresh p phase next =>
    rcases next with rfl | rfl
    · obtain ⟨_, found', shape⟩ := move_iff_moved.mp moved
      cases found.symm.trans found'
      cases shape with
      | start =>
        exact ⟨.fresh, stays_moves (replace_fiber found) works (.fresh p _ (.inr rfl))
          (by simp [replace]) (view_count _) (.inl rfl) (by simp)⟩
    · exact does_moves found (begin_does works) moved
  | deleting p phase asks =>
    obtain ⟨f', here, works, length, unseen, called⟩ :=
      asking_moves delete_continued found asks works proper moved
    cases called with
    | asks p' phase' asks move own =>
      exact ⟨.deleting, stays_moves here works (.deleting p' _ asks) length unseen own (by simp)⟩
    | told p' response told goesOn =>
      refine ⟨.deleted response, ⟨_, here, works, .deleted p' response told⟩, length, ?_⟩
      rw [unseen]
      exact .deletes _ response goesOn
    | discards p' a stops =>
      refine ⟨.finished _, ⟨_, here, works, .finished p' _⟩, length, ?_⟩
      rw [unseen]
      exact .discards .deleting (.inl rfl) _ a stops
    | crashes p' message =>
      refine ⟨.crashed, ⟨_, here, works, .crashed p' message⟩, length, ?_⟩
      rw [unseen]
      exact .crashes .deleting (.inl rfl) _ message
  | deleted p r told => exact does_moves found (deleted_does works told) moved
  | removing p phase looks =>
    cases looks with
    | now => exact does_moves found (removal_does works) moved
    | pauses wait =>
      obtain ⟨_, found', shape⟩ := move_iff_moved.mp moved
      cases found.symm.trans found'
      cases shape with
      | wake =>
        exact ⟨.removing, stays_moves (replace_fiber found) works (.removing p _ .now)
          (by simp [replace]) rfl (.inr rfl) (by simp)⟩
  | creating p phase asks =>
    obtain ⟨f', here, works, length, unseen, called⟩ :=
      asking_moves create_continued found asks works proper moved
    cases called with
    | asks p' phase' asks move own =>
      exact ⟨.creating, stays_moves here works (.creating p' _ asks) length unseen own (by simp)⟩
    | told p' response told goesOn =>
      refine ⟨.created response, ⟨_, here, works, .created p' response told⟩, length, ?_⟩
      rw [unseen]
      exact .makes _ response goesOn
    | discards p' a stops =>
      refine ⟨.finished _, ⟨_, here, works, .finished p' _⟩, length, ?_⟩
      rw [unseen]
      exact .discards .creating (.inr rfl) _ a stops
    | crashes p' message =>
      refine ⟨.crashed, ⟨_, here, works, .crashed p' message⟩, length, ?_⟩
      rw [unseen]
      exact .crashes .creating (.inr rfl) _ message
  | created p r told => exact does_moves found (created_does works told) moved
  | starting p phase looks =>
    cases looks with
    | now => exact does_moves found (ready_does works) moved
    | pauses wait =>
      obtain ⟨_, found', shape⟩ := move_iff_moved.mp moved
      cases found.symm.trans found'
      cases shape with
      | wake =>
        exact ⟨.starting, stays_moves (replace_fiber found) works (.starting p _ .now)
          (by simp [replace]) rfl (.inr rfl) (by simp)⟩
  | finished p failure =>
    obtain ⟨_, found', shape⟩ := move_iff_moved.mp moved
    cases found.symm.trans found'
    cases shape
  | crashed p message =>
    obtain ⟨_, found', shape⟩ := move_iff_moved.mp moved
    cases found.symm.trans found'
    cases shape

end DomainSteward.Paths
