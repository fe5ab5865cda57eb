import DomainSteward.Proofs.Roll.Ledger
import DomainSteward.Proofs.Site.Restart

/-! The stages of a restart, from the fork of its chain to its end, with the
trace that the server and the presence then have of its pod. -/
namespace DomainSteward.Stages
open Machine Moves Exchanges Sites Restarts Ledger

variable {ε : Type}

/-- What there is of the pod of one server. -/
structure Trace where
  /-- The API server has a pod of that name. -/
  present : Bool
  /-- It was deleted and has not left the presence. -/
  leaving : Bool
  /-- What the presence holds under the server. -/
  held : Option Pod
  /-- What pods of that name were made from. -/
  made : List ApiObject
  /-- The calls about it that succeeded. -/
  calls : List Request

/-- A pod that nobody has touched. -/
def untouched (old : Pod) : Trace := ⟨true, false, some old, [], []⟩

/-- A fiber that makes a call until it is carried out. -/
inductive Asks (r : Request) (x : Exchange ε (Step ε)) :
    Fiber (Step ε) Packet (Pending ε) → Prop where
  | first (p : Packet) : Asks r x ⟨p, .running (some (.request r x))⟩
  | again (p : Packet) : Asks r x ⟨p, .running (some (.request r (sent r x)))⟩
  | waits (p : Packet) : Asks r x ⟨p, .waiting (.call r) (some (.response (sent r x)))⟩
  | refused (p : Packet) (f : CallFailure) (retryable : isRetryable f.statusCode = true)
      (response : p.response? = some (.failure f)) :
      Asks r x ⟨p, .running (some (.response (sent r x)))⟩
  | pauses (p : Packet) (wait : Duration) :
      Asks r x ⟨p, .sleeping wait (some (.request r (sent r x)))⟩

/-- A fiber that looks at the presence again and again, once a call has
succeeded. -/
inductive Awaits (r : Request) (x : Exchange ε (Step ε)) (look : Step ε)
    (Truthful : Response → Prop) : Fiber (Step ε) Packet (Pending ε) → Prop where
  | answered (p : Packet) (response : Response) (success : response.isFailure = false)
      (truthful : Truthful response) (waits : p.response? = some response) :
      Awaits r x look Truthful ⟨p, .running (some (.response (sent r x)))⟩
  | looks (p : Packet) : Awaits r x look Truthful ⟨p, .running (some look)⟩
  | pauses (p : Packet) (wait : Duration) :
      Awaits r x look Truthful ⟨p, .sleeping wait (some look)⟩

/-- An answer that tells of no other pod than one made from a definition. -/
def TellsOf (body : ApiObject) (response : Response) : Prop :=
  ∀ pod, response.object?.bind Pod.ofObject? = some pod → Made body pod

/-- The old pod was deleted: it is in the presence until it leaves. -/
inductive Going (old : Pod) : Bool → Option Pod → Prop where
  | still : Going old true (some old)
  | gone : Going old false none

/-- How far the restart of a server has come: the trace of its pod, whether a
call of its fiber was carried out and not answered, whether the fiber has
applied a step, and where it stands. -/
inductive Stage (t : Mandate ε) (server : String) (old : Pod) :
    Trace → Bool → Bool → Fiber (Step ε) Packet (Pending ε) → Prop where
  | fresh (f : Fiber (Step ε) Packet (Pending ε)) (works : f.packet.presence = some t.id)
      (next : f.phase = .created (t.chain server old) ∨
        f.phase = .running (some (t.chain server old))) :
      Stage t server old (untouched old) false false f
  | deleting (f : Fiber (Step ε) Packet (Pending ε)) (works : f.packet.presence = some t.id)
      (asks : Asks (t.deleteCall old) (t.deletion server old) f) :
      Stage t server old (untouched old) false true f
  | deleted (p : Packet) (works : p.presence = some t.id) (leaving : Bool) (held : Option Pod)
      (going : Going old leaving held) :
      Stage t server old ⟨false, leaving, held, [], []⟩ true true
        ⟨p, .waiting (.call (t.deleteCall old))
          (some (.response (sent (t.deleteCall old) (t.deletion server old))))⟩
  | removing (f : Fiber (Step ε) Packet (Pending ε)) (works : f.packet.presence = some t.id)
      (leaving : Bool) (held : Option Pod) (going : Going old leaving held)
      (awaits : Awaits (t.deleteCall old) (t.deletion server old) (t.removal server old)
        (fun _ => True) f) :
      Stage t server old ⟨false, leaving, held, [], [t.deleteCall old]⟩ false true f
  | creating (f : Fiber (Step ε) Packet (Pending ε)) (works : f.packet.presence = some t.id)
      (asks : Asks (t.createCall old) (t.creation server) f) :
      Stage t server old ⟨false, false, none, [], [t.deleteCall old]⟩ false true f
  | created (p : Packet) (works : p.presence = some t.id) (held : Option Pod)
      (like : ∀ pod, held = some pod → Made (t.body old) pod) :
      Stage t server old ⟨true, false, held, [t.body old], [t.deleteCall old]⟩ true true
        ⟨p, .waiting (.call (t.createCall old))
          (some (.response (sent (t.createCall old) (t.creation server))))⟩
  | starting (f : Fiber (Step ε) Packet (Pending ε)) (works : f.packet.presence = some t.id)
      (held : Option Pod) (like : ∀ pod, held = some pod → Made (t.body old) pod)
      (awaits : Awaits (t.createCall old) (t.creation server) (.waitReady server none)
        (TellsOf (t.body old)) f) :
      Stage t server old
        ⟨true, false, held, [t.body old], [t.deleteCall old, t.createCall old]⟩ false true f
  | done (p : Packet) (pod : Pod) (like : Made (t.body old) pod) :
      Stage t server old
        ⟨true, false, some pod, [t.body old], [t.deleteCall old, t.createCall old]⟩ false true
        ⟨p, .ended none⟩
  | failed (trace : Trace) (carried begun : Bool) (p : Packet) (e : FiberError) :
      Stage t server old trace carried begun ⟨p, .ended (some e)⟩

variable {c : Conduct} {g : GuestRules ε} {t : Mandate ε} {server : String} {old : Pod} {p : Packet}
  {r : Request} {x : Exchange ε (Step ε)} {m m' : ChainMachine ε} {i : FiberId}
  {move : Move Answer} {sight : Sight} {trace : Trace} {carried begun : Bool}
  {f : Fiber (Step ε) Packet (Pending ε)}

/-! ## Moves of a restart -/

/-- A restart has made a move of its own: it stands in some stage, and of the
presence only its own server may have changed. -/
structure Advanced (t : Mandate ε) (server : String) (old : Pod) (i : FiberId) (m : ChainMachine ε)
    (move : Move Answer) (sight : Sight) (trace : Trace) (carried begun : Bool)
    (m' : ChainMachine ε) (sight' : Sight) (begun' : Bool) : Prop where
  seen : sight? t.id m'.world = some sight'
  length : m'.fibers.length = m.fibers.length
  domain : sight'.domain = sight.domain
  stopping : sight'.stopping = sight.stopping
  others : ∀ other, other ≠ server → sight'.servers.get? other = sight.servers.get? other
  own : ∀ pod, sight'.servers.get? server = some pod →
    sight.servers.get? server = some pod ∨ Made (t.body old) pod
  stage : ∃ f, m'.fiber? i = some f ∧
    Stage t server old { trace with held := sight'.servers.get? server } carried begun' f
  /-- The first step of a restart is reported, and nothing else is. -/
  reported :
    begun = false ∧ begun' = true ∧ (applied? m (.move i move)).isSome = true ∧
        sight'.events = t.reported server :: sight.events ∨
      begun' = begun ∧ sight'.events = sight.events ∧
        (begun = true ∨ applied? m (.move i move) = none)

private theorem advanced_unseen (seen : sight? t.id m'.world = some sight)
    (length : m'.fibers.length = m.fibers.length) (holds : trace.held = sight.servers.get? server)
    (found : m'.fiber? i = some f) (stage : Stage t server old trace carried true f) :
    Advanced t server old i m move sight trace carried true m' sight true := by
  refine ⟨seen, length, rfl, rfl, fun _ _ => rfl, fun _ held => .inl held, ⟨f, found, ?_⟩,
    .inr ⟨rfl, rfl, .inl rfl⟩⟩
  rw [← holds]
  exact stage

/-- What a fiber does with a failed call. -/
def Bears (c : Conduct) (g : GuestRules ε) (id : PresenceId) (sight : Sight) (r : Request)
    (x : Exchange ε (Step ε)) : Prop :=
  ∀ p w f, p.response? = some (.failure f) → p.presence = some id →
    isRetryable f.statusCode = true → sight? id w = some sight →
    ∃ action p' w', (chainDynamics c g).apply (.response (sent r x)) p w = .of action p' w' ∧
      p'.presence = some id ∧ sight? id w' = some sight ∧
      ((∃ wait, action = .delay wait (some (.request r (sent r x)))) ∨ ∃ e, action = .terminate e)

/-- A fiber that asks goes on asking, or fails. -/
private theorem asking_moves (asks : Asks r x f) (single : ∀ token, r.continuedAt token = r)
    (bears : Bears c g t.id sight r x) (works : f.packet.presence = some t.id)
    (found : m.fiber? i = some f) (seen : sight? t.id m.world = some sight)
    (own : move = .run ∨ move = .wake ∨ move = .join)
    (moved : m.move? (chainDynamics c g) i move = some m') :
    ∃ f', m'.fiber? i = some f' ∧ sight? t.id m'.world = some sight ∧
      m'.fibers.length = m.fibers.length ∧
      (f'.packet.presence = some t.id ∧ Asks r x f' ∨ ∃ p e, f' = ⟨p, .ended (some e)⟩) := by
  have requests (z : Exchange ε (Step ε)) (again : sent r z = sent r x) (p : Packet)
      (works : p.presence = some t.id)
      (found : m.fiber? i = some ⟨p, .running (some (.request r z))⟩) :
      ∃ f', m'.fiber? i = some f' ∧ sight? t.id m'.world = some sight ∧
        m'.fibers.length = m.fibers.length ∧
        (f'.packet.presence = some t.id ∧ Asks r x f' ∨ ∃ p e, f' = ⟨p, .ended (some e)⟩) := by
    obtain ⟨p', w', applies, works', seen'⟩ :=
      request_does (c := c) (g := g) (x := z) single works seen
    obtain ⟨stands, world, length⟩ := step_alone found moved applies rfl
    rw [again] at stands
    exact ⟨_, stands, world ▸ seen', length, .inl ⟨works', .waits p'⟩⟩
  cases asks with
  | first p => exact requests x rfl p works found
  | again p => exact requests (sent r x) rfl p works found
  | waits p =>
    obtain ⟨_, found', shape⟩ := move_iff_moved.mp moved
    cases found.symm.trans found'
    cases shape with
    | cancel | answer | crash => rcases own with own | own | own <;> cases own
  | refused p failure retryable response =>
    obtain ⟨action, p', w', applies, works', seen', goes⟩ :=
      bears p m.world failure response works retryable seen
    rcases goes with ⟨wait, rfl⟩ | ⟨e, rfl⟩
    · obtain ⟨stands, world, length⟩ := step_alone found moved applies rfl
      exact ⟨_, stands, world ▸ seen', length, .inl ⟨works', .pauses p' wait⟩⟩
    · obtain ⟨stands, world, length⟩ := step_alone found moved applies rfl
      refine ⟨_, stands, ?_, length, .inr ⟨_, e, rfl⟩⟩
      rw [world]
      exact (sight_count _).trans seen'
  | pauses p wait =>
    obtain ⟨_, found', shape⟩ := move_iff_moved.mp moved
    cases found.symm.trans found'
    cases shape with
    | wake => exact ⟨_, replace_fiber found, seen, by simp [replace], .inl ⟨works, .again p⟩⟩

private theorem fresh_moves (works : f.packet.presence = some t.id)
    (next : f.phase = .created (t.chain server old) ∨ f.phase = .running (some (t.chain server old)))
    (found : m.fiber? i = some f) (seen : sight? t.id m.world = some sight)
    (holds : some old = sight.servers.get? server)
    (moved : m.move? (chainDynamics c g) i move = some m') :
    ∃ sight' begun',
      Advanced t server old i m move sight (untouched old) false false m' sight' begun' := by
  obtain ⟨p, phase⟩ := f
  rcases next with rfl | rfl
  · obtain ⟨_, found', shape⟩ := move_iff_moved.mp moved
    cases found.symm.trans found'
    cases shape with
    | start =>
      refine ⟨sight, false, (sight_count _).trans seen, by simp [replace], rfl, rfl, fun _ _ => rfl,
        fun _ held => .inl held, ⟨_, replace_fiber found, ?_⟩, .inr ⟨rfl, rfl, .inr ?_⟩⟩
      · rw [← holds]
        exact .fresh _ works (.inr rfl)
      · simp [applied?, found]
  · obtain ⟨w', applies, seen'⟩ := begin_restart_does (c := c) (g := g) t server works
      seen (.request (t.deleteCall old) (t.deletion server old))
    obtain ⟨_, found', shape⟩ := move_iff_moved.mp moved
    cases found.symm.trans found'
    cases shape with
    | step =>
      obtain ⟨stands, world, length⟩ := step_alone found moved applies rfl
      refine ⟨{ sight with events := t.reported server :: sight.events }, true, world ▸ seen', length,
        rfl, rfl, fun _ _ => rfl, fun _ held => .inl held, ⟨_, stands, ?_⟩,
        .inl ⟨rfl, rfl, ?_, rfl⟩⟩
      · rw [← holds]
        exact .deleting _ works (.first p)
      · simp [applied?, found]

/-- Nobody looks for the removal in vain: when the wait is over, the old pod
has left. -/
private theorem removing_moves {leaving : Bool} {held : Option Pod} (going : Going old leaving held)
    (awaits : Awaits (t.deleteCall old) (t.deletion server old) (t.removal server old)
      (fun _ => True) f)
    (works : f.packet.presence = some t.id) (found : m.fiber? i = some f)
    (seen : sight? t.id m.world = some sight) (goesOn : sight.stopping = false)
    (holds : held = sight.servers.get? server)
    (moved : m.move? (chainDynamics c g) i move = some m') :
    Advanced t server old i m move sight ⟨false, leaving, held, [], [t.deleteCall old]⟩ false true
      m' sight true := by
  obtain ⟨_, found', shape⟩ := move_iff_moved.mp moved
  cases found.symm.trans found'
  cases awaits with
  | answered p response success _ waits =>
    obtain ⟨p', applies, works'⟩ := delete_succeeds (c := c) (g := g) (t := t) server old
      m.world waits works success
    obtain ⟨stands, world, length⟩ := step_alone found moved applies rfl
    exact advanced_unseen (world ▸ seen) length holds stands
      (.removing _ works' leaving held going (.looks p'))
  | looks p =>
    have works : p.presence = some t.id := works
    obtain ⟨action, w', applies, seen', goes⟩ := wait_removed_does (c := c) (g := g) (t := t)
      server old works seen goesOn
    rcases goes with ⟨rfl, other⟩ | ⟨wait, rfl⟩
    · obtain ⟨stands, world, length⟩ := step_alone found moved applies rfl
      cases going with
      | still => exact absurd rfl (other old holds.symm)
      | gone =>
        exact advanced_unseen (world ▸ seen') length holds stands (.creating _ works (.first p))
    · obtain ⟨stands, world, length⟩ := step_alone found moved applies rfl
      exact advanced_unseen (world ▸ seen') length holds stands
        (.removing _ works leaving held going (.pauses p wait))
  | pauses p wait =>
    have works : p.presence = some t.id := works
    cases shape with
    | wake =>
      exact advanced_unseen seen (by simp [replace]) holds (replace_fiber found)
        (.removing _ works leaving held going (.looks p))

private theorem starting_moves {held : Option Pod}
    (like : ∀ pod, held = some pod → Made (t.body old) pod)
    (awaits : Awaits (t.createCall old) (t.creation server) (.waitReady server none)
      (TellsOf (t.body old)) f)
    (works : f.packet.presence = some t.id) (found : m.fiber? i = some f)
    (seen : sight? t.id m.world = some sight) (goesOn : sight.stopping = false)
    (holds : held = sight.servers.get? server)
    (moved : m.move? (chainDynamics c g) i move = some m') :
    ∃ sight', Advanced t server old i m move sight
      ⟨true, false, held, [t.body old], [t.deleteCall old, t.createCall old]⟩ false true
      m' sight' true := by
  obtain ⟨_, found', shape⟩ := move_iff_moved.mp moved
  cases found.symm.trans found'
  cases awaits with
  | answered p response success truthful waits =>
    obtain ⟨p', w', servers, applies, works', seen', others, own⟩ := create_succeeds (c := c)
      (g := g) (t := t) server old waits works success seen
    obtain ⟨stands, world, length⟩ := step_alone found moved applies rfl
    have like' : ∀ pod, servers.get? server = some pod → Made (t.body old) pod := by
      intro pod now
      rcases own with same | ⟨told, answer, named⟩
      · exact like pod (holds.trans (same.symm.trans now))
      · cases named.symm.trans now
        exact truthful _ answer
    exact ⟨{ sight with servers }, world ▸ seen', length, rfl, rfl, others,
      fun pod held => .inr (like' pod held), ⟨_, stands, .starting _ works' _ like' (.looks p')⟩,
      .inr ⟨rfl, rfl, .inl rfl⟩⟩
  | looks p =>
    have works : p.presence = some t.id := works
    obtain ⟨action, applies, goes⟩ := wait_ready_does (ε := ε) (c := c) (g := g) server
      works seen goesOn
    rcases goes with ⟨rfl, somebody⟩ | ⟨wait, rfl⟩
    · obtain ⟨stands, world, length⟩ := step_alone found moved applies rfl
      obtain ⟨pod, now⟩ := Option.ne_none_iff_exists'.mp somebody
      have holds := holds.trans now
      subst holds
      refine ⟨sight, advanced_unseen ?_ length now.symm stands (.done _ pod (like pod rfl))⟩
      rw [world]
      exact (sight_count _).trans seen
    · obtain ⟨stands, world, length⟩ := step_alone found moved applies rfl
      exact ⟨sight, advanced_unseen (world ▸ seen) length holds stands
        (.starting _ works held like (.pauses p wait))⟩
  | pauses p wait =>
    have works : p.presence = some t.id := works
    cases shape with
    | wake =>
      exact ⟨sight, advanced_unseen seen (by simp [replace]) holds (replace_fiber found)
        (.starting _ works held like (.looks p))⟩

/-- Whatever move a restart makes, it stands in a stage again. -/
theorem stage_moves (stage : Stage t server old trace carried begun f)
    (found : m.fiber? i = some f) (seen : sight? t.id m.world = some sight)
    (goesOn : sight.stopping = false) (holds : trace.held = sight.servers.get? server)
    (own : move = .run ∨ move = .wake ∨ move = .join)
    (moved : m.move? (chainDynamics c g) i move = some m') :
    ∃ sight' begun', Advanced t server old i m move sight trace carried begun m' sight' begun' := by
  have waiting {p : Packet} {call : Pending ε} {andThen : Option (Step ε)}
      (waits : m.fiber? i = some ⟨p, .waiting call andThen⟩) : False := by
    obtain ⟨_, found', shape⟩ := move_iff_moved.mp moved
    cases waits.symm.trans found'
    cases shape with
    | cancel | answer | crash => rcases own with own | own | own <;> cases own
  cases stage with
  | fresh f works next => exact fresh_moves works next found seen holds moved
  | deleting f works asks =>
    have bears : Bears c g t.id sight (t.deleteCall old) (t.deletion server old) :=
      fun p w f waits works retryable seen => delete_refused waits works retryable seen
    obtain ⟨f', stands, seen', length, goes⟩ :=
      asking_moves asks delete_continued bears works found seen own moved
    rcases goes with ⟨works', asks'⟩ | ⟨p, e, rfl⟩
    · exact ⟨sight, true, advanced_unseen seen' length holds stands (.deleting f' works' asks')⟩
    · exact ⟨sight, true, advanced_unseen seen' length holds stands (.failed _ _ _ p e)⟩
  | deleted p works leaving held going => exact (waiting found).elim
  | removing f works leaving held going awaits =>
    exact ⟨sight, true, removing_moves going awaits works found seen goesOn holds moved⟩
  | creating f works asks =>
    have bears : Bears c g t.id sight (t.createCall old) (t.creation server) :=
      fun p w f waits works retryable seen => create_refused waits works retryable seen
    obtain ⟨f', stands, seen', length, goes⟩ :=
      asking_moves asks create_continued bears works found seen own moved
    rcases goes with ⟨works', asks'⟩ | ⟨p, e, rfl⟩
    · exact ⟨sight, true, advanced_unseen seen' length holds stands (.creating f' works' asks')⟩
    · exact ⟨sight, true, advanced_unseen seen' length holds stands (.failed _ _ _ p e)⟩
  | created p works held like => exact (waiting found).elim
  | starting f works held like awaits =>
    obtain ⟨sight', advanced⟩ := starting_moves like awaits works found seen goesOn holds moved
    exact ⟨sight', true, advanced⟩
  | done p pod like | failed trace carried begun p e =>
    obtain ⟨_, found', shape⟩ := move_iff_moved.mp moved
    cases found.symm.trans found'
    cases shape

/-! ## What the server does -/

variable {andThen : Option (Step ε)} {name : String} {grace : Option UInt32} {body : ApiObject}
  {response : Response} {pod : Pod}

/-- A call that is not carried out yet finds the pod as the stage has it. -/
inductive Calling (t : Mandate ε) (server : String) (old : Pod) (begun : Bool) (p : Packet) :
    Trace → Request → Option (Step ε) → Prop where
  | delete (works : p.presence = some t.id) (early : begun = true) :
      Calling t server old begun p (untouched old) (t.deleteCall old)
        (some (.response (sent (t.deleteCall old) (t.deletion server old))))
  | create (works : p.presence = some t.id) (early : begun = true) :
      Calling t server old begun p ⟨false, false, none, [], [t.deleteCall old]⟩ (t.createCall old)
        (some (.response (sent (t.createCall old) (t.creation server))))

theorem stage_calling
    (stage : Stage t server old trace false begun ⟨p, .waiting (.call r) andThen⟩) :
    Calling t server old begun p trace r andThen := by
  cases stage with
  | fresh _ _ next => rcases next with next | next <;> cases next
  | deleting _ works asks =>
    cases asks with
    | waits => exact .delete works rfl
  | removing _ _ _ _ _ awaits => cases awaits
  | creating _ works asks =>
    cases asks with
    | waits => exact .create works rfl
  | starting _ _ _ _ awaits => cases awaits

/-- The deletion of the old pod is carried out. -/
theorem stage_deletes
    (stage : Stage t server old trace false begun ⟨p, .waiting (.call r) andThen⟩)
    (asks : r.operation = .delete name grace) :
    r = t.deleteCall old ∧
      Stage t server old { trace with present := false, leaving := true } true begun
        ⟨p, .waiting (.call r) andThen⟩ := by
  cases stage_calling stage with
  | delete works early =>
    subst early
    exact ⟨rfl, .deleted p works true (some old) .still⟩
  | create => cases asks

/-- The making of the new pod is carried out. -/
theorem stage_creates
    (stage : Stage t server old trace false begun ⟨p, .waiting (.call r) andThen⟩)
    (asks : r.operation = .create body) :
    r = t.createCall old ∧ body = t.body old ∧
      Stage t server old { trace with present := true, made := body :: trace.made } true begun
        ⟨p, .waiting (.call r) andThen⟩ := by
  cases stage_calling stage with
  | delete => cases asks
  | create works early =>
    subst early
    cases asks
    exact ⟨rfl, rfl, .created p works none (fun _ held => nomatch held)⟩

/-- A call that was carried out is answered with success. -/
theorem stage_succeeds
    (stage : Stage t server old trace true begun ⟨p, .waiting (.call r) andThen⟩)
    (success : response.isFailure = false)
    (truthful : ∀ body, r.operation = .create body → TellsOf body response) :
    (r = t.deleteCall old ∨ r = t.createCall old) ∧
      Stage t server old { trace with calls := trace.calls ++ [r] } false begun
        ⟨p.put Packet.responseKey (.response response), .running andThen⟩ := by
  have waits : (p.put Packet.responseKey (.response response)).response? = some response := by
    rw [Packet.response?, Packets.value_put_same]
    rfl
  cases stage with
  | deleted _ works leaving held going =>
    exact ⟨.inl rfl, .removing _ works leaving held going
      (.answered _ response success trivial waits)⟩
  | created _ works held like =>
    exact ⟨.inr rfl, .starting _ works held like
      (.answered _ response success (truthful _ rfl) waits)⟩

/-- A call that was not carried out fails. -/
theorem stage_refused {failure : CallFailure}
    (stage : Stage t server old trace false begun ⟨p, .waiting (.call r) andThen⟩)
    (retryable : isRetryable failure.statusCode = true) :
    Stage t server old trace false begun
      ⟨p.put Packet.responseKey (.response (.failure failure)), .running andThen⟩ := by
  have waits : (p.put Packet.responseKey (.response (.failure failure))).response? =
      some (.failure failure) := by
    rw [Packet.response?, Packets.value_put_same]
    rfl
  cases stage_calling stage with
  | delete works early =>
    subst early
    exact .deleting _ works (.refused _ failure retryable waits)
  | create works early =>
    subst early
    exact .creating _ works (.refused _ failure retryable waits)

/-- The old pod leaves the presence. -/
theorem stage_leaves (stage : Stage t server old trace carried begun f)
    (deleted : trace.leaving = true) :
    Stage t server old { trace with leaving := false, held := none } carried begun f := by
  cases stage with
  | deleted p works _ _ going => exact .deleted p works false none .gone
  | removing f works _ _ going awaits => exact .removing f works false none .gone awaits
  | failed trace carried begun p e => exact .failed _ carried begun p e
  | _ => cases deleted

/-- A pod that was made for the server enters the presence. -/
theorem stage_enters (stage : Stage t server old trace carried begun f)
    (made : body ∈ trace.made) (like : Made body pod) :
    Stage t server old { trace with held := some pod } carried begun f := by
  have same (only : body ∈ [t.body old]) : Made (t.body old) pod :=
    List.mem_singleton.mp only ▸ like
  cases stage with
  | created p works held _ =>
    refine .created p works (some pod) ?_
    rintro _ ⟨⟩
    exact same made
  | starting f works held _ awaits =>
    refine .starting f works (some pod) ?_ awaits
    rintro _ ⟨⟩
    exact same made
  | done p _ _ => exact .done p pod (same made)
  | failed trace carried begun p e => exact .failed _ carried begun p e
  | _ => cases made

end DomainSteward.Stages
