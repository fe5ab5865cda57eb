import DomainSteward.Proofs.Fiber.Acts
import DomainSteward.Proofs.Presence.Feed
import DomainSteward.Proofs.Site.Path

/-! Which pods a restart forgets. A restart takes the pod of its server out of
what is known when it learns that there is no such pod at the server any more.
It does not look whether that is still the pod that it was built from, so it also
forgets a pod that somebody else has put there meanwhile; nothing else is ever
forgotten by it. -/
namespace DomainSteward.Forgetting
open Machine Moves Acts Exchanges Restarts Views Paths

variable {ε : Type}

/-- The pod that is known of a server. -/
def podSeen (id : PresenceId) (server : String) (w : World) : Option Pod :=
  (w.presence? id).bind (·.pod? server)

/-- No other pod is known of a server than the old one. -/
def Unreplaced (id : PresenceId) (server : String) (old : Pod) (w : World) : Prop :=
  ∀ pod, podSeen id server w = some pod → pod.metadata.uid = old.metadata.uid

/-- Somebody else than a fiber puts another pod in the place of the old one. -/
def Replaced (c : Conduct) (g : GuestRules ε) (id : PresenceId) (server : String) (old : Pod)
    (i : FiberId) (m : ChainMachine ε) (hs : List (Happening Answer World)) : Prop :=
  ∃ earlier h later before after, hs = earlier ++ h :: later ∧
    course? (chainDynamics c g) m earlier = some before ∧
    happen? (chainDynamics c g) before h = some after ∧ (∀ move, h ≠ .move i move) ∧
    Unreplaced id server old before.world ∧ ¬ Unreplaced id server old after.world

/-- What a move of a restart, after some course, makes of the pods that are known. -/
structure Forgets (c : Conduct) (g : GuestRules ε) (t : Mandate ε) (server : String) (old : Pod)
    (i : FiberId) (start : ChainMachine ε) (hs : List (Happening Answer World))
    (before after : ChainMachine ε) : Prop where
  /-- The pods of other servers stay. -/
  others : ∀ other, other ≠ server →
    podSeen t.id other after.world = podSeen t.id other before.world
  /-- The pod of the server is forgotten only on the answer that there is no such pod. -/
  answered : ∀ pod, podSeen t.id server before.world = some pod →
    podSeen t.id server after.world = none →
    ∃ p f, before.fiber? i = some
        ⟨p, .running (some (.response (sent (t.deleteCall old) (t.deletion server old))))⟩ ∧
      p.response? = some (.failure f) ∧ f.statusCode = some codeNotFound
  /-- It is the old pod, unless somebody else has replaced that. -/
  own : ∀ pod, podSeen t.id server before.world = some pod →
    podSeen t.id server after.world = none →
    pod.metadata.uid = old.metadata.uid ∨ Replaced c g t.id server old i start hs

variable {c : Conduct} {g : GuestRules ε} {t : Mandate ε} {server : String} {old pod : Pod}
  {id : PresenceId} {leg leg' : Leg} {v v' : Option View} {m m' : ChainMachine ε} {i : FiberId}
  {move : Move Answer} {h : Happening Answer World} {hs : List (Happening Answer World)}
  {stopping : Bool} {w : World}

theorem pod_of_view (id : PresenceId) (server : String) (w : World) :
    podSeen id server w = (view? id w).bind (·.servers.get? server) := by
  rw [podSeen, view?, Option.bind_map]
  rfl

/-! ## One move -/

/-- A restart has not yet learned what became of the old pod. -/
inductive Early : Leg → Prop where
  | fresh : Early .fresh
  | deleting : Early .deleting
  | deleted (r : Response) : Early (.deleted r)

/-- A restart never goes back. -/
theorem late_stays_late (advances : Advances server old stopping leg v move leg' v')
    (early : Early leg') : Early leg := by
  cases advances with
  | stays => exact early
  | begins => exact .fresh
  | deletes => exact .deleting
  | deletesAgain => exact .deleted _
  | _ => cases early

/-- Until it has learned that, a restart changes no pods. -/
theorem early_keeps_servers (advances : Advances server old stopping leg v move leg' v')
    (early : Early leg') : v'.map (·.servers) = v.map (·.servers) := by
  cases advances with
  | stays | begins | deletes | deletesAgain => rfl
  | _ => cases early

private theorem early_keeps_pods (advances : Advances server old stopping leg v move leg' v')
    (early : Early leg') :
    v'.bind (·.servers.get? server) = v.bind (·.servers.get? server) := by
  have same := congrArg (Option.bind · (·.get? server)) (early_keeps_servers advances early)
  simpa only [Option.bind_map, Function.comp_def] using same

private theorem offered_keeps (held : v.bind (·.servers.get? server) = some pod) (offer : Pod) :
    (v.map (·.offered server offer)).bind (·.servers.get? server) = some pod := by
  cases v with
  | none => cases held
  | some v =>
    have there : (v.servers.get? server).isNone = false := by
      rw [Option.bind_some] at held
      rw [held, Option.isNone_some]
    rw [Option.map_some, Option.bind_some, View.offered, there]
    exact held

/-- Only the answer that there is no such pod makes a restart forget one. -/
private theorem forgets_when_missing (advances : Advances server old stopping leg v move leg' v')
    (held : v.bind (·.servers.get? server) = some pod)
    (gone : v'.bind (·.servers.get? server) = none) :
    ∃ f, leg = .deleted (.failure f) ∧ f.statusCode = some codeNotFound := by
  cases advances with
  | misses _ f status => exact ⟨f, rfl, status⟩
  | made _ _ r success offers =>
    rcases offers with rfl | ⟨offer, _, rfl⟩
    · cases held.symm.trans gone
    · cases (offered_keeps held offer).symm.trans gone
  | keeps => cases v <;> cases held.symm.trans gone
  | _ => cases held.symm.trans gone

/-! ## The course of a restart -/

/-- A fiber is a restart on some leg of its path. -/
def Restarting (t : Mandate ε) (server : String) (old : Pod) (i : FiberId) (leg : Leg)
    (m : ChainMachine ε) : Prop :=
  ∃ f, m.fiber? i = some f ∧ f.packet.presence = some t.id ∧ On t server old leg f

/-- A restart stays where it is while others act. -/
theorem restart_stays (restarting : Restarting t server old i leg m)
    (happened : happen? (chainDynamics c g) m h = some m') (other : ∀ move, h ≠ .move i move) :
    Restarting t server old i leg m' := by
  obtain ⟨f, found, works, stands⟩ := restarting
  exact ⟨f, bystander_stays happened other found, works, stands⟩

/-- Whatever happens, either a restart itself moves on along its path, or it stays where it is. -/
theorem restart_goes (restarting : Restarting t server old i leg m) (proper : Proper m h)
    (happened : happen? (chainDynamics c g) m h = some m') :
    (∃ move leg', h = .move i move ∧ Restarting t server old i leg' m' ∧
        Advances server old m.world.isStopping leg (view? t.id m.world) move leg'
          (view? t.id m'.world)) ∨
      (∀ move, h ≠ .move i move) ∧ Restarting t server old i leg m' := by
  by_cases own : ∃ move, h = .move i move
  · obtain ⟨move, rfl⟩ := own
    obtain ⟨f, found, works, stands⟩ := restarting
    obtain ⟨leg', goes⟩ := path_moves found works stands proper happened
    exact .inl ⟨move, leg', rfl, goes.stands, goes.advances⟩
  · have other := not_exists.mp own
    exact .inr ⟨other, restart_stays restarting happened other⟩

/-- A restart that is still early has changed no pods; so another pod of its server than the old one
was put there by somebody else. -/
private theorem early_course (restarting : Restarting t server old i leg m)
    (proper : Along (chainDynamics c g) Proper m hs)
    (ran : course? (chainDynamics c g) m hs = some m') :
    ∃ leg', Restarting t server old i leg' m' ∧ (Early leg' → Early leg ∧
      (Unreplaced t.id server old m.world →
        Unreplaced t.id server old m'.world ∨ Replaced c g t.id server old i m hs)) := by
  induction hs generalizing m leg with
  | nil =>
    cases ran
    exact ⟨leg, restarting, fun early => ⟨early, .inl⟩⟩
  | cons h rest ih =>
    obtain ⟨next, happened, onward⟩ := Option.bind_eq_some_iff.mp ran
    have later : Replaced c g t.id server old i next rest →
        Replaced c g t.id server old i m (h :: rest) := by
      rintro ⟨earlier, h', others, before, after, rfl, reached, replaces⟩
      refine ⟨h :: earlier, h', others, before, after, rfl, ?_, replaces⟩
      rw [course?, happened, Option.bind_some]
      exact reached
    by_cases own : ∃ move, h = .move i move
    · obtain ⟨move, rfl⟩ := own
      obtain ⟨f, found, works, stands⟩ := restarting
      obtain ⟨leg₁, goes⟩ := path_moves found works stands proper.1 happened
      obtain ⟨leg', arrives, early⟩ := ih goes.stands (proper.2 next happened) onward
      refine ⟨leg', arrives, fun isEarly => ?_⟩
      obtain ⟨early₁, course⟩ := early isEarly
      refine ⟨late_stays_late goes.advances early₁, fun unreplaced => ?_⟩
      refine (course fun pod seen => unreplaced pod ?_).imp_right later
      rw [pod_of_view, early_keeps_pods goes.advances early₁, ← pod_of_view] at seen
      exact seen
    · have other := not_exists.mp own
      obtain ⟨leg', arrives, early⟩ :=
        ih (restart_stays restarting happened other) (proper.2 next happened) onward
      refine ⟨leg', arrives, fun isEarly => ?_⟩
      obtain ⟨early₁, course⟩ := early isEarly
      refine ⟨early₁, fun unreplaced => ?_⟩
      by_cases still : Unreplaced t.id server old next.world
      · exact (course still).imp_right later
      · exact .inr ⟨[], h, rest, m, next, rfl, rfl, happened, other, unreplaced, still⟩

/-- Where a fiber stands whose restart has been told that its pod is missing. -/
private theorem told_missing {f : CallFailure}
    (restarting : Restarting t server old i (.deleted (.failure f)) m) :
    ∃ p, m.fiber? i = some
        ⟨p, .running (some (.response (sent (t.deleteCall old) (t.deletion server old))))⟩ ∧
      p.response? = some (.failure f) := by
  obtain ⟨_, found, _, stands⟩ := restarting
  cases stands with
  | deleted p r told => exact ⟨p, found, told⟩

/-- A restart forgets no pod but that of its own server, only when it is told that there is no such
pod, and no other pod than the one it was built from unless somebody else has put another one
there meanwhile. -/
theorem forgets_no_pod_but_the_old_one {start : ChainMachine ε} {chain : Step ε} {p : Packet}
    {phase : Phase (Step ε) (Pending ε)} (had : t.presence.pod? server = some old)
    (built : restartServer? t.sink t.presence server t.version none = some chain)
    (begins : start.fiber? i = some ⟨p, phase⟩)
    (fresh : phase = .created chain ∨ phase = .running (some chain))
    (works : p.presence = some t.id) (unreplaced : Unreplaced t.id server old start.world)
    (proper : Along (chainDynamics c g) Proper start hs)
    (ran : course? (chainDynamics c g) start hs = some m) (next : Proper m (.move i move))
    (moved : m.move? (chainDynamics c g) i move = some m') :
    Forgets c g t server old i start hs m m' := by
  rw [restart_server, had, Option.map_some] at built
  cases built
  obtain ⟨leg, restarting, course⟩ := early_course ⟨_, begins, works, .fresh p phase fresh⟩ proper ran
  obtain ⟨f, found, working, stands⟩ := restarting
  obtain ⟨leg', goes⟩ := path_moves found working stands next moved
  have missing {pod : Pod} (held : podSeen t.id server m.world = some pod)
      (gone : podSeen t.id server m'.world = none) :
      ∃ f, leg = .deleted (.failure f) ∧ f.statusCode = some codeNotFound := by
    rw [pod_of_view] at held gone
    exact forgets_when_missing goes.advances held gone
  refine ⟨fun other foreign => ?_, fun pod held gone => ?_, fun pod held gone => ?_⟩
  · have same := advances_leaves_others goes.advances foreign
    have pods := congrArg (fun part => part.bind Prod.fst) same
    rw [pod_of_view, pod_of_view]
    simpa [Option.bind_map, View.part, Function.comp_def] using pods
  · obtain ⟨failure, rfl, status⟩ := missing held gone
    obtain ⟨packet, here, told⟩ := told_missing ⟨f, found, working, stands⟩
    exact ⟨packet, failure, here, told, status⟩
  · obtain ⟨failure, rfl, _⟩ := missing held gone
    exact ((course (.deleted _)).2 unreplaced).imp_left fun unreplaced => unreplaced pod held

/-! ## A replacement that is forgotten -/

/-- All calls of a course are answered with responses. -/
theorem proper_along (answers : ∀ i a, .move i (.answer a) ∈ hs → ∃ r, a = .response r) :
    Along (chainDynamics c g) Proper m hs := by
  induction hs generalizing m with
  | nil => trivial
  | cons h rest ih =>
    refine ⟨?_, fun next _ => ih fun i a among => answers i a (List.mem_cons_of_mem _ among)⟩
    rintro i a _ _ _ rfl _
    exact answers i a List.mem_cons_self

theorem proper_of_run (i : FiberId) : Proper m (.move i .run) :=
  proper_of_no_answer fun _ _ same => nomatch same

def oldPod : Pod := Feeds.podNumbered "ms1" "1"

def newPod : Pod := Feeds.podNumbered "ms1" "2"

/-- A domain with one server. -/
def single : Presence :=
  { namespaceName := "ns", domainUid := "domain1"
    servers := ({} : NameMap Pod).insert "ms1" oldPod }

def renewal : Mandate Empty :=
  { packet := { presence := some 0 }, id := 0, presence := single
    domain := { spec := { restartVersion := some "2" } }, sink := none, next := none }

/-- The restart of its server is about to begin. -/
def renewing : ChainMachine Empty :=
  { fibers := [⟨renewal.packet, .created (renewal.chain "ms1" oldPod)⟩]
    world := { feed := { registry :=
      { presences := [single], index := [(("ns", "domain1"), 0)] } } } }

/-- The restart calls for the deletion of the old pod. -/
def deletes : List (Happening Answer World) := [.move 0 .run, .move 0 .run, .move 0 .run]

/-- The server answers that there is no such pod. -/
def answersMissing : Happening Answer World :=
  .move 0 (.answer (.response (.failure { (default : CallFailure) with
    statusCode := some codeNotFound })))

theorem old_pod_is_forgotten : ∃ told forgotten,
    course? (chainDynamics {} .nobody) renewing (deletes ++ [answersMissing]) = some told ∧
      told.move? (chainDynamics {} .nobody) 0 .run = some forgotten ∧
      podSeen 0 "ms1" told.world = some oldPod ∧ podSeen 0 "ms1" forgotten.world = none ∧
      Forgets {} .nobody renewal "ms1" oldPod 0 renewing (deletes ++ [answersMissing]) told
        forgotten := by
  refine ⟨_, _, rfl, rfl, rfl, rfl, ?_⟩
  refine forgets_no_pod_but_the_old_one (p := renewal.packet) rfl rfl rfl (.inl rfl) rfl ?_
    (proper_along ?_) rfl (proper_of_run 0) rfl
  · rintro pod ⟨⟩
    rfl
  · simp [deletes, answersMissing]

/-- While the deletion is under way, the watch tells that the old pod is gone and that another one
has taken its place. -/
def tellsOfReplacement (w : World) : Happening Answer World :=
  .outside { w with feed := Feeds.receiveAll w.feed [.deleted oldPod, .applied newPod] }

/-- A restart forgets a pod that has replaced the old one. Told by the watch, the deletion of the
old pod would have left it there. -/
theorem replacement_is_forgotten : ∃ calling told forgotten,
    restartServer? renewal.sink renewal.presence "ms1" renewal.version none =
        some (renewal.chain "ms1" oldPod) ∧
      course? (chainDynamics {} .nobody) renewing deletes = some calling ∧
      course? (chainDynamics {} .nobody) calling
        [tellsOfReplacement calling.world, answersMissing] = some told ∧
      told.move? (chainDynamics {} .nobody) 0 .run = some forgotten ∧
      podSeen 0 "ms1" told.world = some newPod ∧ newPod.metadata.uid ≠ oldPod.metadata.uid ∧
      podSeen 0 "ms1" forgotten.world = none ∧
      podSeen 0 "ms1" (told.world.withRegistry (·.podDeleted oldPod)) = some newPod :=
  ⟨_, _, _, rfl, rfl, rfl, rfl, rfl, by decide, rfl, rfl⟩

end DomainSteward.Forgetting
