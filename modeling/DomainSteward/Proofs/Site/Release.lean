import DomainSteward.Proofs.Fiber.Barrier
import DomainSteward.Proofs.Presence.Marks
import DomainSteward.Proofs.Site.Forgetting

/-! The mark of a restart. While the old pod of its server goes away a restart holds the server
marked as being deleted, and as long as nobody stops it the mark is gone when it ends, whatever its
calls were answered. A restart that gives up the deletion ends before it has touched any pod that is
known. -/
namespace DomainSteward.Releases
open Machine Moves Barrier Acts Exchanges Restarts Views Paths Forgetting Marks

variable {ε : Type}

/-- The pods that are known of a domain. -/
def podsSeen (id : PresenceId) (w : World) : Option (NameMap Pod) :=
  (w.presence? id).map (·.servers)

/-- What happens beside a fiber: the watch tells something, or else the mark of a server is left
as it is. -/
inductive Beside (c : Conduct) (g : GuestRules ε) (id : PresenceId) (server : String)
    (m : ChainMachine ε) : Happening Answer World → Prop where
  | told (event : PodEvent) :
      Beside c g id server m (.outside { m.world with feed := m.world.feed.receive event })
  | apart (h : Happening Answer World)
      (kept : ∀ m', happen? (chainDynamics c g) m h = some m' →
        marked m'.world.registry id server = marked m.world.registry id server) :
      Beside c g id server m h

/-- What may happen while a fiber restarts a server: its calls are answered somehow, no stop is
requested, and nobody else marks the server or takes its mark away. -/
structure Unstopped (c : Conduct) (g : GuestRules ε) (id : PresenceId) (server : String)
    (i : FiberId) (m : ChainMachine ε) (h : Happening Answer World) : Prop where
  proper : Proper m h
  goesOn : m.world.isStopping = false
  beside : (∀ move, h ≠ .move i move) → Beside c g id server m h

/-- A fiber changes none of the pods that are known, whatever others do. -/
def Untouched (c : Conduct) (g : GuestRules ε) (id : PresenceId) (i : FiberId)
    (m : ChainMachine ε) (h : Happening Answer World) : Prop :=
  ∀ move m', h = .move i move → happen? (chainDynamics c g) m h = some m' →
    podsSeen id m'.world = podsSeen id m.world

/-- In some course a fiber judges the answer to the deletion of the old pod and ends with an
error. -/
def GivesUpDeletion (c : Conduct) (g : GuestRules ε) (t : Mandate ε) (server : String) (old : Pod)
    (i : FiberId) (start : ChainMachine ε) (hs : List (Happening Answer World)) : Prop :=
  ∃ p before after rest q e,
    Moment (chainDynamics c g) start hs i
      (.response (sent (t.deleteCall old) (t.deletion server old))) p before after rest ∧
    after.fiber? i = some ⟨q, .ended (some e)⟩

variable {c : Conduct} {g : GuestRules ε} {t : Mandate ε} {server : String} {old : Pod}
  {id : PresenceId} {leg leg' : Leg} {v v' : Option View} {m m' : ChainMachine ε} {i : FiberId}
  {move : Move Answer} {h : Happening Answer World} {hs : List (Happening Answer World)}

/-! ## The mark -/

/-- The mark of a server, in what is seen. -/
def sees (server : String) (v : Option View) : Bool := v.any (·.marks.contains server)

theorem marked_seen (id : PresenceId) (server : String) (w : World) :
    marked w.registry id server = sees server (view? id w) := by
  rw [sees, view?, Option.any_map]
  rfl

private theorem unmark_unseen (server : String) (v : Option View) :
    sees server (v.map (·.unmark server)) = false := by
  cases v with
  | none => rfl
  | some v => simp [sees, View.unmark, NameMap.contains, NameMap.get?_erase]

private theorem offered_marks (server : String) (pod : Pod) (v : Option View) :
    sees server (v.map (·.offered server pod)) = sees server v := by
  cases v with
  | none => rfl
  | some v =>
    simp only [Option.map_some, View.offered]
    split <;> rfl

/-- A restart has done with the old pod. -/
inductive Released : Leg → Prop where
  | creating : Released .creating
  | created (r : Response) : Released (.created r)
  | starting : Released .starting
  | finished (failure : Option FiberError) : Released (.finished failure)

/-- A restart that nobody stops takes its mark away before it has done with the old pod, and never
sets it again. -/
theorem advances_released (advances : Advances server old false leg v move leg' v')
    (free : Released leg → sees server v = false) (released : Released leg') :
    sees server v' = false := by
  cases advances with
  | stays => exact free released
  | makes => exact free .creating
  | keeps => exact unmark_unseen server v
  | gone v => exact unmark_unseen server (some v)
  | made _ _ _ _ offers =>
    rcases offers with rfl | ⟨pod, _, rfl⟩
    · exact free (.created _)
    · exact (offered_marks server pod v).trans (free (.created _))
  | taken | makesAgain | gives => exact free (.created _)
  | done => exact free .starting
  | stops _ _ _ stops => cases stops
  | discards _ _ _ _ stops => cases stops
  | astray => rfl
  | _ => cases released

private theorem beside_keeps (beside : Beside c g id server m h)
    (happened : happen? (chainDynamics c g) m h = some m') :
    marked m'.world.registry id server = marked m.world.registry id server := by
  cases beside with
  | told event =>
    cases happened
    exact watch_leaves_marks m.world.feed event id server
  | apart _ kept => exact kept m' happened

/-- By induction on the course; on each leg that comes after the old pod the mark is gone. -/
private theorem released_course (restarting : Restarting t server old i leg m)
    (free : Released leg → marked m.world.registry t.id server = false)
    (along : Along (chainDynamics c g) (Unstopped c g t.id server i) m hs)
    (ran : course? (chainDynamics c g) m hs = some m') :
    ∃ leg', Restarting t server old i leg' m' ∧
      (Released leg' → marked m'.world.registry t.id server = false) := by
  induction hs generalizing m leg with
  | nil =>
    cases ran
    exact ⟨leg, restarting, free⟩
  | cons h rest ih =>
    obtain ⟨next, happened, onward⟩ := Option.bind_eq_some_iff.mp ran
    rcases restart_goes restarting along.1.proper happened with
      ⟨move, leg₁, rfl, arrives, advances⟩ | ⟨other, remains⟩
    · rw [along.1.goesOn] at advances
      refine ih arrives (fun released => ?_) (along.2 next happened) onward
      rw [marked_seen] at free ⊢
      exact advances_released advances free released
    · have kept := beside_keeps (along.1.beside other) happened
      exact ih remains (fun released => kept.trans (free released)) (along.2 next happened) onward

/-! ## The pods -/

theorem pods_of_view (id : PresenceId) (w : World) :
    podsSeen id w = (view? id w).map (·.servers) := by
  rw [podsSeen, view?, Option.map_map]
  rfl

private theorem untouched_of_view (happened : happen? (chainDynamics c g) m h = some m')
    (kept : (view? id m'.world).map (·.servers) = (view? id m.world).map (·.servers)) :
    Untouched c g id i m h := by
  intro _ _ _ happened'
  cases happened.symm.trans happened'
  rw [pods_of_view, pods_of_view]
  exact kept

/-- While a restart does not know yet what became of the old pod, it has touched no pods. -/
private theorem early_untouched (restarting : Restarting t server old i leg m)
    (proper : Along (chainDynamics c g) Proper m hs)
    (ran : course? (chainDynamics c g) m hs = some m') :
    ∃ leg', Restarting t server old i leg' m' ∧
      (Early leg' → Early leg ∧ Along (chainDynamics c g) (Untouched c g t.id i) m hs) := by
  induction hs generalizing m leg with
  | nil =>
    cases ran
    exact ⟨leg, restarting, fun early => ⟨early, trivial⟩⟩
  | cons h rest ih =>
    obtain ⟨next, happened, onward⟩ := Option.bind_eq_some_iff.mp ran
    rcases restart_goes restarting proper.1 happened with
      ⟨move, leg₁, rfl, arrives, advances⟩ | ⟨other, remains⟩
    · obtain ⟨leg', ends, course⟩ := ih arrives (proper.2 next happened) onward
      refine ⟨leg', ends, fun isEarly => ?_⟩
      obtain ⟨early₁, untouched⟩ := course isEarly
      have kept := untouched_of_view (i := i) happened (early_keeps_servers advances early₁)
      exact ⟨late_stays_late advances early₁, along_next kept happened untouched⟩
    · obtain ⟨leg', ends, course⟩ := ih remains (proper.2 next happened) onward
      refine ⟨leg', ends, fun isEarly => ?_⟩
      obtain ⟨early, untouched⟩ := course isEarly
      exact ⟨early, along_next (fun move _ same => absurd same (other move)) happened untouched⟩

/-- A fiber that has ended touches nothing any more. -/
private theorem ended_untouched {p : Packet} {failure : Option FiberError}
    (ended : m.fiber? i = some ⟨p, .ended failure⟩) :
    Along (chainDynamics c g) (Untouched c g id i) m hs := by
  induction hs generalizing m with
  | nil => trivial
  | cons h rest ih =>
    refine ⟨?_, fun next happened => ih (done_stays_done happened ended rfl)⟩
    rintro move m' rfl moved
    obtain ⟨_, found, shape⟩ := move_iff_moved.mp moved
    cases found.symm.trans ended
    cases shape

/-- Where a restart stands that judges the answer to the deletion. -/
private theorem judging_deleted {p : Packet}
    (stands : On t server old leg
      ⟨p, .running (some (.response (sent (t.deleteCall old) (t.deletion server old))))⟩) :
    ∃ r, leg = .deleted r := by
  cases stands with
  | fresh _ _ next => simp [Mandate.chain] at next
  | deleting _ _ asks => cases asks
  | deleted _ r => exact ⟨r, rfl⟩
  | removing _ _ looks => cases looks
  | creating _ _ asks => cases asks
  | starting _ _ looks => cases looks

/-- A restart that ends when it has judged that answer leaves the pods as they are. -/
private theorem giving_up_keeps_servers {r : Response} {failure : Option FiberError}
    {stopping : Bool}
    (advances : Advances server old stopping (.deleted r) v move (.finished failure) v') :
    v'.map (·.servers) = v.map (·.servers) := by
  cases advances with
  | keeps => cases v <;> rfl
  | stops _ waits => simp at waits
  | discards _ waits => simp at waits
  | astray _ waits => simp at waits

/-- A course in which the deletion is given up: the restart is early until it judges the answer, and
then it has ended. -/
private theorem given_up_untouched (restarting : Restarting t server old i leg m)
    (proper : Along (chainDynamics c g) Proper m hs)
    (givesUp : GivesUpDeletion c g t server old i m hs) :
    Along (chainDynamics c g) (Untouched c g t.id i) m hs := by
  obtain ⟨p, before, after, rest, q, e, moment, ended⟩ := givesUp
  obtain ⟨earlier, rfl, came⟩ := moment.during
  have moved : happen? (chainDynamics c g) before (.move i .run) = some after := moment.moves
  obtain ⟨beforehand, judging, _⟩ := (along_append came).mp proper
  obtain ⟨leg₁, ⟨f, found, works, stands⟩, early⟩ := early_untouched restarting beforehand came
  cases found.symm.trans moment.found
  obtain ⟨r, rfl⟩ := judging_deleted stands
  obtain ⟨leg₂, goes⟩ := path_moves found works stands judging moved
  obtain ⟨f', found', _, stands'⟩ := goes.stands
  cases found'.symm.trans ended
  cases ended_finished stands'
  have kept := untouched_of_view (i := i) moved (giving_up_keeps_servers goes.advances)
  exact (along_append came).mpr
    ⟨(early (.deleted r)).2, along_next kept moved (ended_untouched ended)⟩

/-! ## A restart that ends -/

/-- When a restart ends, well or with an error, its server is not marked, whatever its calls were
answered and whatever the watch told meanwhile. If it has given up the deletion of the old pod, none
of its moves has changed the pods that are known. A restart whose call panics has crashed; it does
not count as one that ends. -/
theorem ended_restart_left_no_mark {start : ChainMachine ε} {chain : Step ε} {p q : Packet}
    {phase : Phase (Step ε) (Pending ε)} {failure : Option FiberError}
    (had : t.presence.pod? server = some old)
    (built : restartServer? t.sink t.presence server t.version none = some chain)
    (begins : start.fiber? i = some ⟨p, phase⟩)
    (fresh : phase = .created chain ∨ phase = .running (some chain))
    (works : p.presence = some t.id)
    (along : Along (chainDynamics c g) (Unstopped c g t.id server i) start hs)
    (ran : course? (chainDynamics c g) start hs = some m)
    (ended : m.fiber? i = some ⟨q, .ended failure⟩) :
    marked m.world.registry t.id server = false ∧
      (GivesUpDeletion c g t server old i start hs →
        Along (chainDynamics c g) (Untouched c g t.id i) start hs) := by
  rw [restart_server, had, Option.map_some] at built
  cases built
  have restarting : Restarting t server old i .fresh start :=
    ⟨_, begins, works, .fresh p phase fresh⟩
  refine ⟨?_, given_up_untouched restarting (along_mono (fun _ _ => Unstopped.proper) along)⟩
  obtain ⟨leg, ⟨f, found, _, stands⟩, free⟩ :=
    released_course restarting (fun released => nomatch released) along ran
  cases found.symm.trans ended
  cases ended_finished stands
  exact free (.finished failure)

/-- While the restart calls for the deletion of the old pod the watch tells of another one. Then the
server refuses the deletion. -/
def refused (calling : ChainMachine Empty) : List (Happening Answer World) :=
  deletes ++
    [.outside { calling.world with feed := calling.world.feed.receive (.applied newPod) },
      .move 0 (.answer (.response (.failure (.http default { code := 422 }))))]

private theorem unstopped_move {m : ChainMachine Empty} (move : Move Answer)
    (proper : Proper m (.move 0 move)) (goesOn : m.world.isStopping = false) :
    Unstopped {} .nobody 0 "ms1" 0 m (.move 0 move) :=
  ⟨proper, goesOn, fun other => absurd rfl (other move)⟩

private theorem refused_unstopped {calling : ChainMachine Empty}
    (came : course? (chainDynamics {} .nobody) renewing deletes = some calling) :
    Along (chainDynamics {} .nobody) (Unstopped {} .nobody 0 "ms1" 0) renewing
      (refused calling ++ [.move 0 .run]) := by
  cases came
  have runs {m : ChainMachine Empty} (goesOn : m.world.isStopping = false) :
      Unstopped {} .nobody 0 "ms1" 0 m (.move 0 .run) := unstopped_move _ (proper_of_run 0) goesOn
  refine along_next (runs rfl) rfl ?_
  refine along_next (runs rfl) rfl ?_
  refine along_next (runs rfl) rfl ?_
  refine along_next ⟨proper_of_no_answer (by simp), rfl, fun _ => .told _⟩ rfl ?_
  refine along_next (unstopped_move _ (proper_of_response 0 _) rfl) rfl ?_
  exact along_next (runs rfl) rfl trivial

private theorem refused_gives_up {calling : ChainMachine Empty}
    (came : course? (chainDynamics {} .nobody) renewing deletes = some calling) :
    GivesUpDeletion {} .nobody renewal "ms1" oldPod 0 renewing (refused calling ++ [.move 0 .run]) ∧
      ∃ m q e, course? (chainDynamics {} .nobody) renewing (refused calling ++ [.move 0 .run]) =
          some m ∧
        m.fiber? 0 = some ⟨q, .ended (some e)⟩ := by
  cases came
  exact ⟨⟨_, _, _, [], _, _, ⟨⟨refused _, rfl, rfl⟩, rfl, rfl⟩, rfl⟩, _, _, _, rfl, rfl⟩

theorem refused_deletion_leaves_no_mark : ∃ (calling m : ChainMachine Empty) (q : Packet)
    (e : FiberError), course? (chainDynamics {} .nobody) renewing deletes = some calling ∧
      marked calling.world.registry 0 "ms1" = true ∧
      course? (chainDynamics {} .nobody) renewing (refused calling ++ [.move 0 .run]) = some m ∧
      m.fiber? 0 = some ⟨q, .ended (some e)⟩ ∧ marked m.world.registry 0 "ms1" = false ∧
      GivesUpDeletion {} .nobody renewal "ms1" oldPod 0 renewing
        (refused calling ++ [.move 0 .run]) ∧
      Along (chainDynamics {} .nobody) (Untouched {} .nobody 0 0) renewing
        (refused calling ++ [.move 0 .run]) := by
  obtain ⟨calling, came, marks⟩ :
      ∃ calling, course? (chainDynamics {} .nobody) renewing deletes = some calling ∧
        marked calling.world.registry 0 "ms1" = true := ⟨_, rfl, rfl⟩
  obtain ⟨gaveUp, m, q, e, ran, ended⟩ := refused_gives_up came
  obtain ⟨free, untouched⟩ := ended_restart_left_no_mark (t := renewal) rfl rfl rfl
    (.inl rfl) rfl (refused_unstopped came) ran ended
  exact ⟨calling, m, q, e, came, marks, ran, ended, free, gaveUp, untouched gaveUp⟩

end DomainSteward.Releases
