import DomainSteward.Proofs.Roll.Floor
import DomainSteward.Proofs.Site.Journeys

/-! Who lends slack to a wave. A roll sorts its members by a snapshot of the
Ready servers, and its waves look at later ones. A server that was not Ready
when it was sorted, and so restarts at once, may be Ready for a wave before its
chain has begun; but no move of the roll makes it so. -/
namespace DomainSteward.Slack
open Machine Moves RollSteps WaveLoop Ledger Anatomy Lots Restarts Views Calm Floor Paths Journeys

variable {ε : Type} {c : Conduct} {g : GuestRules ε} {t : Mandate ε} {r r' opened : Roll ε}
  {h : Happening Answer World} {hs : List (Happening Answer World)} {ready : NameSet}
  {id : PresenceId} {server : String} {i : FiberId} {move : Move Answer}

/-- A server is known and Ready. -/
def IsReady (id : PresenceId) (server : String) (r : Roll ε) : Prop :=
  ∃ now, r.machine.world.presence? id = some now ∧ now.isServerReady server = true

/-- Somebody else than the roll makes a server Ready on a course. -/
def MadeReady (c : Conduct) (g : GuestRules ε) (id : PresenceId) (server : String) (r : Roll ε)
    (hs : List (Happening Answer World)) : Prop :=
  ∃ earlier h later before after, hs = earlier ++ h :: later ∧
    Roll.course? c g r earlier = some before ∧ before.follow? c g h = some after ∧
    (∀ i move, h = .move i move → ¬ Belongs before i) ∧ ¬ IsReady id server before ∧
      IsReady id server after

private theorem is_ready_seen :
    IsReady id server r ↔ ∃ v, view? id r.machine.world = some v ∧ v.isReady server = true := by
  constructor
  · rintro ⟨now, known, isReady⟩
    exact ⟨_, view_of_known known, isReady⟩
  · rintro ⟨v, seen, isReady⟩
    obtain ⟨now, known, rfl⟩ := Option.map_eq_some_iff.mp seen
    exact ⟨now, known, isReady⟩

/-- What is seen of a server decides whether it is Ready. -/
private theorem ready_of_part {v v' : Option View}
    (same : v'.map (·.part server) = v.map (·.part server))
    (isReady : ∃ w, v' = some w ∧ w.isReady server = true) :
    ∃ w, v = some w ∧ w.isReady server = true := by
  obtain ⟨w', rfl, isReady⟩ := isReady
  obtain ⟨w, rfl, part⟩ := Option.map_eq_some_iff.mp same.symm
  refine ⟨w, rfl, ?_⟩
  rw [View.isReady, part]
  exact isReady

/-- The first move along a path that is seen takes the server down. -/
private theorem first_move_makes_nobody_ready {old : Pod} {leg : Leg} {v v' : Option View}
    {move : Move Answer} {stopping : Bool}
    (advances : Advances server old stopping .fresh v move leg v')
    (isReady : ∃ w, v' = some w ∧ w.isReady server = true) :
    ∃ w, v = some w ∧ w.isReady server = true := by
  cases advances with
  | stays => exact isReady
  | begins v =>
    obtain ⟨_, same, isReady⟩ := isReady
    cases same
    rw [View.mark_not_ready] at isReady
    cases isReady
  | discards _ waits => exact absurd waits (by simp)
  | stops _ waits => exact absurd waits (by simp)
  | astray => exact isReady
  | crashes _ waits => exact absurd waits (by simp)

/-- No move of a roll makes a server Ready whose chain has not begun. -/
theorem roll_makes_nobody_ready (travels : Travels t ready r) (proper : Proper r.machine h)
    (follows : r.follow? c g h = some r') (own : Belongs r i) (moves : h = .move i move)
    (unbegun : ¬ UnderWay r' server) (isReady : IsReady t.id server r') :
    IsReady t.id server r := by
  subst moves
  rw [is_ready_seen] at isReady ⊢
  rcases own with own | ⟨chain, among, rfl⟩
  · rw [opened_unseen travels.opened own follows] at isReady
    exact isReady
  · by_cases same : server = chain.member.1
    · subst same
      have late : chain.id ∉ r.begun := fun begun =>
        unbegun ⟨chain, chains_grow follows chain among, rfl, begun_grows follows _ begun⟩
      obtain ⟨old, journey⟩ := journey_begins travels.works travels.opened among
        (travels.opened.fresh chain among late)
      obtain ⟨leg, _, advances⟩ := journey_goes journey proper follows
      exact first_move_makes_nobody_ready advances isReady
    · obtain ⟨old, leg, journey⟩ := travels.chains chain among
      obtain ⟨leg', _, advances⟩ := journey_goes journey proper follows
      exact ready_of_part (advances_leaves_others advances same) isReady

theorem course_under_way (ran : Roll.course? c g r hs = some r') (begun : UnderWay r server) :
    UnderWay r' server := by
  induction hs generalizing r with
  | nil =>
    cases ran
    exact begun
  | cons h rest ih =>
    obtain ⟨next, follows, ran⟩ := Option.bind_eq_some_iff.mp ran
    obtain ⟨chain, among, serves, begun⟩ := begun
    exact ih ran ⟨chain, chains_grow follows chain among, serves, begun_grows follows _ begun⟩

/-- A server that becomes Ready on a course before its chain has begun was made
Ready by somebody else. -/
private theorem course_makes_nobody_ready (travels : Travels t ready r)
    (proper : Along c g (fun r h => Proper r.machine h) r hs)
    (ran : Roll.course? c g r hs = some r') (unbegun : ¬ UnderWay r' server)
    (before : ¬ IsReady t.id server r) (after : IsReady t.id server r') :
    MadeReady c g t.id server r hs := by
  induction hs generalizing r with
  | nil =>
    cases ran
    exact absurd after before
  | cons h rest ih =>
    obtain ⟨next, follows, ran⟩ := Option.bind_eq_some_iff.mp ran
    have stillUnbegun : ¬ UnderWay next server := fun begun =>
      unbegun (course_under_way ran begun)
    by_cases isReady : IsReady t.id server next
    · refine ⟨[], h, rest, r, next, rfl, rfl, follows, ?_, before, isReady⟩
      intro i move moves own
      exact before (roll_makes_nobody_ready travels proper.1 follows own moves stillUnbegun isReady)
    · obtain ⟨earlier, h', later, was, is, rfl, reached, step⟩ :=
        ih (travels_follow travels proper.1 follows) (proper.2 next follows) ran isReady
      refine ⟨h :: earlier, h', later, was, is, rfl, ?_, step⟩
      rw [Roll.course?, follows, Option.bind_some]
      exact reached

private theorem counted_is_ready {now : Presence} {cluster : String} {topology : Option Topology}
    (counted : (now.readyInCluster cluster topology).contains server = true) :
    now.isServerReady server = true := by
  rw [Presence.readyInCluster, NameMaps.contains_names_filter, Option.any_eq_true] at counted
  obtain ⟨pod, held, isReady⟩ := counted
  rw [Presence.isServerReady, Option.any_eq_true]
  exact ⟨pod, held, (Bool.and_eq_true_iff.mp isReady).2⟩

/-- A look of a roll reads the presence that the roll works for. -/
private theorem look_reads (travels : Travels t ready r) {gate : FiberId} {b : Option String}
    (listed : (gate, b) ∈ r.gates) {l : Look ε} (looked : look? c g gate r.machine h = some l) :
    r.machine.world.presence? t.id = some l.presence := by
  unfold look? at looked
  split at looked
  · split at looked
    · rename_i own
      subst own
      split at looked
      · rename_i p cluster queue topology found
        split at looked
        · cases looked
        · obtain ⟨now, seen, looked⟩ := Option.bind_eq_some_iff.mp looked
          obtain ⟨_, _, looked⟩ := Option.bind_eq_some_iff.mp looked
          cases looked
          have works : p.presence = some t.id := by
            cases gate_finds (travels.opened.gates _ listed) found with
            | waves _ _ works => exact works.trans travels.works
          rw [World.presenceOf?, works, Option.bind_some] at seen
          exact seen
      · cases looked
    · cases looked
  · cases looked

/-- Only others lend slack: when a look of a roll counts a member as Ready that
was not Ready when the roll sorted its members, and whose chain has not begun,
then somebody else has made the member Ready since. -/
theorem only_others_lend_slack {start : ChainMachine ε} {before : Presence} {m : Member ε}
    {cluster : String} {gate : FiberId} {l : Look ε}
    (begins : start.fiber? i = some ⟨t.packet, .running (some (.rolling (plan t).members t.next))⟩)
    (works : t.packet.presence = some t.id) (known : start.world.presence? t.id = some before)
    (opens : Roll.follow? c g { machine := start, head := i } (.move i .run) = some opened)
    (clustered : Member.cluster? m.2 = some cluster)
    (unconstrained : m ∈ bucket (plan t).members before.readyServers none)
    (proper : Along c g (fun r h => Proper r.machine h) opened hs)
    (ran : Roll.course? c g opened hs = some r) (unbegun : ¬ UnderWay r m.1)
    (listed : (gate, some cluster) ∈ r.gates) (looked : look? c g gate r.machine h = some l)
    (counted : l.ready.contains m.1 = true) : MadeReady c g t.id m.1 opened hs := by
  have travels := travels_begins begins works known opens
  have unopened : Unopened (plan t) { machine := start, head := i } := ⟨rfl, rfl, rfl, .inr begins⟩
  have unseen : view? t.id opened.machine.world = view? t.id start.world :=
    unopened_unseen unopened (.inl ⟨rfl, fun same => nomatch same⟩) opens
  have notReady : before.isServerReady m.1 = false := by
    have waits : before.readyServers.contains m.1 = false := by
      have sorted := of_decide_eq_true (List.mem_filter.mp unconstrained).2
      cases isReady : before.readyServers.contains m.1 with
      | false => rfl
      | true =>
        rw [queueOf, isReady, if_pos rfl, clustered] at sorted
        cases sorted
    rw [Presence.readyServers, NameMaps.contains_names_filter] at waits
    exact waits
  refine course_makes_nobody_ready travels proper ran unbegun ?_ ?_
  · rw [is_ready_seen, unseen, view_of_known known]
    rintro ⟨_, same, isReady⟩
    cases same
    rw [view_ready, notReady] at isReady
    cases isReady
  · have travels := travels_course travels proper ran
    exact ⟨l.presence, look_reads travels listed looked, counted_is_ready counted⟩

/-! ## A server that becomes Ready too early -/

/-- The pod of a server in a cluster, Ready or not. -/
def podOf (server : String) (status : String) : Pod :=
  { metadata :=
      { name := some server
        labels := some (NameMap.ofList [(Label.serverName, server), (Label.clusterName, "c")]) }
    status := some { conditions := some [{ type := "Ready", status }] } }

/-- A cluster of two servers, one of which has to stay Ready; the other is not
Ready yet. -/
def lagging : Presence :=
  { namespaceName := "ns", domainUid := "uid"
    domain := some { spec := { replicas := 2, restartVersion := some "2" } }
    servers := NameMap.ofList [("ms1", podOf "ms1" "False"), ("ms2", podOf "ms2" "True")] }

def laggingRoll : Mandate Empty :=
  { packet := { presence := some 0 }, id := 0, presence := lagging
    domain := { spec := { replicas := 2, restartVersion := some "2" } }, sink := none, next := none }

/-- A fiber that is about to open the roll of both servers. -/
def laggingStart : ChainMachine Empty :=
  { fibers := [⟨laggingRoll.packet,
      .running (some (.rolling (plan laggingRoll).members laggingRoll.next))⟩]
    world := { feed := { registry := { presences := [lagging] } } } }

/-- The watch tells that the other server is Ready, and the fiber of the
cluster starts, before the other server's chain has begun. -/
def laggingCourse (r : Roll Empty) : List (Happening Answer World) :=
  [.outside (r.machine.world.modifyPresence 0 (·.setPod "ms1" (podOf "ms1" "True"))), .move 2 .run]

/-- A look may count a server that is about to go down: the wave that it starts
takes down the only other server of the cluster. -/
theorem look_counts_server_about_to_go_down :
    ∃ opened r l m,
      Roll.follow? {} .nobody { machine := laggingStart, head := 0 } (.move 0 .run) = some opened ∧
      Roll.course? {} .nobody opened (laggingCourse opened) = some r ∧
      m ∈ bucket (plan laggingRoll).members lagging.readyServers none ∧ m.1 = "ms1" ∧
      (∀ chain ∈ r.chains, chain.id ∉ r.begun) ∧
      look? {} .nobody 2 r.machine (.move 2 .run) = some l ∧ l.ready.contains "ms1" = true ∧
      l.wave.map (·.1) = ["ms2"] ∧ l.floor = .ok 1 := by
  exact ⟨_, _, _, _, rfl, rfl, List.Mem.head _, rfl, nofun, rfl, rfl, rfl, rfl⟩

theorem watch_lends_slack :
    ∃ opened m,
      Roll.follow? {} .nobody { machine := laggingStart, head := 0 } (.move 0 .run) = some opened ∧
      m ∈ bucket (plan laggingRoll).members lagging.readyServers none ∧ m.1 = "ms1" ∧
      MadeReady {} .nobody 0 m.1 opened (laggingCourse opened) := by
  have known : laggingStart.world.presence? 0 = some lagging := rfl
  refine ⟨_, _, rfl, List.Mem.head _, rfl, ?_⟩
  refine only_others_lend_slack (t := laggingRoll) (i := 0) (h := .move 2 .run) rfl rfl known rfl
    rfl (List.Mem.head _) ?_ rfl ?_ (List.Mem.tail _ (List.Mem.head _)) rfl rfl
  · -- Nothing in this course is an answer.
    refine ⟨proper_of_no_answer (fun _ _ same => ?_), fun _ _ => ⟨proper_of_no_answer ?_, ?_⟩⟩
    · cases same
    · exact fun _ _ same => nomatch same
    · exact fun _ _ => trivial
  · rintro ⟨_, among, _⟩
    cases among

end DomainSteward.Slack
