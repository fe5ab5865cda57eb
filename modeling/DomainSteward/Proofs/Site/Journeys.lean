import DomainSteward.Proofs.Site.Lots
import DomainSteward.Proofs.Site.Path

/-! All restarts of a roll on their paths at once, whatever the order in which
they move, whatever their calls are answered, and whatever happens to the world
by itself. -/
namespace DomainSteward.Journeys
open Machine Moves RollSteps WaveLoop Ledger Anatomy Lots Restarts Views Calm Paths

variable {ε : Type} {c : Conduct} {g : GuestRules ε} {t : Mandate ε} {r r' : Roll ε}
  {h : Happening Answer World} {hs : List (Happening Answer World)} {ready : NameSet}
  {chain : Chain ε} {move : Move Answer} {old : Pod} {leg : Leg} {m : ChainMachine ε} {i : FiberId}
  {p : Packet} {q : Request} {next : Option (Step ε)}

/-! ## One chain -/

/-- The chain of a roll stands on the path of its server, on the given leg. -/
structure Journey (t : Mandate ε) (m : ChainMachine ε) (chain : Chain ε) (old : Pod) (leg : Leg) :
    Prop where
  held : t.presence.pod? chain.member.1 = some old
  outdated : old.restartVersion? ≠ some t.version
  stands : ∃ f, m.fiber? chain.id = some f ∧ f.packet.presence = some t.id ∧
    On t chain.member.1 old leg f

/-- A chain stands where it stood while others act. -/
theorem journey_stays (journey : Journey t r.machine chain old leg)
    (follows : r.follow? c g h = some r') (bystander : ∀ move, h ≠ .move chain.id move) :
    Journey t r'.machine chain old leg := by
  obtain ⟨f, found, works, stands⟩ := journey.stands
  have stays := bystander_stays (follow_machine follows) bystander found
  exact ⟨journey.held, journey.outdated, f, stays, works, stands⟩

/-- A chain moves on along its path. -/
theorem journey_goes (journey : Journey t r.machine chain old leg)
    (proper : Proper r.machine (.move chain.id move))
    (follows : r.follow? c g (.move chain.id move) = some r') :
    ∃ leg', Journey t r'.machine chain old leg' ∧
      Advances chain.member.1 old r.machine.world.isStopping leg (view? t.id r.machine.world) move
        leg' (view? t.id r'.machine.world) := by
  obtain ⟨f, found, works, stands⟩ := journey.stands
  obtain ⟨leg', goes⟩ := path_moves found works stands proper (follow_machine follows)
  exact ⟨leg', ⟨journey.held, journey.outdated, goes.stands⟩, goes.advances⟩

/-- A chain that has not begun stands at the start of its path. -/
theorem journey_begins (works : t.packet.presence = some t.id)
    (opened : Opened (plan t) ready r) (among : chain ∈ r.chains)
    (fresh : Fresh r.machine chain) : ∃ old, Journey t r.machine chain old .fresh := by
  obtain ⟨old, held, outdated, same⟩ := chain_due opened among
  have working : chain.member.2.2.presence = some t.id := by
    rw [same]
    exact (member_presence ..).trans works
  have next : chain.member.2.1 = t.chain chain.member.1 old := congrArg Prod.fst same
  rcases fresh with found | found
  · exact ⟨old, held, outdated, _, found, working, next ▸ .fresh _ _ (.inl rfl)⟩
  · exact ⟨old, held, outdated, _, found, working, next ▸ .fresh _ _ (.inr rfl)⟩

/-- A restart has to make the new pod, and has perhaps not asked for it yet. -/
inductive Owes : Leg → Prop where
  | deleted (response : Response) (success : response.isFailure = false) : Owes (.deleted response)
  | removing : Owes .removing
  | creating : Owes .creating

theorem owes_not_done (journey : Journey t m chain old leg) (owes : Owes leg) :
    ¬ Done m chain.id := by
  rintro ⟨f, found, done⟩
  obtain ⟨f', found', _, stands⟩ := journey.stands
  cases found.symm.trans found'
  cases owes with
  | deleted =>
    cases stands
    cases done
  | removing =>
    cases stands with
    | removing _ _ looks => cases looks <;> cases done
  | creating =>
    cases stands with
    | creating _ _ asks => cases asks <;> cases done

/-! ## All chains -/

/-- A roll whose chains all stand on their paths. -/
structure Travels (t : Mandate ε) (ready : NameSet) (r : Roll ε) : Prop where
  works : t.packet.presence = some t.id
  opened : Opened (plan t) ready r
  chains : ∀ chain ∈ r.chains, ∃ old leg, Journey t r.machine chain old leg

/-- What is noted when a fiber opens a roll. -/
theorem opening_noted {start : ChainMachine ε} {i : FiberId}
    (begins : start.fiber? i = some ⟨t.packet, .running (some (.rolling (plan t).members t.next))⟩)
    (opens : Roll.follow? c g { machine := start, head := i } (.move i .run) = some r) :
    ∃ after, start.move? (chainDynamics c g) i .run = some after ∧
      r = { machine := after, head := i, progress := .opened, begun := [i]
            gates := (newborn start after).zip
              ((after.fibers.drop start.fibers.length).map bucketOf) } := by
  obtain ⟨after, happened, rfl⟩ := Option.map_eq_some_iff.mp opens
  have applied : applied? start (.move i .run) =
      some (i, t.packet, .rolling (plan t).members t.next) := applied_iff.mpr ⟨rfl, begins⟩
  refine ⟨after, happened, ?_⟩
  simp only [applied]
  exact note_rolling rfl

/-- A roll sets out when it is opened. -/
theorem travels_begins {start : ChainMachine ε} {i : FiberId} {before : Presence}
    (begins : start.fiber? i = some ⟨t.packet, .running (some (.rolling (plan t).members t.next))⟩)
    (works : t.packet.presence = some t.id) (known : start.world.presence? t.id = some before)
    (opens : Roll.follow? c g { machine := start, head := i } (.move i .run) = some r) :
    Travels t before.readyServers r := by
  have unopened : Unopened (plan t) { machine := start, head := i } := ⟨rfl, rfl, rfl, .inr begins⟩
  have seen : start.world.presenceOf? (plan t).packet = some before := presence_found works known
  obtain ⟨after, happened, rfl⟩ := opening_noted begins opens
  have opened := opens_with_gates unopened seen begins happened
  rw [note_rolling rfl] at opened
  exact ⟨works, opened, fun chain among => absurd among List.not_mem_nil⟩

/-- A fiber belongs to a roll: it is the head, before the roll is closed, a
gate or a chain. -/
def Belongs (r : Roll ε) (i : FiberId) : Prop :=
  (i = r.head ∧ r.progress ≠ .closed ∨ i ∈ r.gates.map (·.1)) ∨ ∃ chain ∈ r.chains, chain.id = i

theorem travels_follow (travels : Travels t ready r) (proper : Proper r.machine h)
    (follows : r.follow? c g h = some r') : Travels t ready r' := by
  have opened := opened_follow travels.opened follows
  refine ⟨travels.works, opened, fun chain among => ?_⟩
  by_cases early : chain ∈ r.chains
  · obtain ⟨old, leg, journey⟩ := travels.chains chain early
    by_cases own : ∃ move, h = .move chain.id move
    · obtain ⟨move, rfl⟩ := own
      obtain ⟨leg', journey, _⟩ := journey_goes journey proper follows
      exact ⟨old, leg', journey⟩
    · exact ⟨old, leg, journey_stays journey follows (not_exists.mp own)⟩
  · obtain ⟨_, _, _, _, _, _, _, _, created⟩ := chain_forked travels.opened follows among early
    obtain ⟨old, journey⟩ := journey_begins travels.works opened among (.inl created)
    exact ⟨old, .fresh, journey⟩

/-- A roll that has not been opened, or was refused, or travels. -/
inductive Rolls (t : Mandate ε) (r : Roll ε) : Prop where
  | unopened (unopened : Unopened (plan t) r)
  | refused (refused : Refused r)
  | travels (ready : NameSet) (travels : Travels t ready r)

theorem rolls_follow (works : t.packet.presence = some t.id) (rolls : Rolls t r)
    (proper : Proper r.machine h) (follows : r.follow? c g h = some r') : Rolls t r' := by
  cases rolls with
  | unopened unopened =>
    rcases unopened_follow unopened follows with still | refused | ⟨presence, _, nobody, opened⟩
    · exact .unopened still
    · exact .refused refused
    · refine .travels _ ⟨works, opened, fun chain among => ?_⟩
      rw [nobody] at among
      cases among
  | refused refused => exact .refused (refused_follow refused follows)
  | travels ready travels => exact .travels ready (travels_follow travels proper follows)

/-- A roll without chains is followed by one without chains until it
travels. -/
theorem chains_follow_travels (rolls : Rolls t r) (follows : r.follow? c g h = some r')
    (among : chain ∈ r'.chains) : ∃ ready, Travels t ready r := by
  cases rolls with
  | unopened unopened =>
    rcases unopened_follow unopened follows with still | refused | ⟨_, _, nobody, _⟩
    · simp [still.chains] at among
    · simp [refused.chains] at among
    · simp [nobody] at among
  | refused refused => simp [(refused_follow refused follows).chains] at among
  | travels ready travels => exact ⟨ready, travels⟩

/-! ## Who there is -/

/-- Of the fibers of an opened roll only chains call, each for its own
server. -/
theorem callers_are_chains (travels : Travels t ready r) (own : Belongs r i)
    (found : r.machine.fiber? i = some ⟨p, .waiting (.call q) next⟩) :
    ∃ chain ∈ r.chains, chain.id = i ∧ ∃ old leg, Journey t r.machine chain old leg ∧
      (leg = .deleting ∧ q = t.deleteCall old ∨ leg = .creating ∧ q = t.createCall old) := by
  have idle {p' : Packet} {phase : Phase (Step ε) (Pending ε)}
      (found' : r.machine.fiber? i = some ⟨p', phase⟩)
      (busy : ∀ call next, phase ≠ .waiting call next) : False := by
    cases found.symm.trans found'
    exact busy _ _ rfl
  rcases own with (⟨rfl, notClosed⟩ | isGate) | ⟨chain, among, rfl⟩
  · obtain ⟨_, _, found', busy⟩ := head_phase travels.opened.head notClosed
    exact (idle found' busy).elim
  · obtain ⟨gate, listed, rfl⟩ := List.mem_map.mp isGate
    obtain ⟨_, _, found', busy⟩ := gate_phase (travels.opened.gates gate listed)
    exact (idle found' busy).elim
  · obtain ⟨old, leg, journey⟩ := travels.chains chain among
    obtain ⟨f, found', _, stands⟩ := journey.stands
    cases found.symm.trans found'
    exact ⟨chain, among, rfl, old, leg, journey, on_calls stands⟩

/-- The ledger of a roll names all fibers of its machine. -/
def Covers (r : Roll ε) : Prop := ∀ i, i < r.machine.fibers.length → i ∈ r.ids

/-- Every fiber of an open roll that the ledger names is one of the roll. -/
theorem belongs_of_covers (covers : Covers r) (notClosed : r.progress ≠ .closed)
    (within : i < r.machine.fibers.length) : Belongs r i := by
  have listed := covers i within
  simp only [Roll.ids, List.cons_append, List.mem_cons, List.mem_append] at listed
  rcases listed with isHead | isGate | isChain
  · exact .inl (.inl ⟨isHead, notClosed⟩)
  · exact .inl (.inr isGate)
  · exact .inr (List.mem_map.mp isChain)

/-- A roll that the only fiber of a machine opens has no other fibers than its
own. -/
theorem covers_opens {r : Roll ε} (isHead : r.head = 0)
    (alone : r.machine.fibers.length = 1) (unopened : r.progress = .unopened) (p : Packet)
    (members : List (Member ε)) (next : Option (Step ε)) (after : ChainMachine ε) :
    Covers (r.note after r.head p (.rolling members next)) := by
  rw [note_rolling unopened]
  intro i within
  rcases Nat.eq_zero_or_pos i with rfl | later
  · exact List.mem_cons.mpr (.inl isHead.symm)
  · have fresh : i ∈ newborn r.machine after := mem_newborn.mpr ⟨alone ▸ later, within⟩
    have gates : ((newborn r.machine after).zip
        ((after.fibers.drop r.machine.fibers.length).map bucketOf)).map (·.1) =
        newborn r.machine after := List.map_fst_zip (by simp [newborn])
    refine List.mem_cons_of_mem _ (List.mem_append_left _ ?_)
    simp only [gates]
    exact fresh

theorem covers_begins {start : ChainMachine ε} (alone : start.fibers.length = 1)
    (begins : start.fiber? 0 = some ⟨t.packet, .running (some (.rolling (plan t).members t.next))⟩)
    (opens : Roll.follow? c g { machine := start, head := 0 } (.move 0 .run) = some r) :
    Covers r := by
  obtain ⟨after, happened, rfl⟩ := opening_noted begins opens
  have covers := covers_opens (r := { machine := start, head := 0 }) rfl alone rfl t.packet
    (plan t).members t.next after
  rw [note_rolling rfl] at covers
  exact covers

/-- A move by which no step is applied forks nobody. -/
private theorem quiet_length {after : ChainMachine ε}
    (happened : happen? (chainDynamics c g) m h = some after) (quiet : applied? m h = none) :
    after.fibers.length = m.fibers.length := by
  cases h with
  | outside world =>
    cases happened
    rfl
  | move i move =>
    obtain ⟨f, found, moved⟩ := move_iff_moved.mp happened
    cases moved with
    | step => simp [applied?, found] at quiet
    | start | wake | answer | crash | join => simp [replace]
    | finish | cancel | fail => rw [took_length]; rfl

/-- The ledger goes on naming all fibers as long as the roll is open. -/
theorem covers_follow (travels : Travels t ready r) (proper : Proper r.machine h)
    (notClosed : r.progress ≠ .closed) (covers : Covers r) (follows : r.follow? c g h = some r') :
    Covers r' := by
  have childless {other : Roll ε} (same : other.machine.fibers.length = r.machine.fibers.length)
      (ids : other.ids = r.ids) : Covers other := by
    intro i within
    rw [ids]
    exact covers i (same ▸ within)
  cases followed follows with
  | quiet _ after quiet happened => exact childless (quiet_length happened quiet) rfl
  | head p step after found happened =>
    obtain ⟨rfl, rfl, progress⟩ := head_step travels.opened notClosed found
    have applies : (chainDynamics c g).apply (.afterRoll (plan t).next) (marked (plan t).packet)
        r.machine.world = .of (.goOn (plan t).next) _ _ := rfl
    simp only [Roll.note, ↓reduceIte, progress]
    exact childless (step_goes_on found happened applies).2.2 rfl
  | gate j bucket p step after other listed found happened =>
    obtain ⟨_, _, shape, _⟩ := List.lookup_eq_some_iff.mp listed
    have isGate := (gate_finds (travels.opened.gates (j, bucket) (by simp [shape])) found).gate_step
    have all : (chainsFor bucket (newborn r.machine after)
        (forkedBy (r.machine.world.presenceOf? p) step)).map (·.id) = newborn r.machine after :=
      forked_all isGate found happened
    intro i within
    have ids : Roll.ids { r with
        machine := after
        begun := j :: r.begun
        chains := r.chains ++ chainsFor bucket (newborn r.machine after)
          (forkedBy (r.machine.world.presenceOf? p) step) } = r.ids ++ newborn r.machine after := by
      simp [Roll.ids, all]
    rw [ids]
    by_cases early : i < r.machine.fibers.length
    · exact List.mem_append_left _ (covers i early)
    · exact List.mem_append_right _ (mem_newborn.mpr ⟨Nat.le_of_not_lt early, within⟩)
  | aside j p step after other unlisted found happened =>
    refine childless ?_ rfl
    have within : j < r.machine.fibers.length := (List.getElem?_eq_some_iff.mp found).1
    rcases belongs_of_covers covers notClosed within with (⟨isHead, _⟩ | isGate) | ⟨chain, among, rfl⟩
    · exact absurd isHead other
    · obtain ⟨gate, member, same⟩ := List.mem_map.mp isGate
      have absent := List.lookup_eq_none_iff.mp unlisted gate member
      simp [same] at absent
    · obtain ⟨old, leg, journey⟩ := travels.chains chain among
      obtain ⟨f, stands, works, on⟩ := journey.stands
      obtain ⟨_, goes⟩ := path_moves stands works on proper happened
      exact goes.length

/-- When a roll is closed nobody but its head is left to move. -/
theorem closed_leaves_head {plan : Plan ε} {f : Fiber (Step ε) Packet (Pending ε)}
    (covers : Covers r) (opened : Opened plan ready r) (closed : r.progress = .closed)
    (other : i ≠ r.head) (found : r.machine.fiber? i = some f) : f.isDone := by
  have finished {j : FiberId} (succeeded : Succeeded r.machine j)
      (found : r.machine.fiber? j = some f) : f.isDone := by
    obtain ⟨p, ended⟩ := succeeded
    cases found.symm.trans ended
    rfl
  have listed := covers i (List.getElem?_eq_some_iff.mp found).1
  simp only [Roll.ids, List.cons_append, List.mem_cons, List.mem_append, List.mem_map] at listed
  rcases listed with isHead | ⟨gate, member, rfl⟩ | ⟨chain, among, rfl⟩
  · exact absurd isHead other
  · exact finished (closed_gates opened closed member) found
  · exact finished (closed_succeeded opened closed among) found

/-! ## Courses -/

/-- Something holds of every state on a course and of what happens next
there. -/
def Along (c : Conduct) (g : GuestRules ε) (holds : Roll ε → Happening Answer World → Prop) :
    Roll ε → List (Happening Answer World) → Prop
  | _, [] => True
  | r, h :: rest => holds r h ∧ ∀ r', r.follow? c g h = some r' → Along c g holds r' rest

theorem along_next {holds : Roll ε → Happening Answer World → Prop} (here : holds r h)
    (follows : r.follow? c g h = some r') (later : Along c g holds r' hs) :
    Along c g holds r (h :: hs) := by
  refine ⟨here, fun other follows' => ?_⟩
  cases follows.symm.trans follows'
  exact later

theorem along_split {holds : Roll ε → Happening Answer World → Prop}
    {earlier later : List (Happening Answer World)} (along : Along c g holds r (earlier ++ later))
    (ran : Roll.course? c g r earlier = some r') :
    Along c g holds r earlier ∧ Along c g holds r' later := by
  induction earlier generalizing r with
  | nil =>
    cases ran
    exact ⟨trivial, along⟩
  | cons h rest ih =>
    obtain ⟨next, follows, ran⟩ := Option.bind_eq_some_iff.mp ran
    obtain ⟨before, after⟩ := ih (along.2 next follows) ran
    refine ⟨⟨along.1, fun other follows' => ?_⟩, after⟩
    cases follows.symm.trans follows'
    exact before

theorem rolls_course (works : t.packet.presence = some t.id) (rolls : Rolls t r)
    (proper : Along c g (fun r h => Proper r.machine h) r hs)
    (ran : Roll.course? c g r hs = some r') : Rolls t r' := by
  induction hs generalizing r with
  | nil =>
    cases ran
    exact rolls
  | cons h rest ih =>
    obtain ⟨next, follows, ran⟩ := Option.bind_eq_some_iff.mp ran
    exact ih (rolls_follow works rolls proper.1 follows) (proper.2 next follows) ran

theorem travels_course (travels : Travels t ready r)
    (proper : Along c g (fun r h => Proper r.machine h) r hs)
    (ran : Roll.course? c g r hs = some r') : Travels t ready r' := by
  induction hs generalizing r with
  | nil =>
    cases ran
    exact travels
  | cons h rest ih =>
    obtain ⟨next, follows, ran⟩ := Option.bind_eq_some_iff.mp ran
    exact ih (travels_follow travels proper.1 follows) (proper.2 next follows) ran

end DomainSteward.Journeys
