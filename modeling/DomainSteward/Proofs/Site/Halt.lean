import DomainSteward.Proofs.Site.Convergence
import DomainSteward.Proofs.Site.Journeys

/-! The stop of the operator in the midst of a roll. No cluster starts a wave
any more, a call that is answered later is in vain, and a restart whose pod was
deleted before still makes the new pod, as long as it sees the old one gone. The
servers that no cluster holds back are not asked: their restarts begin all the
same. -/
namespace DomainSteward.Halt
open Machine Moves RollSteps WaveLoop Ledger Anatomy Lots Restarts Views Calm Paths Journeys
  Convergence

variable {ε : Type} {c : Conduct} {g : GuestRules ε} {t : Mandate ε} {r r' : Roll ε}
  {h : Happening Answer World} {hs : List (Happening Answer World)} {ready : NameSet}
  {chain : Chain ε} {move : Move Answer} {old : Pod} {leg : Leg} {i : FiberId} {p : Packet}
  {q : Request} {next : Option (Step ε)} {m : ChainMachine ε}

/-- The operator is stopping, now and as long as the course goes on. -/
def Stopping (c : Conduct) (g : GuestRules ε) : Roll ε → List (Happening Answer World) → Prop :=
  Along c g (fun r _ => r.machine.world.isStopping = true)

/-- Whenever a chain looks whether the old pod of its server is gone, the
presence is known, and once the operator is stopping it shows the pod gone. -/
def ShownGone (c : Conduct) (g : GuestRules ε) (t : Mandate ε) (chain : Chain ε) (old : Pod) :
    Roll ε → List (Happening Answer World) → Prop :=
  Along c g (fun r h => ∀ p, applied? r.machine h =
      some (chain.id, p, t.removal chain.member.1 old) →
    ∃ now, r.machine.world.presence? t.id = some now ∧ (r.machine.world.isStopping = true →
      ∀ pod, now.pod? chain.member.1 = some pod → pod.metadata.uid ≠ old.metadata.uid))

/-- A fiber waits for the answer to a call. -/
def Calls (m : ChainMachine ε) (i : FiberId) (q : Request) : Prop :=
  ∃ p next, m.fiber? i = some ⟨p, .waiting (.call q) next⟩

/-- What a stop of the operator makes of a roll, at whatever point of its
course. -/
structure HaltsInOrder (c : Conduct) (g : GuestRules ε) (t : Mandate ε) (start : Roll ε)
    (hs : List (Happening Answer World)) : Prop where
  /-- No wave starts: who calls belongs to a chain that was forked before, or
  to one that no cluster holds back. -/
  noWave : ∀ earlier later r r', hs = earlier ++ later →
    Roll.course? c g start earlier = some r → Stopping c g r later →
    Roll.course? c g r later = some r' → ∀ i q, Belongs r' i → Calls r'.machine i q →
    ∃ chain ∈ r'.chains, chain.id = i ∧ (chain ∈ r.chains ∨ chain.bucket = none) ∧
      ∃ old, t.presence.pod? chain.member.1 = some old ∧
        (q = t.deleteCall old ∨ q = t.createCall old)
  /-- A call that is answered later is in vain. -/
  inVain : ∀ earlier later r r' i q a, hs = earlier ++ .move i (.answer a) :: later →
    Roll.course? c g start earlier = some r → Calls r.machine i q →
    r.machine.world.isStopping = true → r.follow? c g (.move i (.answer a)) = some r' →
    ∃ p, r'.machine.fiber? i = some ⟨p, .ended (some .cancelled)⟩
  /-- A chain whose deletion succeeded before does not end without having asked
  for the new pod. -/
  finishes : ∀ earlier later r deleted r' chain old response,
    hs = earlier ++ .move chain.id (.answer (.response response)) :: later →
    Roll.course? c g start earlier = some r → chain ∈ r.chains →
    t.presence.pod? chain.member.1 = some old → Calls r.machine chain.id (t.deleteCall old) →
    r.machine.world.isStopping = false → response.isFailure = false →
    r.follow? c g (.move chain.id (.answer (.response response))) = some deleted →
    ShownGone c g t chain old deleted later → Roll.course? c g deleted later = some r' →
    Done r'.machine chain.id →
    ∃ sooner rest asking, later = sooner ++ rest ∧
      Roll.course? c g deleted sooner = some asking ∧
      Calls asking.machine chain.id (t.createCall old)
  /-- A chain that still sees the old pod when it looks after the stop ends
  there. -/
  cutShort : ∀ earlier later r r' chain p old now pod,
    hs = earlier ++ .move chain.id .run :: later → Roll.course? c g start earlier = some r →
    chain ∈ r.chains → t.presence.pod? chain.member.1 = some old →
    r.machine.fiber? chain.id = some ⟨p, .running (some (t.removal chain.member.1 old))⟩ →
    r.machine.world.isStopping = true → r.machine.world.presence? t.id = some now →
    now.pod? chain.member.1 = some pod → pod.metadata.uid = old.metadata.uid →
    r.follow? c g (.move chain.id .run) = some r' →
    ∃ p, r'.machine.fiber? chain.id = some ⟨p, .ended (some .cancelled)⟩

/-! ## No wave starts -/

/-- A look at the queue of a cluster forks nobody any more. -/
private theorem stopped_gate_forks_nobody {cluster : String} {queue : List (Member ε)}
    {topology : Option Topology} {after : ChainMachine ε}
    (stopping : m.world.isStopping = true)
    (found : m.fiber? i = some ⟨p, .running (some (.rollCluster cluster queue topology))⟩)
    (moved : m.move? (chainDynamics c g) i .run = some after) : newborn m after = [] := by
  have applies : (chainDynamics c g).apply (.rollCluster cluster queue topology) p m.world =
      .of (.terminate .cancelled) p m.world :=
    roll_cluster_stopping stopping cluster queue topology
  have taken := run_step found moved
  rw [applies] at taken
  rw [taken, newborn, took_length]
  simp [Applied.of, Moves.actionOf, born]

/-- The next chain that is forked is held back by no cluster. -/
private theorem stopped_forks_no_wave (rolls : Rolls t r) (follows : r.follow? c g h = some r')
    (stopping : r.machine.world.isStopping = true) (among : chain ∈ r'.chains) :
    chain ∈ r.chains ∨ chain.bucket = none := by
  by_cases early : chain ∈ r.chains
  · exact .inl early
  obtain ⟨ready, travels⟩ := chains_follow_travels rolls follows among
  obtain ⟨gate, listed, p, step, _, found, rfl, late, _⟩ :=
    chain_forked travels.opened follows among early
  obtain ⟨k, place, _, same⟩ := mem_chains_for late
  refine .inr (same.trans ?_)
  have finds := gate_finds (travels.opened.gates gate listed) found
  obtain ⟨j, b⟩ := gate
  cases finds with
  | together => rfl
  | waves cluster queue =>
    have nobody := stopped_gate_forks_nobody stopping found (follow_machine follows)
    rw [nobody] at place
    cases place

private theorem stopped_course_forks_no_wave (works : t.packet.presence = some t.id)
    (rolls : Rolls t r) (proper : Along c g (fun r h => Proper r.machine h) r hs)
    (stopping : Stopping c g r hs) (ran : Roll.course? c g r hs = some r')
    (among : chain ∈ r'.chains) : chain ∈ r.chains ∨ chain.bucket = none := by
  induction hs generalizing r with
  | nil =>
    cases ran
    exact .inl among
  | cons h rest ih =>
    obtain ⟨next, follows, ran⟩ := Option.bind_eq_some_iff.mp ran
    rcases ih (rolls_follow works rolls proper.1 follows) (proper.2 next follows)
      (stopping.2 next follows) ran with early | free
    · exact stopped_forks_no_wave rolls follows stopping.1 early
    · exact .inr free

/-- Of the fibers of a roll only chains call, each for its own server. -/
private theorem rolls_callers (rolls : Rolls t r) (own : Belongs r i)
    (calls : Calls r.machine i q) :
    ∃ chain ∈ r.chains, chain.id = i ∧ ∃ old, t.presence.pod? chain.member.1 = some old ∧
      (q = t.deleteCall old ∨ q = t.createCall old) := by
  obtain ⟨p, next, found⟩ := calls
  have idle {p' : Packet} {phase : Phase (Step ε) (Pending ε)}
      (found' : r.machine.fiber? i = some ⟨p', phase⟩)
      (busy : ∀ call next, phase ≠ .waiting call next) : False := by
    cases found.symm.trans found'
    exact busy _ _ rfl
  cases rolls with
  | unopened unopened =>
    rcases own with (⟨rfl, _⟩ | isGate) | ⟨chain, among, _⟩
    · rcases unopened.head with found' | found'
      · exact (idle found' (fun _ _ same => nomatch same)).elim
      · exact (idle found' (fun _ _ same => nomatch same)).elim
    · simp [unopened.gates] at isGate
    · simp [unopened.chains] at among
  | refused refused =>
    rcases own with (⟨rfl, _⟩ | isGate) | ⟨chain, among, _⟩
    · obtain ⟨_, _, found'⟩ := refused.head
      exact (idle found' (fun _ _ same => nomatch same)).elim
    · simp [refused.gates] at isGate
    · simp [refused.chains] at among
  | travels ready travels =>
    obtain ⟨chain, among, same, old, leg, journey, call⟩ := callers_are_chains travels own found
    exact ⟨chain, among, same, old, journey.held, call.imp And.right And.right⟩

/-! ## A restart that has begun to take a pod down -/

/-- A restart whose call is answered, or panics, has called. -/
private theorem creating_calls {after : ChainMachine ε} (journey : Journey t m chain old .creating)
    (answered : (∃ a, move = .answer a) ∨ ∃ message, move = .crash message)
    (moved : m.move? (chainDynamics c g) chain.id move = some after) :
    Calls m chain.id (t.createCall old) := by
  obtain ⟨f, found, _, stands⟩ := journey.stands
  obtain ⟨f', found', shape⟩ := move_iff_moved.mp moved
  cases found.symm.trans found'
  cases stands with
  | creating p phase asks =>
    cases asks with
    | waits => exact ⟨p, _, found⟩
    | first | again | pauses =>
      rcases answered with ⟨_, rfl⟩ | ⟨_, rfl⟩
      · cases shape
      · cases shape

/-- A restart that waits until the old pod is gone moves by looking. -/
private theorem removing_looks {after : ChainMachine ε} (journey : Journey t m chain old .removing)
    (moved : m.move? (chainDynamics c g) chain.id .run = some after) :
    ∃ p, applied? m (.move chain.id .run) = some (chain.id, p, t.removal chain.member.1 old) := by
  obtain ⟨f, found, _, stands⟩ := journey.stands
  obtain ⟨f', found', shape⟩ := move_iff_moved.mp moved
  cases found.symm.trans found'
  cases stands with
  | removing p phase looks =>
    cases looks with
    | now => exact ⟨p, applied_iff.mpr ⟨rfl, found⟩⟩
    | pauses => cases shape

/-- A restart that has to make the new pod has asked for it, or still has to
make it after its next move. -/
private theorem owes_goes (journey : Journey t r.machine chain old leg) (owes : Owes leg)
    (proper : Proper r.machine (.move chain.id move))
    (follows : r.follow? c g (.move chain.id move) = some r')
    (shown : ∀ p, applied? r.machine (.move chain.id move) =
        some (chain.id, p, t.removal chain.member.1 old) →
      ∃ now, r.machine.world.presence? t.id = some now ∧ (r.machine.world.isStopping = true →
        ∀ pod, now.pod? chain.member.1 = some pod → pod.metadata.uid ≠ old.metadata.uid)) :
    Calls r.machine chain.id (t.createCall old) ∨
      ∃ leg', Journey t r'.machine chain old leg' ∧ Owes leg' := by
  have moved := follow_machine follows
  obtain ⟨leg', journey', advances⟩ := journey_goes journey proper follows
  -- A look of a restart that waits until the old pod is gone finds the presence.
  have looks (waits : leg = .removing) (runs : move = .run) :
      ∃ now, r.machine.world.presence? t.id = some now ∧ (r.machine.world.isStopping = true →
        (viewOf now).IsGone chain.member.1 old) := by
    subst waits
    subst runs
    obtain ⟨p, applied⟩ := removing_looks journey moved
    exact shown p applied
  generalize seen : view? t.id r.machine.world = v at advances
  generalize view? t.id r'.machine.world = v' at advances
  cases advances with
  | stays => exact .inr ⟨_, journey', owes⟩
  | removes => exact .inr ⟨_, journey', .removing⟩
  | gone => exact .inr ⟨_, journey', .creating⟩
  | makes => exact .inl (creating_calls journey (.inl ⟨_, rfl⟩) moved)
  | misses | deletesAgain | keeps =>
    cases owes with
    | deleted _ success => cases success
  | stops _ waits v stops still =>
    rcases waits with rfl | rfl
    · obtain ⟨now, known, gone⟩ := looks rfl rfl
      rw [view_of_known known] at seen
      cases seen
      exact absurd (gone stops) (still rfl)
    · cases owes
  | discards _ waits =>
    rcases waits with rfl | rfl
    · cases owes
    · exact .inl (creating_calls journey (.inl ⟨_, rfl⟩) moved)
  | crashes _ waits =>
    rcases waits with rfl | rfl
    · cases owes
    · exact .inl (creating_calls journey (.inr ⟨_, rfl⟩) moved)
  | astray _ waits =>
    rcases waits with rfl | rfl | rfl
    · cases owes
    · obtain ⟨now, known, _⟩ := looks rfl rfl
      rw [view_of_known known] at seen
      cases seen
    · cases owes
  | begins | deletes | made | taken | makesAgain | gives | done => cases owes

/-- A restart that has to make the new pod does not end without having asked
for it. -/
private theorem owes_course (journey : Journey t r.machine chain old leg) (owes : Owes leg)
    (proper : Along c g (fun r h => Proper r.machine h) r hs)
    (shown : ShownGone c g t chain old r hs) (ran : Roll.course? c g r hs = some r')
    (done : Done r'.machine chain.id) :
    ∃ sooner rest asking, hs = sooner ++ rest ∧ Roll.course? c g r sooner = some asking ∧
      Calls asking.machine chain.id (t.createCall old) := by
  induction hs generalizing r leg with
  | nil =>
    cases ran
    exact absurd done (owes_not_done journey owes)
  | cons h rest ih =>
    obtain ⟨next, follows, ran⟩ := Option.bind_eq_some_iff.mp ran
    have later {leg' : Leg} (journey : Journey t next.machine chain old leg') (owes : Owes leg') :
        ∃ sooner others asking, h :: rest = sooner ++ others ∧
          Roll.course? c g r sooner = some asking ∧
          Calls asking.machine chain.id (t.createCall old) := by
      obtain ⟨sooner, others, asking, rfl, reached, calls⟩ :=
        ih journey owes (proper.2 next follows) (shown.2 next follows) ran
      refine ⟨h :: sooner, others, asking, rfl, ?_, calls⟩
      rw [Roll.course?, follows, Option.bind_some]
      exact reached
    by_cases own : ∃ move, h = .move chain.id move
    · obtain ⟨move, rfl⟩ := own
      rcases owes_goes journey owes proper.1 follows shown.1 with calls | ⟨leg', journey, owes⟩
      · exact ⟨[], _, r, rfl, rfl, calls⟩
      · exact later journey owes
    · exact later (journey_stays journey follows (not_exists.mp own)) owes

/-- The answer to a deletion that succeeded. -/
private theorem deletion_answered {response : Response}
    (journey : Journey t r.machine chain old leg)
    (calls : Calls r.machine chain.id (t.deleteCall old))
    (goesOn : r.machine.world.isStopping = false) (success : response.isFailure = false)
    (proper : Proper r.machine (.move chain.id (.answer (.response response))))
    (follows : r.follow? c g (.move chain.id (.answer (.response response))) = some r') :
    ∃ leg', Journey t r'.machine chain old leg' ∧ Owes leg' := by
  obtain ⟨p, next, found⟩ := calls
  obtain ⟨f, found', _, stands⟩ := journey.stands
  cases found.symm.trans found'
  have deleting : leg = .deleting := by
    rcases on_calls stands with ⟨same, _⟩ | ⟨_, other⟩
    · exact same
    · exact absurd (congrArg Request.operation other) (fun same => nomatch same)
  subst deleting
  obtain ⟨leg', journey', advances⟩ := journey_goes journey proper follows
  generalize view? t.id r.machine.world = v at advances
  generalize view? t.id r'.machine.world = v' at advances
  cases advances with
  | stays _ _ _ _ own => exact own.elim (fun same => nomatch same) (fun same => nomatch same)
  | deletes => exact ⟨_, journey', .deleted response success⟩
  | discards _ _ _ _ stops => rw [goesOn] at stops; cases stops

/-- An answer is in vain once the operator is stopping. -/
private theorem late_answer_in_vain {a : Answer} (calls : Calls r.machine i q)
    (stopping : r.machine.world.isStopping = true)
    (follows : r.follow? c g (.move i (.answer a)) = some r') :
    ∃ p, r'.machine.fiber? i = some ⟨p, .ended (some .cancelled)⟩ := by
  obtain ⟨p, next, found⟩ := calls
  have moved : r.machine.move? (chainDynamics c g) i (.answer a) = some r'.machine :=
    follow_machine follows
  generalize r'.machine = after at moved
  obtain ⟨f, found', shape⟩ := move_iff_moved.mp moved
  cases found.symm.trans found'
  cases shape with
  | cancel => exact ⟨_, took_fiber found⟩
  | answer _ _ _ _ goesOn =>
    have same := stopping_received (c := c) (g := g) (w := r.machine.world) (.call q) a ⟨q, rfl⟩
    exact absurd (goesOn.symm.trans (same.trans stopping)) (fun same => nomatch same)

/-- A restart that waits until the old pod is gone, and is stopped while it
still sees it, ends. -/
private theorem stopped_look_ends {now : Presence} {pod : Pod}
    (journey : Journey t r.machine chain old leg)
    (found : r.machine.fiber? chain.id =
      some ⟨p, .running (some (t.removal chain.member.1 old))⟩)
    (stopping : r.machine.world.isStopping = true)
    (known : r.machine.world.presence? t.id = some now)
    (held : now.pod? chain.member.1 = some pod) (same : pod.metadata.uid = old.metadata.uid)
    (follows : r.follow? c g (.move chain.id .run) = some r') :
    ∃ p, r'.machine.fiber? chain.id = some ⟨p, .ended (some .cancelled)⟩ := by
  obtain ⟨f, found', works, _⟩ := journey.stands
  cases found.symm.trans found'
  have there :
      ¬ (now.pod? chain.member.1).all (fun pod => pod.metadata.uid ≠ old.metadata.uid) := by
    rw [held]
    simpa using same
  have applies : (chainDynamics c g).apply (t.removal chain.member.1 old) p r.machine.world =
      .of (.terminate .cancelled) p r.machine.world :=
    (with_presence_found works known _).trans ((if_neg there).trans (if_pos stopping))
  have taken := run_step found (follow_machine follows)
  rw [applies] at taken
  rw [taken]
  exact ⟨_, took_fiber found⟩

/-- Whenever the operator stops in the midst of a roll, no wave of a cluster
starts any more, answers that come later are in vain, and every restart whose
pod was deleted before asks for the new pod before it ends, as long as it sees
the old one gone. -/
theorem roll_halts_in_order {start : ChainMachine ε}
    (begins : start.fiber? i = some ⟨t.packet, .running (some (.rolling (plan t).members t.next))⟩)
    (works : t.packet.presence = some t.id)
    (proper : Along c g (fun r h => Proper r.machine h) { machine := start, head := i } hs) :
    HaltsInOrder c g t { machine := start, head := i } hs := by
  have rolls : Rolls t { machine := start, head := i } :=
    .unopened ⟨rfl, rfl, rfl, .inr begins⟩
  refine ⟨?_, ?_, ?_, ?_⟩
  · rintro earlier later r r' rfl reached stopping ran i q own calls
    obtain ⟨before, after⟩ := along_split proper reached
    have rolls := rolls_course works rolls before reached
    obtain ⟨chain, among, same, old, called⟩ :=
      rolls_callers (rolls_course works rolls after ran) own calls
    exact ⟨chain, among, same,
      stopped_course_forks_no_wave works rolls after stopping ran among, old, called⟩
  · rintro earlier later r r' i q a rfl _ calls stopping follows
    exact late_answer_in_vain calls stopping follows
  · rintro earlier later r deleted r' chain old response rfl reached among held calls goesOn success
      follows shown ran done
    obtain ⟨before, after⟩ := along_split proper reached
    cases rolls_course works rolls before reached with
    | unopened unopened => simp [unopened.chains] at among
    | refused refused => simp [refused.chains] at among
    | travels ready travels =>
      obtain ⟨old', leg, journey⟩ := travels.chains chain among
      cases held.symm.trans journey.held
      obtain ⟨leg, journey, owes⟩ :=
        deletion_answered journey calls goesOn success after.1 follows
      exact owes_course journey owes (after.2 deleted follows) shown ran done
  · rintro earlier later r r' chain p old now pod rfl reached among held found stopping known shown
      same follows
    cases rolls_course works rolls (along_split proper reached).1 reached with
    | unopened unopened => simp [unopened.chains] at among
    | refused refused => simp [refused.chains] at among
    | travels ready travels =>
      obtain ⟨old', leg, journey⟩ := travels.chains chain among
      cases held.symm.trans journey.held
      exact stopped_look_ends journey found stopping known shown same follows

/-! ## Stops in the roll of one server -/

/-- A fiber that is about to open the roll of one server. -/
def loneOpening : ChainMachine Empty :=
  { fibers := [⟨loneRoll.packet, .running (some (.rolling (plan loneRoll).members loneRoll.next))⟩]
    world := { feed := { registry := { presences := [lone] } } } }

/-- The roll of the server, whatever happens to it. -/
def loneCourse : List (Happening Answer World) → Option (Roll Empty) :=
  Roll.course? {} .nobody { machine := loneOpening, head := 0 }

/-- The roll is announced, and the fiber of the servers that no cluster holds
back is forked. -/
def loneForking : List (Happening Answer World) := [.move 0 .run, .move 1 .run]

/-- The restart of the server has called for the deletion of the old pod. -/
def loneDeleting : List (Happening Answer World) :=
  [.move 0 .run, .move 1 .run, .move 1 .run, .move 2 .run, .move 2 .run, .move 2 .run]

/-- The operator is asked to stop. -/
def stopped (w : World) : Happening Answer World :=
  .outside { w with shutdown := w.shutdown.stop "SIGTERM" }

/-- The operator is asked to stop, and the watch tells that the old pod is
gone. -/
def stoppedGone (w : World) : Happening Answer World :=
  .outside { w.modifyPresence 0 (·.removePod "ms1") with shutdown := w.shutdown.stop "SIGTERM" }

/-- The server answers that it has carried the call out. -/
def carriedOut : Happening Answer World := .move 2 (.answer (.response (.status default)))

/-- The old pod is deleted, and the watch has not told so yet. -/
def loneWaiting : List (Happening Answer World) :=
  loneDeleting ++ [carriedOut, .move 2 .run]

/-- The restart of the server never asks for the new pod. -/
def NeverRemade : List (Happening Answer World) → Prop :=
  Along {} .nobody (fun r _ => ¬ Calls r.machine 2 (loneRoll.createCall loneOld))
    { machine := loneOpening, head := 0 }

/-- Three courses of the roll of one server, each with an instant at which a
stop comes wrong. -/
structure StopsOutOfOrder : Prop where
  /-- Nobody is forked yet, and after the stop the restart of the server begins
  and calls for the deletion of its pod: the fiber of the servers that no
  cluster holds back does not ask whether the operator is stopping. -/
  begins : ∃ r r', loneCourse loneForking = some r ∧ r.chains = [] ∧
    Roll.course? {} .nobody r
      [stopped r.machine.world, .move 1 .run, .move 2 .run, .move 2 .run, .move 2 .run] = some r' ∧
    r'.machine.world.isStopping = true ∧ Calls r'.machine 2 (loneRoll.deleteCall loneOld)
  /-- The deletion is under way at the stop, and it succeeds, and the watch
  tells so, but the answer is in vain. -/
  loses : ∃ r r', loneCourse loneDeleting = some r ∧
    Calls r.machine 2 (loneRoll.deleteCall loneOld) ∧
    Roll.course? {} .nobody r [stoppedGone r.machine.world, carriedOut] = some r' ∧
    Done r'.machine 2 ∧
    NeverRemade (loneDeleting ++ [stoppedGone r.machine.world, carriedOut])
  /-- The deletion has succeeded at the stop, but the watch tells so only after
  the restart has looked. -/
  forsakes : ∃ r r', loneCourse loneWaiting = some r ∧
    (∃ p, r.machine.fiber? 2 = some ⟨p, .running (some (loneRoll.removal "ms1" loneOld))⟩) ∧
    Roll.course? {} .nobody r
      [stopped r.machine.world, .move 2 .run, stoppedGone r.machine.world] = some r' ∧
    Done r'.machine 2 ∧
    NeverRemade
      (loneWaiting ++ [stopped r.machine.world, .move 2 .run, stoppedGone r.machine.world])

theorem lone_roll_stops_out_of_order : StopsOutOfOrder where
  begins := ⟨_, _, rfl, rfl, rfl, rfl, _, _, rfl⟩
  loses := by
    refine ⟨_, _, rfl, ⟨_, _, rfl⟩, rfl, ⟨_, rfl, rfl⟩, ?_⟩
    refine along_next ?_ rfl (along_next ?_ rfl (along_next ?_ rfl (along_next ?_ rfl
      (along_next ?_ rfl (along_next ?_ rfl (along_next ?_ rfl (along_next ?_ rfl trivial)))))))
    all_goals
      rintro ⟨_, _, found⟩
      cases found
  forsakes := by
    refine ⟨_, _, rfl, ⟨_, rfl⟩, rfl, ⟨_, rfl, rfl⟩, ?_⟩
    refine along_next ?_ rfl (along_next ?_ rfl (along_next ?_ rfl (along_next ?_ rfl
      (along_next ?_ rfl (along_next ?_ rfl (along_next ?_ rfl (along_next ?_ rfl
        (along_next ?_ rfl (along_next ?_ rfl (along_next ?_ rfl trivial))))))))))
    all_goals
      rintro ⟨_, _, found⟩
      cases found

/-- The stop comes when the deletion has been answered, and the restart goes on
until its next call is answered. -/
def loneFinishing (w : World) : List (Happening Answer World) :=
  [stoppedGone w, .move 2 .run, .move 2 .run, .move 2 .run, carriedOut]

theorem lone_roll_halts_in_order :
    ∃ deleting deleted r',
      Roll.course? {} .nobody { machine := loneOpening, head := 0 } loneDeleting = some deleting ∧
      deleting.follow? {} .nobody carriedOut = some deleted ∧
      Roll.course? {} .nobody deleted (loneFinishing deleted.machine.world) = some r' ∧
      Done r'.machine 2 ∧
      ∃ sooner rest asking, loneFinishing deleted.machine.world = sooner ++ rest ∧
        Roll.course? {} .nobody deleted sooner = some asking ∧
        Calls asking.machine 2 (loneRoll.createCall loneOld) := by
  have reached : Roll.course? {} .nobody { machine := loneOpening, head := 0 } loneDeleting =
      some _ := rfl
  refine ⟨_, _, _, reached, rfl, rfl, ⟨_, rfl, rfl⟩, ?_⟩
  refine (roll_halts_in_order (t := loneRoll) rfl rfl ?_).finishes loneDeleting _ _ _ _ _ loneOld
    (.status default) rfl reached (List.Mem.head _) rfl ⟨_, _, rfl⟩ rfl rfl rfl ?_ rfl ⟨_, rfl, rfl⟩
  · -- Both answers are responses.
    refine along_next ?_ rfl (along_next ?_ rfl (along_next ?_ rfl (along_next ?_ rfl
      (along_next ?_ rfl (along_next ?_ rfl (along_next ?_ rfl (along_next ?_ rfl
        (along_next ?_ rfl (along_next ?_ rfl (along_next ?_ rfl
          (along_next ?_ rfl trivial)))))))))))
    case refine_7 => exact proper_of_response 2 _
    case refine_12 => exact proper_of_response 2 _
    all_goals
      refine proper_of_no_answer fun _ _ same => ?_
      cases same
  · -- There is one look, after the old pod is gone.
    refine along_next ?_ rfl (along_next ?_ rfl (along_next ?_ rfl (along_next ?_ rfl
      (along_next ?_ rfl trivial))))
    case refine_3 => exact fun _ _ => ⟨_, rfl, fun _ _ held => nomatch held⟩
    all_goals
      intro _ applied
      cases applied

end DomainSteward.Halt
