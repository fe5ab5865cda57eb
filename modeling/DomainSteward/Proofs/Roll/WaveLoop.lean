import DomainSteward.Proofs.Fiber.Moves
import DomainSteward.Proofs.Roll.Steps

/-! The wave loop of one cluster against a world that may change in any way
between two looks at the queue. Nothing is assumed of the restart chains, of
the other fibers or of the presence that a look finds. -/
namespace DomainSteward.WaveLoop
open Machine Moves RollSteps Waves

variable {ε : Type} {c : Conduct} {g : GuestRules ε} {i : FiberId} {cluster : String}
  {queue held : List (Member ε)} {topology : Option Topology}

/-- A look that the fiber of a cluster takes at its queue, with the machine
before and after it. -/
structure Look (ε : Type) where
  cluster : String
  queue : List (Member ε)
  topology : Option Topology
  /-- What the look finds known of the domain. -/
  presence : Presence
  before : ChainMachine ε
  after : ChainMachine ε

namespace Look

/-- The members of the cluster that the look finds Ready. -/
def ready (l : Look ε) : NameSet := l.presence.readyInCluster l.cluster l.topology

/-- The members that have to stay Ready as the look finds it. -/
def floor (l : Look ε) : Except Panic Nat := l.presence.minAvailable l.cluster

/-- The members whose restarts the look starts; nobody's if it finds no floor. -/
def wave (l : Look ε) : List (Member ε) := waveOf l.presence l.cluster l.topology l.queue

/-- The fibers that the look forks. -/
def forked (l : Look ε) : List FiberId :=
  List.range' l.before.fibers.length (l.after.fibers.length - l.before.fibers.length)

end Look

/-- The look, if something that happens is one: fiber `i` applies the step of
a cluster while the operator goes on and the presence is known. -/
def look? (c : Conduct) (g : GuestRules ε) (i : FiberId) (m : ChainMachine ε) :
    Happening Answer World → Option (Look ε)
  | .move j .run =>
    if j = i then
      match m.fiber? i with
      | some ⟨p, .running (some (.rollCluster cluster queue topology))⟩ =>
        if m.world.isStopping then none
        else do
          let presence ← m.world.presenceOf? p
          let after ← m.move? (chainDynamics c g) i .run
          return { cluster, queue, topology, presence, before := m, after }
      | _ => none
    else none
  | _ => none

/-- All looks of a course, in order. -/
def looks (c : Conduct) (g : GuestRules ε) (i : FiberId) :
    ChainMachine ε → List (Happening Answer World) → List (Look ε)
  | _, [] => []
  | m, h :: rest =>
    (look? c g i m h).toList ++
      match happen? (chainDynamics c g) m h with
      | some m => looks c g i m rest
      | none => []

/-- The members that still wait in the queue of a fiber; nobody does once it
has ended without a failure. -/
def queued? : Phase (Step ε) (Pending ε) → Option (List (Member ε))
  | .created (.rollCluster _ queue _) => some queue
  | .running (some (.rollCluster _ queue _)) => some queue
  | .sleeping _ (some (.rollCluster _ queue _)) => some queue
  | .joining _ (some (.rollCluster _ queue _)) => some queue
  | .ended none => some []
  | _ => none

/-- A fiber that is done. -/
def Done (m : ChainMachine ε) (i : FiberId) : Prop := ∃ f, m.fiber? i = some f ∧ f.isDone

/-- A fiber that is done and failed. -/
def Failed (m : ChainMachine ε) (i : FiberId) : Prop :=
  ∃ f e, m.fiber? i = some f ∧ f.verdict? = some (some e)

/-- A fiber that ended because some of the fibers it forked failed. -/
def EndedByChildren (m : ChainMachine ε) (i : FiberId) : Prop :=
  ∃ p failures, m.fiber? i = some ⟨p, .ended (some (.childrenFailed failures))⟩

/-- What holds of the looks that fiber `i` has taken at a queue, whatever
happened meanwhile. -/
structure Kept (c : Conduct) (g : GuestRules ε) (i : FiberId) (queue : List (Member ε))
    (looks : List (Look ε)) (now : ChainMachine ε) : Prop where
  /-- A look is taken only when all chains of the waves before have succeeded. -/
  barrier : looks.Pairwise (fun earlier later => ∀ id ∈ earlier.forked, Succeeded later.before id)
  /-- A look forks the chains of its wave and nothing else. -/
  forks : ∀ l ∈ looks, l.after.fibers.drop l.before.fibers.length =
    l.wave.map (fun member => ⟨member.2.2, .created member.2.1⟩)
  /-- Every member is in exactly one wave, or it is still queued. -/
  once : ∃ rest, (looks.flatMap Look.wave ++ rest).Perm queue ∧
    ∀ f, now.fiber? i = some f → ∀ waiting, queued? f.phase = some waiting → rest = waiting
  /-- A wave takes no more Ready members than can be spared. -/
  slack : ∀ l ∈ looks, ∀ floor, l.floor = .ok floor →
    (l.wave.filter (fun member => l.ready.contains member.1)).length ≤ l.ready.size - floor
  /-- A look that finds no floor is the last one: it takes nobody and the step fails. -/
  floorless : ∀ l ∈ looks, ∀ panic, l.floor = .error panic →
    l.wave = [] ∧ looks.getLast? = some l ∧
      ∃ p, now.fiber? i =
        some ⟨p, .ended (some (.panicked "RollSpecificClusterStep" panic.message))⟩
  /-- There are no more waves with somebody in them than members. -/
  few : (looks.filter (fun l => !l.wave.isEmpty)).length ≤ queue.length
  /-- The step succeeds only after all members' chains have. -/
  success : Succeeded now i → (looks.flatMap Look.wave).Perm queue ∧
    ∀ l ∈ looks, ∀ id ∈ l.forked, Succeeded now id
  /-- After a chain has failed there is no further look: the step waits for the
  other chains of the wave, which is all it can do, and then fails. -/
  failure : ∀ l ∈ looks, ∀ id ∈ l.forked, Failed now id → looks.getLast? = some l ∧
    (EndedByChildren now i ∧ (∀ id ∈ l.forked, Done now id) ∨
      (∃ p join, now.fiber? i = some ⟨p, .joining l.forked join⟩) ∧
        ((∀ id ∈ l.forked, Done now id) →
          ∃ after, now.move? (chainDynamics c g) i .join = some after) ∧
        ∀ move after, now.move? (chainDynamics c g) i move = some after →
          EndedByChildren after i ∧ ∀ id ∈ l.forked, Done now id)

/-! ## The invariant of the loop -/

/-- The step of the loop with a queue. -/
abbrev loop (cluster : String) (queue : List (Member ε)) (topology : Option Topology) : Step ε :=
  .rollCluster cluster queue topology

/-- A fiber that will look at a queue next. -/
inductive Idle (step : Step ε) : Phase (Step ε) (Pending ε) → Prop where
  | created : Idle step (.created step)
  | running : Idle step (.running (some step))
  | sleeping (wait : Duration) : Idle step (.sleeping wait (some step))

/-- All looks found a floor, and all chains that they forked have succeeded. -/
def Settled (past : List (Look ε)) (m : ChainMachine ε) : Prop :=
  ∀ l ∈ past, (∃ floor, l.floor = .ok floor) ∧ ∀ id ∈ l.forked, Succeeded m id

/-- Where the fiber of the loop stands after some looks, with the members that
no look has taken. -/
inductive Stage (cluster : String) (topology : Option Topology) (past : List (Look ε))
    (m : ChainMachine ε) (held : List (Member ε)) : Phase (Step ε) (Pending ε) → Prop where
  | idle (phase : Phase (Step ε) (Pending ε)) (next : Idle (loop cluster held topology) phase)
      (all : Settled past m) : Stage cluster topology past m held phase
  | waits (earlier : List (Look ε)) (l : Look ε) (last : past = earlier ++ [l])
      (all : Settled earlier m) (based : ∃ floor, l.floor = .ok floor) :
      Stage cluster topology past m held (.joining l.forked (some (loop cluster held topology)))
  | complete (nobody : held = []) (all : Settled past m) :
      Stage cluster topology past m held (.ended none)
  | refused (e : FiberError) (all : Settled past m) :
      Stage cluster topology past m held (.ended (some e))
  | floorless (earlier : List (Look ε)) (l : Look ε) (last : past = earlier ++ [l])
      (all : Settled earlier m) (quiet : l.forked = []) (panic : Panic)
      (why : l.floor = .error panic) :
      Stage cluster topology past m held
        (.ended (some (.panicked "RollSpecificClusterStep" panic.message)))
  | failed (earlier : List (Look ε)) (l : Look ε) (last : past = earlier ++ [l])
      (all : Settled earlier m) (based : ∃ floor, l.floor = .ok floor)
      (done : ∀ id ∈ l.forked, Done m id) (failures : List FiberError) :
      Stage cluster topology past m held (.ended (some (.childrenFailed failures)))

/-- What every move keeps of the loop, with the presence that its fiber works
for. -/
structure Inv (i : FiberId) (works : Option PresenceId) (cluster : String)
    (topology : Option Topology) (queue : List (Member ε)) (past : List (Look ε))
    (m : ChainMachine ε) : Prop where
  barrier : past.Pairwise (fun earlier later => ∀ id ∈ earlier.forked, Succeeded later.before id)
  forks : ∀ l ∈ past, l.after.fibers.drop l.before.fibers.length =
    l.wave.map (fun member => ⟨member.2.2, .created member.2.1⟩)
  stands : ∃ p phase held, m.fiber? i = some ⟨p, phase⟩ ∧ p.presence = works ∧
    (past.flatMap Look.wave ++ held).Perm queue ∧ Stage cluster topology past m held phase

variable {j : FiberId} {works : Option PresenceId} {m m' now : ChainMachine ε}
  {h : Happening Answer World} {past : List (Look ε)} {p : Packet} {presence : Presence}
  {phase : Phase (Step ε) (Pending ε)}

theorem done_lasts (happened : happen? (chainDynamics c g) m h = some m')
    (done : Done m i) : Done m' i := by
  obtain ⟨f, found, isDone⟩ := done
  obtain ⟨verdict, judged⟩ := Option.isSome_iff_exists.mp isDone
  exact ⟨f, done_stays_done happened found judged, isDone⟩

private theorem settled_lasts (happened : happen? (chainDynamics c g) m h = some m')
    (all : Settled past m) : Settled past m' :=
  fun l member => ⟨(all l member).1, fun id among =>
    success_lasts happened ((all l member).2 id among)⟩

/-- What a fiber knows of the chains it forked stays true, as chains that are
done do not change. -/
private theorem stage_lasts (happened : happen? (chainDynamics c g) m h = some m')
    (stage : Stage cluster topology past m held phase) :
    Stage cluster topology past m' held phase := by
  cases stage with
  | idle _ next all => exact .idle _ next (settled_lasts happened all)
  | waits earlier l last all based =>
    exact .waits earlier l last (settled_lasts happened all) based
  | complete nobody all => exact .complete nobody (settled_lasts happened all)
  | refused e all => exact .refused e (settled_lasts happened all)
  | floorless earlier l last all quiet panic why =>
    exact .floorless earlier l last (settled_lasts happened all) quiet panic why
  | failed earlier l last all based done failures =>
    exact .failed earlier l last (settled_lasts happened all) based
      (fun id among => done_lasts happened (done id among)) failures

theorem no_look_of_bystander (bystander : ∀ move, h ≠ .move i move) :
    look? c g i m h = none := by
  cases h with
  | move j move =>
    have other : j ≠ i := fun same => bystander move (same ▸ rfl)
    cases move <;> simp [look?, other]
  | outside world => rfl

theorem look_taken
    (found : m.fiber? i = some ⟨p, .running (some (loop cluster held topology))⟩)
    (goesOn : m.world.isStopping = false) (seen : m.world.presenceOf? p = some presence)
    (moves : m.move? (chainDynamics c g) i .run = some m') :
    look? c g i m (.move i .run) =
      some { cluster, queue := held, topology, presence, before := m, after := m' } := by
  simp [look?, found, goesOn, seen, moves]

theorem no_look_refused
    (found : m.fiber? i = some ⟨p, .running (some (loop cluster held topology))⟩)
    (why : m.world.isStopping = true ∨ m.world.presenceOf? p = none) :
    look? c g i m (.move i .run) = none := by
  rcases why with stopping | missing
  · simp [look?, found, stopping]
  · simp [look?, found, missing]

/-- A look that forks nobody leaves no chain to wait for. -/
private theorem quiet_look (l : Look ε)
    (quiet : l.after.fibers.length = l.before.fibers.length) : l.forked = [] := by
  simp [Look.forked, quiet]

private theorem settled_quiet (l : Look ε) (based : ∃ floor, l.floor = .ok floor)
    (quiet : l.forked = []) (all : Settled past m) : Settled (past ++ [l]) m := by
  intro other member
  rcases List.mem_append.mp member with member | member
  · exact all other member
  · rw [List.mem_singleton.mp member, quiet]
    exact ⟨based, fun id among => nomatch among⟩

/-- Taking a look adds it to the looks of before, and all that was known of
the chains forked so far is known to it. -/
private theorem inv_looked (inv : Inv i works cluster topology queue past m) (l : Look ε)
    (before : l.before = m) (all : Settled past m)
    (forks : l.after.fibers.drop l.before.fibers.length =
      l.wave.map (fun member => ⟨member.2.2, .created member.2.1⟩))
    (stands : ∃ p phase held, m'.fiber? i = some ⟨p, phase⟩ ∧ p.presence = works ∧
      ((past ++ [l]).flatMap Look.wave ++ held).Perm queue ∧
      Stage cluster topology (past ++ [l]) m' held phase) :
    Inv i works cluster topology queue (past ++ [l]) m' := by
  refine ⟨?_, ?_, stands⟩
  · refine List.pairwise_append.mpr ⟨inv.barrier, List.pairwise_singleton .., ?_⟩
    intro earlier member later isLast id among
    rw [List.mem_singleton.mp isLast, before]
    exact (all earlier member).2 id among
  · intro other member
    rcases List.mem_append.mp member with member | member
    · exact inv.forks other member
    · rw [List.mem_singleton.mp member]
      exact forks

/-- The fiber takes a look, or is refused one. -/
private theorem inv_running (inv : Inv i works cluster topology queue past m)
    (found : m.fiber? i = some ⟨p, .running (some (loop cluster held topology))⟩)
    (same : p.presence = works) (members : (past.flatMap Look.wave ++ held).Perm queue)
    (all : Settled past m) (moves : m.move? (chainDynamics c g) i .run = some m') :
    Inv i works cluster topology queue (past ++ (look? c g i m (.move i .run)).toList) m' := by
  have lasts : Settled past m' :=
    fun l member => ⟨(all l member).1, fun id among =>
      succeeded_stays moves ((all l member).2 id among)⟩
  obtain ⟨outcome, applied, looked⟩ :=
    roll_cluster_looks (c := c) (p := p) (w := m.world) cluster held topology
  have taken := run_step found moves
  have applies : (chainDynamics c g).apply (loop cluster held topology) p m.world =
      ⟨outcome, p, m.world⟩ := applied
  rw [applies] at taken
  let action := actionOf (chainDynamics c g) (loop cluster held topology) ⟨outcome, p, m.world⟩
  have stands : m'.fiber? i = some ⟨packetAfter (chainDynamics c g) p action,
      phaseAfter m.fibers.length action⟩ := by
    rw [taken]
    exact took_fiber found
  have same : (packetAfter (chainDynamics c g) p action).presence = works := by
    rw [← same]
    cases action <;> rfl
  have split {presence : Presence} {wave : WaveSplit (Step ε × Packet)}
      (next : splitQueue presence cluster topology held = .ok wave) :
      (past.flatMap Look.wave ++ wave.wave ++ wave.held).Perm queue := by
    rw [List.append_assoc]
    exact ((split_queue_keeps_members next).append_left _).trans members
  cases looked with
  | refused e why =>
    rw [no_look_refused found why, Option.toList_none, List.append_nil]
    exact ⟨inv.barrier, inv.forks, _, _, held, stands, same, members, .refused e lasts⟩
  | floorless presence goesOn seen panic panics =>
    rw [look_taken found goesOn seen moves, Option.toList_some]
    have quiet : m'.fibers.length = m.fibers.length := by
      rw [taken]
      simp [took, born, actionOf]
    have missing : presence.minAvailable cluster = .error panic := split_queue_panics.mp panics
    have nobody : Look.wave ⟨cluster, held, topology, presence, m, m'⟩ = [] := by
      simp only [Look.wave, waveOf, missing]
    refine inv_looked inv _ rfl all ?_ ⟨_, _, held, stands, same, ?_,
      .floorless past _ rfl lasts (quiet_look _ quiet) panic missing⟩
    · rw [nobody, taken]
      simp [took, born, actionOf]
    · simpa [nobody] using members
  | wave presence goesOn seen wave next some =>
    rw [look_taken found goesOn seen moves, Option.toList_some]
    have length : m'.fibers.length - m.fibers.length = wave.wave.length := by
      rw [taken]
      simp [took, born, actionOf]
    obtain ⟨floor, given, -⟩ := split_queue_iff.mp next
    have taking : Look.wave ⟨cluster, held, topology, presence, m, m'⟩ = wave.wave :=
      wave_of_split next
    refine inv_looked inv _ rfl all ?_ ⟨_, _, wave.held, stands, same, ?_, ?_⟩
    · rw [taking, taken]
      simp [took, born, actionOf]
    · simpa [taking] using split next
    · have nonempty : wave.wave.map (·.2) ≠ [] := by simpa using some
      have waits := phase_after_fork (κ := Pending ε) m.fibers.length nonempty
        (.some (loop cluster wave.held topology))
      rw [List.length_map] at waits
      show Stage _ _ _ _ _ (phaseAfter _ (.forkJoin _ _))
      rw [waits, ← length]
      exact .waits past _ rfl lasts ⟨floor, given⟩
  | complete presence goesOn seen wave next nobody =>
    rw [look_taken found goesOn seen moves, Option.toList_some]
    have quiet : m'.fibers.length = m.fibers.length := by
      rw [taken]
      simp [took, born, actionOf]
    obtain ⟨floor, given, -⟩ := split_queue_iff.mp next
    have taking : Look.wave ⟨cluster, held, topology, presence, m, m'⟩ = wave.wave :=
      wave_of_split next
    subst nobody
    have kept := split_queue_keeps_members next
    have alone : wave.wave = [] := (List.append_eq_nil_iff.mp kept.eq_nil).1
    refine inv_looked inv _ rfl all ?_ ⟨_, _, [], stands, same, ?_,
      .complete rfl (settled_quiet _ ⟨floor, given⟩ (quiet_look _ quiet) lasts)⟩
    · rw [taking, alone, taken]
      simp [took, born, actionOf]
    · simpa [taking, alone] using members
  | noSlack presence goesOn seen wave next none some =>
    rw [look_taken found goesOn seen moves, Option.toList_some]
    have quiet : m'.fibers.length = m.fibers.length := by
      rw [taken]
      simp [took, born, actionOf]
    obtain ⟨floor, given, -⟩ := split_queue_iff.mp next
    have taking : Look.wave ⟨cluster, held, topology, presence, m, m'⟩ = wave.wave :=
      wave_of_split next
    refine inv_looked inv _ rfl all ?_ ⟨_, _, wave.held, stands, same, ?_,
      .idle _ (.sleeping _) (settled_quiet _ ⟨floor, given⟩ (quiet_look _ quiet) lasts)⟩
    · rw [taking, none, taken]
      simp [took, born, actionOf]
    · simpa [taking] using split next

/-- Nothing but the packet and the phase of the fiber changes, so whoever has
succeeded still has, and no look is added. -/
private theorem inv_kept (inv : Inv i works cluster topology queue past m)
    (same : p.presence = works) (members : (past.flatMap Look.wave ++ held).Perm queue)
    (found : m'.fiber? i = some ⟨p, phase⟩) (stage : Stage cluster topology past m' held phase) :
    Inv i works cluster topology queue (past ++ (none : Option (Look ε)).toList) m' := by
  rw [Option.toList_none, List.append_nil]
  exact ⟨inv.barrier, inv.forks, p, phase, held, found, same, members, stage⟩

/-- What happens next keeps the invariant, with the look that it is, if it is
one. -/
theorem inv_happen (inv : Inv i works cluster topology queue past m)
    (happened : happen? (chainDynamics c g) m h = some m') :
    Inv i works cluster topology queue (past ++ (look? c g i m h).toList) m' := by
  obtain ⟨p, phase, held, found, same, members, stage⟩ := inv.stands
  have lasts := stage_lasts happened stage
  by_cases own : ∃ move, h = .move i move
  · obtain ⟨move, rfl⟩ := own
    obtain ⟨f, found', moved⟩ := move_iff_moved.mp happened
    cases found.symm.trans found'
    cases stage with
    | idle _ next all =>
      cases next with
      | created =>
        cases moved with
        | start =>
          have quiet : look? c g i m (.move i .run) = none := by simp [look?, found]
          rw [quiet]
          cases lasts with
          | idle _ _ all =>
            exact inv_kept inv same members (replace_fiber found) (.idle _ .running all)
      | running =>
        cases moved with
        | step => exact inv_running inv found same members all happened
      | sleeping wait =>
        cases moved with
        | wake =>
          cases lasts with
          | idle _ _ all =>
            exact inv_kept inv same members (replace_fiber found) (.idle _ .running all)
    | waits earlier l last all based =>
      cases moved with
      | join _ _ _ verdicts known clean =>
        refine inv_kept inv same members (replace_fiber found) (.idle _ .running ?_)
        intro other member
        rw [last] at member
        rcases List.mem_append.mp member with member | member
        · exact settled_lasts happened all other member
        · rw [List.mem_singleton.mp member]
          exact ⟨based, fun id among =>
            success_lasts happened (joined_succeeded known clean among)⟩
      | fail _ _ _ verdicts known failed =>
        have same : (packetAfter (chainDynamics c g) p
            (.terminate (.childrenFailed (verdicts.filterMap id)))).presence = works := same
        refine inv_kept inv same members (took_fiber found)
          (.failed earlier l last (settled_lasts happened all) based ?_ (verdicts.filterMap id))
        exact fun id among => done_lasts happened (joined_done known among)
    | complete | refused | floorless | failed => cases moved
  · have bystander := not_exists.mp own
    rw [no_look_of_bystander bystander]
    exact inv_kept inv same members (bystander_stays happened bystander found) lasts

/-- The invariant holds of a fiber that has not started. -/
theorem inv_begins
    (begins : m.fiber? i = some ⟨p, .created (.rollCluster cluster queue topology)⟩) :
    Inv i p.presence cluster topology queue [] m :=
  ⟨.nil, by simp, p, _, queue, begins, rfl, by simp, .idle _ .created fun _ member => nomatch member⟩

/-- Any course keeps the invariant, with all looks that it takes. -/
private theorem inv_course {hs : List (Happening Answer World)}
    (inv : Inv i works cluster topology queue past m)
    (ran : course? (chainDynamics c g) m hs = some now) :
    Inv i works cluster topology queue (past ++ looks c g i m hs) now := by
  induction hs generalizing m past with
  | nil =>
    cases ran
    simpa [looks] using inv
  | cons h rest ih =>
    obtain ⟨next, happened, ran⟩ := Option.bind_eq_some_iff.mp ran
    simp only [looks, happened]
    rw [← List.append_assoc]
    exact ih (inv_happen inv happened) ran

/-! ## What follows from it -/

/-- Waves with somebody in them are no more than those who are in them. -/
private theorem waves_le_members (past : List (Look ε)) :
    (past.filter (fun l => !l.wave.isEmpty)).length ≤ (past.flatMap Look.wave).length := by
  induction past with
  | nil => exact Nat.le_refl 0
  | cons l rest ih =>
    rw [List.flatMap_cons, List.length_append]
    cases taken : l.wave with
    | nil => simpa [List.filter_cons, taken] using ih
    | cons member others =>
      simp only [List.filter_cons, taken, List.isEmpty_cons, Bool.not_false, ↓reduceIte,
        List.length_cons]
      omega

private theorem queued_stage (stage : Stage cluster topology past m held phase)
    {waiting : List (Member ε)} (queued : queued? phase = some waiting) : held = waiting := by
  cases stage with
  | idle _ next _ =>
    cases next <;> exact Option.some.inj queued
  | waits => exact Option.some.inj queued
  | complete nobody => exact nobody.trans (Option.some.inj queued)
  | refused | floorless | failed => cases queued

theorem not_succeeded (failed : Failed m j) : ¬ Succeeded m j := by
  rintro ⟨p, succeeded⟩
  obtain ⟨f, e, found, verdict⟩ := failed
  cases found.symm.trans succeeded
  cases verdict

/-- A join on a fiber that failed is the end. -/
private theorem join_fails {l : Look ε} {join : Option (Step ε)} {move : Move Answer}
    (found : m.fiber? i = some ⟨p, .joining l.forked join⟩) (among : j ∈ l.forked)
    (failed : Failed m j) (moves : m.move? (chainDynamics c g) i move = some m') :
    EndedByChildren m' i ∧ ∀ id ∈ l.forked, Done m id := by
  obtain ⟨f, found', moved⟩ := move_iff_moved.mp moves
  cases found.symm.trans found'
  cases moved with
  | join _ _ _ verdicts known clean =>
    exact absurd (joined_succeeded known clean among) (not_succeeded failed)
  | fail _ _ _ verdicts known _ =>
    exact ⟨⟨_, _, took_fiber found⟩, fun id among => joined_done known among⟩

private theorem stage_failure (found : m.fiber? i = some ⟨p, phase⟩)
    (stage : Stage cluster topology past m held phase) {l : Look ε} (member : l ∈ past)
    (among : j ∈ l.forked) (failed : Failed m j) :
    past.getLast? = some l ∧
      (EndedByChildren m i ∧ (∀ id ∈ l.forked, Done m id) ∨
        (∃ p join, m.fiber? i = some ⟨p, .joining l.forked join⟩) ∧
          ((∀ id ∈ l.forked, Done m id) →
            ∃ after, m.move? (chainDynamics c g) i .join = some after) ∧
          ∀ move after, m.move? (chainDynamics c g) i move = some after →
            EndedByChildren after i ∧ ∀ id ∈ l.forked, Done m id) := by
  have isLast {earlier : List (Look ε)} {last : Look ε} (shape : past = earlier ++ [last])
      (all : Settled earlier m) : l = last := by
    rw [shape] at member
    rcases List.mem_append.mp member with member | member
    · exact absurd ((all l member).2 j among) (not_succeeded failed)
    · exact List.mem_singleton.mp member
  cases stage with
  | idle _ _ all | complete _ all | refused _ all =>
    exact absurd ((all l member).2 j among) (not_succeeded failed)
  | floorless earlier last shape all quiet =>
    cases isLast shape all
    rw [quiet] at among
    cases among
  | waits earlier last shape all =>
    cases isLast shape all
    refine ⟨by simp [shape], .inr ⟨⟨p, _, found⟩, join_possible found, ?_⟩⟩
    exact fun move after moves => join_fails found among failed moves
  | failed earlier last shape all _ done failures =>
    cases isLast shape all
    exact ⟨by simp [shape], .inl ⟨⟨p, failures, found⟩, done⟩⟩

/-- A look without a floor is the end. -/
private theorem stage_floorless (found : m.fiber? i = some ⟨p, phase⟩)
    (stage : Stage cluster topology past m held phase) {l : Look ε} (member : l ∈ past)
    {panic : Panic} (why : l.floor = .error panic) :
    past.getLast? = some l ∧ ∃ p, m.fiber? i =
      some ⟨p, .ended (some (.panicked "RollSpecificClusterStep" panic.message))⟩ := by
  have based {earlier : List (Look ε)} (all : Settled earlier m) : l ∉ earlier := by
    intro member
    obtain ⟨floor, given⟩ := (all l member).1
    cases why.symm.trans given
  have isLast {earlier : List (Look ε)} {last : Look ε} (shape : past = earlier ++ [last])
      (all : Settled earlier m) : l = last := by
    rw [shape] at member
    rcases List.mem_append.mp member with member | member
    · exact absurd member (based all)
    · exact List.mem_singleton.mp member
  cases stage with
  | idle _ _ all | complete _ all | refused _ all => exact absurd member (based all)
  | waits earlier last shape all given | failed earlier last shape all given =>
    cases isLast shape all
    obtain ⟨floor, given⟩ := given
    cases why.symm.trans given
  | floorless earlier last shape all _ panic' why' =>
    cases isLast shape all
    cases why.symm.trans why'
    exact ⟨by simp [shape], p, found⟩

private theorem kept_of_inv (inv : Inv i works cluster topology queue past m) :
    Kept c g i queue past m := by
  obtain ⟨p, phase, held, found, same, members, stage⟩ := inv.stands
  refine ⟨inv.barrier, inv.forks, ⟨held, members, ?_⟩, ?_, ?_, ?_, ?_, ?_⟩
  · intro f found' waiting queued
    cases found.symm.trans found'
    exact queued_stage stage queued
  · intro l _ floor given
    have given : l.presence.minAvailable l.cluster = .ok floor := given
    simp only [Look.wave, waveOf, given]
    exact next_wave_within_slack l.queue l.ready floor
  · intro l member panic why
    refine ⟨?_, stage_floorless found stage member why⟩
    have why : l.presence.minAvailable l.cluster = .error panic := why
    simp only [Look.wave, waveOf, why]
  · have total := members.length_eq
    rw [List.length_append] at total
    have waves := waves_le_members past
    omega
  · rintro ⟨p, ended⟩
    cases found.symm.trans ended
    cases stage with
    | idle _ next _ => cases next
    | complete nobody all =>
      subst nobody
      exact ⟨by simpa using members, fun l member => (all l member).2⟩
  · exact fun l member id among failed => stage_failure found stage member among failed

/-- The wave loop of one cluster against any environment: whatever happens to
the world, to the presence and to all other fibers between two looks at the
queue, the loop keeps its waves apart, starts every member's chain at most
once, never spares more Ready members than the floor allows, and ends as its
chains do. -/
theorem wave_loop_keeps_its_law {start now : ChainMachine ε}
    (cluster : String) (queue : List (Member ε)) (topology : Option Topology)
    {hs : List (Happening Answer World)}
    (begins : start.fiber? i = some ⟨p, .created (.rollCluster cluster queue topology)⟩)
    (ran : course? (chainDynamics c g) start hs = some now) :
    Kept c g i queue (looks c g i start hs) now := by
  have inv := inv_course (inv_begins begins) ran
  rw [List.nil_append] at inv
  exact kept_of_inv inv

/-! ## A cluster of two servers -/

/-- A cluster of two Ready servers, one of which has to stay Ready. -/
def pair : Presence :=
  let pod : Pod :=
    { metadata := { labels := some (NameMap.ofList [(Label.clusterName, "c")]) }
      status := some { conditions := some [{ type := "Ready", status := "True" }] } }
  { namespaceName := "ns", domainUid := "uid", domain := some { spec := { replicas := 2 } }
    servers := NameMap.ofList [("ms1", pod), ("ms2", pod)] }

/-- A world in which nothing but a presence is known. -/
def knowing (presence : Presence) : World :=
  { feed := { registry := { presences := [presence] } } }

/-- The two servers, each with a chain that does nothing. -/
def pairQueue : List (Member Empty) :=
  ["ms1", "ms2"].map (fun server => (server, .idle, { presence := some 0 }))

/-- A fiber that restarts them in waves. -/
def pairLoop : ChainMachine Empty :=
  { fibers := [⟨{ presence := some 0 }, .created (.rollCluster "c" pairQueue none)⟩]
    world := knowing pair }

/-- The first server goes down with its wave and is not back when the wave has been joined. The
next look finds no slack, so the second server has to wait for one more. -/
def pairEvents : List (Happening Answer World) :=
  [.move 0 .run, .move 0 .run, .outside (knowing (pair.mark "ms1")), .move 1 .run, .move 1 .run,
    .move 0 .join, .move 0 .run, .outside (knowing pair), .move 0 .wake, .move 0 .run, .move 2 .run,
    .move 2 .run, .move 0 .join, .move 0 .run]

theorem wave_loop_of_a_pair :
    ∃ now, course? (chainDynamics {} .nobody) pairLoop pairEvents = some now ∧ Succeeded now 0 ∧
      (looks {} .nobody 0 pairLoop pairEvents).map (fun l => (l.floor, l.ready.toNames)) =
        [(.ok 1, ["ms1", "ms2"]), (.ok 1, ["ms2"]), (.ok 1, ["ms1", "ms2"]),
          (.ok 1, ["ms1", "ms2"])] ∧
      (looks {} .nobody 0 pairLoop pairEvents).map (fun l => l.wave.map (·.1)) =
        [["ms1"], [], ["ms2"], []] ∧
      Kept {} .nobody 0 pairQueue (looks {} .nobody 0 pairLoop pairEvents) now :=
  ⟨_, rfl, ⟨_, rfl⟩, rfl, rfl, wave_loop_keeps_its_law (i := 0) "c" _ none rfl rfl⟩

end DomainSteward.WaveLoop
