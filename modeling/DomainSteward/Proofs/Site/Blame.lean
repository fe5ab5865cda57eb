import DomainSteward.Proofs.Domain.Limits
import DomainSteward.Proofs.Site.Journeys

/-! Whom to blame when a roll fails. The head never fails by itself, and a gate
only if its cluster has no floor. So while no stop is requested and the presence
is there, whoever of an open roll has failed has a restart chain to blame, or a
cluster that nobody could restart. -/
namespace DomainSteward.Blame
open Machine Moves RollSteps WaveLoop Ledger Anatomy Lots Restarts Views Calm Paths Journeys

variable {ε : Type} {c : Conduct} {g : GuestRules ε} {t : Mandate ε} {r r' : Roll ε}
  {h : Happening Answer World} {ready : NameSet} {m after : ChainMachine ε} {i : FiberId}
  {move : Move Answer}

theorem not_answer {a : Answer}
    (own : (.answer a : Move Answer) = .run ∨ (.answer a : Move Answer) = .wake ∨
      (.answer a : Move Answer) = .join) : False := by
  rcases own with own | own | own <;> cases own

theorem not_crash {message : String}
    (own : (.crash message : Move Answer) = .run ∨ (.crash message : Move Answer) = .wake ∨
      (.crash message : Move Answer) = .join) : False := by
  rcases own with own | own | own <;> cases own

/-- When no fiber has failed, a join goes on. -/
private theorem unfailed_joins {ids : List FiberId} {verdicts : List (Option FiberError)}
    (unfailed : ∀ j, ¬ Failed m j) (known : m.verdicts? ids = some verdicts) :
    verdicts.filterMap id = [] := by
  refine List.filterMap_eq_nil_iff.mpr fun verdict among => ?_
  have judged := verdicts_known.mp known
  have listed : some verdict ∈ ids.map (fun id => (m.fiber? id).bind Fiber.verdict?) := by
    rw [judged]
    exact List.mem_map_of_mem among
  obtain ⟨j, _, same⟩ := List.mem_map.mp listed
  obtain ⟨f, found, verdict?⟩ := Option.bind_eq_some_iff.mp same
  cases verdict with
  | none => rfl
  | some e => exact absurd ⟨f, e, found, verdict?⟩ (unfailed j)

/-- A fiber that has failed by a move of its own, while nobody else had, has applied a step that
fails. -/
theorem mover_failed (unfailed : ∀ j, ¬ Failed m j)
    (own : move = .run ∨ move = .wake ∨ move = .join)
    (moved : m.move? (chainDynamics c g) i move = some after) (failed : Failed after i) :
    ∃ p step e p', m.fiber? i = some ⟨p, .running (some step)⟩ ∧
      actionOf (chainDynamics c g) step ((chainDynamics c g).apply step p m.world) =
        .terminate e ∧ after.fiber? i = some ⟨p', .ended (some e)⟩ := by
  obtain ⟨f, found, shape⟩ := move_iff_moved.mp moved
  obtain ⟨f', e, found', failed⟩ := failed
  cases shape with
  | start | wake | join =>
    cases (replace_fiber found).symm.trans found'
    cases failed
  | finish =>
    cases (took_fiber found).symm.trans found'
    cases failed
  | step p step =>
    cases (took_fiber found).symm.trans found'
    refine ⟨p, step, ?_⟩
    generalize acts : actionOf (chainDynamics c g) step
      ((chainDynamics c g).apply step p m.world) = action at found' failed
    cases action with
    | terminate e => exact ⟨e, _, found, rfl, found'⟩
    | forkJoin children join => cases children <;> cases failed
    | next | delay | suspend | finish => cases failed
  | cancel | answer => exact (not_answer own).elim
  | crash => exact (not_crash own).elim
  | fail p children andThen verdicts known failed' =>
    exact absurd (unfailed_joins unfailed known) failed'

/-- Nobody has failed after a move unless it is the one who moved. -/
theorem others_unfailed (unfailed : ∀ j, ¬ Failed m j)
    (moved : m.move? (chainDynamics c g) i move = some after) (self : ¬ Failed after i) :
    ∀ j, ¬ Failed after j := by
  rintro j ⟨f, e, found, failed⟩
  by_cases same : j = i
  · exact self (same ▸ ⟨f, e, found, failed⟩)
  · obtain ⟨_, f', added, mover, _, shape, fresh⟩ := move_shape moved
    have within : i < m.fibers.length := (List.getElem?_eq_some_iff.mp mover).1
    have here : Machine.fiber? ⟨m.fibers.set i f' ++ added, m.world⟩ j = some f := by
      rw [← found, fiber?, fiber?, shape]
    rw [fiber?_changed within, if_neg same] at here
    split at here
    · exact unfailed j ⟨f, e, here, failed⟩
    · obtain ⟨step, created⟩ := fresh f (List.mem_of_getElem? here)
      simp [Fiber.verdict?, created] at failed

/-- A fiber that opens a roll by itself does not fail, as its presence is there. -/
theorem opening_unfailed {now : Presence}
    (alone : m.fibers = [⟨t.packet, .running (some (.rolling (plan t).members t.next))⟩])
    (works : t.packet.presence = some t.id) (known : m.world.presence? t.id = some now)
    (moved : m.move? (chainDynamics c g) 0 .run = some after) : ∀ j, ¬ Failed after j := by
  have unfailed : ∀ j, ¬ Failed m j := by
    rintro j ⟨f, e, found, failed⟩
    cases (lone_only alone found).2
    cases failed
  refine others_unfailed unfailed moved fun failed => ?_
  obtain ⟨_, _, _, _, found, acts, _⟩ := mover_failed unfailed (.inl rfl) moved failed
  cases (lone_found alone).symm.trans found
  have applies :
      (chainDynamics c g).apply (.rolling (plan t).members t.next) t.packet m.world = _ :=
    rolling_found (plan t).members t.next works known
  rw [applies] at acts
  cases acts

/-! ## Clusters without a floor -/

/-- Asking for the floor of a cluster panics. -/
def Floorless (id : PresenceId) (w : World) (cluster : String) : Prop :=
  ∃ now panic, w.presence? id = some now ∧ now.minAvailable cluster = .error panic

/-- A fiber has ended by a difference that does not fit. -/
def Overflowed (m : ChainMachine ε) (i : FiberId) : Prop :=
  ∃ p step, m.fiber? i = some ⟨p, .ended (some (.panicked step differenceOverflow.message))⟩

theorem presence_overflows {now : Presence} {cluster : String} {panic : Panic}
    (missing : now.minAvailable cluster = .error panic) : panic = differenceOverflow := by
  unfold Presence.minAvailable at missing
  cases domain : now.domain with
  | none =>
    rw [domain] at missing
    cases missing
  | some d =>
    rw [domain, Option.map_some, Option.getD_some] at missing
    rcases Limits.floor_or_overflow d.spec cluster with ⟨floor, found⟩ | overflows
    · cases found.symm.trans missing
    · exact Except.error.inj (missing.symm.trans overflows)

/-- If a fiber of an open roll fails that is none of its chains, while nobody else has failed, no
stop is requested and the presence is there, it is a gate whose cluster has no floor. -/
theorem roll_fails (travels : Travels t ready r) (unfailed : ∀ j, ¬ Failed r.machine j)
    (goesOn : r.machine.world.isStopping = false) (knows : view? t.id r.machine.world ≠ none)
    (whose : i = r.head ∧ r.progress ≠ .closed ∨ i ∈ r.gates.map (·.1))
    (own : move = .run ∨ move = .wake ∨ move = .join)
    (moved : r.machine.move? (chainDynamics c g) i move = some after) (failed : Failed after i) :
    ∃ cluster, (i, some cluster) ∈ r.gates ∧ Floorless t.id r.machine.world cluster ∧
      Overflowed after i := by
  obtain ⟨p, step, e, p', found, acts, ended⟩ := mover_failed unfailed own moved failed
  rcases whose with ⟨rfl, notClosed⟩ | isGate
  · obtain ⟨rfl, rfl, _⟩ := head_step travels.opened notClosed found
    have goesOn : (.goOn (plan t).next : StepAction ε) = .terminate e := acts
    generalize (plan t).next = next at goesOn
    cases next <;> cases goesOn
  · obtain ⟨⟨j, b⟩, member, rfl⟩ := List.mem_map.mp isGate
    cases gate_finds (travels.opened.gates (j, b) member) found with
    | together => cases acts
    | waves cluster queue works =>
      obtain ⟨outcome, applied, looked⟩ := roll_cluster_looks (c := c) (p := p)
        (w := r.machine.world) cluster queue (plan t).packet.topology?
      have applies : (chainDynamics c g).apply
          (.rollCluster cluster queue (plan t).packet.topology?) p r.machine.world =
          ⟨outcome, p, r.machine.world⟩ := applied
      obtain ⟨v, seen⟩ := Option.ne_none_iff_exists'.mp knows
      obtain ⟨now, known, _⟩ := view_known seen
      have present : r.machine.world.presenceOf? p = some now :=
        presence_found (works.trans travels.works) known
      rw [applies] at acts
      cases looked with
      | refused _ why =>
        rcases why with stopping | missing
        · exact absurd (goesOn.symm.trans stopping) Bool.false_ne_true
        · exact absurd (present.symm.trans missing) (Option.some_ne_none _)
      | wave | complete | noSlack => cases acts
      | floorless presence _ found' panic panics =>
        cases present.symm.trans found'
        have missing := split_queue_panics.mp panics
        obtain rfl := presence_overflows missing
        cases acts
        exact ⟨cluster, member, ⟨now, _, known, missing⟩, p', _, ended⟩

/-! ## Buckets from which nobody is forked -/

/-- Who is to blame when a fiber of a roll has failed. -/
inductive Blamed (t : Mandate ε) (r : Roll ε) : Prop where
  /-- A restart chain has failed. -/
  | chain (chain : Chain ε) (among : chain ∈ r.chains) (failed : Failed r.machine chain.id)
  /-- A gate has failed before it forked anybody. -/
  | starved (i : FiberId) (b : Option String) (gate : (i, b) ∈ r.gates)
      (failed : Failed r.machine i) (nobody : r.chainsOf b = [])
  /-- Nobody has failed, nor been forked for a cluster without a floor. -/
  | nobody (unfailed : ∀ i, ¬ Failed r.machine i)
      (spared : ∀ cluster, Floorless t.id r.machine.world cluster →
        r.chainsOf (some cluster) = [])

theorem overflow_lasts (happened : happen? (chainDynamics c g) m h = some after)
    (overflowed : Overflowed m i) : Overflowed after i := by
  obtain ⟨p, step, ended⟩ := overflowed
  exact ⟨p, step, done_stays_done happened ended rfl⟩

/-- The bucket of a gate that has forked nobody holds a server that is due. -/
theorem starved_server {b : Option String} (travels : Travels t ready r) (gate : (i, b) ∈ r.gates)
    (nobody : r.chainsOf b = []) :
    ∃ server, IsDue t server ∧ ∀ chain ∈ r.chains, chain.member.1 ≠ server := by
  have opened := travels.opened
  obtain ⟨m, member, queued⟩ := (opened.filled b).mp (List.mem_map_of_mem (f := (·.2)) gate)
  refine ⟨m.1, members_due.mp ⟨m, member, rfl⟩, fun chain among same => ?_⟩
  obtain ⟨member', inBucket⟩ := List.mem_filter.mp (chain_in_bucket opened among)
  obtain rfl : chain.member = m := List.inj_on_of_nodup_map (members_distinct t) member' member same
  have bucket : chain.bucket = b := (of_decide_eq_true inBucket).symm.trans queued
  exact List.filter_eq_nil_iff.mp nobody chain among (decide_eq_true bucket)

end DomainSteward.Blame
