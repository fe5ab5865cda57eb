import DomainSteward.Proofs.Presence.Outlook
import DomainSteward.Proofs.Site.Forgetting

/-! What a restart has come to when it succeeds. It works on a presence that a
watch keeps up to date, in order but late. A restart that succeeds has seen its
server Ready, and with another pod than the old one, as long as it goes by what
the watch tells. When the server answers that there is no pod to delete, a
restart runs ahead of the watch, and then a late word of the old pod can pass
for the new one. -/
namespace DomainSteward.Successors
open Machine Moves Exchanges Registries Restarts Views Paths Forgetting RollSteps
open Outlooks (Change podAfter pod_after_next pod_after_earlier pod_after_taken law_of_more)

variable {ε : Type}

/-! ## A uid never comes back -/

/-- A pod is the old one. -/
def IsOld (old : Pod) (held : Option Pod) : Prop :=
  ∃ pod, held = some pod ∧ pod.metadata.uid = old.metadata.uid

/-- A change of a pod of the domain. A uid that was there before is that of the pod that is there
now: the server gives no uid twice. -/
structure Lawful (ns uid : String) (history : List Change) (change : Change) : Prop extends
    Outlooks.Proper ns uid history change where
  unique : change.gone = false → ∀ earlier ∈ history, earlier.server = change.server →
    earlier.pod.metadata.uid = change.pod.metadata.uid →
    IsOld change.pod (podAfter history history.length change.server)

variable {c : Conduct} {g : GuestRules ε} {t : Mandate ε} {ns uid server : String} {old pod : Pod}
  {id : PresenceId} {leg leg' : Leg} {v v' : Option View} {m m' : ChainMachine ε} {i : FiberId}
  {move : Move Answer} {h : Happening Answer World} {stopping : Bool} {w : World} {p : Packet}
  {history : List Change} {change : Change} {moment later : Nat}
  {f : Fiber (Step ε) Packet (Pending ε)}

/-- A pod that a server has had was brought by some change. -/
private theorem brought (there : podAfter history moment server = some pod) :
    ∃ change ∈ history.take moment, change.server = server ∧ change.pod = pod := by
  induction moment with
  | zero => simp [podAfter] at there
  | succ moment ih =>
    cases next : history[moment]? with
    | none =>
      have short : history.length ≤ moment := List.getElem?_eq_none_iff.mp next
      have same : history.take (moment + 1) = history.take moment := by
        rw [List.take_of_length_le (by omega), List.take_of_length_le short]
      rw [podAfter, same] at there
      rw [same]
      exact ih there
    | some change =>
      rw [List.take_add_one, next]
      rw [pod_after_next next] at there
      split at there
      · rename_i mine
        unfold Change.leaves at there
        split at there
        · cases there
        · exact ⟨change, by simp, mine, Option.some.inj there⟩
      · obtain ⟨change, among, found⟩ := ih there
        exact ⟨change, List.mem_append_left _ among, found⟩

/-- Once the old pod of a server is gone it never comes back. -/
private theorem never_comes_back (lawful : ∀ moment change, history[moment]? = some change →
      Lawful ns uid (history.take moment) change)
    (order : moment ≤ later) (was : IsOld old (podAfter history moment server))
    (left : ¬ IsOld old (podAfter history later server)) (k : Nat) :
    ¬ IsOld old (podAfter history (later + k) server) := by
  induction k with
  | zero => exact left
  | succ k ih =>
    rintro ⟨pod, here, same⟩
    cases next : history[later + k]? with
    | none =>
      have short : history.length ≤ later + k := List.getElem?_eq_none_iff.mp next
      refine ih ⟨pod, ?_, same⟩
      rw [podAfter, List.take_of_length_le (by omega)] at here
      rw [podAfter, List.take_of_length_le short]
      exact here
    | some change =>
      rw [← Nat.add_assoc, pod_after_next next] at here
      split at here
      · rename_i mine
        subst mine
        cases gone : change.gone with
        | true => simp [Change.leaves, gone] at here
        | false =>
          have brings : change.pod = pod := by simpa [Change.leaves, gone] using here
          subst brings
          -- The uid was there before, so its pod would still be there.
          obtain ⟨before, there, sameUid⟩ := was
          obtain ⟨earlier, among, mine, rfl⟩ := brought there
          have sooner : earlier ∈ history.take (later + k) :=
            (List.take_subset_take_left history (by omega)) among
          obtain ⟨now, stands, uids⟩ := (lawful _ change next).unique gone earlier sooner mine
            (sameUid.trans same.symm)
          rw [pod_after_taken] at stands
          exact ih ⟨now, stands, uids.trans same⟩
      · exact ih ⟨pod, here, same⟩

/-- A pod can always be made with a uid that was never used. -/
theorem lawful_new (made : change.gone = false)
    (identity : change.pod.identity? = some (ns, uid, change.server))
    (unused : history.all (·.pod.metadata.uid ≠ change.pod.metadata.uid) = true) :
    Lawful ns uid history change := by
  refine ⟨⟨identity, fun gone => ?_⟩, fun _ earlier among _ same => ?_⟩
  · cases made.symm.trans gone
  · exact absurd same (of_decide_eq_true (List.all_eq_true.mp unused earlier among))

/-! ## A restart and the watch -/

/-- The exchange that a fiber has to do with next. -/
def exchangeOf? (f : Fiber (Step ε) Packet (Pending ε)) : Option ExchangeId :=
  match f.phase with
  | .running (some (.request _ x)) => some x.id
  | .running (some (.response x)) => some x.id
  | .waiting _ (some (.response x)) => some x.id
  | .sleeping _ (some (.request _ x)) => some x.id
  | _ => none

/-- A fiber is about to take in the answer that there is no pod to delete. -/
def learnsMissing (server : String) (f : Fiber (Step ε) Packet (Pending ε)) : Bool :=
  match f.phase with
  | .running (some (.response x)) =>
    x.id = .deletePod server && f.packet.response?.bind (·.statusCode?) = some codeNotFound
  | _ => false

/-- A restart, and the watch that tells of the pods of its domain. -/
structure Succession (ε : Type) where
  machine : ChainMachine ε
  /-- The changes of pods so far. -/
  history : List Change := []
  /-- How many of them the watch has told. -/
  told : Nat := 0
  /-- Whether the restart was told that there is no pod to delete. -/
  missed : Bool := false
  /-- Whether the restart has turned to the new pod. -/
  turned : Bool := false
  /-- Whether the watch has told of the old pod since. -/
  revived : Bool := false

namespace Succession

/-- The pod that is known of a server. -/
def seen (s : Succession ε) (id : PresenceId) (server : String) : Option Pod :=
  podSeen id server s.machine.world

/-- The watch has told of a change. -/
def tell (s : Succession ε) (server : String) (old : Pod) (change : Change) : Succession ε :=
  { s with
    machine := { s.machine with
      world := { s.machine.world with feed := s.machine.world.feed.receive change.event } }
    told := s.told + 1
    revived := s.revived || (s.turned && decide (change.server = server) && !change.gone &&
      decide (change.pod.metadata.uid = old.metadata.uid)) }

/-- The restart has made a move. -/
def moved (s : Succession ε) (server : String) (i : FiberId) (after : ChainMachine ε) :
    Succession ε :=
  { s with
    machine := after
    missed := s.missed || (s.machine.fiber? i).any (learnsMissing server)
    turned := s.turned ||
      decide ((after.fiber? i).bind exchangeOf? = some (.createPod server)) }

end Succession

/-- No new pod has the uid of the old one. -/
def Fresh (t : Mandate ε) (old : Pod) (i : FiberId) (m : ChainMachine ε) (move : Move Answer) :
    Prop :=
  ∀ p next r pod, m.fiber? i = some ⟨p, .waiting (.call (t.createCall old)) next⟩ →
    move = .answer (.response r) → r.object?.bind Pod.ofObject? = some pod →
    pod.metadata.uid ≠ old.metadata.uid

/-- One thing that happens. -/
inductive Happens (c : Conduct) (g : GuestRules ε) (t : Mandate ε) (ns uid server : String)
    (old : Pod) (i : FiberId) (s : Succession ε) : Succession ε → Prop where
  /-- A pod changes at the server. -/
  | changes (change : Change) (lawful : Lawful ns uid s.history change) :
      Happens c g t ns uid server old i s { s with history := s.history ++ [change] }
  /-- The watch tells of the next change. -/
  | tells (change : Change) (next : s.history[s.told]? = some change)
      (sound : Sound s.machine.world.registry)
      (found : s.machine.world.registry.find? (ns, uid) = some t.id) :
      Happens c g t ns uid server old i s (s.tell server old change)
  /-- The restart makes a move, its calls being answered as the server likes. -/
  | moves (move : Move Answer) (after : ChainMachine ε)
      (proper : Paths.Proper s.machine (.move i move)) (fresh : Fresh t old i s.machine move)
      (moved : s.machine.move? (chainDynamics c g) i move = some after) :
      Happens c g t ns uid server old i s (s.moved server i after)
  /-- Something else happens that leaves the pod of the server as it is. -/
  | others (h : Happening Answer World) (after : ChainMachine ε) (other : ∀ move, h ≠ .move i move)
      (happened : happen? (chainDynamics c g) s.machine h = some after)
      (same : podSeen t.id server after.world = s.seen t.id server) :
      Happens c g t ns uid server old i s { s with machine := after }

/-- A restart that is about to begin. -/
structure Begins (t : Mandate ε) (ns uid server : String) (old : Pod) (i : FiberId)
    (s : Succession ε) : Prop where
  had : t.presence.pod? server = some old
  fiber : ∃ p phase chain,
    restartServer? t.sink t.presence server t.version none = some chain ∧
      s.machine.fiber? i = some ⟨p, phase⟩ ∧ p.presence = some t.id ∧
      (phase = .created chain ∨ phase = .running (some chain))
  told : s.told ≤ s.history.length
  lawful : ∀ moment change, s.history[moment]? = some change →
    Lawful ns uid (s.history.take moment) change
  missed : s.missed = false
  turned : s.turned = false
  revived : s.revived = false

/-- What is known of the server is what the watch has told, and it has told of the old pod. -/
structure Follows (t : Mandate ε) (server : String) (old : Pod) (s : Succession ε) : Prop where
  seen : s.seen t.id server = podAfter s.history s.told server
  old : ∃ moment ≤ s.told, IsOld old (podAfter s.history moment server)

/-- What a restart that began in some state has come to. -/
structure Succeeds (t : Mandate ε) (server : String) (old : Pod) (start s : Succession ε)
    (now : Presence) : Prop where
  ready : now.isServerReady server = true
  unmarked : now.isMarked server = false
  /-- The server has another pod, unless the watch has told of the old one late. -/
  another : ∀ pod, now.pod? server = some pod →
    pod.metadata.uid ≠ old.metadata.uid ∨ s.revived = true
  /-- That can only be when the restart was told that there is no pod to delete. -/
  late : Follows t server old start → s.revived = true → s.missed = true

variable {s s' start : Succession ε}

/-! ## What is known -/

theorem pod_registered (found : w.registry.find? (ns, uid) = some id) :
    heldPod w.registry ns uid server = podSeen id server w := by
  rw [heldPod, Registry.lookup?, found, Option.bind_some]
  rfl

private theorem seen_told (server' : String) (sound : Sound s.machine.world.registry)
    (found : s.machine.world.registry.find? (ns, uid) = some id)
    (identity : change.pod.identity? = some (ns, uid, change.server)) :
    (s.tell server' old change).seen id server =
      if change.server = server then
        if change.gone then
          (s.seen id server).filter (fun pod => pod.metadata.uid ≠ change.pod.metadata.uid)
        else some change.pod
      else s.seen id server := by
  have finds : (s.tell server' old change).machine.world.registry.find? (ns, uid) = some id := by
    simp only [Succession.tell, Change.event]
    split
    · exact deleted_finds found
    · exact applied_finds found
  rw [Succession.seen, Succession.seen, ← pod_registered finds, ← pod_registered found]
  exact Outlooks.held_told (s := { world := s.machine.world }) sound identity server

/-! ## Where a restart stands -/

/-- The restart has turned to the new pod. -/
inductive Turned : Leg → Prop where
  | creating : Turned .creating
  | created (r : Response) : Turned (.created r)
  | starting : Turned .starting

private theorem creating_exchange (stands : On t server old leg f)
    (creates : leg = .creating ∨ ∃ r, leg = .created r) :
    exchangeOf? f = some (.createPod server) := by
  cases stands with
  | creating p phase asks => cases asks <;> rfl
  | created p r told => rfl
  | _ => simp at creates

private theorem exchange_creating (stands : On t server old leg f)
    (exchange : exchangeOf? f = some (.createPod server)) : Turned leg := by
  cases stands with
  | creating => exact .creating
  | created p r => exact .created r
  | fresh p phase next => rcases next with rfl | rfl <;> cases exchange
  | deleting p phase asks => cases asks <;> cases exchange
  | removing p phase looks => cases looks <;> cases exchange
  | starting p phase looks => cases looks <;> cases exchange
  | _ => cases exchange

private theorem told_learns {failure : CallFailure}
    (stands : On t server old (.deleted (.failure failure)) f)
    (status : failure.statusCode = some codeNotFound) : learnsMissing server f = true := by
  cases stands with
  | deleted p r told =>
    have answered : p.response?.bind (·.statusCode?) = some codeNotFound := by
      rw [told]
      exact status
    simp [learnsMissing, sent, Mandate.deletion, answered]

private theorem answered_creating (stands : On t server old .creating f) {r : Response}
    (found : m.fiber? i = some f)
    (moved : m.move? (chainDynamics c g) i (.answer (.response r)) = some m') :
    ∃ p next, m.fiber? i = some ⟨p, .waiting (.call (t.createCall old)) next⟩ := by
  obtain ⟨_, found', shape⟩ := move_iff_moved.mp moved
  cases found.symm.trans found'
  cases stands with
  | creating p phase asks =>
    cases asks with
    | waits => exact ⟨p, _, found⟩
    | _ => cases shape

/-! ## What is kept -/

/-- The old pod of the server has been there and has gone, as far as the watch has told. -/
def Over (server : String) (old : Pod) (s : Succession ε) : Prop :=
  ∃ moment later, moment ≤ later ∧ later ≤ s.told ∧
    IsOld old (podAfter s.history moment server) ∧ ¬ IsOld old (podAfter s.history later server)

/-- Where a restart stands and what is known meanwhile. If `follows` holds, it began by what the
watch had told. -/
structure Stands (t : Mandate ε) (ns uid server : String) (old : Pod) (i : FiberId)
    (follows : Prop) (leg : Leg) (s : Succession ε) : Prop where
  restarting : Restarting t server old i leg s.machine
  told : s.told ≤ s.history.length
  lawful : ∀ moment change, s.history[moment]? = some change →
    Lawful ns uid (s.history.take moment) change
  turned : Turned leg → s.turned = true
  answered : ∀ r pod, leg = .created r → r.object?.bind Pod.ofObject? = some pod →
    pod.metadata.uid ≠ old.metadata.uid
  /-- Who has turned to the new pod does not know of the old one, unless that was told late. -/
  another : Turned leg → IsOld old (s.seen t.id server) → s.revived = true
  /-- Before, what is known is what the watch has told. -/
  sees : follows → s.missed = false → s.turned = false → Follows t server old s
  finished : follows → s.missed = false → s.turned = true → Over server old s
  unrevived : follows → s.missed = false → s.revived = false

variable {follows : Prop}

private theorem changes_kept (stands : Stands t ns uid server old i follows leg s)
    (lawful : Lawful ns uid s.history change) :
    Stands t ns uid server old i follows leg { s with history := s.history ++ [change] } where
  restarting := stands.restarting
  told := by
    rw [List.length_append]
    exact Nat.le_add_right_of_le stands.told
  lawful := law_of_more stands.lawful lawful
  turned := stands.turned
  answered := stands.answered
  another := stands.another
  sees holds missed turned := by
    obtain ⟨seen, moment, early, was⟩ := stands.sees holds missed turned
    refine ⟨seen.trans (pod_after_earlier stands.told).symm, moment, early, ?_⟩
    rwa [pod_after_earlier (Nat.le_trans early stands.told)]
  finished holds missed turned := by
    obtain ⟨moment, later, order, early, was, left⟩ := stands.finished holds missed turned
    have within : later ≤ s.history.length := Nat.le_trans early stands.told
    refine ⟨moment, later, order, early, ?_, ?_⟩
    · rwa [pod_after_earlier (Nat.le_trans order within)]
    · rwa [pod_after_earlier within]
  unrevived := stands.unrevived

/-- A pod that was told is the old one only if it was told late. -/
private theorem told_another (stands : Stands t ns uid server old i follows leg s)
    (next : s.history[s.told]? = some change) (sound : Sound s.machine.world.registry)
    (found : s.machine.world.registry.find? (ns, uid) = some t.id) (turned : Turned leg)
    (isOld : IsOld old ((s.tell server old change).seen t.id server)) :
    (s.tell server old change).revived = true := by
  have before (isOld : IsOld old (s.seen t.id server)) :
      (s.tell server old change).revived = true := by
    simp [Succession.tell, stands.another turned isOld]
  obtain ⟨pod, here, same⟩ := isOld
  rw [seen_told server sound found (stands.lawful _ change next).identity] at here
  split at here
  · rename_i mine
    cases gone : change.gone with
    | true =>
      rw [gone, if_pos rfl] at here
      exact before ⟨pod, (Option.filter_eq_some_iff.mp here).1, same⟩
    | false =>
      simp only [gone, Bool.false_eq_true, ↓reduceIte, Option.some.injEq] at here
      subst here
      simp [Succession.tell, stands.turned turned, mine, gone, same]
  · exact before ⟨pod, here, same⟩

/-- What is known keeps to what the watch tells. -/
private theorem told_follows (stands : Stands t ns uid server old i follows leg s)
    (next : s.history[s.told]? = some change) (sound : Sound s.machine.world.registry)
    (found : s.machine.world.registry.find? (ns, uid) = some t.id)
    (sees : Follows t server old s) :
    (s.tell server old change).seen t.id server = podAfter s.history (s.told + 1) server := by
  obtain ⟨identity, was⟩ := (stands.lawful _ change next).toProper
  rw [seen_told server sound found identity, pod_after_next next, sees.seen]
  split
  · rename_i mine
    subst mine
    cases gone : change.gone with
    | true =>
      obtain ⟨before, there, same⟩ := was gone
      rw [pod_after_taken] at there
      simp [there, same, Change.leaves, gone]
    | false => simp [Change.leaves, gone]
  · rfl

private theorem tells_kept (stands : Stands t ns uid server old i follows leg s)
    (next : s.history[s.told]? = some change) (sound : Sound s.machine.world.registry)
    (found : s.machine.world.registry.find? (ns, uid) = some t.id) :
    Stands t ns uid server old i follows leg (s.tell server old change) where
  restarting := stands.restarting
  told := (List.getElem?_eq_some_iff.mp next).1
  lawful := stands.lawful
  turned := stands.turned
  answered := stands.answered
  another := told_another stands next sound found
  sees holds missed turned := by
    have sees := stands.sees holds missed turned
    obtain ⟨moment, early, was⟩ := sees.old
    exact ⟨told_follows stands next sound found sees, moment, Nat.le_succ_of_le early, was⟩
  finished holds missed turned := by
    obtain ⟨moment, later, order, early, was, left⟩ := stands.finished holds missed turned
    exact ⟨moment, later, order, Nat.le_succ_of_le early, was, left⟩
  unrevived holds missed := by
    have sofar := stands.unrevived holds missed
    by_cases turned : s.turned = true
    · -- The watch cannot tell of the old pod once it has told that it is gone.
      obtain ⟨moment, later, order, early, was, left⟩ := stands.finished holds missed turned
      have never := never_comes_back stands.lawful order was left (s.told + 1 - later)
      rw [Nat.add_sub_cancel' (Nat.le_succ_of_le early), pod_after_next next] at never
      by_cases mine : change.server = server
      · rw [if_pos mine] at never
        cases gone : change.gone with
        | true => simp [Succession.tell, sofar, gone]
        | false =>
          have differs : change.pod.metadata.uid ≠ old.metadata.uid := fun same =>
            never ⟨change.pod, by simp [Change.leaves, gone], same⟩
          simp [Succession.tell, sofar, differs]
      · simp [Succession.tell, sofar, mine]
    · simp [Succession.tell, sofar, turned]

private theorem others_kept (stands : Stands t ns uid server old i follows leg s)
    (other : ∀ move, h ≠ .move i move)
    (happened : happen? (chainDynamics c g) s.machine h = some m)
    (same : podSeen t.id server m.world = s.seen t.id server) :
    Stands t ns uid server old i follows leg { s with machine := m } where
  restarting := restart_stays stands.restarting happened other
  told := stands.told
  lawful := stands.lawful
  turned := stands.turned
  answered := stands.answered
  another turned isOld := stands.another turned (by
    rw [← same]
    exact isOld)
  sees holds missed turned := by
    have sees := stands.sees holds missed turned
    exact ⟨same.trans sees.seen, sees.old⟩
  finished := stands.finished
  unrevived := stands.unrevived

/-! ## The moves of a restart -/

/-- What is seen of a server by a move that turns to no new pod and misses none. -/
private theorem plain_moves_keep (advances : Advances server old stopping leg v move leg' v')
    (before : ¬ Turned leg) (after : ¬ Turned leg')
    (misses : ∀ f, leg = .deleted (.failure f) → f.statusCode ≠ some codeNotFound) :
    v'.bind (·.servers.get? server) = v.bind (·.servers.get? server) := by
  cases advances with
  | misses _ f status => exact absurd status (misses f rfl)
  | keeps => cases v <;> rfl
  | gone => exact absurd .creating after
  | made _ _ r => exact absurd (.created r) before
  | _ => rfl

/-- Who turns to the new pod now has just seen the old one gone. -/
private theorem turns_when_gone (advances : Advances server old stopping leg v move leg' v')
    (before : ¬ Turned leg) (after : Turned leg') :
    ¬ IsOld old (v.bind (·.servers.get? server)) ∧
      v'.bind (·.servers.get? server) = v.bind (·.servers.get? server) := by
  cases advances with
  | stays => exact absurd after before
  | makes => exact absurd .creating before
  | gone v gone =>
    refine ⟨?_, rfl⟩
    rintro ⟨pod, here, same⟩
    exact gone pod here same
  | made _ _ r => exact absurd (.created r) before
  | taken _ f => exact absurd (.created _) before
  | makesAgain _ f => exact absurd (.created _) before
  | _ => cases after

/-- Who has turned to the new pod makes nobody the old one again. -/
private theorem turned_moves_another (advances : Advances server old stopping leg v move leg' v')
    (before : Turned leg) (after : Turned leg')
    (answered : ∀ r pod, leg = .created r → r.object?.bind Pod.ofObject? = some pod →
      pod.metadata.uid ≠ old.metadata.uid)
    (isOld : IsOld old (v'.bind (·.servers.get? server))) :
    IsOld old (v.bind (·.servers.get? server)) := by
  cases advances with
  | gone => cases before
  | made _ _ r success offers =>
    rcases offers with rfl | ⟨offer, brings, rfl⟩
    · exact isOld
    · cases v with
      | none => exact isOld
      | some v =>
        obtain ⟨pod, here, same⟩ := isOld
        by_cases nobody : (v.servers.get? server).isNone = true
        · simp only [Option.map_some, Option.bind_some, View.offered, nobody, ↓reduceIte,
            NameMap.get?_insert, Option.some.injEq] at here
          subst here
          exact absurd same (answered r _ rfl brings)
        · simp only [Option.map_some, Option.bind_some, View.offered, nobody,
            Bool.false_eq_true, ↓reduceIte] at here
          exact ⟨pod, here, same⟩
  | stays | makes | taken | makesAgain => exact isOld
  | _ => cases after

/-- A move of the restart from one leg to the next, with its fiber before and after. -/
private structure Onward (t : Mandate ε) (server : String) (old : Pod) (i : FiberId)
    (s : Succession ε) (leg : Leg) (f : Fiber (Step ε) Packet (Pending ε)) (move : Move Answer)
    (m : ChainMachine ε) (leg' : Leg) (f' : Fiber (Step ε) Packet (Pending ε)) : Prop where
  found : s.machine.fiber? i = some f
  on : On t server old leg f
  found' : m.fiber? i = some f'
  on' : On t server old leg' f'
  advances : Advances server old s.machine.world.isStopping leg (view? t.id s.machine.world) move
    leg' (view? t.id m.world)

section

variable {f' : Fiber (Step ε) Packet (Pending ε)}

private theorem turn_recorded (stands : Stands t ns uid server old i follows leg s)
    (onward : Onward t server old i s leg f move m leg' f') (turns : Turned leg') :
    (s.moved server i m).turned = true := by
  obtain ⟨_, _, found', on', advances⟩ := onward
  by_cases creates : exchangeOf? f' = some (.createPod server)
  · simp [Succession.moved, found', creates]
  · have before : Turned leg := by
      cases turns with
      | creating => exact absurd (creating_exchange on' (.inl rfl)) creates
      | created r => exact absurd (creating_exchange on' (.inr ⟨r, rfl⟩)) creates
      | starting =>
        generalize view? t.id s.machine.world = v at advances
        generalize view? t.id m.world = v' at advances
        cases advances with
        | stays => exact .starting
        | made _ _ r => exact .created r
        | taken => exact .created _
    simp [Succession.moved, stands.turned before]

/-- Nobody has turned to the new pod but who stands so, and nobody has missed the old one but who
was told. -/
private theorem not_turned_yet (stands : Stands t ns uid server old i follows leg s)
    (onward : Onward t server old i s leg f move m leg' f')
    (missed : (s.moved server i m).missed = false) (before : s.turned = false) :
    ¬ Turned leg ∧ ∀ failure, leg = .deleted (.failure failure) →
      failure.statusCode ≠ some codeNotFound := by
  refine ⟨fun turns => ?_, ?_⟩
  · rw [stands.turned turns] at before
    cases before
  · rintro failure rfl status
    simp [Succession.moved, onward.found, told_learns onward.on status] at missed

private theorem answer_is_new (onward : Onward t server old i s leg f move m leg' f')
    (stands : Stands t ns uid server old i follows leg s) (fresh : Fresh t old i s.machine move)
    (moved : s.machine.move? (chainDynamics c g) i move = some m) {r : Response}
    (created : leg' = .created r) (brings : r.object?.bind Pod.ofObject? = some pod) :
    pod.metadata.uid ≠ old.metadata.uid := by
  obtain ⟨found, on, _, _, advances⟩ := onward
  subst created
  generalize view? t.id s.machine.world = v at advances
  generalize view? t.id m.world = v' at advances
  cases advances with
  | stays _ unanswered => exact absurd rfl (unanswered r).2
  | makes =>
    obtain ⟨q, next, waits⟩ := answered_creating on found moved
    exact fresh q next r pod waits rfl brings

/-- Who has turned to the new pod sees the old one only if it was seen before. -/
private theorem turned_sees_another (stands : Stands t ns uid server old i follows leg s)
    (onward : Onward t server old i s leg f move m leg' f') (turns : Turned leg')
    (isOld : IsOld old (podSeen t.id server m.world)) : s.revived = true := by
  rw [pod_of_view] at isOld
  by_cases before : Turned leg
  · refine stands.another before ?_
    rw [Succession.seen, pod_of_view]
    exact turned_moves_another onward.advances before turns stands.answered isOld
  · obtain ⟨gone, same⟩ := turns_when_gone onward.advances before turns
    rw [same] at isOld
    exact absurd isOld gone

private theorem unturned_sees_the_same (stands : Stands t ns uid server old i follows leg s)
    (onward : Onward t server old i s leg f move m leg' f')
    (missed : (s.moved server i m).missed = false) (turned : (s.moved server i m).turned = false) :
    podSeen t.id server m.world = s.seen t.id server := by
  obtain ⟨unturned, misses⟩ :=
    not_turned_yet stands onward missed (Bool.or_eq_false_iff.mp turned).1
  have still : ¬ Turned leg' := fun turns => by
    rw [turn_recorded stands onward turns] at turned
    cases turned
  rw [Succession.seen, pod_of_view, pod_of_view]
  exact plain_moves_keep onward.advances unturned still misses

/-- Who turns to the new pod by what the watch has told was told that the old one is gone. -/
private theorem turn_is_over (stands : Stands t ns uid server old i follows leg s)
    (onward : Onward t server old i s leg f move m leg' f') (holds : follows)
    (missed : (s.moved server i m).missed = false) (turned : (s.moved server i m).turned = true) :
    Over server old s := by
  have sofar : s.missed = false := (Bool.or_eq_false_iff.mp missed).1
  by_cases before : s.turned = true
  · exact stands.finished holds sofar before
  · have before : s.turned = false := by simpa using before
    have creates : exchangeOf? f' = some (.createPod server) := by
      simpa [Succession.moved, before, onward.found'] using turned
    obtain ⟨unturned, _⟩ := not_turned_yet stands onward missed before
    obtain ⟨seen, moment, early, was⟩ := stands.sees holds sofar before
    refine ⟨moment, s.told, early, Nat.le_refl _, was, ?_⟩
    rw [← seen, Succession.seen, pod_of_view]
    exact (turns_when_gone onward.advances unturned (exchange_creating onward.on' creates)).1

end

private theorem moves_kept (stands : Stands t ns uid server old i follows leg s)
    (proper : Paths.Proper s.machine (.move i move)) (fresh : Fresh t old i s.machine move)
    (moved : s.machine.move? (chainDynamics c g) i move = some m) :
    ∃ leg', Stands t ns uid server old i follows leg' (s.moved server i m) := by
  obtain ⟨f, found, works, on⟩ := stands.restarting
  obtain ⟨leg', goes⟩ := path_moves found works on proper moved
  obtain ⟨f', found', works', on'⟩ := goes.stands
  have onward : Onward t server old i s leg f move m leg' f' :=
    ⟨found, on, found', on', goes.advances⟩
  have sofar (missed : (s.moved server i m).missed = false) : s.missed = false :=
    (Bool.or_eq_false_iff.mp missed).1
  have another (turns : Turned leg') (isOld : IsOld old (podSeen t.id server m.world)) :
      s.revived = true := turned_sees_another stands onward turns isOld
  exact ⟨leg', {
    restarting := ⟨f', found', works', on'⟩
    told := stands.told
    lawful := stands.lawful
    turned := turn_recorded stands onward
    answered := fun r pod created brings =>
      answer_is_new onward stands fresh moved created brings
    another
    sees := fun holds missed turned => by
      have sees := stands.sees holds (sofar missed) (Bool.or_eq_false_iff.mp turned).1
      exact ⟨(unturned_sees_the_same stands onward missed turned).trans sees.seen, sees.old⟩
    finished := turn_is_over stands onward
    unrevived := fun holds missed => stands.unrevived holds (sofar missed) }⟩

/-- Whatever happens, all this stays so. -/
theorem happens_kept (stands : Stands t ns uid server old i follows leg s)
    (happens : Happens c g t ns uid server old i s s') :
    ∃ leg', Stands t ns uid server old i follows leg' s' := by
  cases happens with
  | changes change lawful => exact ⟨leg, changes_kept stands lawful⟩
  | tells change next sound found => exact ⟨leg, tells_kept stands next sound found⟩
  | moves move after proper fresh moved => exact moves_kept stands proper fresh moved
  | others h after other happened same => exact ⟨leg, others_kept stands other happened same⟩

private theorem stands_begins (begins : Begins t ns uid server old i start) :
    Stands t ns uid server old i (Follows t server old start) .fresh start := by
  obtain ⟨p, phase, chain, built, found, works, fresh⟩ := begins.fiber
  rw [restart_server, begins.had, Option.map_some] at built
  cases built
  exact {
    restarting := ⟨_, found, works, .fresh p phase fresh⟩
    told := begins.told
    lawful := begins.lawful
    turned := fun turned => nomatch turned
    answered := fun _ _ created => nomatch created
    another := fun turned => nomatch turned
    sees := fun holds _ _ => holds
    finished := fun _ _ turned => absurd (turned.symm.trans begins.turned) (by decide)
    unrevived := fun _ _ => begins.revived }

private theorem stands_reached (begins : Begins t ns uid server old i start)
    (ran : Relation.ReflTransGen (Happens c g t ns uid server old i) start s) :
    ∃ leg, Stands t ns uid server old i (Follows t server old start) leg s := by
  induction ran with
  | refl => exact ⟨.fresh, stands_begins begins⟩
  | tail _ happens ih =>
    obtain ⟨leg, stands⟩ := ih
    exact happens_kept stands happens

/-! ## Success -/

/-- A restart that ends well has just seen its server Ready. -/
private theorem success_sees_ready (found : m.fiber? i = some f)
    (works : f.packet.presence = some id) (stands : On t server old leg f)
    (moved : m.move? (chainDynamics c g) i move = some m')
    (ended : m'.fiber? i = some ⟨p, .ended none⟩) (starting : leg = .starting) :
    ∃ now, m.world.presence? id = some now ∧ m'.world.presence? id = some now ∧
      now.isServerReady server = true := by
  subst starting
  cases stands with
  | starting q phase looks =>
    cases looks with
    | pauses wait =>
      obtain ⟨_, found', shape⟩ := move_iff_moved.mp moved
      cases found.symm.trans found'
      cases shape with
      | wake => cases (replace_fiber found).symm.trans ended
    | now =>
      have outcome {action : StepAction ε} (childless : born action = [])
          (applies : (chainDynamics c g).apply (.waitReady server none) q m.world =
            .of action q m.world) :
          phaseAfter m.fibers.length action = .ended none ∧
            m'.world = worldAfter (chainDynamics c g) m.world action := by
        obtain ⟨here, world, _⟩ := step_alone found moved applies childless
        injection here.symm.trans ended with same
        injection same with _ phase
        exact ⟨phase, world⟩
      cases known : m.world.presence? id with
      | none =>
        have missing : m.world.presenceOf? q = none := by
          rw [World.presenceOf?, works, Option.bind_some, known]
        cases (outcome rfl (with_presence_missing missing _)).1
      | some now =>
        have applies := with_presence_found works known (fun _ presence =>
          if presence.isServerReady server then .of (.goOn (none : Option (Step ε))) q m.world
          else if m.world.isStopping then .of (.terminate .cancelled) q m.world
          else .of (.delay c.pollDelay (some (.waitReady server none))) q m.world)
        by_cases ready : now.isServerReady server = true
        · obtain ⟨_, world⟩ := outcome rfl (applies.trans (if_pos ready))
          refine ⟨now, rfl, ?_, ready⟩
          rw [world]
          exact (Worlds.presence_count _ _).trans known
        · by_cases stops : m.world.isStopping = true
          · cases (outcome rfl (applies.trans ((if_neg ready).trans (if_pos stops)))).1
          · cases (outcome rfl (applies.trans ((if_neg ready).trans (if_neg stops)))).1

/-- Only who waits until the server is Ready can end well. -/
private theorem ends_well_from_starting (found : m.fiber? i = some f)
    (stands : On t server old leg f) (moved : m.move? (chainDynamics c g) i move = some m')
    (advances : Advances server old stopping leg v move (.finished none) v') : leg = .starting := by
  generalize arrived : Leg.finished none = leg' at advances
  cases advances with
  | stays =>
    subst arrived
    obtain ⟨_, found', shape⟩ := move_iff_moved.mp moved
    cases found.symm.trans found'
    cases stands
    cases shape
  | done => rfl
  | _ => cases arrived

private theorem ready_unmarked {now : Presence} (ready : now.isServerReady server = true) :
    now.isMarked server = false := by
  obtain ⟨pod, _, isReady⟩ := Option.any_eq_true _ _ |>.mp ready
  simp only [Presence.isReadyWith, Bool.and_eq_true, Bool.not_eq_true'] at isReady
  exact isReady.1.2

/-- When a restart ends well, its server is Ready and not marked, and has another pod than the old
one, unless the watch has told of the old pod after the restart had turned to the new one. If the
restart began by what the watch had told, that happens only when it was told that there is no pod
to delete. -/
theorem succeeds_on_new_pod_unless_told_late (begins : Begins t ns uid server old i start)
    (ran : Relation.ReflTransGen (Happens c g t ns uid server old i) start s)
    (proper : Paths.Proper s.machine (.move i move))
    (moved : s.machine.move? (chainDynamics c g) i move = some m)
    (ended : m.fiber? i = some ⟨p, .ended none⟩) :
    ∃ now, m.world.presence? t.id = some now ∧ Succeeds t server old start s now := by
  obtain ⟨leg, stands⟩ := stands_reached begins ran
  obtain ⟨f, found, works, on⟩ := stands.restarting
  obtain ⟨leg', goes⟩ := path_moves found works on proper moved
  obtain ⟨f', found', _, on'⟩ := goes.stands
  cases found'.symm.trans ended
  have finished := ended_finished on'
  subst finished
  have starting := ends_well_from_starting found on moved goes.advances
  obtain ⟨now, known, known', ready⟩ := success_sees_ready found works on moved ended starting
  refine ⟨now, known', ready, ready_unmarked ready, fun pod held => ?_, fun holds revived => ?_⟩
  · by_cases same : pod.metadata.uid = old.metadata.uid
    · refine .inr (stands.another (starting ▸ .starting) ⟨pod, ?_, same⟩)
      rw [Succession.seen, podSeen, known]
      exact held
    · exact .inl same
  · cases missed : s.missed with
    | true => rfl
    | false => exact absurd (revived.symm.trans (stands.unrevived holds missed)) (by decide)

/-! ## A restart whose pod is deleted -/

/-- A pod that reports Ready. -/
def readied (pod : Pod) : Pod :=
  { pod with status := some { conditions := some [{ type := "Ready", status := "True" }] } }

/-- The watch has told that the old pod was made. -/
def renewal₀ : Succession Empty :=
  { machine := renewing, history := [⟨"ms1", oldPod, false⟩], told := 1 }

/-- One thing that happens to the restart. -/
abbrev Goes₁ : Succession Empty → Succession Empty → Prop :=
  Happens {} .nobody renewal "ns" "domain1" "ms1" oldPod 0

theorem renewal_begins : Begins renewal "ns" "domain1" "ms1" oldPod 0 renewal₀ where
  had := rfl
  fiber := ⟨_, _, _, rfl, rfl, rfl, .inl rfl⟩
  told := Nat.le_refl _
  lawful := law_of_more (fun earlier _ (none : ([] : List Change)[earlier]? = _) => nomatch none)
    ⟨⟨rfl, nofun⟩, by simp⟩
  missed := rfl
  turned := rfl
  revived := rfl

theorem renewal_follows : Follows renewal "ms1" oldPod renewal₀ :=
  ⟨rfl, 1, Nat.le_refl _, oldPod, rfl, rfl⟩

private theorem runs {s : Succession Empty} {after : ChainMachine Empty}
    (moved : s.machine.move? (chainDynamics {} .nobody) 0 .run = some after) :
    Goes₁ s (s.moved "ms1" 0 after) :=
  .moves .run after (proper_of_run 0) (fun _ _ _ _ _ same => nomatch same) moved

private theorem answered {s : Succession Empty} {after : ChainMachine Empty} (r : Response)
    (fresh : ∀ pod, r.object?.bind Pod.ofObject? = some pod →
      pod.metadata.uid ≠ oldPod.metadata.uid)
    (moved : s.machine.move? (chainDynamics {} .nobody) 0 (.answer (.response r)) = some after) :
    Goes₁ s (s.moved "ms1" 0 after) := by
  refine .moves _ after (proper_of_response 0 r) (fun _ _ _ pod _ same brings => ?_) moved
  cases same
  exact fresh pod brings

private theorem brings_nothing {r : Response} (empty : r.object? = none) (pod : Pod)
    (brings : r.object?.bind Pod.ofObject? = some pod) :
    pod.metadata.uid ≠ oldPod.metadata.uid := by
  rw [empty] at brings
  cases brings

/-- The answer of a server that refuses a call. -/
def refused (status : UInt16) : Response :=
  .failure { (default : CallFailure) with statusCode := some status }

/-- The old pod is deleted, which the watch tells before the restart makes the new one; somebody else
was faster, and the new pod becomes Ready. -/
private theorem renewal_runs : ∃ s : Succession Empty,
    Relation.ReflTransGen Goes₁ renewal₀ s ∧ s.seen 0 "ms1" = some (readied newPod) ∧
      s.revived = false ∧ ∃ m, s.machine.move? (chainDynamics {} .nobody) 0 .run = some m ∧
        ∃ p, m.fiber? 0 = some ⟨p, .ended none⟩ := by
  refine ⟨?s, ?runs, ?_⟩
  case runs =>
    -- The old pod is deleted.
    refine .head (runs rfl) ?_
    refine .head (runs rfl) ?_
    refine .head (runs rfl) ?_
    refine .head (answered (.status default) (brings_nothing rfl) rfl) ?_
    refine .head (runs rfl) ?_
    refine .head (.changes ⟨"ms1", oldPod, true⟩ ⟨⟨rfl, fun _ => ⟨oldPod, rfl, rfl⟩⟩, nofun⟩) ?_
    refine .head (.tells ⟨"ms1", oldPod, true⟩ rfl ⟨by decide, by decide, by decide⟩ rfl) ?_
    -- The new pod is there already, and is Ready.
    refine .head (runs rfl) ?_
    refine .head (runs rfl) ?_
    refine .head (answered (refused codeConflict) (brings_nothing rfl) rfl) ?_
    refine .head (runs rfl) ?_
    refine .head (.changes ⟨"ms1", readied newPod, false⟩ (lawful_new rfl rfl rfl)) ?_
    refine .head (.tells ⟨"ms1", readied newPod, false⟩ rfl ⟨by decide, by decide, by decide⟩ rfl) ?_
    exact .refl
  exact ⟨rfl, rfl, _, rfl, _, rfl⟩

theorem renewal_succeeds : ∃ s m now,
    Begins renewal "ns" "domain1" "ms1" oldPod 0 renewal₀ ∧ Relation.ReflTransGen Goes₁ renewal₀ s ∧
      s.machine.move? (chainDynamics {} .nobody) 0 .run = some m ∧
      (∃ p, m.fiber? 0 = some ⟨p, .ended none⟩) ∧ s.revived = false ∧
      m.world.presence? 0 = some now ∧ Succeeds renewal "ms1" oldPod renewal₀ s now := by
  obtain ⟨s, ran, _, unrevived, m, moved, p, ended⟩ := renewal_runs
  obtain ⟨now, known, succeeds⟩ := succeeds_on_new_pod_unless_told_late renewal_begins ran
    (proper_of_run 0) moved ended
  exact ⟨s, m, now, renewal_begins, ran, moved, ⟨p, ended⟩, unrevived, known, succeeds⟩

/-! ## A restart that takes the old pod for the new one -/

/-- The old pod became Ready and was deleted before the restart called for that, and the watch is
late: when the restart has turned to the new pod, it is told that the old one is Ready. So it ends
well, and the new pod, that the server has by then, is not Ready. -/
theorem restart_succeeds_on_old_pod : ∃ s : Succession Empty,
    Begins renewal "ns" "domain1" "ms1" oldPod 0 renewal₀ ∧
      Follows renewal "ms1" oldPod renewal₀ ∧ Relation.ReflTransGen Goes₁ renewal₀ s ∧
      podAfter s.history s.history.length "ms1" = some newPod ∧
      ∃ m, s.machine.move? (chainDynamics {} .nobody) 0 .run = some m ∧
        (∃ p, m.fiber? 0 = some ⟨p, .ended none⟩) ∧
        podSeen 0 "ms1" m.world = some (readied oldPod) := by
  refine ⟨?s, renewal_begins, renewal_follows, ?runs, ?ends⟩
  case runs =>
    refine .head (runs rfl) ?_
    refine .head (runs rfl) ?_
    refine .head (runs rfl) ?_
    -- The old pod becomes Ready and is deleted by somebody else, and the watch tells of neither yet.
    refine .head (.changes ⟨"ms1", readied oldPod, false⟩
      ⟨⟨rfl, nofun⟩, fun _ _ _ _ _ => ⟨oldPod, rfl, rfl⟩⟩) ?_
    refine .head (.changes ⟨"ms1", oldPod, true⟩
      ⟨⟨rfl, fun _ => ⟨readied oldPod, rfl, rfl⟩⟩, nofun⟩) ?_
    refine .head (answered (refused codeNotFound) (brings_nothing rfl) rfl) ?_
    refine .head (runs rfl) ?_
    refine .head (runs rfl) ?_
    refine .head (runs rfl) ?_
    -- While the new pod is made, the watch tells that the old one became Ready.
    refine .head (.changes ⟨"ms1", newPod, false⟩ (lawful_new rfl rfl rfl)) ?_
    refine .head (.tells ⟨"ms1", readied oldPod, false⟩ rfl ⟨by decide, by decide, by decide⟩ rfl) ?_
    refine .head (answered (.object { metadata := newPod.metadata } 201) ?_ rfl) ?_
    · rintro pod ⟨⟩
      decide
    refine .head (runs rfl) ?_
    exact .refl
  case ends => exact ⟨rfl, _, rfl, ⟨_, rfl⟩, rfl⟩

end DomainSteward.Successors
