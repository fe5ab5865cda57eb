import DomainSteward.Proofs.Fiber.Forks
import DomainSteward.Proofs.Site.Convergence
import DomainSteward.Proofs.Site.Stock

/-! Servers after a reconcile that failed. A reconcile is followed from its list
of the pods through its roll to its status; what becomes of the pods is said in
every place that it can have reached. A later reconcile finds what the pods
still show, so it brings every server up to date that has a pod. The definition
of a pod that was taken down and not made anew is not kept anywhere: a server
whose making has failed is not found again. -/
namespace DomainSteward.Recovery
open Machine Moves RollSteps WaveLoop Ledger Anatomy Lots Restarts Exchanges Views Calm Paths
  Journeys Blame Errands Depots Stocks Sites
open Convergence (loneOld)

variable {ε : Type} {c : Conduct} {g : GuestRules ε} {watched : Prop} {t : Mandate ε} {r : Roll ε}
  {s s' : Depot ε} {ready : NameSet} {move : Move Answer} {m after : ChainMachine ε} {i : FiberId}
  {server : String} {k : Terms} {q : Request} {p : Packet} {next : Option (Step ε)}

/-! ## After the roll -/

/-- The roll is over or there was none, and the status is being written. -/
structure Late (k : Terms) (s : Depot ε) : Prop where
  writes : ∃ f, s.machine.fiber? 0 = some f ∧ Writes f.phase
  finished : ∀ i f, 0 < i → s.machine.fiber? i = some f → f.isDone
  left : ∀ server, k.had server →
    Has k.owner s.pods server ∨ LastMakingFailed k.owner s.log server
  settled : k.watched → Spoiled s.log s.machine ∨
    ∀ server, k.had server → Current k.owner k.version s.pods server

/-- After a roll that is closed there is only the status to be written. -/
private theorem late_of_closed (rolling : Rolling k t ready r s) (closed : r.progress = .closed)
    (hands : ∃ p, s.machine.fiber? 0 = some ⟨p, standsAt t.next⟩) : Late k s := by
  have opened := rolling.travels.opened
  have succeeded : ∀ chain ∈ r.chains, Succeeded r.machine chain.id := fun chain among =>
    closed_succeeded opened closed among
  refine ⟨?_, fun i f later found => ?_, fun server had => ?_, fun watched => ?_⟩
  · obtain ⟨p, found⟩ := hands
    exact ⟨_, found, writes_stands rolling.mandated.continues⟩
  · rw [← rolling.machine] at found
    exact closed_leaves_head rolling.covers opened closed
      (fun same => Nat.ne_of_gt later (same.trans rolling.head)) found
  · cases rolling.held server had with
    | has has => exact .inl has
    | owing chain among _ old leg journey owing =>
      obtain ⟨p, ended⟩ := succeeded chain among
      exact absurd ⟨_, ended, rfl⟩ (owing_not_done journey owing)
    | lost failed => exact .inr failed
  · refine rolling.clean.imp_right fun clean server had => ?_
    rw [← rolling.mandated.version watched]
    rcases rolling.settled watched server had with ⟨old, held, outdated⟩ | current
    · obtain ⟨member, listed, rfl⟩ := due_member held outdated
      obtain ⟨chain, among, rfl⟩ := closed_restarted opened closed listed
      obtain ⟨_, leg, journey, served⟩ := clean.legs chain among
      exact served_succeeded journey served (succeeded chain among)
    · exact current

private theorem late_caller (late : Late k s)
    (waits : s.machine.fiber? i = some ⟨p, .waiting (.call q) next⟩) :
    i = 0 ∧ Harmless q ∧ Continues next := by
  rcases Nat.eq_zero_or_pos i with rfl | later
  · obtain ⟨f, found, writes⟩ := late.writes
    cases waits.symm.trans found
    cases writes with
    | waits _ _ harmless continues => exact ⟨rfl, harmless, continues⟩
  · have done := late.finished i _ later waits
    simp [Fiber.isDone, Fiber.verdict?] at done

private theorem late_over (late : Late k s) (length : after.fibers.length = s.machine.fibers.length)
    (moved : s.machine.move? (chainDynamics c g) 0 move = some after) :
    ∀ i f, 0 < i → after.fiber? i = some f → f.isDone :=
  others_done (h := .move 0 move) late.finished moved length

theorem late_happens (late : Late k s) (goesOn : s.machine.world.isStopping = false)
    (happens : Happens c g k.owner k.id s s') : Late k s' := by
  cases happens with
  | moves i move after own moved =>
    obtain rfl := first_moves late.finished moved
    obtain ⟨f, found, writes⟩ := late.writes
    obtain ⟨f', found', writes', length⟩ := writes_moves writes found own moved
    exact ⟨⟨f', found', writes'⟩, late_over late length moved, late.left, fun watched =>
      (late.settled watched).imp_left (spoiled_lasts (h := .move 0 move) moved)⟩
  | deletes i p q next name grace waits asks =>
    obtain ⟨_, harmless, _⟩ := late_caller late waits
    rw [Harmless, asks] at harmless
    cases harmless
  | makes i p q next body pod waits asks =>
    obtain ⟨_, harmless, _⟩ := late_caller late waits
    rw [Harmless, asks] at harmless
    cases harmless
  | answers i p q next response after waits replies moved =>
    obtain ⟨rfl, harmless, continues⟩ := late_caller late waits
    obtain ⟨here, _, length⟩ := call_answered waits goesOn moved
    refine ⟨⟨_, here, .running next continues⟩, late_over late length moved,
      fun server had => ?_, fun watched => (late.settled watched).imp_left fun spoiled =>
        spoiled_later (spoiled_lasts (h := .move 0 (.answer (.response response))) moved spoiled)⟩
    exact (late.left server had).imp_right (making_skipped (harmless_makes_nothing harmless)).mpr
  | outside world pods stay tidy =>
    refine ⟨late.writes, late.finished, fun server had => ?_, fun watched => ?_⟩
    · exact (late.left server had).imp_left fun has => has_still has stay
    · exact (late.settled watched).imp
        (spoiled_lasts (c := c) (g := g) (h := .outside world) rfl)
        fun current server had => current_still (current server had) stay

/-! ## Before the roll -/

/-- There is only the fiber that reconciles, and nothing has been done to any
pod. -/
structure Alone (k : Terms) (f : Fiber (Step ε) Packet (Pending ε)) (s : Depot ε) : Prop where
  only : s.machine.fibers = [f]
  works : f.packet.presence = some k.id
  tidy : Tidy k.owner k.id s.machine.world
  idle : s.carried = []
  has : ∀ server, k.had server → Has k.owner s.pods server

/-- An answer that lists pods under their own servers; if it is a failure, it
is told in the log. -/
def Honest (k : Terms) (log : List Answered) (r : Response) : Prop :=
  (r.isFailure = true → SomeFailed log) ∧
    ∀ server pod, (server, pod) ∈ podsOnPage r → Owned k.owner server pod

/-- The list that a reconcile begins with. -/
structure Agenda (q : Request) (x : Exchange ε (Step ε)) (sink : Option FailureSink)
    (finish : Option (Step ε)) : Prop where
  harmless : Harmless q
  handler : x.handler = .podsListed
  plain : x.conflict = none
  next : x.next = some (.rollIfNeeded sink finish)
  continues : Continues finish

/-- How far a reconcile has come. -/
inductive Stands (k : Terms) (s : Depot ε) : Prop where
  | lists (f : Fiber (Step ε) Packet (Pending ε)) (q : Request) (x : Exchange ε (Step ε))
      (sink : Option FailureSink) (finish : Option (Step ε)) (alone : Alone k f s)
      (agenda : Agenda q x sink finish) (lists : Lists q x (Honest k s.log) f)
  | looks (p : Packet) (sink : Option FailureSink) (next : Option (Step ε))
      (alone : Alone k ⟨p, .running (some (.rollIfNeeded sink next))⟩ s)
      (continues : Continues next)
  | opens (t : Mandate ε) (mandated : Mandated k t)
      (settled : k.watched → ∀ server, k.had server →
        IsDue t server ∨ Current k.owner t.version s.pods server)
      (alone : Alone k ⟨t.packet, .running (some (.rolling (plan t).members t.next))⟩ s)
  | rolls (t : Mandate ε) (ready : NameSet) (r : Roll ε) (rolling : Rolling k t ready r s)
      (notClosed : r.progress ≠ .closed)
  | late (late : Late k s)

variable {f f' : Fiber (Step ε) Packet (Pending ε)}

/-- Pods stay with their servers as long as what is seen of them was seen
before or belongs to its server. -/
private theorem tidy_brought {owner : String → String} {place : PresenceId} {w w' : World}
    {v' : View} (tidy : Tidy owner place w) (seen : view? place w' = some v')
    (brought : ∀ v, view? place w = some v → ∀ server pod, v'.servers.get? server = some pod →
      v.servers.get? server = some pod ∨ Owned owner server pod) : Tidy owner place w' := by
  obtain ⟨now, known, owned⟩ := tidy
  obtain ⟨now', known', servers, _⟩ := view_known seen
  refine ⟨now', known', fun server pod held => ?_⟩
  have held : v'.servers.get? server = some pod := servers ▸ held
  rcases brought _ (view_of_known known) server pod held with held | own
  · exact owned server pod held
  · exact own

private theorem tidy_unseen {owner : String → String} {place : PresenceId} {w w' : World}
    (tidy : Tidy owner place w) (unseen : view? place w' = view? place w) :
    Tidy owner place w' := by
  obtain ⟨now, known, _⟩ := id tidy
  have seen := unseen.trans (view_of_known known)
  exact tidy_brought tidy seen fun v seen' _ _ held =>
    .inl (Option.some.inj (seen'.symm.trans (view_of_known known)) ▸ held)

private theorem alone_outside {world : World} {pods : List Pod} (alone : Alone k f s)
    (stay : StillThere s.pods pods) (tidy : Tidy k.owner k.id world) :
    Alone k f { s with machine := { s.machine with world }, pods } :=
  ⟨alone.only, alone.works, tidy, alone.idle, fun server had =>
    has_still (alone.has server had) stay⟩

/-- A reconcile that has nothing to roll, or cannot, only writes the status, if
anything. -/
private theorem late_of_alone (alone : Alone k f s) (found : after.fiber? 0 = some f')
    (one : after.fibers.length = s.machine.fibers.length) (writes : Writes f'.phase)
    (settled : k.watched → Spoiled s.log after ∨
      ∀ server, k.had server → Current k.owner k.version s.pods server) :
    Late k { s with machine := after } := by
  refine ⟨⟨f', found, writes⟩, fun i f later found => ?_,
    fun server had => .inl (alone.has server had), settled⟩
  have within : i < after.fibers.length := (List.getElem?_eq_some_iff.mp found).1
  rw [one, alone.only] at within
  exact absurd later (Nat.not_lt.mpr (Nat.le_of_lt_succ within))

/-- The pods are listed. -/
private theorem lists_happens {x : Exchange ε (Step ε)} {sink : Option FailureSink}
    {finish : Option (Step ε)} (alone : Alone k f s) (agenda : Agenda q x sink finish)
    (lists : Lists q x (Honest k s.log) f) (goesOn : s.machine.world.isStopping = false)
    (happens : Happens c g k.owner k.id s s') : Stands k s' := by
  have calls : ∀ {i p q' next}, s.machine.fiber? i = some ⟨p, .waiting (.call q') next⟩ →
      i = 0 ∧ Harmless q' ∧ next = some (.response (sent q x)) ∧ p.exchange? = some x.id := by
    intro i p q' next waits
    obtain ⟨rfl, rfl⟩ := lone_only alone.only waits
    obtain ⟨token, same, follows, paired⟩ := lists_calls lists
    cases same
    exact ⟨rfl, harmless_continued agenda.harmless token, follows, paired⟩
  cases happens with
  | moves i move after own moved =>
    obtain ⟨_, found, _⟩ := move_iff_moved.mp moved
    obtain ⟨rfl, rfl⟩ := lone_only alone.only found
    obtain ⟨now, known, _⟩ := alone.tidy
    obtain ⟨f', v', found', works, length, seen', brought, listed⟩ :=
      lists_moves agenda.handler agenda.plain lists found alone.works (view_of_known known) own moved
    have tidy : Tidy k.owner k.id after.world := by
      refine tidy_brought alone.tidy seen' fun v seen server pod held => ?_
      cases (view_of_known known).symm.trans seen
      refine (brought server pod held).imp_right ?_
      rintro ⟨r, honest, among⟩
      exact honest.2 server pod among
    have only : after.fibers = [f'] := lone_after alone.only found' length
    have alone' : Alone k f' { s with machine := after } :=
      ⟨only, works, tidy, alone.idle, alone.has⟩
    cases listed with
    | lists _ lists => exact .lists f' q x sink finish alone' agenda lists
    | finished p =>
      rw [agenda.next] at alone'
      exact .looks p sink finish alone' agenda.continues
    | failed p e r honest failure =>
      exact .late (late_of_alone alone found' length (.finished _)
        fun _ => .inl (.inl (honest.1 failure)))
  | deletes i p q' next name grace waits asks =>
    obtain ⟨_, harmless, _⟩ := calls waits
    rw [Harmless, asks] at harmless
    cases harmless
  | makes i p q' next body pod waits asks =>
    obtain ⟨_, harmless, _⟩ := calls waits
    rw [Harmless, asks] at harmless
    cases harmless
  | answers i p q' next response after waits replies moved =>
    obtain ⟨rfl, harmless, rfl, paired⟩ := calls waits
    obtain ⟨here, unseen, length⟩ := call_answered waits goesOn moved
    obtain ⟨_, rfl⟩ := lone_only alone.only waits
    have honest : Honest k (⟨q', !response.isFailure⟩ :: s.log) response := by
      refine ⟨fun failure => ⟨_, List.mem_cons_self, by simp [failure]⟩, fun server pod among => ?_⟩
      cases replies with
      | done _ carried => simp [alone.idle] at carried
      | failed f idle => cases among
      | told _ _ _ listed => exact listed server pod among
    refine .lists _ q x sink finish ⟨lone_after alone.only here length,
      alone.works, tidy_unseen alone.tidy (unseen k.id), by simp [alone.idle], alone.has⟩ agenda
      (lists_told paired honest)
  | outside world pods stay tidy =>
    exact .lists f q x sink finish (alone_outside alone stay tidy) agenda lists

/-- What can happen while there is only a fiber that is about to apply a
step. -/
private inductive Turn (c : Conduct) (g : GuestRules ε) (k : Terms) (s : Depot ε) :
    Depot ε → Prop where
  | moves (after : ChainMachine ε)
      (moved : s.machine.move? (chainDynamics c g) 0 .run = some after) :
      Turn c g k s { s with machine := after }
  | outside (world : World) (pods : List Pod) (stay : StillThere s.pods pods)
      (tidy : Tidy k.owner k.id world) :
      Turn c g k s { s with machine := { s.machine with world }, pods }

private theorem turn_of_happens {step : Step ε} (alone : Alone k ⟨p, .running (some step)⟩ s)
    (happens : Happens c g k.owner k.id s s') : Turn c g k s s' := by
  have busy : ∀ {i p' q' next}, s.machine.fiber? i ≠ some ⟨p', .waiting (.call q') next⟩ := by
    intro i p' q' next waits
    cases (lone_only alone.only waits).2
  cases happens with
  | moves i move after own moved =>
    obtain ⟨_, found, shape⟩ := move_iff_moved.mp moved
    obtain ⟨rfl, rfl⟩ := lone_only alone.only found
    cases shape with
    | step => exact .moves _ moved
  | deletes i p' q' next name grace waits | makes i p' q' next body pod waits
  | answers i p' q' next response after waits => exact absurd waits busy
  | outside world pods stay tidy => exact .outside world pods stay tidy

/-- After a look the fiber does not look again. -/
private theorem look_is_over {sink : Option FailureSink} {now : Presence}
    {phase : Phase (Step ε) (Pending ε)} (continues : Continues next)
    (finds : Found p sink next now phase) (here : after.fiber? 0 = some ⟨p, phase⟩) :
    ¬ Looks { s with machine := after } := by
  rintro ⟨p', sink', next', looks⟩
  have away : (standsAt next : Phase (Step ε) (Pending ε)) ≠
      .running (some (.rollIfNeeded sink' next')) := by
    cases next with
    | none => exact nofun
    | some step =>
      rintro ⟨⟩
      cases continues _ rfl
  cases finds with
  | unknown | nothing => exact away (congrArg Fiber.phase (Option.some.inj (here.symm.trans looks)))
  | work => cases here.symm.trans looks

/-- Nothing is due if there is no work. -/
private theorem nothing_due
    (empty : (workOf (ε := ε) t.sink t.presence t.version t.packet).isEmpty = true) :
    ¬ IsDue t server := by
  rintro ⟨old, held, outdated⟩
  obtain ⟨member, among, _⟩ := due_member held outdated
  rw [plan, List.isEmpty_iff.mp empty] at among
  cases among

/-- The roll is looked for. -/
private theorem looks_happens {sink : Option FailureSink}
    (alone : Alone k ⟨p, .running (some (.rollIfNeeded sink next))⟩ s) (continues : Continues next)
    (shown : k.watched → ¬ Looks s' → Shows k.owner k.id k.version s)
    (happens : Happens c g k.owner k.id s s') : Stands k s' := by
  cases turn_of_happens alone happens with
  | outside world pods stay tidy =>
    exact .looks p sink next (alone_outside alone stay tidy) continues
  | moves after moved =>
    obtain ⟨now, known, owned⟩ := id alone.tidy
    obtain ⟨phase, here, finds, unseen, length⟩ :=
      look_finds (lone_found alone.only) alone.works known moved
    have shows : k.watched → ∃ d, now.domain = some d ∧ d.restartVersion = k.version ∧
        ∀ server, k.had server → ∃ old ∈ s.pods, now.pod? server = some old := by
      intro watched
      obtain ⟨_, d, known', domain, version, there, all⟩ :=
        shown watched (look_is_over continues finds here)
      cases known.symm.trans known'
      refine ⟨d, domain, version, fun server had => ?_⟩
      obtain ⟨old, held⟩ := Option.ne_none_iff_exists'.mp (all server (alone.has server had))
      exact ⟨old, there server old held, held⟩
    have settled (d : Domain) (watched : k.watched) (server : String) (had : k.had server) :
        IsDue (⟨p, k.id, now, d, sink, next⟩ : Mandate ε) server ∨
          Current k.owner d.restartVersion s.pods server := by
      obtain ⟨_, _, _, all⟩ := shows watched
      obtain ⟨old, there, held⟩ := all server had
      by_cases upToDate : old.restartVersion? = some d.restartVersion
      · exact .inr ⟨old, there, owned server old held, upToDate⟩
      · exact .inl ⟨old, held, upToDate⟩
    have version (d : Domain) (domain : now.domain = some d) (watched : k.watched) :
        d.restartVersion = k.version := by
      obtain ⟨_, domain', version, _⟩ := shows watched
      cases domain.symm.trans domain'
      exact version
    cases finds with
    | unknown domain =>
      refine .late (late_of_alone alone here length (writes_stands continues) fun watched => ?_)
      obtain ⟨_, domain', _⟩ := shows watched
      cases domain.symm.trans domain'
    | nothing d domain empty =>
      refine .late (late_of_alone alone here length (writes_stands continues) fun watched =>
        .inr fun server had => ?_)
      rw [← version d domain watched]
      exact (settled d watched server had).resolve_left
        (nothing_due (t := ⟨p, k.id, now, d, sink, next⟩) empty)
    | work d domain =>
      exact .opens ⟨p, k.id, now, d, sink, next⟩
        ⟨alone.works, rfl, owned, version d domain, continues⟩ (settled d)
        ⟨lone_after alone.only here length, alone.works,
          tidy_unseen alone.tidy unseen, alone.idle, alone.has⟩

/-- The roll is opened. -/
private theorem opens_happens (mandated : Mandated k t)
    (settled : k.watched → ∀ server, k.had server →
      IsDue t server ∨ Current k.owner t.version s.pods server)
    (alone : Alone k ⟨t.packet, .running (some (.rolling (plan t).members t.next))⟩ s)
    (happens : Happens c g k.owner k.id s s') : Stands k s' := by
  have found := lone_found alone.only
  cases turn_of_happens alone happens with
  | outside world pods stay tidy =>
    refine .opens t mandated (fun watched server had => ?_) (alone_outside alone stay tidy)
    exact (settled watched server had).imp_right fun current => current_still current stay
  | moves after moved =>
    obtain ⟨now, known, owned⟩ := alone.tidy
    have happened : happen? (chainDynamics c g) s.machine (.move 0 .run) = some after := moved
    obtain ⟨r, opens⟩ :
        ∃ r, Roll.follow? c g { machine := s.machine, head := 0 } (.move 0 .run) = some r := by
      rw [Roll.follow?, happened]
      exact ⟨_, rfl⟩
    have known : s.machine.world.presence? t.id = some now := mandated.place ▸ known
    have travels := travels_begins found mandated.works known opens
    have covers := covers_begins (by simp [alone.only]) found opens
    have unopened : Unopened (plan t) { machine := s.machine, head := 0 } :=
      ⟨rfl, rfl, rfl, .inr found⟩
    have unseen : view? t.id r.machine.world = view? t.id s.machine.world :=
      unopened_unseen unopened (.inl ⟨rfl, by rintro ⟨⟩⟩) opens
    obtain ⟨after', moved', rfl⟩ := opening_noted found opens
    cases moved.symm.trans moved'
    refine .rolls t now.readyServers _ ⟨mandated, rfl, rfl, travels, covers, ?_, ?_,
      fun server had => .has (alone.has server had), settled, .inr ⟨?_, ?_⟩⟩ (by rintro ⟨⟩)
    · rw [unseen, view_of_known known]
      exact Option.some_ne_none _
    · simp [alone.idle]
    · exact opening_unfailed alone.only mandated.works known moved
    · exact fun chain among => absurd among List.not_mem_nil

/-- The roll is under way. -/
private theorem rolls_happens (rolling : Rolling k t ready r s) (notClosed : r.progress ≠ .closed)
    (goesOn : s.machine.world.isStopping = false) (happens : Happens c g k.owner k.id s s') :
    Stands k s' := by
  cases happens with
  | moves i move after own moved =>
    obtain ⟨r', rolling', hands⟩ := rolling_moves rolling notClosed goesOn own moved
    by_cases closed : r'.progress = .closed
    · exact .late (late_of_closed rolling' closed (hands closed))
    · exact .rolls t ready r' rolling' closed
  | deletes i p q next name grace waits asks =>
    exact .rolls t ready r (rolling_deletes rolling notClosed waits asks) notClosed
  | makes i p q next body pod waits asks idle like =>
    exact .rolls t ready r (rolling_makes rolling notClosed waits asks like) notClosed
  | answers i p q next response after waits replies moved =>
    exact .rolls t ready _ (rolling_answers rolling notClosed goesOn waits replies moved) notClosed
  | outside world pods stay tidy =>
    exact .rolls t ready _ (rolling_outside c g rolling notClosed stay tidy) notClosed

/-! ## The whole reconcile -/

private theorem stands_unfolds (stands : Stands k s)
    (unfolds : Unfolds c g k.owner k.id k.version k.watched s s') : Stands k s' := by
  have happens := unfolds.happens
  cases stands with
  | lists f q x sink finish alone agenda lists =>
    exact lists_happens alone agenda lists unfolds.goesOn happens
  | looks p sink next alone continues =>
    exact looks_happens alone continues
      (fun watched => unfolds.shown watched ⟨p, sink, next, lone_found alone.only⟩) happens
  | opens t mandated settled alone => exact opens_happens mandated settled alone happens
  | rolls t ready r rolling notClosed =>
    exact rolls_happens rolling notClosed unfolds.goesOn happens
  | late late => exact .late (late_happens late unfolds.goesOn happens)

private theorem stands_begins {domain : Domain} {start : Depot ε}
    (reconciles : Reconciles c g k.owner k.id domain k.watched start s)
    (has : ∀ server, k.had server → Has k.owner start.pods server) : Stands k start := by
  obtain ⟨before, head, p, begins, only⟩ := reconciles.begins
  unfold beginReconcile at begins
  split at begins
  · cases begins
  split at begins
  · cases begins
  injection begins with place begins packet world
  subst begins packet
  have agenda (presence : Presence) (sink : Option FailureSink) (finish : Step ε)
      (writes : Writing finish) : Agenda (listPodsRequest c presence)
        { id := .listPods, request := none, handler := .podsListed, sink
          next := some (.rollIfNeeded sink (some finish)) } sink (some finish) :=
    ⟨rfl, rfl, rfl, rfl, continues_with writes⟩
  exact .lists _ _ _ _ _ ⟨only, congrArg some place, reconciles.tidy, reconciles.nothing.1, has⟩
    (agenda _ _ _ (.clear _)) (.first _)

/-- Nobody is left behind by a reconcile. -/
private theorem awaited_happens {owner : String → String} {place : PresenceId}
    (awaited : Forks.Awaited s.machine) (happens : Happens c g owner place s s') :
    Forks.Awaited s'.machine := by
  cases happens with
  | moves i move after own moved =>
    exact Forks.awaited_kept (d := chainDynamics c g) (h := .move i move) awaited moved
  | answers i p q next response after waits replies moved =>
    exact Forks.awaited_kept (d := chainDynamics c g)
      (h := .move i (.answer (.response response))) awaited moved
  | deletes | makes => exact awaited
  | outside world =>
    exact Forks.awaited_kept (d := chainDynamics c g) (h := .outside world) awaited rfl

/-- A reconcile whose fiber has ended has made every pod anew that it took
down, unless the making failed; if no call failed and nothing overflowed, every
pod is up to date. -/
private theorem stands_ended (stands : Stands k s) (awaited : Forks.Awaited s.machine)
    (ended : Done s.machine 0) :
    (∀ server, k.had server → Has k.owner s.pods server ∨ LastMakingFailed k.owner s.log server) ∧
      (k.watched → Spoiled s.log s.machine ∨
        ∀ server, k.had server → Current k.owner k.version s.pods server) := by
  obtain ⟨first, found, done⟩ := ended
  have alone {f : Fiber (Step ε) Packet (Pending ε)} (alone : Alone k f s) : f.isDone :=
    (lone_only alone.only found).2 ▸ done
  cases stands with
  | lists f q x sink finish here agenda lists =>
    have done := alone here
    cases lists <;> cases done
  | looks p sink next here => cases alone here
  | opens t mandated settled here => cases alone here
  | late late => exact ⟨late.left, late.settled⟩
  | rolls t ready r rolling notClosed =>
    rw [← rolling.machine] at found awaited
    refine ⟨fun server had => ?_, fun watched => ?_⟩
    · cases rolling.held server had with
      | has has => exact .inl has
      | lost failed => exact .inr failed
      | owing chain among serves old leg journey owing =>
        obtain ⟨f, there, _⟩ := journey.stands
        have finished := Forks.nobody_left awaited found done there
        exact absurd ⟨f, there, finished⟩ (owing_not_done journey owing)
    · -- The head has failed, which it does only if some call has.
      refine rolling.clean.imp_right fun clean => absurd ?_ (clean.unfailed 0)
      have head := rolling.travels.opened.head
      rw [rolling.head] at head
      generalize r.progress = progress at head notClosed
      cases head with
      | waits found' | closing found' =>
        cases found.symm.trans found'
        cases done
      | failed p e found' => exact ⟨_, e, found', rfl⟩
      | closed => exact absurd rfl notClosed

/-- What a reconcile leaves. -/
private theorem reconcile_leaves {owner : String → String} {place : PresenceId} {domain : Domain}
    {start : Depot ε} (had : String → Prop)
    (reconciles : Reconciles c g owner place domain watched start s)
    (has : ∀ server, had server → Has owner start.pods server) :
    (∀ server, had server → Has owner s.pods server ∨ LastMakingFailed owner s.log server) ∧
      (watched → Spoiled s.log s.machine ∨
        ∀ server, had server → Current owner domain.restartVersion s.pods server) := by
  let k : Terms := ⟨owner, place, domain.restartVersion, watched, had⟩
  have begins : Stands k start ∧ Forks.Awaited start.machine := by
    refine ⟨stands_begins (k := k) reconciles has, ?_⟩
    obtain ⟨_, head, p, _, only⟩ := reconciles.begins
    have solo := Forks.awaited_solo (κ := Pending ε) head p start.machine.world
    rw [Forks.solo, ← only] at solo
    exact solo
  have run : Stands k s ∧ Forks.Awaited s.machine := by
    have ran := reconciles.ran
    clear reconciles
    induction ran with
    | refl => exact begins
    | tail _ unfolds ih =>
      exact ⟨stands_unfolds ih.1 unfolds, awaited_happens ih.2 unfolds.happens⟩
  exact stands_ended run.1 run.2 reconciles.ended

/-- A server has a pod after some reconciles, or one of them left it without any
when the making failed. -/
private theorem reconciled_leaves {owner : String → String} {pods pods' : List Pod}
    {earlier : List (Depot ε)} (reconciled : Reconciled c g owner pods earlier pods')
    (has : Has owner pods server) :
    Has owner pods' server ∨
      ∃ s ∈ earlier, ¬ Has owner s.pods server ∧ LastMakingFailed owner s.log server := by
  induction reconciled with
  | none => exact .inl has
  | next pods pods' place domain start s rest stay reconciles _ ih =>
    have left := (reconcile_leaves (Has owner pods) reconciles fun _ has => has_still has stay).1
    by_cases still : Has owner s.pods server
    · refine (ih still).imp_right ?_
      rintro ⟨lost, among, lacks⟩
      exact ⟨lost, List.mem_cons_of_mem _ among, lacks⟩
    · exact .inr ⟨s, List.mem_cons_self, still, (left server has).resolve_left still⟩

/-- Reconciles whose calls failed in any way, followed by one all of whose calls
succeed: every server that had a pod at first has one again, made for the
restart version of the domain, but for a server that an earlier reconcile left
without a pod, the last making of which had failed in it. The last reconcile is
one without overflows: limits of a domain whose difference does not fit 32 bits
keep the roll of their cluster from taking place. -/
theorem servers_are_recovered {owner : String → String} {place : PresenceId} {domain : Domain}
    {pods pods' : List Pod} {earlier : List (Depot ε)} {again : Depot ε}
    (reconciled : Reconciled c g owner pods earlier pods') (stay : StillThere pods' again.pods)
    (reconciles : Reconciles c g owner place domain True again s)
    (succeeded : ∀ a ∈ s.log, a.succeeded = true) (intact : ∀ i, ¬ Overflowed s.machine i)
    (server : String) (had : Has owner pods server) :
    Current owner domain.restartVersion s.pods server ∨
      ∃ before ∈ earlier, ¬ Has owner before.pods server ∧
        LastMakingFailed owner before.log server := by
  have unspoiled : ¬ Spoiled s.log s.machine := by
    rintro (⟨a, member, failed⟩ | ⟨i, overflowed⟩)
    · exact absurd ((succeeded a member).symm.trans failed) Bool.true_eq_false.mp
    · exact intact i overflowed
  refine (reconciled_leaves reconciled had).imp_left fun has => ?_
  have leaves := (reconcile_leaves (Has owner pods') reconciles fun _ has => has_still has stay).2
  exact (leaves trivial).resolve_left unspoiled server has

/-! ## A server of its own -/

def loneDomain : Domain :=
  { metadata := { name := some "d", namespaceName := some "ns" }
    spec := { restartVersion := some "2" } }

/-- The pod that takes the place of the old one. -/
def loneNew : Pod :=
  { metadata := { (loneOld.replacement "2").metadata with uid := some "u2" }
    status := some { conditions := some [{ type := "Ready", status := "True" }] } }

def loneOwner (_ : String) : String := "ms1"

/-- A depot at which a reconcile of the domain is about to begin. -/
def loneDepot (pods : List Pod) : Depot Empty :=
  { machine :=
      match beginReconcile {} loneDomain {} with
      | .fiber _ head p w => { fibers := [⟨p, .created head⟩], world := w }
      | _ => { fibers := [], world := {} }
    pods }

/-- What the server answers when it is asked for its pods. -/
def listed (pods : List Pod) : Response :=
  .list { items := pods.map (fun pod => { types := some ⟨"v1", "Pod"⟩, metadata := pod.metadata }) }

/-- A failure that is not tried again. -/
def refusal : Response := .failure (.http default { code := 422 })

/-- What unfolds at such a depot whose pods are watched. -/
def Goes : Depot Empty → Depot Empty → Prop := Unfolds {} .nobody loneOwner 0 "2" True

private def looks : Phase (Step Empty) (Pending Empty) → Bool
  | .running (some (.rollIfNeeded ..)) => true
  | _ => false

private theorem goes {s s' : Depot Empty} {phase : Phase (Step Empty) (Pending Empty)}
    (stands : s.machine.fiber? 0 = some ⟨p, phase⟩) (busy : looks phase = false)
    (goesOn : s.machine.world.isStopping = false)
    (happens : Happens {} .nobody loneOwner 0 s s') : Goes s s' := by
  refine ⟨goesOn, ?_, happens⟩
  rintro - ⟨_, _, _, found⟩ -
  cases stands.symm.trans found
  cases busy

/-- What is seen of the pods changes. -/
private theorem sees {s : Depot Empty} {phase : Phase (Step Empty) (Pending Empty)}
    {f : Presence → Presence} (stands : s.machine.fiber? 0 = some ⟨p, phase⟩)
    (busy : looks phase = false) (goesOn : s.machine.world.isStopping = false)
    (tidy : Tidy loneOwner 0 (s.machine.world.modifyPresence 0 f)) :
    Goes s { s with machine := { s.machine with world := s.machine.world.modifyPresence 0 f } } :=
  goes stands busy goesOn (.outside _ s.pods (fun pod member => ⟨pod, member, rfl, rfl⟩) tidy)

private theorem lone_owned {pod : Pod} (serves : pod.serverName? = some "ms1")
    (named : pod.metadata.name = some "d-ms1") : Owned loneOwner "ms1" pod :=
  ⟨serves, "d-ms1", named, rfl⟩

private theorem lone_has : Has loneOwner [loneOld] "ms1" :=
  ⟨loneOld, List.Mem.head _, lone_owned rfl rfl⟩

private theorem lone_listed :
    ∀ server pod, (server, pod) ∈ podsOnPage (listed [loneOld]) → Owned loneOwner server pod := by
  have page : podsOnPage (listed [loneOld]) = [("ms1", loneOld)] := rfl
  intro server pod among
  rw [page] at among
  cases List.mem_singleton.mp among
  exact lone_owned rfl rfl

private theorem lone_server {pods : List Pod} (has : Has loneOwner pods server) :
    server = "ms1" := by
  obtain ⟨_, _, _, _, _, owns⟩ := has
  exact owns.symm

private theorem lone_pod {new pod : Pod}
    (held : (({} : NameMap Pod).insert "ms1" new).get? server = some pod) :
    server = "ms1" ∧ pod = new := by
  rw [NameMap.get?_insert] at held
  split at held
  · rename_i same
    exact ⟨same, (Option.some.inj held).symm⟩
  · cases held

private theorem lone_gone {new pod : Pod} :
    ((({} : NameMap Pod).insert "ms1" new).erase "ms1").get? server ≠ some pod := by
  intro held
  rw [NameMap.get?_erase] at held
  split at held
  · cases held
  · rename_i other
    exact other (lone_pod held).1

private theorem unlisted {response : Response} (empty : podsOnPage response = []) :
    ∀ server pod, (server, pod) ∈ podsOnPage response → Owned loneOwner server pod := by
  rw [empty]
  exact fun _ _ among => absurd among List.not_mem_nil

/-- A reconcile of the domain that takes one of three courses once it has asked
for the deletion of the old pod. -/
private theorem lone_runs : ∃ s, Relation.ReflTransGen Goes (loneDepot [loneOld]) s ∧
    (∃ a, Relation.ReflTransGen Goes s a ∧ Failed a.machine 0 ∧ a.pods = []) ∧
    (∃ b, Relation.ReflTransGen Goes s b ∧ Failed b.machine 0 ∧ b.pods = [loneOld]) ∧
    ∃ d, Relation.ReflTransGen Goes s d ∧ Done d.machine 0 ∧
      d.log.all (·.succeeded) = true ∧ d.machine.fibers.all (·.verdict? matches some none) := by
  have idle : 2 ∉ [2].filter (· ≠ 2) := by decide
  have free : ∀ other ∈ [loneOld].filter (·.metadata.name ≠ some "d-ms1"),
      other.metadata.name ≠ loneNew.metadata.name := by simp [loneOld]
  have like : Made (loneOld.replacement "2") loneNew := ⟨rfl, rfl⟩
  refine ⟨?s, ?asked, ⟨?a, ?unmade, ?_, ?_⟩, ⟨?b, ?kept, ?_, ?_⟩, ⟨?d, ?through, ?_, ?_, ?_⟩⟩
  case asked =>
    -- The pods are listed.
    refine .head (goes rfl rfl rfl (.moves 0 .run _ (.inl rfl) rfl)) ?_
    refine .head (goes rfl rfl rfl (.moves 0 .run _ (.inl rfl) rfl)) ?_
    refine .head (goes rfl rfl rfl (.answers 0 _ _ _ (listed [loneOld]) _ rfl
      (.told _ rfl rfl lone_listed) rfl)) ?_
    refine .head (goes rfl rfl rfl (.moves 0 .run _ (.inl rfl) rfl)) ?_
    -- A look finds the one that is out of date.
    refine .head ⟨rfl, fun _ _ _ => ⟨_, _, rfl, rfl, rfl, fun server pod held => ?_,
      fun server has => ?_⟩, .moves 0 .run _ (.inl rfl) rfl⟩ ?_
    · obtain ⟨-, rfl⟩ := lone_pod held
      exact List.Mem.head _
    · obtain rfl := lone_server has
      exact nofun
    -- The roll is opened, and the restart asks for the deletion.
    refine .head (goes rfl rfl rfl (.moves 0 .run _ (.inl rfl) rfl)) ?_
    refine .head (goes rfl rfl rfl (.moves 1 .run _ (.inl rfl) rfl)) ?_
    refine .head (goes rfl rfl rfl (.moves 1 .run _ (.inl rfl) rfl)) ?_
    refine .head (goes rfl rfl rfl (.moves 2 .run _ (.inl rfl) rfl)) ?_
    refine .head (goes rfl rfl rfl (.moves 2 .run _ (.inl rfl) rfl)) ?_
    refine .head (goes rfl rfl rfl (.moves 2 .run _ (.inl rfl) rfl)) ?_
    exact .refl
  case unmade =>
    -- The pod is deleted, and the making of the new one fails.
    refine .head (goes rfl rfl rfl (.deletes 2 _ _ _ "d-ms1" none rfl rfl nofun
      ⟨loneOld, List.Mem.head _, rfl⟩)) ?_
    refine .head (goes rfl rfl rfl (.answers 2 _ _ _ (.status default) _ rfl
      (.done _ (List.Mem.head _) rfl) rfl)) ?_
    refine .head (goes rfl rfl rfl (.moves 2 .run _ (.inl rfl) rfl)) ?_
    refine .head (sees (f := (·.removePod "ms1")) rfl rfl rfl
      ⟨_, rfl, fun _ _ held => absurd held lone_gone⟩) ?_
    refine .head (goes rfl rfl rfl (.moves 2 .run _ (.inl rfl) rfl)) ?_
    refine .head (goes rfl rfl rfl (.moves 2 .run _ (.inl rfl) rfl)) ?_
    refine .head (goes rfl rfl rfl (.answers 2 _ _ _ refusal _ rfl (.failed _ idle) rfl)) ?_
    refine .head (goes rfl rfl rfl (.moves 2 .run _ (.inl rfl) rfl)) ?_
    refine .head (goes rfl rfl rfl (.moves 1 .join _ (.inr (.inr rfl)) rfl)) ?_
    refine .head (goes rfl rfl rfl (.moves 0 .join _ (.inr (.inr rfl)) rfl)) ?_
    exact .refl
  case kept =>
    -- The deletion fails.
    refine .head (goes rfl rfl rfl (.answers 2 _ _ _ refusal _ rfl (.failed _ nofun) rfl)) ?_
    refine .head (goes rfl rfl rfl (.moves 2 .run _ (.inl rfl) rfl)) ?_
    refine .head (goes rfl rfl rfl (.moves 1 .join _ (.inr (.inr rfl)) rfl)) ?_
    refine .head (goes rfl rfl rfl (.moves 0 .join _ (.inr (.inr rfl)) rfl)) ?_
    exact .refl
  case through =>
    -- The pod is deleted, and a new one is made and becomes Ready.
    refine .head (goes rfl rfl rfl (.deletes 2 _ _ _ "d-ms1" none rfl rfl nofun
      ⟨loneOld, List.Mem.head _, rfl⟩)) ?_
    refine .head (goes rfl rfl rfl (.answers 2 _ _ _ (.status default) _ rfl
      (.done _ (List.Mem.head _) rfl) rfl)) ?_
    refine .head (goes rfl rfl rfl (.moves 2 .run _ (.inl rfl) rfl)) ?_
    refine .head (sees (f := (·.removePod "ms1")) rfl rfl rfl
      ⟨_, rfl, fun _ _ held => absurd held lone_gone⟩) ?_
    refine .head (goes rfl rfl rfl (.moves 2 .run _ (.inl rfl) rfl)) ?_
    refine .head (goes rfl rfl rfl (.moves 2 .run _ (.inl rfl) rfl)) ?_
    refine .head (goes rfl rfl rfl (.makes 2 _ _ _ _ loneNew rfl rfl idle like free)) ?_
    refine .head (goes rfl rfl rfl (.answers 2 _ _ _ (.status default) _ rfl
      (.done _ (List.Mem.head _) rfl) rfl)) ?_
    refine .head (goes rfl rfl rfl (.moves 2 .run _ (.inl rfl) rfl)) ?_
    refine .head (sees (f := (·.setPod "ms1" loneNew)) rfl rfl rfl
      ⟨_, rfl, fun server pod held => ?_⟩) ?_
    · obtain ⟨rfl, rfl⟩ := lone_pod held
      exact lone_owned rfl rfl
    refine .head (goes rfl rfl rfl (.moves 2 .run _ (.inl rfl) rfl)) ?_
    -- The roll is closed, and the status written.
    refine .head (goes rfl rfl rfl (.moves 1 .join _ (.inr (.inr rfl)) rfl)) ?_
    refine .head (goes rfl rfl rfl (.moves 1 .run _ (.inl rfl) rfl)) ?_
    refine .head (goes rfl rfl rfl (.moves 0 .join _ (.inr (.inr rfl)) rfl)) ?_
    refine .head (goes rfl rfl rfl (.moves 0 .run _ (.inl rfl) rfl)) ?_
    refine .head (goes rfl rfl rfl (.moves 0 .run _ (.inl rfl) rfl)) ?_
    refine .head (goes rfl rfl rfl (.moves 0 .run _ (.inl rfl) rfl)) ?_
    refine .head (goes rfl rfl rfl (.moves 0 .run _ (.inl rfl) rfl)) ?_
    refine .head (goes rfl rfl rfl (.answers 0 _ _ _ (.status default) _ rfl
      (.told _ rfl rfl (unlisted rfl)) rfl)) ?_
    refine .head (goes rfl rfl rfl (.moves 0 .run _ (.inl rfl) rfl)) ?_
    exact .refl
  · exact ⟨_, _, rfl, rfl⟩
  · rfl
  · exact ⟨_, _, rfl, rfl⟩
  · rfl
  · exact ⟨_, rfl, rfl⟩
  · rfl
  · rfl

/-- A reconcile of the domain that finds no pod. -/
private theorem bare_runs : ∃ s, Relation.ReflTransGen Goes (loneDepot []) s ∧ Done s.machine 0 ∧
    s.pods = [] ∧ s.log.all (·.succeeded) = true := by
  refine ⟨?s, ?_, ?_, ?_, ?_⟩
  case refine_1 =>
    refine .head (goes rfl rfl rfl (.moves 0 .run _ (.inl rfl) rfl)) ?_
    refine .head (goes rfl rfl rfl (.moves 0 .run _ (.inl rfl) rfl)) ?_
    refine .head (goes rfl rfl rfl (.answers 0 _ _ _ (listed []) _ rfl
      (.told _ rfl rfl (unlisted rfl)) rfl)) ?_
    refine .head (goes rfl rfl rfl (.moves 0 .run _ (.inl rfl) rfl)) ?_
    refine .head ⟨rfl, fun _ _ _ => ⟨_, _, rfl, rfl, rfl, fun server pod held => ?_,
      fun server has => ?_⟩, .moves 0 .run _ (.inl rfl) rfl⟩ ?_
    · cases (show none = some pod from held)
    · obtain ⟨_, member, _⟩ := has
      cases member
    refine .head (goes rfl rfl rfl (.moves 0 .run _ (.inl rfl) rfl)) ?_
    refine .head (goes rfl rfl rfl (.moves 0 .run _ (.inl rfl) rfl)) ?_
    refine .head (goes rfl rfl rfl (.moves 0 .run _ (.inl rfl) rfl)) ?_
    refine .head (goes rfl rfl rfl (.answers 0 _ _ _ (.status default) _ rfl
      (.told _ rfl rfl (unlisted rfl)) rfl)) ?_
    refine .head (goes rfl rfl rfl (.moves 0 .run _ (.inl rfl) rfl)) ?_
    exact .refl
  · exact ⟨_, rfl, rfl⟩
  · rfl
  · rfl

private theorem lone_reconciles {pods : List Pod} {s : Depot Empty}
    (ran : Relation.ReflTransGen Goes (loneDepot pods) s) (ended : Done s.machine 0) :
    Reconciles {} .nobody loneOwner 0 loneDomain True (loneDepot pods) s := by
  refine ⟨⟨{}, _, _, rfl, rfl⟩, ⟨_, rfl, fun server pod held => ?_⟩, ⟨rfl, rfl⟩, ran, ended⟩
  cases (show none = some pod from held)

private theorem failed_done (failed : Failed m i) : Done m i := by
  obtain ⟨f, e, found, verdict⟩ := failed
  exact ⟨f, found, by simp [Fiber.isDone, verdict]⟩

/-- A reconcile for which it does not matter whether the pods are watched. -/
private theorem unwatched {c : Conduct} {g : GuestRules ε} {owner : String → String}
    {place : PresenceId} {domain : Domain} {start s : Depot ε}
    (reconciles : Reconciles c g owner place domain watched start s) :
    Reconciles c g owner place domain False start s :=
  { reconciles with
    ran := Relation.ReflTransGen.mono
      (fun _ _ unfolds => ⟨unfolds.goesOn, False.elim, unfolds.happens⟩) _ _ reconciles.ran }

/-- The old pod is kept when its deletion fails, and the next reconcile makes it
anew. -/
theorem lone_server_is_recovered : ∃ s s' : Depot Empty,
    Reconciles {} .nobody loneOwner 0 loneDomain False (loneDepot [loneOld]) s ∧
    Failed s.machine 0 ∧
    Reconciles {} .nobody loneOwner 0 loneDomain True (loneDepot s.pods) s' ∧
    Current loneOwner "2" s'.pods "ms1" := by
  obtain ⟨_, asked, _, ⟨s, ran, failed, kept⟩, s', ran', done, succeeded, well⟩ := lone_runs
  have intact (i : FiberId) : ¬ Overflowed s'.machine i := by
    rintro ⟨p, step, ended⟩
    have judged := List.all_eq_true.mp well _ (List.mem_of_getElem? ended)
    cases judged
  have first := unwatched (lone_reconciles (asked.trans ran) (failed_done failed))
  have second := lone_reconciles (asked.trans ran') done
  rw [← kept] at second
  refine ⟨s, s', first, failed, second, ?_⟩
  have still : StillThere s.pods (loneDepot s.pods).pods := fun pod member =>
    ⟨pod, member, rfl, rfl⟩
  have begun : StillThere [loneOld] (loneDepot [loneOld]).pods := fun pod member =>
    ⟨pod, member, rfl, rfl⟩
  have once : Reconciled {} .nobody loneOwner [loneOld] [s] s.pods :=
    .next _ _ 0 loneDomain _ s [] begun first (.none _)
  rcases servers_are_recovered once still second (List.all_eq_true.mp succeeded) intact "ms1"
    lone_has with current | ⟨before, among, lacks, _⟩
  · exact current
  · cases List.mem_singleton.mp among
    exact absurd (kept ▸ lone_has) lacks

/-- The pod is lost when its deletion succeeds and the making of the new one
fails: the next reconcile, all of whose calls succeed, makes none. -/
theorem failed_making_loses_server : ∃ s s' : Depot Empty,
    Reconciles {} .nobody loneOwner 0 loneDomain False (loneDepot [loneOld]) s ∧
    Failed s.machine 0 ∧
    Reconciles {} .nobody loneOwner 0 loneDomain True (loneDepot s.pods) s' ∧
    (∀ a ∈ s'.log, a.succeeded = true) ∧
    Has loneOwner [loneOld] "ms1" ∧ ¬ Has loneOwner s'.pods "ms1" := by
  obtain ⟨_, asked, ⟨s, ran, failed, lost⟩, _⟩ := lone_runs
  obtain ⟨s', ran', done, still, succeeded⟩ := bare_runs
  have first := unwatched (lone_reconciles (asked.trans ran) (failed_done failed))
  have second := lone_reconciles ran' done
  rw [← lost] at second
  refine ⟨s, s', first, failed, second, List.all_eq_true.mp succeeded, lone_has, ?_⟩
  rintro ⟨pod, member, _⟩
  rw [still] at member
  cases member

end DomainSteward.Recovery
