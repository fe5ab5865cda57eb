import DomainSteward.Proofs.Roll.Steps
import DomainSteward.Proofs.Site.Server

/-! What the steps of a restart chain do, one statement for each step, as far
as a roll can see it. -/
namespace DomainSteward.Restarts
open Machine Moves Exchanges Sites RollSteps

variable {ε : Type}

/-- A roll that may be due: for whom, how and with which step to follow. -/
structure Mandate (ε : Type) where
  /-- The packet of the fiber that is to roll. -/
  packet : Packet
  id : PresenceId
  /-- The presence as the roll finds it. -/
  presence : Presence
  domain : Domain
  sink : Option FailureSink
  next : Option (Step ε)

namespace Mandate

/-- The restart version that pods should be made for. -/
def version (t : Mandate ε) : String := t.domain.restartVersion

/-- What the pod is made from that takes a pod's place. -/
def body (t : Mandate ε) (old : Pod) : ApiObject := old.replacement t.version

def deleteCall (t : Mandate ε) (old : Pod) : Request := deletePodRequest t.presence old

def createCall (t : Mandate ε) (old : Pod) : Request := createPodRequest t.presence old t.version

def creation (t : Mandate ε) (server : String) : Exchange ε (Step ε) :=
  { id := .createPod server, request := none, handler := .podCreated server, sink := t.sink
    next := some (.waitReady server none) }

/-- The step that makes the new pod of a server. -/
def create (t : Mandate ε) (server : String) (old : Pod) : Step ε :=
  .request (t.createCall old) (t.creation server)

/-- The step that waits until the old pod is gone. -/
def removal (t : Mandate ε) (server : String) (old : Pod) : Step ε :=
  .waitRemoved server old.metadata.uid (some (t.create server old))

def deletion (t : Mandate ε) (server : String) (old : Pod) : Exchange ε (Step ε) :=
  { id := .deletePod server, request := none, handler := .podDeleted server, sink := t.sink
    next := some (t.removal server old) }

/-- The chain that restarts a server. -/
def chain (t : Mandate ε) (server : String) (old : Pod) : Step ε :=
  .beginRestart server t.version (some (.request (t.deleteCall old) (t.deletion server old)))

/-- The event by which a restart is reported. -/
def reported (t : Mandate ε) (server : String) : DomainEvent :=
  .podCycleStarting server ("restart version changed to " ++ t.version)

end Mandate

theorem restart_server (t : Mandate ε) (server : String) :
    restartServer? t.sink t.presence server t.version none =
      (t.presence.pod? server).map (t.chain server) := rfl

variable {c : Conduct} {g : GuestRules ε} {t : Mandate ε} {server : String} {old : Pod} {p : Packet}
  {w : World} {id : PresenceId} {sight : Sight} {r : Request} {x : Exchange ε (Step ε)}
  {f : CallFailure}

private theorem looks (works : p.presence = some id) (seen : sight? id w = some sight)
    (act : PresenceId → Presence → StepApplied ε) :
    ∃ now, now.servers = sight.servers ∧ withPresence p w act = act id now := by
  obtain ⟨now, known, servers, _⟩ := sight_known seen
  exact ⟨now, servers, with_presence_found works known act⟩

/-! ## The steps without calls -/

/-- A restart marks its server and is reported. -/
theorem begin_restart_does (t : Mandate ε) (server : String) (works : p.presence = some id)
    (seen : sight? id w = some sight) (next : Step ε) :
    ∃ w', (chainDynamics c g).apply (.beginRestart server t.version (some next)) p w =
        .of (.next next) p w' ∧
      sight? id w' = some { sight with events := t.reported server :: sight.events } := by
  obtain ⟨now, _, applies⟩ := looks works seen (fun id _ =>
    .of (.goOn (some next)) p ((w.modifyPresence id (·.mark server)).emit (t.reported server)))
  have marked : sight? id (w.modifyPresence id (·.mark server)) = some sight :=
    (sight_modify_kept (f := (·.mark server)) (fun _ => ⟨rfl, rfl⟩)).trans seen
  exact ⟨_, applies, sight_emit rfl marked⟩

/-- The wait for the removal of a pod goes on while the pod is there. -/
theorem wait_removed_does (server : String) (old : Pod) (works : p.presence = some id)
    (seen : sight? id w = some sight) (goesOn : sight.stopping = false) :
    ∃ action w', (chainDynamics c g).apply (t.removal server old) p w = .of action p w' ∧
      sight? id w' = some sight ∧
      (action = .next (t.create server old) ∧
          (∀ pod, sight.servers.get? server = some pod → pod.metadata.uid ≠ old.metadata.uid) ∨
        ∃ wait, action = .delay wait (some (t.removal server old))) := by
  obtain ⟨now, known, same, _, _, stopping⟩ := sight_known seen
  have runs : ¬ w.isStopping = true := by
    rw [stopping, goesOn]
    exact Bool.false_ne_true
  have held : now.pod? server = sight.servers.get? server := by rw [Presence.pod?, same]
  by_cases gone : (now.pod? server).all (fun pod => pod.metadata.uid ≠ old.metadata.uid)
  · have applies : (chainDynamics c g).apply (t.removal server old) p w =
        .of (.next (t.create server old)) p (w.modifyPresence id (·.unmark server)) :=
      (with_presence_found works known _).trans (if_pos gone)
    have unmarked : sight? id (w.modifyPresence id (·.unmark server)) = some sight :=
      (sight_modify_kept (f := (·.unmark server)) (fun _ => ⟨rfl, rfl⟩)).trans seen
    refine ⟨_, _, applies, unmarked, .inl ⟨rfl, ?_⟩⟩
    intro pod found
    rw [held, found] at gone
    simpa using gone
  · have applies : (chainDynamics c g).apply (t.removal server old) p w =
        .of (.delay c.pollDelay (some (t.removal server old))) p w :=
      (with_presence_found works known _).trans ((if_neg gone).trans (if_neg runs))
    exact ⟨_, _, applies, seen, .inr ⟨_, rfl⟩⟩

/-- The wait for a server to be Ready is over only when the server has a
pod. -/
theorem wait_ready_does (server : String) (works : p.presence = some id)
    (seen : sight? id w = some sight) (goesOn : sight.stopping = false) :
    ∃ action, (chainDynamics c g).apply (.waitReady server none) p w = .of action p w ∧
      (action = .finish ∧ sight.servers.get? server ≠ none ∨
        ∃ wait, action = .delay wait (some (.waitReady server none))) := by
  obtain ⟨now, known, same, _, _, stopping⟩ := sight_known seen
  have runs : ¬ w.isStopping = true := by
    rw [stopping, goesOn]
    exact Bool.false_ne_true
  by_cases ready : now.isServerReady server = true
  · have applies : (chainDynamics c g).apply (.waitReady server none) p w = .of .finish p w :=
      (with_presence_found works known _).trans (if_pos ready)
    refine ⟨_, applies, .inl ⟨rfl, ?_⟩⟩
    intro nobody
    rw [Presence.isServerReady, Presence.pod?, same, nobody] at ready
    cases ready
  · have applies : (chainDynamics c g).apply (.waitReady server none) p w =
        .of (.delay c.pollDelay (some (.waitReady server none))) p w :=
      (with_presence_found works known _).trans ((if_neg ready).trans (if_neg runs))
    exact ⟨_, applies, .inr ⟨_, rfl⟩⟩

/-! ## Opening and closing a roll -/

/-- A roll that was not announced before is announced. -/
theorem announce_does (unmarked : p.contains Packet.rollMarkKey = false)
    (seen : sight? id w = some sight) (members : List String) :
    ∃ message, sight? id (announce id members p w).2 =
      some { sight with events := .rollStarting message :: sight.events } := by
  refine ⟨"Rolling restart of servers " ++ String.intercalate ", " members, ?_⟩
  simp only [announce, unmarked, Bool.false_eq_true, ↓reduceIte]
  exact (sight_modify_kept (f := (·.setRolling true)) (fun _ => ⟨rfl, rfl⟩)).trans
    (sight_emit rfl seen)

/-- A roll that was announced is closed. -/
theorem after_roll_does (unmarked : p.contains Packet.rollMarkKey = false)
    (seen : sight? id w = some sight) (next : Option (Step ε)) :
    ∃ p' w', (chainDynamics c g).apply (.afterRoll next) (marked p) w = .of (.goOn next) p' w' ∧
      sight? id w' = some { sight with events := .rollCompleted :: sight.events } := by
  have announced : (((marked p).value? Packet.rollMarkKey).bind (·.flag?)).isSome = true := by
    simp only [marked, unmarked, Bool.false_eq_true, ↓reduceIte, Packets.value_put_same]
    rfl
  have applies : (chainDynamics c g).apply (.afterRoll next) (marked p) w =
      .of (.goOn next) ((marked p).remove Packet.rollMarkKey)
        (c.countRoll (·.rollCompleted)
          ((w.modifyPresenceOf ((marked p).remove Packet.rollMarkKey) (·.setRolling false)).emit
            .rollCompleted)) := by
    show afterRoll c next (marked p) w = _
    simp only [afterRoll, announced, ↓reduceIte]
  refine ⟨_, _, applies, ?_⟩
  rw [sight_count_roll]
  refine sight_emit rfl ?_
  exact (sight_modify_of_kept (f := (·.setRolling false)) (fun _ => ⟨rfl, rfl⟩)).trans seen

/-! ## Calls -/

/-- The two calls of a restart are no lists. -/
theorem delete_continued (token : Option String) :
    (t.deleteCall old).continuedAt token = t.deleteCall old := rfl

theorem create_continued (token : Option String) :
    (t.createCall old).continuedAt token = t.createCall old := rfl

/-- A request step makes its call. -/
theorem request_does (single : ∀ token, r.continuedAt token = r) (works : p.presence = some id)
    (seen : sight? id w = some sight) :
    ∃ p' w', (chainDynamics c g).apply (.request r x) p w =
        .of (.suspend (.call r) (some (.response (sent r x)))) p' w' ∧
      p'.presence = some id ∧ sight? id w' = some sight := by
  have applies : (chainDynamics c g).apply (.request r x) p w = _ := send_asks c r x p w
  rw [single] at applies
  have aside : Aside p w (asked c x p w).1 (asked c x p w).2 := asked_aside
  exact ⟨_, _, applies, aside.presence.trans works, (sight_aside aside).trans seen⟩

/-- Whether a failed call is made again or not, nobody sees it in the
presence. -/
private theorem retry_unseen (c : Conduct) (id : PresenceId) (p : Packet) (w : World)
    (plain : x.conflict = none) (f : CallFailure) :
    ∃ verdict w', x.retryOrEnd c (.failure f) p w = .of verdict p w' ∧
      sight? id w' = sight? id w ∧
      ((∃ wait, verdict = .resend (some wait)) ∨ ∃ e, verdict = .proceed (.terminate e)) := by
  obtain ⟨verdict, w₁, w', retried, aside, told, outcome⟩ := retry_outcome c p w plain f
  refine ⟨verdict, w', retried, ?_, outcome⟩
  rcases told with rfl | rfl
  · exact sight_aside aside
  · exact (sight_give_up _ _).trans (sight_aside aside)

private theorem tidy_presence (verdict : Verdict ε) (p : Packet) :
    (Exchange.tidy verdict p).presence = p.presence := by
  cases verdict <;> rfl

/-- A failed call is made again after a wait, or the restart fails. -/
private theorem failure_outcome {verdict : Verdict ε} {w' : World}
    (waits : p.response? = some (.failure f)) (works : p.presence = some id)
    (judged : Step.judge c g (sent r x) (.failure f) (p.remove Packet.responseKey) w =
      .of verdict (p.remove Packet.responseKey) w')
    (outcome : (∃ wait, verdict = .resend (some wait)) ∨ ∃ e, verdict = .proceed (.terminate e)) :
    ∃ action p', (chainDynamics c g).apply (.response (sent r x)) p w = .of action p' w' ∧
      p'.presence = some id ∧
      ((∃ wait, action = .delay wait (some (.request r (sent r x)))) ∨
        ∃ e, action = .terminate e) := by
  refine ⟨_, _, settle_does waits judged, ?_, ?_⟩
  · rw [tidy_presence]
    exact works
  · rcases outcome with ⟨wait, rfl⟩ | ⟨e, rfl⟩
    · exact .inl ⟨wait, rfl⟩
    · exact .inr ⟨e, rfl⟩

private theorem retryable_found (retryable : isRetryable f.statusCode = true) :
    (Response.failure f).statusCode? ≠ some codeNotFound := by
  intro gone
  rw [show f.statusCode = some codeNotFound from gone] at retryable
  revert retryable
  decide

private theorem retryable_free (retryable : isRetryable f.statusCode = true) :
    (Response.failure f).statusCode? ≠ some codeConflict := by
  intro taken
  rw [show f.statusCode = some codeConflict from taken] at retryable
  revert retryable
  decide

theorem delete_refused (waits : p.response? = some (.failure f)) (works : p.presence = some id)
    (retryable : isRetryable f.statusCode = true) (seen : sight? id w = some sight) :
    ∃ action p' w', (chainDynamics c g).apply
        (.response (sent (t.deleteCall old) (t.deletion server old))) p w = .of action p' w' ∧
      p'.presence = some id ∧ sight? id w' = some sight ∧
      ((∃ wait, action = .delay wait
          (some (.request (t.deleteCall old) (sent (t.deleteCall old) (t.deletion server old))))) ∨
        ∃ e, action = .terminate e) := by
  have plain : (sent (t.deleteCall old) (t.deletion server old)).conflict = none := rfl
  obtain ⟨verdict, w', retried, unseen, outcome⟩ :=
    retry_unseen c id (p.remove Packet.responseKey) w plain f
  have judges : Step.judge c g (sent (t.deleteCall old) (t.deletion server old)) (.failure f)
      (p.remove Packet.responseKey) w = podDeletionFailed c server
        (sent (t.deleteCall old) (t.deletion server old)) (.failure f)
        (p.remove Packet.responseKey) w := rfl
  rw [podDeletionFailed, if_neg (retryable_found retryable), retried] at judges
  rcases outcome with ⟨wait, rfl⟩ | ⟨e, rfl⟩
  · obtain ⟨action, p', applies, works', goes⟩ :=
      failure_outcome waits works judges (.inl ⟨wait, rfl⟩)
    exact ⟨action, p', w', applies, works', unseen.trans seen, goes⟩
  · obtain ⟨action, p', applies, works', goes⟩ :=
      failure_outcome waits works judges (.inr ⟨e, rfl⟩)
    have unmarked : sight? id (w'.modifyPresenceOf (p.remove Packet.responseKey)
        (·.unmark server)) = sight? id w' :=
      sight_modify_of_kept (f := (·.unmark server)) (fun _ => ⟨rfl, rfl⟩)
    exact ⟨action, p', _, applies, works', unmarked.trans (unseen.trans seen), goes⟩

theorem create_refused (waits : p.response? = some (.failure f)) (works : p.presence = some id)
    (retryable : isRetryable f.statusCode = true) (seen : sight? id w = some sight) :
    ∃ action p' w', (chainDynamics c g).apply
        (.response (sent (t.createCall old) (t.creation server))) p w = .of action p' w' ∧
      p'.presence = some id ∧ sight? id w' = some sight ∧
      ((∃ wait, action = .delay wait
          (some (.request (t.createCall old) (sent (t.createCall old) (t.creation server))))) ∨
        ∃ e, action = .terminate e) := by
  have plain : (sent (t.createCall old) (t.creation server)).conflict = none := rfl
  obtain ⟨verdict, w', retried, unseen, outcome⟩ :=
    retry_unseen c id (p.remove Packet.responseKey) w plain f
  have judges : Step.judge c g (sent (t.createCall old) (t.creation server)) (.failure f)
      (p.remove Packet.responseKey) w = podCreationFailed c
        (sent (t.createCall old) (t.creation server)) (.failure f)
        (p.remove Packet.responseKey) w := rfl
  rw [podCreationFailed, if_neg (retryable_free retryable), retried] at judges
  obtain ⟨action, p', applies, works', goes⟩ := failure_outcome waits works judges outcome
  exact ⟨action, p', w', applies, works', unseen.trans seen, goes⟩

variable {response : Response}

/-- Once its pod is deleted, a restart waits for the removal. -/
theorem delete_succeeds (server : String) (old : Pod) (w : World)
    (waits : p.response? = some response) (works : p.presence = some id)
    (success : response.isFailure = false) :
    ∃ p', (chainDynamics c g).apply
        (.response (sent (t.deleteCall old) (t.deletion server old))) p w =
          .of (.next (t.removal server old)) p' w ∧
      p'.presence = some id := by
  have judged : Step.judge c g (sent (t.deleteCall old) (t.deletion server old)) response
      (p.remove Packet.responseKey) w =
        .of (.proceed (.next (t.removal server old))) (p.remove Packet.responseKey) w := by
    simp only [Step.judge, sent, Mandate.deletion, success, Bool.false_eq_true, ↓reduceIte]
    rfl
  exact ⟨_, settle_does waits judged, works⟩

/-- Once its pod is made, a restart waits for the server to be Ready. The
answer may be the first to tell of the pod. -/
theorem create_succeeds (server : String) (old : Pod)
    (waits : p.response? = some response) (works : p.presence = some id)
    (success : response.isFailure = false) (seen : sight? id w = some sight) :
    ∃ p' w' servers, (chainDynamics c g).apply
        (.response (sent (t.createCall old) (t.creation server))) p w =
          .of (.next (.waitReady server none)) p' w' ∧
      p'.presence = some id ∧ sight? id w' = some { sight with servers } ∧
      (∀ other, other ≠ server → servers.get? other = sight.servers.get? other) ∧
      (servers.get? server = sight.servers.get? server ∨
        ∃ pod, response.object?.bind Pod.ofObject? = some pod ∧
          servers.get? server = some pod) := by
  have judges : Step.judge c g (sent (t.createCall old) (t.creation server)) response
      (p.remove Packet.responseKey) w = podCreated server
        (sent (t.createCall old) (t.creation server)) response (p.remove Packet.responseKey) w := by
    simp only [Step.judge, sent, Mandate.creation, success, Bool.false_eq_true, ↓reduceIte]
  cases answer : response.object?.bind Pod.ofObject? with
  | none =>
    rw [podCreated, answer] at judges
    exact ⟨_, _, sight.servers, settle_does waits judges, works, seen, fun _ _ => rfl, .inl rfl⟩
  | some pod =>
    rw [podCreated, answer] at judges
    have modifies : w.modifyPresenceOf (p.remove Packet.responseKey) (fun presence =>
        if (presence.pod? server).isNone then presence.setPod server pod else presence) =
        w.modifyPresence id (fun presence =>
          if (presence.pod? server).isNone then presence.setPod server pod else presence) := by
      simp only [World.modifyPresenceOf, Packets.presence_remove, works]
    let told (servers : NameMap Pod) : NameMap Pod :=
      if (servers.get? server).isNone then servers.insert server pod else servers
    have changes : ∀ now : Presence,
        (if (now.pod? server).isNone then now.setPod server pod else now).servers =
            told now.servers ∧
          (if (now.pod? server).isNone then now.setPod server pod else now).domain =
            now.domain := by
      intro now
      simp only [told, Presence.pod?]
      by_cases nobody : (now.servers.get? server).isNone = true
      · simp only [nobody, ↓reduceIte, Presence.setPod, and_self]
      · simp only [nobody, Bool.false_eq_true, ↓reduceIte, and_self]
    have seen' := sight_modify_servers told changes seen
    rw [← modifies] at seen'
    refine ⟨_, _, told sight.servers, settle_does waits judges, works, seen', ?_, ?_⟩
    · intro other different
      simp only [told]
      split
      · rw [NameMap.get?_insert, if_neg different]
      · rfl
    · simp only [told]
      split
      · refine .inr ⟨pod, rfl, ?_⟩
        rw [NameMap.get?_insert, if_pos rfl]
      · exact .inl rfl

end DomainSteward.Restarts
