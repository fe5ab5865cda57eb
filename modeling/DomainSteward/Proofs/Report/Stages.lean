import DomainSteward.Proofs.Domain.StatusPatch
import DomainSteward.Proofs.Exchange.Draws
import DomainSteward.Proofs.Fiber.Acts
import DomainSteward.Proofs.Site.Path

/-! The stages of a status update. The status is computed and its patch is called for until that is
answered for good; a conflict has the domain read again and the status computed anew. Each move of the
fiber takes it to the next stage, whatever the calls are answered and however the world changes. -/
namespace DomainSteward.Updates
open Machine Moves Acts Exchanges Packets Draws Paths

variable {ε : Type} {c : Conduct} {g : GuestRules ε} {next : Option (Step ε)} {left n : UInt32}
  {w w' : World} {p : Packet} {q : Request} {a : Act (Step ε) Packet World}

/-! ## What an act does -/

/-- The call that an action waits for. -/
def callOf : StepAction ε → Option Request
  | .suspend (.call q) _ => some q
  | _ => none

/-- The call that an act makes. -/
def call? (c : Conduct) (g : GuestRules ε) (a : Act (Step ε) Packet World) : Option Request :=
  callOf (actionOf (chainDynamics c g) a.step ((chainDynamics c g).apply a.step a.packet a.world))

def isPatch (q : Request) : Bool :=
  match q.operation with
  | .patchStatus .. => true
  | _ => false

/-- An act calls for a patch. -/
def Patches (c : Conduct) (g : GuestRules ε) (a : Act (Step ε) Packet World) (q : Request) : Prop :=
  call? c g a = some q ∧ isPatch q = true

/-- A request carries a status to a domain: its body names the version that this domain has, null if
it has none, and is read as the status. -/
structure Carries (q : Request) (now : Presence) (d : Domain) (s : DomainStatus) : Prop where
  resource : q.resource = .domain
  place : q.namespaceName = some now.namespaceName
  body : ∃ fields metadata,
    q.operation = .patchStatus d.name { type := .merge, body := .object fields } ∧
      Json.fieldOf "metadata" fields = some (.object metadata) ∧
      Json.fieldOf "resourceVersion" metadata =
        some (d.metadata.resourceVersion.elim .null .text) ∧
      (Json.fieldOf "status" fields).bind DomainStatus.read = some s

/-- An act computes the status of the domain that the presence holds, and the request carries this
status and the version of this domain. -/
def Computes (next : Option (Step ε)) (a : Act (Step ε) Packet World) (q : Request) : Prop :=
  ∃ left now d s, a.step = .updateStatus left next ∧ a.world.presenceOf? a.packet = some now ∧
    now.domain = some d ∧ now.computeStatus d a.world.stamp = .ok s ∧ Carries q now d s

/-- An act handles a domain that was read again, and has the presence hold it. -/
def Rereads (c : Conduct) (g : GuestRules ε) (a : Act (Step ε) Packet World) : Prop :=
  ∃ x r d, a.step = .response x ∧ x.handler = .domainReread ∧ a.packet.response? = some r ∧
    r.object?.bind Domain.ofObject? = some d ∧
    ((chainDynamics c g).apply a.step a.packet a.world).world =
      a.world.modifyPresenceOf a.packet (·.setDomain d)

/-- An act handles an answer. -/
def Judges (x : Exchange ε (Step ε)) (r : Response) (a : Act (Step ε) Packet World) : Prop :=
  a.step = .response x ∧ a.packet.response? = some r

/-- Whether an act handles a conflict that a patch has met. -/
def meetsConflict (a : Act (Step ε) Packet World) : Bool :=
  match a.step with
  | .response { handler := .statusPatched, .. } =>
    (a.packet.response?.bind (·.failure?)).any (fun f => f.statusCode = some codeConflict)
  | _ => false

/-! ## Stages -/

/-- What an update calls for. -/
inductive Purpose where
  | write (q : Request)
  /-- The domain is read again. -/
  | read (q : Request)

namespace Purpose

def request : Purpose → Request
  | write q | read q => q

/-- The request is one of those that an update makes. -/
def Fits : Purpose → Prop
  | write q => ∃ now d s, q = patchStatusRequest now d s
  | read q => ∃ now d, q = readDomainRequest now d

/-- The exchange of the call, with so many conflicts left to bear. -/
def exchange (left : UInt32) (next : Option (Step ε)) : Purpose → Exchange ε (Step ε)
  | write _ =>
    { id := .patchStatus, request := none, handler := .statusPatched, sink := none, next
      conflict := if 0 < left then some (.rereadDomain (left - 1) next) else none }
  | read _ =>
    { id := .readDomain, request := none, handler := .domainReread, sink := none
      next := some (.updateStatus left next) }

/-- The exchange once the call is made. -/
def under (left : UInt32) (next : Option (Step ε)) (purpose : Purpose) : Exchange ε (Step ε) :=
  sent purpose.request (purpose.exchange left next)

theorem continued {purpose : Purpose} (fits : purpose.Fits) (token : Option String) :
    purpose.request.continuedAt token = purpose.request := by
  cases purpose with
  | write q =>
    obtain ⟨now, d, s, rfl⟩ := fits
    rfl
  | read q =>
    obtain ⟨now, d, rfl⟩ := fits
    rfl

end Purpose

/-- How far a call has come. -/
inductive Pose where
  | asks
  | waits
  | told
  | pauses

/-- How far an update has come: the conflicts that it has left to bear and the retries that it has
taken. -/
inductive Stage where
  | computing (left : UInt32)
  | calling (left n : UInt32) (purpose : Purpose) (pose : Pose)
  | rerouting (left n : UInt32)
  | past

/-- Where a fiber stands that has written a status, or has failed to. -/
inductive Over (next : Option (Step ε)) : Phase (Step ε) (Pending ε) → Prop where
  | ended (failure : Option FiberError) : Over next (.ended failure)
  | crashed (message : String) : Over next (.crashed message)
  | handed (step : Step ε) (follows : next = some step) : Over next (.running (some step))

/-- Where a fiber stands in a call. -/
inductive Stands (purpose : Purpose) (y : Exchange ε (Step ε)) :
    Pose → Fiber (Step ε) Packet (Pending ε) → Prop where
  | asks (p : Packet) (z : Exchange ε (Step ε)) (again : sent purpose.request z = y) :
      Stands purpose y .asks ⟨p, .running (some (.request purpose.request z))⟩
  | waits (p : Packet) (paired : p.exchange? = some y.id) :
      Stands purpose y .waits ⟨p, .waiting (.call purpose.request) (some (.response y))⟩
  | told (p : Packet) (r : Response) (told : p.response? = some r)
      (paired : p.exchange? = some y.id) : Stands purpose y .told ⟨p, .running (some (.response y))⟩
  | pauses (p : Packet) (wait : Duration) :
      Stands purpose y .pauses ⟨p, .sleeping wait (some (.request purpose.request y))⟩

/-- A call has a budget from which so many retries are taken; before it is made for the first time it
may have none. -/
def Funded (c : Conduct) (p : Packet) (w : World) (n : UInt32) : Pose → Prop
  | .asks => Drawn c p w n
  | _ => Holds c p w n

/-- A fiber stands at a stage of an update. -/
inductive At (c : Conduct) (next : Option (Step ε)) (w : World) :
    Stage → Fiber (Step ε) Packet (Pending ε) → Prop where
  | computing (p : Packet) (left : UInt32) (fresh : p.budget = none) :
      At c next w (.computing left) ⟨p, .running (some (.updateStatus left next))⟩
  | calling (f : Fiber (Step ε) Packet (Pending ε)) (left n : UInt32) (purpose : Purpose)
      (pose : Pose) (fits : purpose.Fits) (stands : Stands purpose (purpose.under left next) pose f)
      (funded : Funded c f.packet w n pose) (within : n ≤ c.tuning.maxRetries) :
      At c next w (.calling left n purpose pose) f
  | rerouting (p : Packet) (left n : UInt32) (holds : Holds c p w n)
      (within : n ≤ c.tuning.maxRetries) :
      At c next w (.rerouting left n) ⟨p, .running (some (.rereadDomain left next))⟩
  | past (p : Packet) (phase : Phase (Step ε) (Pending ε)) (past : Over next phase) :
      At c next w .past ⟨p, phase⟩

/-- What a move makes of the stage of an update, what is done by it, and where the fiber stands
then. -/
inductive Advances (c : Conduct) (g : GuestRules ε) (next : Option (Step ε)) :
    Stage → Option (Act (Step ε) Packet World) → Stage → Phase (Step ε) (Pending ε) → Prop where
  | computes (left : UInt32) (a : Act (Step ε) Packet World) (q : Request)
      (phase : Phase (Step ε) (Pending ε)) (computes : Computes next a q)
      (silent : call? c g a = none) :
      Advances c g next (.computing left) (some a) (.calling left 0 (.write q) .asks) phase
  /-- There is nothing to write, or no status. -/
  | skips (left : UInt32) (a : Act (Step ε) Packet World) (phase : Phase (Step ε) (Pending ε))
      (step : a.step = .updateStatus left next) (silent : call? c g a = none) :
      Advances c g next (.computing left) (some a) .past phase
  | calls (left n : UInt32) (purpose : Purpose) (a : Act (Step ε) Packet World)
      (phase : Phase (Step ε) (Pending ε)) (fits : purpose.Fits)
      (step : ∃ z, a.step = .request purpose.request z)
      (calls : call? c g a = some purpose.request) :
      Advances c g next (.calling left n purpose .asks) (some a) (.calling left n purpose .waits)
        phase
  | answered (left n : UInt32) (purpose : Purpose) (phase : Phase (Step ε) (Pending ε)) :
      Advances c g next (.calling left n purpose .waits) none (.calling left n purpose .told) phase
  /-- Its call panics, or is answered while the operator is stopping. -/
  | aborts (left n : UInt32) (purpose : Purpose) (phase : Phase (Step ε) (Pending ε)) :
      Advances c g next (.calling left n purpose .waits) none .past phase
  | again (left n : UInt32) (purpose : Purpose) (a : Act (Step ε) Packet World)
      (phase : Phase (Step ε) (Pending ε)) (f : CallFailure)
      (judges : Judges (purpose.under left next) (.failure f) a)
      (other : f.statusCode ≠ some codeConflict) (within : n ≤ c.tuning.maxRetries)
      (more : n + 1 ≤ c.tuning.maxRetries) (silent : call? c g a = none) :
      Advances c g next (.calling left n purpose .told) (some a)
        (.calling left (n + 1) purpose .pauses) phase
  | wakes (left n : UInt32) (purpose : Purpose) (phase : Phase (Step ε) (Pending ε)) :
      Advances c g next (.calling left n purpose .pauses) none (.calling left n purpose .asks) phase
  | reroutes (left n : UInt32) (q : Request) (a : Act (Step ε) Packet World)
      (phase : Phase (Step ε) (Pending ε)) (f : CallFailure)
      (judges : Judges ((Purpose.write q).under left next) (.failure f) a)
      (conflict : f.statusCode = some codeConflict) (more : 0 < left)
      (silent : call? c g a = none) :
      Advances c g next (.calling left n (.write q) .told) (some a) (.rerouting (left - 1) n) phase
  | reads (left n : UInt32) (q : Request) (a : Act (Step ε) Packet World)
      (phase : Phase (Step ε) (Pending ε)) (step : a.step = .rereadDomain left next)
      (silent : call? c g a = none) :
      Advances c g next (.rerouting left n) (some a) (.calling left n (.read q) .asks) phase
  /-- The domain is not known any more. -/
  | loses (left n : UInt32) (a : Act (Step ε) Packet World) (phase : Phase (Step ε) (Pending ε))
      (step : a.step = .rereadDomain left next) (silent : call? c g a = none) :
      Advances c g next (.rerouting left n) (some a) .past phase
  | rereads (left n : UInt32) (q : Request) (a : Act (Step ε) Packet World)
      (phase : Phase (Step ε) (Pending ε)) (rereads : Rereads c g a)
      (silent : call? c g a = none) :
      Advances c g next (.calling left n (.read q) .told) (some a) (.computing left) phase
  /-- The answer is the last one; a conflict is what the fiber ends with. -/
  | closes (left n : UInt32) (purpose : Purpose) (a : Act (Step ε) Packet World)
      (phase : Phase (Step ε) (Pending ε)) (r : Response)
      (judges : Judges (purpose.under left next) r a)
      (conflict : ∀ f, r = .failure f → f.statusCode = some codeConflict →
        phase = .ended (some f.toFiberError))
      (silent : call? c g a = none) :
      Advances c g next (.calling left n purpose .told) (some a) .past phase

/-! ## What each step does -/

theorem over_stands (next : Option (Step ε)) : Over next (standsAt next) := by
  cases next with
  | none => exact .ended none
  | some step => exact .handed step rfl

/-- What applying a step does to a fiber at a stage of an update. -/
private structure Does (c : Conduct) (g : GuestRules ε) (next : Option (Step ε)) (stage : Stage)
    (step : Step ε) (p : Packet) (w : World) : Prop where
  childless : born (actionOf (chainDynamics c g) step ((chainDynamics c g).apply step p w)) = []
  goes : ∃ stage', ∀ k,
    At c next (worldAfter (chainDynamics c g) ((chainDynamics c g).apply step p w).world
        (actionOf (chainDynamics c g) step ((chainDynamics c g).apply step p w))) stage'
      ⟨packetAfter (chainDynamics c g) ((chainDynamics c g).apply step p w).packet
          (actionOf (chainDynamics c g) step ((chainDynamics c g).apply step p w)),
        phaseAfter k (actionOf (chainDynamics c g) step ((chainDynamics c g).apply step p w))⟩ ∧
    Advances c g next stage (some ⟨step, p, w⟩) stage'
      (phaseAfter k (actionOf (chainDynamics c g) step ((chainDynamics c g).apply step p w)))

private theorem call_of {step : Step ε} {action : StepAction ε} {p' : Packet}
    (applies : (chainDynamics c g).apply step p w = .of action p' w') :
    call? c g ⟨step, p, w⟩ = callOf action := by
  unfold call?
  rw [applies]
  rfl

private theorem no_call_go_on (next : Option (Step ε)) :
    callOf (.goOn next : StepAction ε) = none := by
  cases next <;> rfl

private theorem does_of {stage : Stage} {step : Step ε} {action : StepAction ε} {p' : Packet}
    (stage' : Stage)
    (applies : (chainDynamics c g).apply step p w = .of action p' w') (childless : born action = [])
    (goes : ∀ k, At c next (worldAfter (chainDynamics c g) w' action) stage'
        ⟨packetAfter (chainDynamics c g) p' action, phaseAfter k action⟩ ∧
      Advances c g next stage (some ⟨step, p, w⟩) stage' (phaseAfter k action)) :
    Does c g next stage step p w := by
  have taken : actionOf (chainDynamics c g) step ((chainDynamics c g).apply step p w) = action := by
    rw [applies]
    rfl
  refine ⟨taken.symm ▸ childless, stage', fun k => ?_⟩
  rw [taken, applies]
  exact goes k

private theorem does_hand_over {stage : Stage} {step : Step ε} {p' : Packet}
    (applies : (chainDynamics c g).apply step p w = .of (.goOn next) p' w')
    (advances : call? c g ⟨step, p, w⟩ = none →
      Advances c g next stage (some ⟨step, p, w⟩) .past (standsAt next)) :
    Does c g next stage step p w := by
  refine does_of .past applies (born_go_on next) fun k => ?_
  have stands : phaseAfter k (.goOn next : StepAction ε) = standsAt next := by
    cases next <;> rfl
  rw [stands]
  exact ⟨.past _ _ (over_stands next), advances ((call_of applies).trans (no_call_go_on next))⟩

private theorem does_end {stage : Stage} {step : Step ε} {p' : Packet} {e : FiberError}
    (applies : (chainDynamics c g).apply step p w = .of (.terminate e) p' w')
    (advances : call? c g ⟨step, p, w⟩ = none →
      Advances c g next stage (some ⟨step, p, w⟩) .past (.ended (some e))) :
    Does c g next stage step p w :=
  does_of _ applies rfl fun _ => ⟨.past _ _ (.ended _), advances (call_of applies)⟩

/-- A step that panics ends its fiber as one that fails. -/
private theorem does_panic {stage : Stage} {step : Step ε} {panic : Panic} {p' : Packet}
    (applies : (chainDynamics c g).apply step p w = .panicked panic p' w')
    (advances : call? c g ⟨step, p, w⟩ = none → ∀ e,
      Advances c g next stage (some ⟨step, p, w⟩) .past (.ended (some e))) :
    Does c g next stage step p w := by
  obtain ⟨e, taken⟩ : ∃ e, actionOf (chainDynamics c g) step
      ((chainDynamics c g).apply step p w) = .terminate e := by
    rw [applies]
    exact ⟨_, rfl⟩
  have silent : call? c g ⟨step, p, w⟩ = none := by
    unfold call?
    rw [taken]
    rfl
  refine ⟨by rw [taken]; rfl, .past, fun _ => ?_⟩
  rw [taken]
  exact ⟨.past _ _ (.ended _), advances silent e⟩

/-- The write of a status carries it. -/
private theorem patch_carries (now : Presence) (d : Domain) (s : DomainStatus) :
    Carries (patchStatusRequest now d s) now d s := by
  have body : (patchStatusRequest now d s).operation = .patchStatus d.name
      { type := .merge
        body := .object
          [("metadata", .object [("resourceVersion", Json.ofText? d.metadata.resourceVersion)]),
            ("status", .object (StatusPatches.named s))] } := by
    rw [patchStatusRequest, StatusPatches.patch_object]
  refine ⟨rfl, rfl, _, _, body, if_pos rfl, ?_, ?_⟩
  · cases d.metadata.resourceVersion <;> rfl
  · simp [Json.fieldOf, StatusPatches.named_read]

/-- A step that needs the presence finds it, or ends the fiber. -/
private theorem looks (act : PresenceId → Presence → StepApplied ε) :
    (∃ id now, w.presenceOf? p = some now ∧ withPresence p w act = act id now) ∨
      withPresence p w act = .of (.terminate missingPresence) p w := by
  cases works : p.presence with
  | none => exact .inr (by simp [withPresence, works])
  | some id =>
    cases known : w.presence? id with
    | none => exact .inr (by simp [withPresence, works, known])
    | some now =>
      exact .inl ⟨id, now, by simp [World.presenceOf?, works, known],
        by simp [withPresence, works, known]⟩

private theorem computing_does (fresh : p.budget = none) :
    Does c g next (.computing left) (.updateStatus left next) p w := by
  have applies : (chainDynamics c g).apply (.updateStatus left next) p w =
      updateStatus left next p w := rfl
  unfold updateStatus at applies
  rcases looks (ε := ε) _ with ⟨id, now, known, found⟩ | missing
  · rw [found] at applies
    cases domain : now.domain with
    | none =>
      simp only [domain] at applies
      exact does_hand_over applies (.skips _ _ _ rfl)
    | some d =>
      simp only [domain] at applies
      cases computed : now.computeStatus d w.stamp with
      | error panic =>
        simp only [computed] at applies
        exact does_panic applies fun silent _ => .skips _ _ _ rfl silent
      | ok s =>
        simp only [computed] at applies
        split at applies
        · exact does_hand_over applies (.skips _ _ _ rfl)
        · have carries := patch_carries now d s
          have least : (0 : UInt32) ≤ c.tuning.maxRetries :=
            UInt32.le_iff_toNat_le.mpr (Nat.zero_le _)
          exact does_of _ applies rfl fun k => ⟨.calling _ left 0 (.write (patchStatusRequest now d s))
            .asks ⟨now, d, s, rfl⟩ (.asks p _ rfl) (.inl ⟨fresh, rfl⟩) least,
            .computes _ _ _ _ ⟨left, now, d, s, rfl, known, domain, computed, carries⟩
              (call_of applies)⟩
  · rw [missing] at applies
    exact does_end applies (.skips _ _ _ rfl)

private theorem rerouting_does (holds : Holds c p w n) (within : n ≤ c.tuning.maxRetries) :
    Does c g next (.rerouting left n) (.rereadDomain left next) p w := by
  have applies : (chainDynamics c g).apply (.rereadDomain left next) p w =
      rereadDomain left next p w := rfl
  unfold rereadDomain at applies
  rcases looks (ε := ε) _ with ⟨id, now, _, found⟩ | missing
  · rw [found] at applies
    cases domain : now.domain with
    | none =>
      simp only [domain] at applies
      exact does_hand_over applies (.loses _ _ _ _ rfl)
    | some d =>
      simp only [domain] at applies
      exact does_of _ applies rfl fun k => ⟨.calling _ left n (.read (readDomainRequest now d))
        .asks ⟨now, d, rfl⟩ (.asks p _ rfl) (.inr holds) within,
        .reads _ _ _ _ _ rfl (call_of applies)⟩
  · rw [missing] at applies
    exact does_end applies (.loses _ _ _ _ rfl)

variable {purpose : Purpose}

private theorem asking_does {z : Exchange ε (Step ε)} (fits : purpose.Fits)
    (again : sent purpose.request z = purpose.under left next) (drawn : Drawn c p w n)
    (within : n ≤ c.tuning.maxRetries) :
    Does c g next (.calling left n purpose .asks) (.request purpose.request z) p w := by
  have applies : (chainDynamics c g).apply (.request purpose.request z) p w = _ :=
    send_asks c purpose.request z p w
  rw [Purpose.continued fits, again] at applies
  have paired : (asked c z p w).1.exchange? = some (purpose.under left next).id := by
    rw [asked_exchange, ← again]
    rfl
  exact does_of _ applies rfl fun k => ⟨.calling _ left n purpose .waits fits (.waits _ paired)
    (asked_holds drawn) within, .calls _ _ _ _ _ fits ⟨z, rfl⟩ (call_of applies)⟩

private theorem under_request (purpose : Purpose) :
    (purpose.under left next).request = some purpose.request := rfl

/-- A failure is left to the retry budget, whatever was called for. -/
private theorem judge_failure (f : CallFailure) (p : Packet) (w : World) :
    Step.judge c g (purpose.under left next) (.failure f) p w =
      (purpose.under left next).retryOrEnd c (.failure f) p w := by
  cases purpose <;> rfl

/-- A failure is borne, has the domain read again, or ends the fiber. -/
private theorem failed_does {f : CallFailure} (fits : purpose.Fits)
    (told : p.response? = some (.failure f))
    (paired : p.exchange? = some (purpose.under left next).id) (holds : Holds c p w n)
    (within : n ≤ c.tuning.maxRetries) :
    Does c g next (.calling left n purpose .told) (.response (purpose.under left next)) p w := by
  have other : Packet.requestKey ≠ Packet.responseKey := by decide
  have still : (purpose.under left next).isPaired (p.remove Packet.responseKey) = true := by
    rw [Exchange.isPaired, Packet.exchange?, value_remove_other other, under_request]
    exact decide_eq_true paired
  have judges : Judges (purpose.under left next) (.failure f)
      ⟨.response (purpose.under left next), p, w⟩ := ⟨rfl, told⟩
  have held : Holds c (p.remove Packet.responseKey) w n := holds_kept holds rfl
  obtain ⟨verdict, w', retried, decides⟩ := retry_decides held still f
  have applies : (chainDynamics c g).apply (.response (purpose.under left next)) p w = _ :=
    settle_does told ((judge_failure f _ w).trans retried)
  cases decides with
  | again wait other more holds =>
    exact does_of _ applies rfl fun k => ⟨.calling _ left (n + 1) purpose .pauses fits
      (.pauses _ wait) holds more, .again _ _ _ _ _ f judges other within more (call_of applies)⟩
  | reroutes conflict step holds =>
    cases purpose with
    | read q => cases step
    | write q =>
      have bears : ((Purpose.write q).under left next).conflict =
          if 0 < left then some (.rereadDomain (left - 1) next) else none := rfl
      have more : 0 < left := by
        by_contra none
        rw [bears, if_neg none] at step
        cases step
      rw [if_pos more] at bears
      have follows : ((Purpose.write q).under left next).actionOf .reroute =
          .next (.rereadDomain (left - 1) next) := by
        rw [Exchange.actionOf, bears]
        rfl
      rw [follows] at applies
      exact does_of _ applies rfl fun k => ⟨.rerouting _ (left - 1) n
        (holds_kept (p := p.remove Packet.responseKey) holds rfl) within,
        .reroutes _ _ _ _ _ f judges conflict more (call_of applies)⟩
  | ends =>
    exact does_end applies (.closes _ _ _ _ _ _ judges fun _ same _ => by cases same; rfl)

/-- A success has the domain held and goes on. -/
private theorem succeeded_does {r : Response} (told : p.response? = some r)
    (success : r.isFailure = false) :
    Does c g next (.calling left n purpose .told) (.response (purpose.under left next)) p w := by
  have judges : Judges (purpose.under left next) r ⟨.response (purpose.under left next), p, w⟩ :=
    ⟨rfl, told⟩
  have harmless : ∀ f, r = .failure f → f.statusCode = some codeConflict →
      ∀ phase : Phase (Step ε) (Pending ε), phase = .ended (some f.toFiberError) := by
    rintro f rfl
    cases success
  cases purpose with
  | write q =>
    have judged : Step.judge c g ((Purpose.write q).under left next) r
        (p.remove Packet.responseKey) w = statusPatched ((Purpose.write q).under left next) r
          (p.remove Packet.responseKey) w := by
      simp only [Step.judge, Purpose.under, sent, Purpose.exchange, success, Bool.false_eq_true,
        ↓reduceIte]
    have applies : (chainDynamics c g).apply (.response ((Purpose.write q).under left next)) p w =
      _ := settle_does told judged
    exact does_hand_over applies (.closes _ _ _ _ _ r judges fun f same conflict =>
      harmless f same conflict _)
  | read q =>
    have judged : Step.judge c g ((Purpose.read q).under left next) r
        (p.remove Packet.responseKey) w = domainReread ((Purpose.read q).under left next) r
          (p.remove Packet.responseKey) w := by
      simp only [Step.judge, Purpose.under, sent, Purpose.exchange, success, Bool.false_eq_true,
        ↓reduceIte]
    cases brought : r.object?.bind Domain.ofObject? with
    | none =>
      rw [domainReread, brought] at judged
      have applies : (chainDynamics c g).apply (.response ((Purpose.read q).under left next)) p w =
        _ := settle_does told judged
      exact does_end applies (.closes _ _ _ _ _ r judges fun f same conflict =>
        harmless f same conflict _)
    | some d =>
      rw [domainReread, brought] at judged
      have applies : (chainDynamics c g).apply (.response ((Purpose.read q).under left next)) p w =
        .of (.next (.updateStatus left next)) _ (w.modifyPresenceOf p (·.setDomain d)) :=
        settle_does told judged
      have held : Rereads c g ⟨.response ((Purpose.read q).under left next), p, w⟩ :=
        ⟨_, r, d, rfl, rfl, told, brought, by rw [applies]; rfl⟩
      exact does_of _ applies rfl fun k => ⟨.computing _ left rfl,
        .rereads _ _ _ _ _ held (call_of applies)⟩

/-! ## Moves -/

variable {m m' : ChainMachine ε} {i : FiberId} {move : Move Answer} {stage : Stage}
  {f : Fiber (Step ε) Packet (Pending ε)}

/-- What a move of the fiber of an update has made of it. -/
private def Goes (c : Conduct) (g : GuestRules ε) (next : Option (Step ε)) (i : FiberId)
    (m : ChainMachine ε) (stage : Stage) (move : Move Answer) (m' : ChainMachine ε) : Prop :=
  ∃ stage' f', m'.fiber? i = some f' ∧ At c next m'.world stage' f' ∧
    Advances c g next stage (act? m i (.move i move)) stage' f'.phase

private theorem does_moves {step : Step ε} (found : m.fiber? i = some ⟨p, .running (some step)⟩)
    (does : Does c g next stage step p m.world)
    (moved : m.move? (chainDynamics c g) i move = some m') : Goes c g next i m stage move m' := by
  obtain ⟨childless, stage', goes⟩ := does
  obtain ⟨here, world, _⟩ := run_alone found moved childless
  obtain ⟨stands, advances⟩ := goes m.fibers.length
  obtain ⟨_, found', shape⟩ := move_iff_moved.mp moved
  cases found.symm.trans found'
  cases shape with
  | step =>
    refine ⟨stage', _, here, world ▸ stands, ?_⟩
    rw [act_applied found]
    exact advances

private theorem received_budget (a : Answer) :
    ((chainDynamics c g).receive (.call q) a w).budget? p = w.budget? p := by
  unfold World.budget?
  cases a with
  | response r =>
    show p.budget.bind ((c.count _ w).budgets[·]?) = _
    rw [count_budgets]
  | done => rfl

private theorem calling_moves {pose : Pose} (fits : purpose.Fits)
    (stands : Stands purpose (purpose.under left next) pose f)
    (funded : Funded c f.packet m.world n pose) (within : n ≤ c.tuning.maxRetries)
    (found : m.fiber? i = some f) (proper : Proper m (.move i move))
    (moved : m.move? (chainDynamics c g) i move = some m') :
    Goes c g next i m (.calling left n purpose pose) move m' := by
  cases stands with
  | asks p z again => exact does_moves found (asking_does fits again funded within) moved
  | told p r told paired =>
    cases r with
    | failure f => exact does_moves found (failed_does fits told paired funded within) moved
    | object | list | status => exact does_moves found (succeeded_does told rfl) moved
  | waits p paired =>
    have idle : act? m i (.move i move : Happening Answer World) = none :=
      act_none fun _ _ _ running => by cases found.symm.trans running
    obtain ⟨_, found', shape⟩ := move_iff_moved.mp moved
    cases found.symm.trans found'
    cases shape with
    | cancel _ _ _ a =>
      exact ⟨.past, _, took_fiber found, .past _ _ (.ended _), idle ▸ .aborts _ _ _ _⟩
    | crash _ _ _ message =>
      exact ⟨.past, _, replace_fiber found, .past _ _ (.crashed _), idle ▸ .aborts _ _ _ _⟩
    | answer _ _ _ a =>
      obtain ⟨r, rfl⟩ := proper i a p _ _ rfl found
      have told : (p.put Packet.responseKey (.response r)).response? = some r := by
        rw [Packet.response?, value_put_same]
        rfl
      have other : Packet.requestKey ≠ Packet.responseKey := by decide
      have still : (p.put Packet.responseKey (.response r)).exchange? =
          some (purpose.under left next).id := by
        rw [Packet.exchange?, value_put_other other]
        exact paired
      exact ⟨.calling left n purpose .told, _, replace_fiber found,
        .calling _ _ _ _ _ fits (.told _ r told still) (holds_kept funded (received_budget _)) within,
        idle ▸ .answered _ _ _ _⟩
  | pauses p wait =>
    have idle : act? m i (.move i move : Happening Answer World) = none :=
      act_none fun _ _ _ running => by cases found.symm.trans running
    obtain ⟨_, found', shape⟩ := move_iff_moved.mp moved
    cases found.symm.trans found'
    cases shape with
    | wake =>
      exact ⟨.calling left n purpose .asks, _, replace_fiber found,
        .calling _ _ _ _ _ fits (.asks p _ rfl) (.inr funded) within, idle ▸ .wakes _ _ _ _⟩

/-- Whatever move the fiber of an update makes before it hands over, it stands at a stage again. -/
theorem at_moves (stands : At c next m.world stage f) (found : m.fiber? i = some f)
    (busy : ∀ step, next = some step → f.phase ≠ .running (some step))
    (proper : Proper m (.move i move)) (moved : m.move? (chainDynamics c g) i move = some m') :
    ∃ stage' f', m'.fiber? i = some f' ∧ At c next m'.world stage' f' ∧
      Advances c g next stage (act? m i (.move i move)) stage' f'.phase := by
  cases stands with
  | computing p left fresh => exact does_moves found (computing_does fresh) moved
  | calling f left n purpose pose fits stands funded within =>
    exact calling_moves fits stands funded within found proper moved
  | rerouting p left n holds within => exact does_moves found (rerouting_does holds within) moved
  | past p phase past =>
    obtain ⟨_, found', shape⟩ := move_iff_moved.mp moved
    cases found.symm.trans found'
    cases past with
    | ended | crashed => cases shape
    | handed step follows => exact absurd rfl (busy step follows)

/-- A fiber can go on by itself, or whatever its call is answered. -/
def GoesOn (c : Conduct) (g : GuestRules ε) (m : ChainMachine ε) (i : FiberId) : Prop :=
  (∃ m', m.move? (chainDynamics c g) i .run = some m') ∨
    (∃ m', m.move? (chainDynamics c g) i .wake = some m') ∨
    ∀ r, ∃ m', m.move? (chainDynamics c g) i (.answer (.response r)) = some m'

/-- An update that is not over goes on. -/
theorem at_goes_on (stands : At c next m.world stage f) (found : m.fiber? i = some f)
    (g : GuestRules ε) : Over next f.phase ∨ GoesOn c g m i := by
  have applies {p : Packet} {step : Step ε}
      (found : m.fiber? i = some ⟨p, .running (some step)⟩) : GoesOn c g m i :=
    .inl ⟨_, move_iff_moved.mpr ⟨_, found, .step p step⟩⟩
  cases stands with
  | computing | rerouting => exact .inr (applies found)
  | calling f left n purpose pose fits stands =>
    cases stands with
    | asks | told => exact .inr (applies found)
    | waits p => exact .inr (.inr (.inr fun r => ⟨_, by simp [move?, found]; rfl⟩))
    | pauses p wait => exact .inr (.inr (.inl ⟨_, move_iff_moved.mpr ⟨_, found, .wake p wait _⟩⟩))
  | past p phase past => exact .inl past

/-- A stage is kept as long as nobody else takes from the budget. -/
theorem at_kept (stands : At c next w stage f) (same : w'.budget? f.packet = w.budget? f.packet) :
    At c next w' stage f := by
  cases stands with
  | computing p left fresh => exact .computing p left fresh
  | calling f left n purpose pose fits stands funded within =>
    refine .calling f left n purpose pose fits stands ?_ within
    cases pose with
    | asks => exact drawn_kept funded same
    | waits | told | pauses => exact Draws.holds_kept funded same
  | rerouting p left n holds within =>
    exact .rerouting p left n (Draws.holds_kept holds same) within
  | past p phase past => exact .past p phase past

end DomainSteward.Updates
