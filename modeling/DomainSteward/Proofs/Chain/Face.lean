import DomainSteward.Proofs.Exchange.Steps
import DomainSteward.Proofs.Roll.Steps

/-! What a reconcile shows of a domain: the domain itself, whether a roll is
under way, the recorded failure, and where rolls began and ended. Each step is
said once with what it changes of that; most steps change nothing. -/
namespace DomainSteward.Faces
open World Exchanges Packets RollSteps

variable {ε : Type}

/-- The beginning of a roll, or its end. -/
def isMilestone : DomainEvent → Bool
  | .rollStarting _ | .rollCompleted => true
  | _ => false

/-- The beginnings and ends of rolls that were reported, latest first. -/
def milestones (w : World) : List DomainEvent :=
  w.notes.filterMap (fun
    | (_, .event e) => if isMilestone e then some e else none
    | _ => none)

/-- What is shown of a domain. -/
structure Face where
  domain : Option Domain
  rolling : Bool
  failure : Option RecordedFailure
  events : List DomainEvent

namespace Face

def announced (face : Face) (message : String) : Face :=
  { face with rolling := true, events := .rollStarting message :: face.events }

def closed (face : Face) : Face :=
  { face with rolling := false, events := .rollCompleted :: face.events }

/-- A failed call has been given up. Only who tells the presence itself is heard, and benign
failures are not told. -/
def told (id : PresenceId) (sink : Option FailureSink) (f : CallFailure) (face : Face) : Face :=
  if f.isBenign = false ∧ sink = some (.domain id) then
    { face with failure := some ⟨kubernetesFailureReason, f.message⟩ }
  else face

@[simp] theorem told_domain (id : PresenceId) (sink : Option FailureSink) (f : CallFailure)
    (face : Face) : (told id sink f face).domain = face.domain := by
  unfold told
  split <;> rfl

end Face

/-- What a presence shows when these milestones have been reported. -/
def faceOf (events : List DomainEvent) (p : Presence) : Face :=
  ⟨p.domain, p.rolling, p.failure, events⟩

/-- What is shown of a domain, if there is its presence. -/
def face? (id : PresenceId) (w : World) : Option Face :=
  (w.presence? id).map (faceOf (milestones w))

variable {c : Conduct} {g : GuestRules ε} {id other : PresenceId} {w w' : World}
  {p p' : Packet} {x : Exchange ε (Step ε)} {r : Response} {q : Request} {f : CallFailure}
  {next : Option (Step ε)}

/-! ## Writers of the world -/

theorem face_modify {f : Presence → Presence} {change : Face → Face}
    (changes : ∀ events now, faceOf events (f now) = change (faceOf events now)) :
    face? id (w.modifyPresence id f) = (face? id w).map change := by
  have events : milestones (w.modifyPresence id f) = milestones w := rfl
  rw [face?, events, Worlds.presence_modify_same, face?, Option.map_map, Option.map_map]
  exact congrFun (congrArg Option.map (funext (changes _))) _

/-- A change of a presence that is not shown. -/
theorem face_modify_kept {f : Presence → Presence}
    (kept : ∀ events now, faceOf events (f now) = faceOf events now) :
    face? id (w.modifyPresence other f) = face? id w := by
  by_cases same : other = id
  · subst same
    have shown : face? other (w.modifyPresence other f) = (face? other w).map (fun face => face) :=
      face_modify kept
    exact shown.trans (congrFun Option.map_id _)
  · have events : milestones (w.modifyPresence other f) = milestones w := rfl
    rw [face?, events, Worlds.presence_modify, if_neg same, face?]

/-- A change of another presence is not shown. -/
theorem face_modify_other (f : Presence → Presence) (foreign : other ≠ id) :
    face? id (w.modifyPresence other f) = face? id w := by
  have events : milestones (w.modifyPresence other f) = milestones w := rfl
  rw [face?, events, Worlds.presence_modify, if_neg foreign, face?]

theorem face_modify_of {f : Presence → Presence} {change : Face → Face}
    (changes : ∀ events now, faceOf events (f now) = change (faceOf events now)) :
    face? id (w.modifyPresenceOf p f) =
      (face? id w).map (fun face => if p.presence = some id then change face else face) := by
  unfold World.modifyPresenceOf
  split
  · rename_i works works'
    by_cases same : works = id
    · subst same
      simp only [works', if_pos]
      exact face_modify changes
    · have foreign : p.presence ≠ some id := fun mine =>
        same (Option.some.inj (works'.symm.trans mine))
      simp only [foreign, if_false]
      exact (face_modify_other f same).trans (congrFun Option.map_id _).symm
  · rename_i works
    simp [works]

theorem face_modify_of_kept {f : Presence → Presence}
    (kept : ∀ events now, faceOf events (f now) = faceOf events now) :
    face? id (w.modifyPresenceOf p f) = face? id w := by
  unfold World.modifyPresenceOf
  split
  · exact face_modify_kept kept
  · rfl

/-- What is no milestone is not shown when it is reported. -/
theorem face_emit {e : DomainEvent} (minor : isMilestone e = false) :
    face? id (w.emit e) = face? id w := by
  have events : milestones (w.emit e) = milestones w := by
    simp [milestones, World.emit, World.note, minor]
  rw [face?, events]
  rfl

theorem face_aside (aside : Aside p w p' w') : face? id w' = face? id w := by
  rw [face?, aside.known, milestones, aside.notes, face?, milestones]

@[simp] theorem face_count (change : Metrics → Metrics) :
    face? id (c.count change w) = face? id w :=
  face_aside (Aside.count (p := ({} : Packet)))

@[simp] theorem face_count_roll (change : Metrics → Metrics) :
    face? id (c.countRoll change w) = face? id w := by
  unfold Conduct.countRoll
  split <;> rfl

@[simp] theorem face_modify_budget (change : RetryBudget → RetryBudget) :
    face? id (w.modifyBudget p change) = face? id w :=
  face_aside (Aside.modifyBudget (p := p))

private theorem told_unheard {sink : Option FailureSink}
    (unheard : f.isBenign = true ∨ sink ≠ some (.domain id)) (shown : Option Face) :
    shown.map (Face.told id sink f) = shown := by
  have same : Face.told id sink f = fun face => face := by
    funext face
    rcases unheard with benign | foreign
    · simp [Face.told, benign]
    · simp [Face.told, foreign]
  rw [same]
  exact congrFun Option.map_id _

theorem face_give_up :
    face? id (x.giveUp (some (.failure f)) w) = (face? id w).map (Face.told id x.sink f) := by
  cases benign : f.isBenign with
  | true =>
    rw [told_unheard (.inl benign)]
    cases told : x.sink <;> simp [Exchange.giveUp, told, Response.failure?, benign]
  | false =>
    cases told : x.sink with
    | none =>
      rw [told_unheard (.inr (by simp))]
      simp [Exchange.giveUp, told]
    | some sink =>
      simp only [Exchange.giveUp, told, Option.bind_some, Response.failure?, benign,
        Bool.false_eq_true, if_false]
      cases sink with
      | recorder own =>
        rw [told_unheard (.inr (by simp))]
        rfl
      | domain teller =>
        have heard : face? id (w.tell (.domain teller) kubernetesFailureReason f.message) =
            face? id (w.modifyPresence teller
              (·.recordFailure kubernetesFailureReason f.message)) :=
          face_emit (w := w.modifyPresence teller _) rfl
        rw [heard]
        by_cases own : teller = id
        · subst own
          refine face_modify fun events now => ?_
          simp [Face.told, benign, faceOf, Presence.recordFailure]
        · rw [face_modify_other _ own, told_unheard (.inr (by simpa using own))]

/-! ## Steps that are not answered -/

/-- A step that needs a presence changes what is shown only by what it does when it finds one. -/
theorem face_with_presence {act : PresenceId → Presence → StepApplied ε}
    (kept : ∀ own now, face? id (act own now).world = face? id w) :
    face? id (withPresence p w act).world = face? id w := by
  unfold withPresence
  split
  · exact kept _ _
  · rfl

/-- The steps that change nothing of what is shown. -/
def isPlain : Step ε → Bool
  | .guest .. | .response _ | .rolling .. | .afterRoll _ | .clearFailure _ => false
  | _ => true

theorem plain_unseen {step : Step ε} (plain : isPlain step = true) :
    face? id ((chainDynamics c g).apply step p w).world = face? id w := by
  cases step with
  | guest | response | rolling | afterRoll | clearFailure => cases plain
  | idle | restartNow => rfl
  | request q x =>
    have applies : (chainDynamics c g).apply (.request q x) p w = _ := send_asks c q x p w
    rw [applies]
    exact face_aside (asked_aside (c := c) (x := x) (p := p))
  | rollCluster cluster queue topology =>
    obtain ⟨outcome, applies, _⟩ :=
      roll_cluster_looks (c := c) (p := p) (w := w) cluster queue topology
    have applies : (chainDynamics c g).apply (.rollCluster cluster queue topology) p w = _ :=
      applies
    rw [applies]
  | beginRestart server version next =>
    refine face_with_presence fun own now => ?_
    exact (face_emit rfl).trans (face_modify_kept fun _ _ => rfl)
  | waitRemoved server uid next =>
    refine face_with_presence fun own now => ?_
    split
    · exact face_modify_kept fun _ _ => rfl
    · split <;> rfl
  | waitReady server next =>
    refine face_with_presence fun own now => ?_
    split
    · rfl
    · split <;> rfl
  | rollIfNeeded sink next =>
    refine face_with_presence fun own now => ?_
    split
    · rfl
    · dsimp only
      split <;> rfl
  | updateStatus left next =>
    refine face_with_presence fun own now => ?_
    split
    · rfl
    · split
      · rfl
      · split <;> rfl
  | rereadDomain left next =>
    refine face_with_presence fun own now => ?_
    split <;> rfl

/-- Whether a packet says that its roll was announced. -/
def isAnnounced (p : Packet) : Bool := ((p.value? Packet.rollMarkKey).bind (·.flag?)).isSome

/-- The domain as it is held. -/
def domain? (id : PresenceId) (w : World) : Option Domain := (w.presence? id).bind (·.domain)

theorem domain_shown : domain? id w = (face? id w).bind (·.domain) := by
  rw [domain?, face?, Option.bind_map]
  rfl

private theorem domain_modify_kept {f : Presence → Presence}
    (kept : ∀ now, (f now).domain = now.domain) :
    domain? id (w.modifyPresence other f) = domain? id w := by
  rw [domain?, Worlds.presence_modify, domain?]
  split
  · cases w.presence? id with
    | none => rfl
    | some now => exact kept now
  · rfl

private theorem domain_modify_of_kept {f : Presence → Presence}
    (kept : ∀ now, (f now).domain = now.domain) :
    domain? id (w.modifyPresenceOf p f) = domain? id w := by
  unfold World.modifyPresenceOf
  split
  · exact domain_modify_kept kept
  · rfl

/-- Whatever is not answered leaves the domain as it is held. -/
theorem domain_kept {step : Step ε} (own : ∀ e next branches, step ≠ .guest e next branches)
    (unanswered : ∀ x, step ≠ .response x) :
    domain? id ((chainDynamics c g).apply step p w).world = domain? id w := by
  cases plain : isPlain step with
  | true => rw [domain_shown, plain_unseen plain, domain_shown]
  | false =>
    cases step with
    | guest e next branches => exact absurd rfl (own e next branches)
    | response x => exact absurd rfl (unanswered x)
    | rolling members next =>
      have kept : ∀ own, domain? id (announce own (members.map (·.1)) p w).2 = domain? id w := by
        intro own
        unfold announce
        split
        · rfl
        · exact domain_modify_kept fun _ => rfl
      show domain? id (withPresence p w _).world = _
      unfold withPresence
      split
      · exact kept _
      · rfl
    | afterRoll next =>
      have world : ((chainDynamics c g).apply (.afterRoll next) p w).world =
          if isAnnounced p then c.countRoll (·.rollCompleted)
            ((w.modifyPresenceOf (p.remove Packet.rollMarkKey) (·.setRolling false)).emit
              .rollCompleted)
          else w := rfl
      rw [world]
      split
      · have counted (w : World) : domain? id (c.countRoll (·.rollCompleted) w) = domain? id w := by
          rw [domain_shown, face_count_roll, domain_shown]
        rw [counted]
        exact domain_modify_of_kept (f := (·.setRolling false)) fun _ => rfl
      · rfl
    | clearFailure next => exact domain_modify_of_kept (f := (·.clearFailure)) fun _ => rfl
    | _ => cases plain

end DomainSteward.Faces
