import Mathlib.Data.Nat.Basic
import Mathlib.Logic.Function.Basic
import Mathlib.Logic.Relation
import Mathlib.Order.Lattice
import DomainSteward.Proofs.Site.Order
import DomainSteward.Reconcile

/-! Which version of a domain is held while it is reconciled and its status is
written, again and again, by fibers that know nothing of each other. The server
has one version after another. An answer that brings a domain shows the version
of the moment at which it left the server, and it may be judged at any later
moment. If the presence is given another domain in between, the answer has been
overtaken, and judging it can put an older domain back. Nothing else can. -/
namespace DomainSteward.Versions
open Machine Moves Faces Verdicts Exchanges Orders Paths Ledger

variable {ε ν : Type}

/-- An answer that has left the server. -/
structure Flight where
  response : Response
  /-- Whether the presence has been given a domain since. -/
  overtaken : Bool := false

/-- The fibers that work for a presence, and the server. -/
structure Chronicle (ν ε : Type) where
  machine : ChainMachine ε
  /-- The version of the domain that the server has. -/
  newest : ν
  /-- The answer to the call of a fiber, once it has left the server. -/
  flights : FiberId → Option Flight := fun _ => none

/-- The domain that an answer shows. -/
def domainIn? (r : Response) : Option Domain := r.object?.bind Domain.ofObject?

/-- The domain that a fiber gives to the presence when it applies its step. -/
def given? (id : PresenceId) (f : Fiber (Step ε) Packet (Pending ε)) : Option Domain :=
  match f with
  | ⟨p, .running (some (.response x))⟩ =>
    if p.presence = some id then p.response?.bind (brought? x) else none
  | _ => none

def overtake (flights : FiberId → Option Flight) (i : FiberId) : Option Flight :=
  (flights i).map (fun flight => { flight with overtaken := true })

/-- The flights once fiber `i` has judged its answer. -/
def settled (given : Option Domain) (i : FiberId) (flights : FiberId → Option Flight) :
    FiberId → Option Flight :=
  if given.isSome then overtake (Function.update flights i none) else Function.update flights i none

/-- What can happen. If all is to be timely, nobody judges an answer that has been overtaken, and
no reconcile begins with a domain older than the one that is held. -/
inductive Unfolds [LE ν] (c : Conduct) (g : GuestRules ε) (id : PresenceId) (rank : Domain → ν)
    (timely : Prop) (s : Chronicle ν ε) : Chronicle ν ε → Prop where
  /-- A reconcile begins with some version of the domain. -/
  | reconciles (domain : Domain) (head : Step ε) (p : Packet) (w : World)
      (begins : beginReconcile c domain s.machine.world = .fiber id head p w)
      (seen : rank domain ≤ s.newest)
      (newer : timely → ∀ d, domain? id s.machine.world = some d → rank d ≤ rank domain) :
      Unfolds c g id rank timely s
        { s with
          machine := { s.machine with world := w }.create head p
          flights := overtake s.flights }
  /-- A fiber is begun that writes the status, as somebody has asked for. -/
  | publishes (asked : id ∈ s.machine.world.publications) :
      Unfolds c g id rank timely s
        { s with
          machine := ({ s.machine with
            world := { s.machine.world with
              publications := s.machine.world.publications.erase id } }).create
            (writeStatus c none) { presence := some id } }
  /-- The domain is changed at the server. -/
  | edits (newest : ν) (grows : s.newest ≤ newest) : Unfolds c g id rank timely s { s with newest }
  /-- The server answers a call. If the answer shows the domain, it is the version of this
  moment. -/
  | serves (i : FiberId) (p : Packet) (q : Request) (next : Option (Step ε)) (r : Response)
      (newest : ν) (waits : s.machine.fiber? i = some ⟨p, .waiting (.call q) next⟩)
      (idle : s.flights i = none) (grows : s.newest ≤ newest)
      (current : ∀ d, domainIn? r = some d → rank d = newest) :
      Unfolds c g id rank timely s
        { s with newest, flights := Function.update s.flights i (some { response := r }) }
  /-- An answer arrives. -/
  | arrives (i : FiberId) (flight : Flight) (after : ChainMachine ε)
      (carries : s.flights i = some flight)
      (moved : s.machine.move? (chainDynamics c g) i (.answer (.response flight.response)) =
        some after) : Unfolds c g id rank timely s { s with machine := after }
  /-- A call fails, whether the server has answered it or not. -/
  | fails (i : FiberId) (f : CallFailure) (after : ChainMachine ε)
      (moved : s.machine.move? (chainDynamics c g) i (.answer (.response (.failure f))) =
        some after) :
      Unfolds c g id rank timely s
        { s with machine := after, flights := Function.update s.flights i none }
  /-- A fiber judges its answer. -/
  | judges (i : FiberId) (p : Packet) (x : Exchange ε (Step ε)) (after : ChainMachine ε)
      (found : s.machine.fiber? i = some ⟨p, .running (some (.response x))⟩)
      (moved : s.machine.move? (chainDynamics c g) i .run = some after)
      (inTime : timely → ∀ flight, s.flights i = some flight → flight.overtaken = false) :
      Unfolds c g id rank timely s
        { s with
          machine := after
          flights := settled (given? id ⟨p, .running (some (.response x))⟩) i s.flights }
  /-- A fiber makes another move of its own. -/
  | moves (i : FiberId) (move : Move Answer) (after : ChainMachine ε)
      (own : ∀ a, move ≠ .answer a)
      (other : ∀ p x, move = .run →
        s.machine.fiber? i ≠ some ⟨p, .running (some (.response x))⟩)
      (moved : s.machine.move? (chainDynamics c g) i move = some after) :
      Unfolds c g id rank timely s { s with machine := after }
  /-- The world changes otherwise. -/
  | outside (world : World) (kept : domain? id world = domain? id s.machine.world) :
      Unfolds c g id rank timely s { s with machine := { s.machine with world } }

/-- No fiber has been begun yet. -/
structure Begins [LE ν] (id : PresenceId) (rank : Domain → ν) (s : Chronicle ν ε) : Prop where
  nobody : s.machine.fibers = []
  held : ∀ d, domain? id s.machine.world = some d → rank d ≤ s.newest
  idle : ∀ i, s.flights i = none

variable {c : Conduct} {g : GuestRules ε} {id : PresenceId} {domain : Domain} {head : Step ε}
  {p : Packet} {w before : World} {m after : ChainMachine ε} {i : FiberId} {r : Response}
  {x : Exchange ε (Step ε)} {move : Move Answer} {d : Domain}

/-! ## Which domain is held -/

private theorem given_holds (registry : Registry) :
    domain? id ((w.withRegistry fun _ => registry).modifyPresence id (·.setDomain domain)) =
      (registry.get? id).map (fun _ => domain) := by
  have known : (w.withRegistry fun _ => registry).presence? id = registry.get? id := rfl
  rw [domain?, Worlds.presence_modify_same, known]
  cases registry.get? id <;> rfl

/-- A reconcile begins with holding its domain. -/
private theorem begun_holds (begins : beginReconcile c domain before = .fiber id head p w) :
    (∀ d, domain? id w = some d → d = domain) ∧
      (domain? id before ≠ none → domain? id w = some domain) := by
  unfold beginReconcile at begins
  split at begins
  · cases begins
  rename_i ns _
  split at begins
  · cases begins
  injection begins with place _ _ world
  have place : (before.registry.findOrCreate (ns, domain.uid)).1 = id := place
  have world : (before.withRegistry fun _ =>
      (before.registry.findOrCreate (ns, domain.uid)).2).modifyPresence
        (before.registry.findOrCreate (ns, domain.uid)).1 (·.setDomain domain) = w := world
  have held : domain? id w =
      ((before.registry.findOrCreate (ns, domain.uid)).2.get? id).map (fun _ => domain) := by
    rw [← world, place]
    exact given_holds _
  refine ⟨fun d same => ?_, fun some' => ?_⟩
  · rw [held, Option.map_eq_some_iff] at same
    obtain ⟨_, _, rfl⟩ := same
    rfl
  · rw [held, Option.map_eq_some_iff]
    obtain ⟨now, known⟩ : ∃ now, before.registry.get? id = some now := by
      cases known : before.registry.get? id with
      | some now => exact ⟨now, rfl⟩
      | none => exact absurd (by rw [domain?, World.presence?, known]; rfl) some'
    have grown : ∃ now, (before.registry.findOrCreate (ns, domain.uid)).2.get? id = some now := by
      unfold Registry.findOrCreate
      split
      · exact ⟨now, known⟩
      · exact ⟨now, (List.getElem?_append_left (List.getElem?_eq_some_iff.mp known).1).trans known⟩
    obtain ⟨now', known'⟩ := grown
    exact ⟨now', known', rfl⟩

theorem brought_in (brings : brought? x r = some d) : domainIn? r = some d := by
  unfold brought? at brings
  split at brings
  · exact brings
  · exact brings
  · cases brings

/-- What judging an answer makes of the domain that is held. -/
private theorem judged_domain (id : PresenceId) {tells : Option FailureSink → Prop}
    (ordered : Ordered tells m)
    (found : m.fiber? i = some ⟨p, .running (some (.response x))⟩)
    (moved : m.move? (chainDynamics c g) i .run = some after) :
    domain? id after.world =
      match given? id (⟨p, .running (some (.response x))⟩ : Fiber (Step ε) Packet (Pending ε)) with
      | some d => (face? id m.world).map (fun _ => d)
      | none => domain? id m.world := by
  obtain ⟨q, y, r, rfl, told⟩ := response_told (ordered i _ found)
  obtain ⟨verdict, p', w', applies, settles, _⟩ := response_does (c := c) (g := g)
    (w := m.world) (q := q) id (native_own told.native) told.told told.paired
  have shown : face? id after.world = face? id w' := by
    rw [step_shown found moved, applies]
    rfl
  have given : given? id (⟨p, .running (some (.response (sent q y)))⟩ :
      Fiber (Step ε) Packet (Pending ε)) =
      if p.presence = some id then brought? (sent q y) r else none := by
    simp only [given?, told.told, Option.bind_some]
  rw [domain_shown, domain_shown, shown, given]
  generalize face? id w' = faced at settles
  generalize face? id m.world = was at settles
  cases settles with
  | goesOn nothing => simp [nothing]
  | holds domain brings =>
    rw [brings]
    by_cases works : p.presence = some id
    · cases was <;> simp [works]
    · cases was <;> simp [works]
  | turns nothing | breaks _ _ nothing => simp [nothing]
  | again f failed | reroutes f failed =>
    subst failed
    simp [failure_brings_nothing]
  | givesUp f failed =>
    subst failed
    cases was <;> simp [failure_brings_nothing]

/-- Any other move leaves the domain as it is held. -/
private theorem moved_domain (id : PresenceId) {tells : Option FailureSink → Prop}
    (ordered : Ordered tells m)
    (proper : Proper m (.move i move))
    (other : ∀ p x, move = .run → m.fiber? i ≠ some ⟨p, .running (some (.response x))⟩)
    (moved : m.move? (chainDynamics c g) i move = some after) :
    domain? id after.world = domain? id m.world := by
  cases applied : applied? m (.move i move) with
  | none => rw [domain_shown, quiet_shown ordered proper moved applied, domain_shown]
  | some did =>
    obtain ⟨j, p, step⟩ := did
    obtain ⟨same, found⟩ := applied_iff.mp applied
    cases same
    have unanswered : ∀ x, step ≠ .response x := by
      rintro x rfl
      exact other p x rfl found
    have own : ∀ e next branches, step ≠ .guest e next branches := by
      rintro e next branches rfl
      cases ordered i _ found with
      | calm _ calm =>
        cases calm with
        | running _ _ follows clear => cases follows _ rfl
    rw [domain_shown, step_shown found moved, ← domain_shown]
    exact domain_kept own unanswered

/-! ## What holds of a chronicle -/

section
variable [LinearOrder ν] {rank : Domain → ν} {timely : Prop} {s s' : Chronicle ν ε}

/-- What is held and what is on its way is no newer than what the server has; an answer that has
not been overtaken is no older than what is held; and whoever is about to give the presence a
domain has it from an answer. -/
structure Sound (id : PresenceId) (rank : Domain → ν) (s : Chronicle ν ε) : Prop where
  ordered : Ordered (fun _ => True) s.machine
  held : ∀ d, domain? id s.machine.world = some d → rank d ≤ s.newest
  carried : ∀ i flight d, s.flights i = some flight → domainIn? flight.response = some d →
    rank d ≤ s.newest ∧ (flight.overtaken = false →
      ∀ now, domain? id s.machine.world = some now → rank now ≤ rank d)
  told : ∀ i p x r d, s.machine.fiber? i = some ⟨p, .running (some (.response x))⟩ →
    p.response? = some r → brought? x r = some d →
    ∃ flight, s.flights i = some flight ∧ flight.response = r

/-- No fiber has been answered that had not been. -/
private theorem told_kept {flights : FiberId → Option Flight} (sound : Sound id rank s)
    (proper : Proper s.machine (.move i move)) (unanswered : ∀ a, move ≠ .answer a)
    (moved : s.machine.move? (chainDynamics c g) i move = some after)
    (same : ∀ j, j ≠ i → (flights j).map (·.response) = (s.flights j).map (·.response)) :
    ∀ j p x r d, after.fiber? j = some ⟨p, .running (some (.response x))⟩ →
      p.response? = some r → brought? x r = some d →
      ∃ flight, flights j = some flight ∧ flight.response = r := by
  intro j p x r d found told brings
  cases after_move sound.ordered proper moved found with
  | stays _ other found' =>
    obtain ⟨flight, carries, shows⟩ := sound.told j p x r d found' told brings
    have kept := same j other
    rw [carries] at kept
    obtain ⟨flight', carries', same'⟩ := Option.map_eq_some_iff.mp kept
    exact ⟨flight', carries', same'.trans shows⟩
  | calm _ calm =>
    cases calm with
    | running _ _ follows clear => cases follows _ rfl
  | told p q x r mover answered => exact absurd answered (unanswered _)

private theorem given_brought {p : Packet} {x : Exchange ε (Step ε)}
    (gives : given? id (⟨p, .running (some (.response x))⟩ : Fiber (Step ε) Packet (Pending ε)) =
      some d) : ∃ r, p.response? = some r ∧ brought? x r = some d := by
  simp only [given?] at gives
  split at gives
  · exact Option.bind_eq_some_iff.mp gives
  · cases gives

/-- Whoever gives the presence a domain has it from an answer. -/
private theorem given_carried (sound : Sound id rank s)
    (found : s.machine.fiber? i = some ⟨p, .running (some (.response x))⟩)
    (gives : given? id (⟨p, .running (some (.response x))⟩ : Fiber (Step ε) Packet (Pending ε)) =
      some d) :
    ∃ flight, s.flights i = some flight ∧ domainIn? flight.response = some d := by
  obtain ⟨r, told, brings⟩ := given_brought gives
  obtain ⟨flight, carries, rfl⟩ := sound.told i p x r d found told brings
  exact ⟨flight, carries, brought_in brings⟩

private theorem reconciles_kept (sound : Sound id rank s)
    (begins : beginReconcile c domain s.machine.world = .fiber id head p w)
    (seen : rank domain ≤ s.newest) :
    Sound id rank { s with
      machine := { s.machine with world := w }.create head p
      flights := overtake s.flights } := by
  obtain ⟨native, clear⟩ : Native (fun _ => True) head ∧ p.response? = none :=
    reconcile_native trivial begins
  refine ⟨ordered_create sound.ordered native clear, fun d held => ?_, ?_, ?_⟩
  · rw [(begun_holds begins).1 d held]
    exact seen
  · intro i flight d carries shows
    obtain ⟨before, carried, rfl⟩ := Option.map_eq_some_iff.mp carries
    exact ⟨(sound.carried i before d carried shows).1, nofun⟩
  · intro i p x r d found told brings
    rcases create_fiber found with found | same
    · obtain ⟨flight, carries, shows⟩ := sound.told i p x r d found told brings
      exact ⟨_, Option.map_eq_some_iff.mpr ⟨flight, carries, rfl⟩, shows⟩
    · cases same

private theorem publishes_kept (sound : Sound id rank s) (asked : List PresenceId) :
    Sound id rank { s with
      machine := ({ s.machine with
        world := { s.machine.world with publications := asked } }).create
        (writeStatus c none) { presence := some id } } := by
  refine ⟨ordered_create sound.ordered (.updateStatus _ _ nofun) rfl, sound.held, sound.carried, ?_⟩
  intro i p x r d found told brings
  rcases create_fiber found with found | same
  · exact sound.told i p x r d found told brings
  · cases same

private theorem serves_kept {newest : ν} {next : Option (Step ε)} {q : Request}
    (sound : Sound id rank s) (waits : s.machine.fiber? i = some ⟨p, .waiting (.call q) next⟩)
    (grows : s.newest ≤ newest) (current : ∀ d, domainIn? r = some d → rank d = newest) :
    Sound id rank { s with
      newest, flights := Function.update s.flights i (some { response := r }) } := by
  refine ⟨sound.ordered, fun d held => (sound.held d held).trans grows, ?_, ?_⟩
  · intro j flight d carries shows
    have carries : Function.update s.flights i (some { response := r }) j = some flight := carries
    by_cases same : j = i
    · subst same
      rw [Function.update_self] at carries
      cases carries
      rw [current d shows]
      exact ⟨le_refl _, fun _ now held => (sound.held now held).trans grows⟩
    · rw [Function.update_of_ne same] at carries
      exact (sound.carried j flight d carries shows).imp_left (·.trans grows)
  · intro j p x r d found told brings
    obtain ⟨flight, carries, shows⟩ := sound.told j p x r d found told brings
    have other : j ≠ i := by
      rintro rfl
      cases waits.symm.trans found
    exact ⟨flight, (Function.update_of_ne other _ _).trans carries, shows⟩

/-- Nothing has become known that was not, and the same domain is held. -/
private theorem sound_same {flights : FiberId → Option Flight} (sound : Sound id rank s)
    (ordered : Ordered (fun _ => True) after)
    (same : domain? id after.world = domain? id s.machine.world)
    (fewer : ∀ i flight, flights i = some flight → s.flights i = some flight)
    (told : ∀ i p x r d, after.fiber? i = some ⟨p, .running (some (.response x))⟩ →
      p.response? = some r → brought? x r = some d →
      ∃ flight, flights i = some flight ∧ flight.response = r) :
    Sound id rank { s with machine := after, flights } := by
  refine ⟨ordered, fun d held => sound.held d (same ▸ held), fun i flight d carries shows => ?_,
    told⟩
  obtain ⟨known, law⟩ := sound.carried i flight d (fewer i flight carries) shows
  exact ⟨known, fun inTime now held => law inTime now (same ▸ held)⟩

private theorem less_one (flights : FiberId → Option Flight) (i j : FiberId) (flight : Flight)
    (carries : Function.update flights i none j = some flight) : flights j = some flight := by
  by_cases same : j = i
  · subst same
    simp at carries
  · rwa [Function.update_of_ne same] at carries

private theorem settled_other {given : Option Domain} {flights : FiberId → Option Flight}
    {j : FiberId} (other : j ≠ i) :
    (settled given i flights j).map (·.response) = (flights j).map (·.response) := by
  unfold settled
  split
  · simp [overtake, Function.update_of_ne other, Function.comp_def]
  · rw [Function.update_of_ne other]

private theorem arrives_kept {flight : Flight} (sound : Sound id rank s)
    (carries : s.flights i = some flight)
    (moved : s.machine.move? (chainDynamics c g) i (.answer (.response flight.response)) =
      some after) : Sound id rank { s with machine := after } := by
  have proper := proper_of_response (m := s.machine) i flight.response
  have same := moved_domain id sound.ordered proper (fun _ _ run => nomatch run) moved
  refine sound_same sound (ordered_kept sound.ordered proper moved) same (fun _ _ same => same) ?_
  intro j p x r d found told brings
  cases after_move sound.ordered proper moved found with
  | stays _ other found => exact sound.told j p x r d found told brings
  | calm _ calm =>
    cases calm with
    | running _ _ follows clear => cases follows _ rfl
  | told p q x r' mover answered told' =>
    cases answered
    cases told.symm.trans told'.told
    exact ⟨flight, mover ▸ carries, rfl⟩

private theorem fails_kept {f : CallFailure} (sound : Sound id rank s)
    (moved : s.machine.move? (chainDynamics c g) i (.answer (.response (.failure f))) =
      some after) :
    Sound id rank
      { s with machine := after, flights := Function.update s.flights i none } := by
  have proper := proper_of_response (m := s.machine) i (.failure f)
  have same := moved_domain id sound.ordered proper (fun _ _ run => nomatch run) moved
  refine sound_same sound (ordered_kept sound.ordered proper moved) same (less_one s.flights i) ?_
  intro j p x r d found told brings
  cases after_move sound.ordered proper moved found with
  | stays _ other found =>
    obtain ⟨flight, carries, shows⟩ := sound.told j p x r d found told brings
    exact ⟨flight, (Function.update_of_ne other _ _).trans carries, shows⟩
  | calm _ calm =>
    cases calm with
    | running _ _ follows clear => cases follows _ rfl
  | told p q x r' mover answered told' =>
    -- A failure shows no domain.
    cases answered
    cases told.symm.trans told'.told
    rw [failure_brings_nothing] at brings
    cases brings

private theorem moves_kept (sound : Sound id rank s) (own : ∀ a, move ≠ .answer a)
    (other : ∀ p x, move = .run → s.machine.fiber? i ≠ some ⟨p, .running (some (.response x))⟩)
    (moved : s.machine.move? (chainDynamics c g) i move = some after) :
    Sound id rank { s with machine := after } := by
  have proper : Proper s.machine (.move i move) :=
    proper_of_no_answer fun _ a same => own a (Happening.move.inj same).2
  have same := moved_domain id sound.ordered proper other moved
  exact sound_same sound (ordered_kept sound.ordered proper moved) same (fun _ _ same => same)
    (told_kept sound proper own moved fun _ _ => rfl)

private theorem judges_kept (sound : Sound id rank s)
    (found : s.machine.fiber? i = some ⟨p, .running (some (.response x))⟩)
    (moved : s.machine.move? (chainDynamics c g) i .run = some after) :
    Sound id rank { s with
      machine := after
      flights := settled (given? id ⟨p, .running (some (.response x))⟩) i s.flights } := by
  have proper : Proper s.machine (.move i .run) := proper_of_no_answer fun _ _ same => nomatch same
  have ordered : Ordered (fun _ => True) after := ordered_kept sound.ordered proper moved
  have judged := judged_domain id sound.ordered found moved
  cases gives : given? id (⟨p, .running (some (.response x))⟩ :
      Fiber (Step ε) Packet (Pending ε)) with
  | none =>
    rw [gives] at judged
    refine sound_same sound ordered judged (less_one s.flights i) ?_
    exact told_kept sound proper (fun _ same => nomatch same) moved fun _ => settled_other
  | some d =>
    rw [gives] at judged
    obtain ⟨flight, carries, shows⟩ := given_carried sound found gives
    refine ⟨ordered, fun now held => ?_, fun j flight' d' carries' shows' => ?_, ?_⟩
    · obtain ⟨_, _, rfl⟩ := Option.map_eq_some_iff.mp (judged.symm.trans held)
      exact (sound.carried i flight d carries shows).1
    · -- Whatever is on its way now has been overtaken.
      obtain ⟨before, carried, rfl⟩ := Option.map_eq_some_iff.mp carries'
      exact ⟨(sound.carried j before d' (less_one s.flights i j before carried) shows').1, nofun⟩
    · have kept : ∀ j, j ≠ i → (settled (some d) i s.flights j).map (·.response) =
          (s.flights j).map (·.response) := fun _ => settled_other
      exact told_kept sound proper (fun _ same => nomatch same) moved kept

theorem sound_unfolds (sound : Sound id rank s) (unfolds : Unfolds c g id rank timely s s') :
    Sound id rank s' := by
  cases unfolds with
  | reconciles domain head p w begins seen newer => exact reconciles_kept sound begins seen
  | publishes asked => exact publishes_kept sound _
  | edits newest grows =>
    exact ⟨sound.ordered, fun d held => (sound.held d held).trans grows,
      fun i flight d carries shows =>
        (sound.carried i flight d carries shows).imp_left (·.trans grows), sound.told⟩
  | serves i p q next r newest waits idle grows current =>
    exact serves_kept sound waits grows current
  | arrives i flight after carries moved => exact arrives_kept sound carries moved
  | fails i f after moved => exact fails_kept sound moved
  | judges i p x after found moved inTime => exact judges_kept sound found moved
  | moves i move after own other moved => exact moves_kept sound own other moved
  | outside world kept =>
    exact sound_same sound sound.ordered kept (fun _ _ same => same) sound.told

/-- While all is timely, what is held is only ever replaced by what is as new. -/
private theorem timely_forward (sound : Sound id rank s) (unfolds : Unfolds c g id rank True s s')
    (held : domain? id s.machine.world = some d) :
    ∃ now, domain? id s'.machine.world = some now ∧ rank d ≤ rank now := by
  cases unfolds with
  | reconciles domain head p w begins seen newer =>
    have begun := (begun_holds begins).2 (by simp [held])
    exact ⟨domain, begun, newer trivial d held⟩
  | publishes | edits | serves => exact ⟨d, held, le_refl _⟩
  | arrives i flight after carries moved =>
    have proper := proper_of_response (m := s.machine) i flight.response
    have same := moved_domain id sound.ordered proper (fun _ _ run => nomatch run) moved
    exact ⟨d, same.trans held, le_refl _⟩
  | fails i f after moved =>
    have proper := proper_of_response (m := s.machine) i (.failure f)
    have same := moved_domain id sound.ordered proper (fun _ _ run => nomatch run) moved
    exact ⟨d, same.trans held, le_refl _⟩
  | moves i move after own other moved =>
    have proper : Proper s.machine (.move i move) :=
      proper_of_no_answer fun _ a same => own a (Happening.move.inj same).2
    have same := moved_domain id sound.ordered proper other moved
    exact ⟨d, same.trans held, le_refl _⟩
  | judges i p x after found moved inTime =>
    have judged := judged_domain id sound.ordered found moved
    cases gives : given? id (⟨p, .running (some (.response x))⟩ :
        Fiber (Step ε) Packet (Pending ε)) with
    | none =>
      rw [gives] at judged
      exact ⟨d, judged.trans held, le_refl _⟩
    | some now =>
      rw [gives] at judged
      obtain ⟨flight, carries, shows⟩ := given_carried sound found gives
      obtain ⟨face, shown, _⟩ := Option.bind_eq_some_iff.mp (domain_shown.symm.trans held)
      refine ⟨now, judged.trans (by rw [shown]; rfl), ?_⟩
      exact (sound.carried i flight now carries shows).2 (inTime trivial flight carries) d held
  | outside world kept => exact ⟨d, kept.trans held, le_refl _⟩

private theorem sound_begins (begins : Begins id rank s) : Sound id rank s := by
  have nobody (i : FiberId) : s.machine.fiber? i = none := by simp [Machine.fiber?, begins.nobody]
  refine ⟨fun i f found => ?_, begins.held, fun i flight d carries => ?_, fun i p x r d found => ?_⟩
  · rw [nobody] at found
    cases found
  · rw [begins.idle] at carries
    cases carries
  · rw [nobody] at found
    cases found

/-- Once a domain is held, what is held is at least as new for as long as nobody judges an answer
that was overtaken and no reconcile begins with an older domain than the one held. So it is only by
judging an answer that was overtaken that a fiber puts back an older domain. -/
theorem held_domain_never_goes_back {start : Chronicle ν ε} (begins : Begins id rank start)
    (ran : Relation.ReflTransGen (Unfolds c g id rank False) start s)
    (held : domain? id s.machine.world = some d)
    (goes : Relation.ReflTransGen (Unfolds c g id rank True) s s') :
    ∃ now, domain? id s'.machine.world = some now ∧ rank d ≤ rank now := by
  have sound : Sound id rank s := by
    clear held goes
    induction ran with
    | refl => exact sound_begins begins
    | tail _ unfolds ih => exact sound_unfolds ih unfolds
  have forward : Sound id rank s' ∧
      ∃ now, domain? id s'.machine.world = some now ∧ rank d ≤ rank now := by
    induction goes with
    | refl => exact ⟨sound, d, held, le_refl _⟩
    | tail _ unfolds ih =>
      obtain ⟨sound, now, held, newer⟩ := ih
      obtain ⟨later, held', newer'⟩ := timely_forward sound unfolds held
      exact ⟨sound_unfolds sound unfolds, later, held', newer.trans newer'⟩
  exact forward.2

end

/-! ## An edit while a status is written -/

/-- A version of a domain that wants its pods to be of some restart version. -/
def versionOf (resourceVersion restartVersion : String) : Domain :=
  { metadata := { name := some "domain1", namespaceName := some "ns1"
                  resourceVersion := some resourceVersion }
    spec := { restartVersion := some restartVersion } }

/-- Versions are counted by the server. -/
def age (d : Domain) : Nat :=
  match d.metadata.resourceVersion with
  | some "1" => 1
  | some "2" => 2
  | some "3" => 3
  | _ => 0

/-- A presence whose failed reconcile has left its status to be written. -/
def leftOver : Chronicle Nat Empty where
  machine :=
    { fibers := []
      world :=
        { feed := { registry :=
            { presences := [{ namespaceName := "ns1", domainUid := "domain1"
                              domain := some (versionOf "1" "1")
                              failure := some ⟨kubernetesFailureReason, "listing failed"⟩ }]
              index := [(("ns1", "domain1"), 0)] } }
          publications := [0] } }
  newest := 1

theorem left_over_begins : Begins 0 age leftOver := by
  refine ⟨rfl, fun d held => ?_, fun _ => rfl⟩
  cases held
  exact Nat.le_refl _

/-- The answer to the write of the status. -/
def patched : Response := .object (versionOf "2" "1").toObject 200

private theorem patched_shows : domainIn? patched = some (versionOf "2" "1") := rfl

/-- What can happen to that presence. -/
abbrev Goes (timely : Prop) : Chronicle Nat Empty → Chronicle Nat Empty → Prop :=
  Unfolds {} .nobody 0 age timely

private def judgesNext : Phase (Step Empty) (Pending Empty) → Bool
  | .running (some (.response _)) => true
  | _ => false

private theorem runs {timely : Prop} {s : Chronicle Nat Empty} {after : ChainMachine Empty}
    {phase : Phase (Step Empty) (Pending Empty)}
    (stands : s.machine.fiber? 0 = some ⟨p, phase⟩) (busy : judgesNext phase = false)
    (moved : s.machine.move? (chainDynamics {} .nobody) 0 .run = some after) :
    Goes timely s { s with machine := after } := by
  refine .moves 0 .run after (fun _ same => nomatch same) (fun p x _ found => ?_) moved
  cases stands.symm.trans found
  cases busy

/-- The status is written; then the answer arrives at once, or only after the wanted state has been
edited and a reconcile has begun with it. -/
private theorem patch_runs : ∃ asked, Relation.ReflTransGen (Goes False) leftOver asked ∧
    domain? 0 asked.machine.world = some (versionOf "1" "1") ∧
    (∃ written, Relation.ReflTransGen (Goes True) asked written ∧
      domain? 0 written.machine.world = some (versionOf "2" "1")) ∧
    ∃ late after, Relation.ReflTransGen (Goes False) asked late ∧
      domain? 0 late.machine.world = some (versionOf "3" "2") ∧
      late.machine.move? (chainDynamics {} .nobody) 0 .run = some after ∧
      domain? 0 after.world = some (versionOf "2" "1") := by
  have current : ∀ d, domainIn? patched = some d → age d = 2 := fun d shows => by
    cases patched_shows.symm.trans shows
    rfl
  refine ⟨?asked, ?writes, ?_, ⟨?written, ?arrives, ?_⟩, ?late, ?after, ?delays, ?_, ?puts, ?_⟩
  case writes =>
    refine .head (.publishes (List.Mem.head _)) ?_
    refine .head (runs rfl rfl rfl) ?_
    refine .head (runs rfl rfl rfl) ?_
    refine .head (runs rfl rfl rfl) ?_
    exact .refl
  case arrives =>
    refine .head (.serves 0 _ _ _ patched 2 rfl rfl (by decide) current) ?_
    refine .head (.arrives 0 _ _ rfl rfl) ?_
    refine .head (.judges 0 _ _ _ rfl rfl fun _ flight carries => ?_) ?_
    · cases carries
      rfl
    exact .refl
  case delays =>
    refine .head (.serves 0 _ _ _ patched 2 rfl rfl (by decide) current) ?_
    refine .head (.edits 3 (by decide)) ?_
    refine .head (.reconciles (versionOf "3" "2") _ _ _ rfl (by decide) False.elim) ?_
    refine .head (.arrives 0 _ _ rfl rfl) ?_
    exact .refl
  case puts => rfl
  all_goals rfl

/-- The domain as it was written is held, and is newer than the one held before. -/
theorem written_domain_is_newer : ∃ asked written : Chronicle Nat Empty,
    Begins 0 age leftOver ∧ Relation.ReflTransGen (Goes False) leftOver asked ∧
      domain? 0 asked.machine.world = some (versionOf "1" "1") ∧
      Relation.ReflTransGen (Goes True) asked written ∧
      ∃ now, domain? 0 written.machine.world = some now ∧ age (versionOf "1" "1") ≤ age now := by
  obtain ⟨asked, writes, held, ⟨written, arrives, _⟩, _⟩ := patch_runs
  exact ⟨asked, written, left_over_begins, writes, held, arrives,
    held_domain_never_goes_back left_over_begins writes held arrives⟩

/-- A reconcile has stored the domain that asks for a roll, and the fiber that wrote a status puts
the version back that does not. -/
theorem late_answer_goes_back : ∃ (late : Chronicle Nat Empty) (after : ChainMachine Empty),
    Relation.ReflTransGen (Goes False) leftOver late ∧
      domain? 0 late.machine.world = some (versionOf "3" "2") ∧
      late.machine.move? (chainDynamics {} .nobody) 0 .run = some after ∧
      domain? 0 after.world = some (versionOf "2" "1") ∧
      age (versionOf "2" "1") < age (versionOf "3" "2") := by
  obtain ⟨asked, writes, _, _, late, after, delays, held, moved, held'⟩ := patch_runs
  exact ⟨late, after, writes.trans delays, held, moved, held', by decide⟩

end DomainSteward.Versions
