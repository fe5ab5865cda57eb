import DomainSteward.Proofs.Site.Blame
import DomainSteward.Proofs.Site.Depot

/-! The pods of a depot while a roll is under way. A restart takes a pod down
and then owes its server a new one; it never ends while it does, and only a
failed making releases it. A restart none of whose calls has failed leaves a
pod that is up to date. -/
namespace DomainSteward.Stocks
open Machine Moves RollSteps WaveLoop Ledger Anatomy Lots Restarts Exchanges Views Calm Paths
  Journeys Blame Errands Depots Sites

variable {ε : Type} {c : Conduct} {g : GuestRules ε} {t : Mandate ε} {r r' : Roll ε}
  {s s' : Depot ε} {ready : NameSet} {chain : Chain ε} {old : Pod} {leg : Leg} {move : Move Answer}
  {m after : ChainMachine ε} {i : FiberId} {carried made : Prop} {server : String}

/-! ## A restart on its own -/

/-- A restart has taken the old pod down and has to make the new one. -/
def Owing (carried : Prop) (leg : Leg) : Prop := leg = .deleting ∧ carried ∨ Owes leg ∧ ¬ carried

/-- A leg of a restart none of whose calls has failed. Once the call for the new
pod is carried out, the pod is made. -/
inductive Served (carried made : Prop) : Leg → Prop where
  | fresh : Served carried made .fresh
  | deleting : Served carried made .deleting
  | deleted (response : Response) (success : response.isFailure = false) (idle : ¬ carried) :
      Served carried made (.deleted response)
  | removing (idle : ¬ carried) : Served carried made .removing
  | creating (there : carried → made) : Served carried made .creating
  | created (response : Response) (success : response.isFailure = false) (there : made) :
      Served carried made (.created response)
  | starting (there : made) : Served carried made .starting
  | finished (there : made) : Served carried made (.finished none)

private theorem proper_of_own (own : move = .run ∨ move = .wake ∨ move = .join) :
    Proper m (.move i move) := by
  refine proper_of_no_answer fun j a same => ?_
  cases same
  rcases own with own | own | own <;> cases own

/-- A restart that has to make the new pod still has to after a move of its
own. -/
private theorem owing_advances {old : Pod} {leg' : Leg} {v v' : Option View}
    (owing : Owing carried leg) (own : move = .run ∨ move = .wake ∨ move = .join)
    (knows : v ≠ none) (advances : Advances server old false leg v move leg' v') :
    Owing carried leg' := by
  rcases owing with ⟨rfl, carried⟩ | ⟨owes, idle⟩
  · cases advances with
    | stays => exact .inl ⟨rfl, carried⟩
    | deletes | discards => exact (not_answer own).elim
    | crashes => exact (not_crash own).elim
    | stops _ _ _ stops => cases stops
    | astray => exact absurd rfl knows
  · refine .inr ⟨?_, idle⟩
    cases advances with
    | stays => exact owes
    | removes => exact .removing
    | gone => exact .creating
    | misses | deletesAgain | keeps =>
      cases owes with
      | deleted _ success => cases success
    | deletes | makes | discards => exact (not_answer own).elim
    | crashes => exact (not_crash own).elim
    | stops _ _ _ stops => cases stops
    | astray => exact absurd rfl knows
    | begins | made | taken | makesAgain | gives | done => cases owes

/-- A restart none of whose calls has failed makes a move of its own. -/
private theorem served_advances {old : Pod} {leg' : Leg} {v v' : Option View}
    (served : Served carried made leg) (own : move = .run ∨ move = .wake ∨ move = .join)
    (knows : v ≠ none) (advances : Advances server old false leg v move leg' v') :
    Served carried made leg' := by
  cases advances with
  | stays => exact served
  | begins => exact .deleting
  | removes =>
    cases served with
    | deleted _ _ idle => exact .removing idle
  | gone =>
    cases served with
    | removing idle => exact .creating fun carried => absurd carried idle
  | made =>
    cases served with
    | created _ _ there => exact .starting there
  | done =>
    cases served with
    | starting there => exact .finished there
  | misses | deletesAgain | keeps =>
    cases served with
    | deleted _ success => cases success
  | taken | makesAgain | gives =>
    cases served with
    | created _ success => cases success
  | deletes | makes | discards => exact (not_answer own).elim
  | crashes => exact (not_crash own).elim
  | stops _ _ _ stops => cases stops
  | astray => exact absurd rfl knows

/-- A restart whose call is answered has taken the answer in. -/
private theorem answered_advances {old : Pod} {response : Response} {leg' : Leg}
    {v v' : Option View} (waits : leg = .deleting ∨ leg = .creating)
    (advances : Advances server old false leg v (.answer (.response response)) leg' v') :
    leg = .deleting ∧ leg' = .deleted response ∨ leg = .creating ∧ leg' = .created response := by
  cases advances with
  | stays _ _ _ _ own =>
    rcases own with own | own <;> cases own
  | deletes => exact .inl ⟨rfl, rfl⟩
  | makes => exact .inr ⟨rfl, rfl⟩
  | discards _ _ _ _ stops => cases stops

/-- A presence that is there stays. -/
private theorem advances_knows {old : Pod} {stopping : Bool} {leg' : Leg} {v v' : Option View}
    (knows : v ≠ none) (advances : Advances server old stopping leg v move leg' v') :
    v' ≠ none := by
  cases advances with
  | misses | keeps => simpa using knows
  | made _ _ _ _ offers =>
    rcases offers with rfl | ⟨_, _, rfl⟩
    · exact knows
    · simpa using knows
  | begins | gone | done | stops => exact Option.some_ne_none _
  | _ => exact knows

theorem owing_not_done (journey : Journey t m chain old leg) (owing : Owing carried leg) :
    ¬ Done m chain.id := by
  rcases owing with ⟨rfl, _⟩ | ⟨owes, _⟩
  · rintro ⟨f, found, done⟩
    obtain ⟨f', found', _, stands⟩ := journey.stands
    cases found.symm.trans found'
    cases stands with
    | deleting _ _ asks => cases asks <;> cases done
  · exact owes_not_done journey owes

private theorem served_not_failed (journey : Journey t m chain old leg)
    (served : Served carried made leg) : ¬ Failed m chain.id := by
  rintro ⟨f, e, found, failed⟩
  obtain ⟨f', found', _, stands⟩ := journey.stands
  cases found.symm.trans found'
  cases stands with
  | fresh _ _ next => rcases next with rfl | rfl <;> cases failed
  | deleting _ _ asks | creating _ _ asks => cases asks <;> cases failed
  | deleted | created => cases failed
  | removing _ _ looks | starting _ _ looks => cases looks <;> cases failed
  | finished =>
    cases served
    cases failed
  | crashed => cases served

/-- A restart none of whose calls has failed has made the new pod when it
succeeds. -/
theorem served_succeeded (journey : Journey t m chain old leg)
    (served : Served carried made leg) (succeeded : Succeeded m chain.id) : made := by
  obtain ⟨p, ended⟩ := succeeded
  obtain ⟨f, found, _, stands⟩ := journey.stands
  cases ended.symm.trans found
  cases stands with
  | fresh _ _ next => rcases next with other | other <;> cases other
  | deleting _ _ asks | creating _ _ asks => cases asks
  | removing _ _ looks | starting _ _ looks => cases looks
  | finished =>
    cases served with
    | finished there => exact there

/-! ## The roll on its own -/

/-- A roll that is closed hands over to what follows it. -/
private theorem closing_hands_over (travels : Travels t ready r) (notClosed : r.progress ≠ .closed)
    (follows : r.follow? c g (.move i move) = some r') :
    r'.head = r.head ∧ (r'.progress = .closed →
      ∃ p, r'.machine.fiber? r.head = some ⟨p, standsAt t.next⟩) := by
  generalize happens : (Happening.move i move : Happening Answer World) = h at follows
  cases followed follows with
  | quiet | gate | aside => exact ⟨rfl, fun closed => absurd closed notClosed⟩
  | head p step after found happened =>
    obtain ⟨rfl, rfl, progress⟩ := head_step travels.opened notClosed found
    have applies : (chainDynamics c g).apply (.afterRoll (plan t).next) (marked (plan t).packet)
        r.machine.world = .of (.goOn (plan t).next) _ _ := rfl
    simp only [Roll.note, ↓reduceIte, progress]
    exact ⟨trivial, fun _ => ⟨_, (step_goes_on found happened applies).1⟩⟩

/-- The presence stays while a roll is open. -/
private theorem knows_follows (travels : Travels t ready r) (notClosed : r.progress ≠ .closed)
    (covers : Covers r) (knows : view? t.id r.machine.world ≠ none)
    (proper : Proper r.machine (.move i move))
    (follows : r.follow? c g (.move i move) = some r') : view? t.id r'.machine.world ≠ none := by
  obtain ⟨f, found, _⟩ := move_iff_moved.mp (follow_machine follows)
  have within : i < r.machine.fibers.length := (List.getElem?_eq_some_iff.mp found).1
  rcases belongs_of_covers covers notClosed within with whose | ⟨chain, among, rfl⟩
  · rw [opened_unseen travels.opened whose follows]
    exact knows
  · obtain ⟨old, leg, journey⟩ := travels.chains chain among
    obtain ⟨leg', _, advances⟩ := journey_goes journey proper follows
    exact advances_knows knows advances

/-- A chain that is there after a move was there before, or is new. -/
private theorem old_or_new (travels : Travels t ready r)
    (follows : r.follow? c g (.move i move) = some r') (among : chain ∈ r'.chains) :
    chain ∈ r.chains ∨ r.machine.fibers.length ≤ chain.id ∧
      ∃ old, Journey t r'.machine chain old .fresh := by
  by_cases early : chain ∈ r.chains
  · exact .inl early
  obtain ⟨gate, _, p, step, _, _, _, late, created⟩ :=
    chain_forked travels.opened follows among early
  obtain ⟨k, place, _⟩ := mem_chains_for late
  have born := (mem_newborn.mp (List.mem_iff_getElem?.mpr ⟨k, place⟩)).1
  have opened := opened_follow travels.opened follows
  obtain ⟨old, journey⟩ := journey_begins travels.works opened among (.inl created)
  exact .inr ⟨born, old, journey⟩

/-! ## A roll at a depot -/

/-- The terms under which a reconcile runs. -/
structure Terms where
  /-- The server that a pod name belongs to. -/
  owner : String → String
  id : PresenceId
  /-- The restart version that a look finds. -/
  version : String
  /-- A look finds the pods as they are. -/
  watched : Prop
  /-- The servers that had a pod at first. -/
  had : String → Prop

variable {k : Terms}

/-- What a roll was asked to do by a look. -/
structure Mandated (k : Terms) (t : Mandate ε) : Prop where
  works : t.packet.presence = some t.id
  place : t.id = k.id
  owned : ∀ server old, t.presence.pod? server = some old → Owned k.owner server old
  version : k.watched → t.version = k.version
  continues : Continues t.next

/-- What became of the pod of a server. -/
inductive Held (owner : String → String) (t : Mandate ε) (r : Roll ε) (s : Depot ε)
    (server : String) : Prop where
  | has (has : Has owner s.pods server)
  /-- It is to be made anew. -/
  | owing (chain : Chain ε) (among : chain ∈ r.chains) (serves : chain.member.1 = server)
      (old : Pod) (leg : Leg) (journey : Journey t r.machine chain old leg)
      (owing : Owing (chain.id ∈ s.carried) leg)
  /-- It could not be made anew. -/
  | lost (failed : LastMakingFailed owner s.log server)
      (idle : ∀ chain ∈ r.chains, chain.member.1 = server → chain.id ∉ s.carried)

/-- A call has failed, or a fiber has ended by a difference that does not fit. -/
def Spoiled (log : List Answered) (m : ChainMachine ε) : Prop :=
  SomeFailed log ∨ ∃ i, Overflowed m i

theorem spoiled_later {log : List Answered} {a : Answered} (spoiled : Spoiled log m) :
    Spoiled (a :: log) m :=
  spoiled.imp_left some_failed_later

theorem spoiled_lasts {log : List Answered} {h : Happening Answer World}
    (happened : happen? (chainDynamics c g) m h = some after) (spoiled : Spoiled log m) :
    Spoiled log after :=
  spoiled.imp_right fun ⟨i, overflowed⟩ => ⟨i, overflow_lasts happened overflowed⟩

/-- A roll no call of which has failed. -/
structure Clean (owner : String → String) (t : Mandate ε) (r : Roll ε) (s : Depot ε) : Prop where
  unfailed : ∀ i, ¬ Failed r.machine i
  legs : ∀ chain ∈ r.chains, ∃ old leg, Journey t r.machine chain old leg ∧
    Served (chain.id ∈ s.carried) (Current owner t.version s.pods chain.member.1) leg

/-- A roll at a depot. -/
structure Rolling (k : Terms) (t : Mandate ε) (ready : NameSet) (r : Roll ε) (s : Depot ε) :
    Prop where
  mandated : Mandated k t
  machine : r.machine = s.machine
  head : r.head = 0
  travels : Travels t ready r
  covers : Covers r
  knows : view? t.id r.machine.world ≠ none
  within : ∀ i ∈ s.carried, i < r.machine.fibers.length
  held : ∀ server, k.had server → Held k.owner t r s server
  /-- Every server was due or has a pod that is up to date. -/
  settled : k.watched → ∀ server, k.had server →
    IsDue t server ∨ Current k.owner t.version s.pods server
  clean : Spoiled s.log s.machine ∨ Clean k.owner t r s

/-- The same at a depot whose machine has moved. -/
private theorem held_moves (rolling : Rolling k t ready r s)
    (goesOn : r.machine.world.isStopping = false)
    (own : move = .run ∨ move = .wake ∨ move = .join)
    (follows : r.follow? c g (.move i move) = some r') (held : Held k.owner t r s server) :
    Held k.owner t r' { s with machine := r'.machine } server := by
  cases held with
  | has has => exact .has has
  | owing chain among serves old leg journey owing =>
    have among' := chains_grow follows chain among
    by_cases mine : chain.id = i
    · subst mine
      obtain ⟨leg', journey', advances⟩ := journey_goes journey (proper_of_own own) follows
      rw [goesOn] at advances
      exact .owing chain among' serves old leg' journey'
        (owing_advances owing own rolling.knows advances)
    · have journey' := journey_stays journey follows (by rintro _ ⟨⟩; exact mine rfl)
      exact .owing chain among' serves old leg journey' owing
  | lost failed idle =>
    refine .lost failed fun chain among serves => ?_
    rcases old_or_new rolling.travels follows among with early | ⟨late, _⟩
    · exact idle chain early serves
    · exact fun carried => Nat.not_lt_of_le late (rolling.within _ carried)

/-- A roll no call of which has failed makes a move of its own. Only an overflow can spoil it. -/
private theorem clean_moves (rolling : Rolling k t ready r s) (notClosed : r.progress ≠ .closed)
    (goesOn : r.machine.world.isStopping = false)
    (own : move = .run ∨ move = .wake ∨ move = .join)
    (follows : r.follow? c g (.move i move) = some r') (clean : Clean k.owner t r s) :
    Spoiled s.log r'.machine ∨ Clean k.owner t r' { s with machine := r'.machine } := by
  have moved : r.machine.move? (chainDynamics c g) i move = some r'.machine :=
    follow_machine follows
  obtain ⟨f, found, _⟩ := move_iff_moved.mp moved
  have legs : ∀ chain ∈ r'.chains, ∃ old leg, Journey t r'.machine chain old leg ∧
      Served (chain.id ∈ s.carried) (Current k.owner t.version s.pods chain.member.1) leg := by
    intro chain among
    rcases old_or_new rolling.travels follows among with early | ⟨_, old, journey⟩
    · obtain ⟨old, leg, journey, served⟩ := clean.legs chain early
      by_cases mine : chain.id = i
      · subst mine
        obtain ⟨leg', journey', advances⟩ := journey_goes journey (proper_of_own own) follows
        rw [goesOn] at advances
        exact ⟨old, leg', journey', served_advances served own rolling.knows advances⟩
      · exact ⟨old, leg, journey_stays journey follows (by rintro _ ⟨⟩; exact mine rfl), served⟩
    · exact ⟨old, .fresh, journey, .fresh⟩
  by_cases failed : Failed r'.machine i
  · have within : i < r.machine.fibers.length := (List.getElem?_eq_some_iff.mp found).1
    rcases belongs_of_covers rolling.covers notClosed within with whose | ⟨chain, among, rfl⟩
    · obtain ⟨_, _, _, overflowed⟩ := roll_fails rolling.travels clean.unfailed goesOn
        rolling.knows whose own moved failed
      exact .inl (.inr ⟨i, overflowed⟩)
    · obtain ⟨old, leg, journey, served⟩ := legs chain (chains_grow follows chain among)
      exact absurd failed (served_not_failed journey served)
  · exact .inr ⟨others_unfailed clean.unfailed moved failed, legs⟩

/-- A fiber of an open roll makes a move of its own. -/
theorem rolling_moves (rolling : Rolling k t ready r s) (notClosed : r.progress ≠ .closed)
    (goesOn : s.machine.world.isStopping = false)
    (own : move = .run ∨ move = .wake ∨ move = .join)
    (moved : s.machine.move? (chainDynamics c g) i move = some after) :
    ∃ r', Rolling k t ready r' { s with machine := after } ∧
      (r'.progress = .closed → ∃ p, after.fiber? 0 = some ⟨p, standsAt t.next⟩) := by
  have happened : happen? (chainDynamics c g) r.machine (.move i move) = some after := by
    rw [happen?, rolling.machine]
    exact moved
  obtain ⟨r', follows⟩ : ∃ r', r.follow? c g (.move i move) = some r' := by
    rw [Roll.follow?, happened]
    exact ⟨_, rfl⟩
  have machine : r'.machine = after :=
    Option.some.inj ((follow_machine follows).symm.trans happened)
  have proper : Proper r.machine (.move i move) := proper_of_own own
  have goesOn : r.machine.world.isStopping = false := rolling.machine ▸ goesOn
  obtain ⟨head, hands⟩ := closing_hands_over rolling.travels notClosed follows
  rw [rolling.head] at head hands
  subst machine
  refine ⟨r', ⟨rolling.mandated, rfl, head, ?_, ?_, ?_, ?_, ?_, rolling.settled, ?_⟩, hands⟩
  · exact travels_follow rolling.travels proper follows
  · exact covers_follow rolling.travels proper notClosed rolling.covers follows
  · exact knows_follows rolling.travels notClosed rolling.covers rolling.knows proper follows
  · exact fun j carried => Nat.lt_of_lt_of_le (rolling.within j carried) (happen_length happened)
  · exact fun server had => held_moves rolling goesOn own follows (rolling.held server had)
  · rcases rolling.clean with spoiled | clean
    · rw [← rolling.machine] at spoiled
      exact .inl (spoiled_lasts happened spoiled)
    · exact clean_moves (s := s) rolling notClosed goesOn own follows clean

/-! ## What the server does to a roll -/

/-- A leg does not depend on how the rest is told. -/
private theorem served_still {carried' made' : Prop} (served : Served carried made leg)
    (same : carried' ↔ carried) (more : made → made') : Served carried' made' leg := by
  cases served with
  | fresh => exact .fresh
  | deleting => exact .deleting
  | deleted response success idle => exact .deleted response success fun now => idle (same.mp now)
  | removing idle => exact .removing fun now => idle (same.mp now)
  | creating there => exact .creating fun now => more (there (same.mp now))
  | created response success there => exact .created response success (more there)
  | starting there => exact .starting (more there)
  | finished there => exact .finished (more there)

/-- What happens leaves a restart alone. -/
structure Spared (t : Mandate ε) (r r' : Roll ε) (s s' : Depot ε) (chain : Chain ε) : Prop where
  journeys : ∀ old leg, Journey t r.machine chain old leg → Journey t r'.machine chain old leg
  carried : chain.id ∈ s'.carried ↔ chain.id ∈ s.carried

private theorem held_still {owner : String → String} (held : Held owner t r s server)
    (chains : r'.chains = r.chains)
    (spared : ∀ chain ∈ r.chains, chain.member.1 = server → Spared t r r' s s' chain)
    (has : Has owner s.pods server → Has owner s'.pods server)
    (failed : LastMakingFailed owner s.log server → LastMakingFailed owner s'.log server) :
    Held owner t r' s' server := by
  cases held with
  | has there => exact .has (has there)
  | owing chain among serves old leg journey owing =>
    have aside := spared chain among serves
    refine .owing chain (chains ▸ among) serves old leg (aside.journeys old leg journey) ?_
    rw [Owing, aside.carried]
    exact owing
  | lost lost idle =>
    refine .lost (failed lost) fun chain among serves carried => ?_
    have among : chain ∈ r.chains := chains ▸ among
    exact idle chain among serves ((spared chain among serves).carried.mp carried)

private theorem legs_still {owner : String → String} (clean : Clean owner t r s)
    (among : chain ∈ r.chains) (spared : Spared t r r' s s' chain)
    (current : Current owner t.version s.pods chain.member.1 →
      Current owner t.version s'.pods chain.member.1) :
    ∃ old leg, Journey t r'.machine chain old leg ∧
      Served (chain.id ∈ s'.carried) (Current owner t.version s'.pods chain.member.1) leg := by
  obtain ⟨old, leg, journey, served⟩ := clean.legs chain among
  exact ⟨old, leg, spared.journeys old leg journey, served_still served spared.carried current⟩

/-- Whether an operation deletes an object. -/
private def deletes : Operation → Bool
  | .delete .. => true
  | _ => false

private theorem calls_differ : t.deleteCall old ≠ t.createCall old := fun same =>
  Bool.true_eq_false.mp (congrArg (fun q : Request => deletes q.operation) same)

/-- The chain of a roll that waits for an answer. -/
structure Caller (k : Terms) (t : Mandate ε) (r : Roll ε) (q : Request) (chain : Chain ε)
    (old : Pod) : Prop where
  among : chain ∈ r.chains
  held : t.presence.pod? chain.member.1 = some old
  outdated : old.restartVersion? ≠ some t.version
  owned : Owned k.owner chain.member.1 old
  waits : ∃ p next, r.machine.fiber? chain.id = some ⟨p, .waiting (.call q) next⟩
  asks : Journey t r.machine chain old .deleting ∧ q = t.deleteCall old ∨
    Journey t r.machine chain old .creating ∧ q = t.createCall old

variable {q : Request} {p : Packet} {next : Option (Step ε)} {response : Response}

private theorem caller_found (rolling : Rolling k t ready r s) (notClosed : r.progress ≠ .closed)
    (waits : s.machine.fiber? i = some ⟨p, .waiting (.call q) next⟩) :
    ∃ chain old, chain.id = i ∧ Caller k t r q chain old := by
  rw [← rolling.machine] at waits
  have within : i < r.machine.fibers.length := (List.getElem?_eq_some_iff.mp waits).1
  obtain ⟨chain, among, rfl, old, leg, journey, asks⟩ := callers_are_chains rolling.travels
    (belongs_of_covers rolling.covers notClosed within) waits
  refine ⟨chain, old, rfl, among, journey.held, journey.outdated,
    rolling.mandated.owned _ _ journey.held, ⟨p, next, waits⟩, ?_⟩
  rcases asks with ⟨rfl, asks⟩ | ⟨rfl, asks⟩
  · exact .inl ⟨journey, asks⟩
  · exact .inr ⟨journey, asks⟩

/-- A chain that waits for an answer is on one of two legs. -/
private theorem caller_leg {old' : Pod} (caller : Caller k t r q chain old)
    (journey : Journey t r.machine chain old' leg) :
    leg = .deleting ∧ q = t.deleteCall old ∨ leg = .creating ∧ q = t.createCall old := by
  obtain ⟨p, next, waits⟩ := caller.waits
  cases caller.held.symm.trans journey.held
  obtain ⟨f, found, _, stands⟩ := journey.stands
  cases waits.symm.trans found
  exact on_calls stands

/-- What happens at the caller of a server leaves the chains of others alone. -/
private theorem other_spared (rolling : Rolling k t ready r s) (caller : Caller k t r q chain old)
    {other : Chain ε} (among : other ∈ r.chains) (foreign : other.member.1 ≠ chain.member.1)
    (journeys : ∀ old leg, other.id ≠ chain.id → Journey t r.machine other old leg →
      Journey t r'.machine other old leg)
    (carried : other.id ≠ chain.id → (other.id ∈ s'.carried ↔ other.id ∈ s.carried)) :
    Spared t r r' s s' other := by
  have apart : other.id ≠ chain.id := fun same =>
    foreign (chain_of_id rolling.travels.opened caller.among among same ▸ rfl)
  exact ⟨fun old leg => journeys old leg apart, carried apart⟩

/-- The server carries out the deletion of a pod. -/
theorem rolling_deletes {name : String} {grace : Option UInt32}
    (rolling : Rolling k t ready r s) (notClosed : r.progress ≠ .closed)
    (waits : s.machine.fiber? i = some ⟨p, .waiting (.call q) next⟩)
    (asks : q.operation = .delete name grace) :
    Rolling k t ready r
      { s with
        pods := s.pods.filter (·.metadata.name ≠ some name)
        carried := i :: s.carried } := by
  obtain ⟨chain, old, rfl, caller⟩ := caller_found rolling notClosed waits
  obtain ⟨journey, rfl⟩ : Journey t r.machine chain old .deleting ∧ q = t.deleteCall old := by
    rcases caller.asks with deletes | ⟨_, rfl⟩
    · exact deletes
    · cases asks
  have foreign : ∀ server, server ≠ chain.member.1 → k.owner name ≠ server := by
    intro server other owns
    obtain ⟨own, named, same⟩ := caller.owned.named
    cases asks
    rw [best_name named, same] at owns
    exact other owns.symm
  have stays : ∀ other ∈ r.chains, other.member.1 ≠ chain.member.1 → Spared t r r s
      { s with
        pods := s.pods.filter (·.metadata.name ≠ some name)
        carried := chain.id :: s.carried } other := fun other among apart =>
    other_spared rolling caller among apart (fun _ _ _ journey => journey)
      (fun different => by simp [different])
  refine ⟨rolling.mandated, rolling.machine, rolling.head, rolling.travels, rolling.covers,
    rolling.knows, ?_, fun server had => ?_, fun watched server had => ?_, ?_⟩
  · intro j carried
    rcases List.mem_cons.mp carried with rfl | carried
    · rw [rolling.machine]
      exact (List.getElem?_eq_some_iff.mp waits).1
    · exact rolling.within j carried
  · by_cases own : server = chain.member.1
    · exact .owing chain caller.among own.symm old .deleting journey
        (.inl ⟨rfl, List.mem_cons_self⟩)
    · refine held_still (rolling.held server had) rfl
        (fun other among serves => stays other among (serves ▸ own)) ?_ (fun failed => failed)
      rintro ⟨pod, member, owned⟩
      exact ⟨pod, owned_stays (foreign server own) member owned, owned⟩
  · by_cases own : server = chain.member.1
    · exact .inl ⟨old, own ▸ caller.held, caller.outdated⟩
    · refine (rolling.settled watched server had).imp_right ?_
      rintro ⟨pod, member, owned, upToDate⟩
      exact ⟨pod, owned_stays (foreign server own) member owned, owned, upToDate⟩
  · refine rolling.clean.imp_right fun clean => ⟨clean.unfailed, fun other among => ?_⟩
    by_cases own : other.member.1 = chain.member.1
    · cases one_chain_a_server rolling.travels.opened (members_distinct t) among caller.among own
      exact ⟨old, .deleting, journey, .deleting⟩
    · refine legs_still clean among (stays other among own) ?_
      rintro ⟨pod, member, owned, upToDate⟩
      exact ⟨pod, owned_stays (foreign _ own) member owned, owned, upToDate⟩

/-- The server makes a pod. -/
theorem rolling_makes {body : ApiObject} {pod : Pod}
    (rolling : Rolling k t ready r s) (notClosed : r.progress ≠ .closed)
    (waits : s.machine.fiber? i = some ⟨p, .waiting (.call q) next⟩)
    (asks : q.operation = .create body) (like : Made body pod) :
    Rolling k t ready r { s with pods := pod :: s.pods, carried := i :: s.carried } := by
  obtain ⟨chain, old, rfl, caller⟩ := caller_found rolling notClosed waits
  obtain ⟨journey, rfl⟩ : Journey t r.machine chain old .creating ∧ q = t.createCall old := by
    rcases caller.asks with ⟨_, rfl⟩ | makes
    · cases asks
    · exact makes
  have like : Made (t.body old) pod := by
    cases asks
    exact like
  have owned : Owned k.owner chain.member.1 pod := by
    obtain ⟨own, named, owns⟩ := caller.owned.named
    exact ⟨(made_serves like).trans caller.owned.serves, own, (made_name like).trans named, owns⟩
  have stays : ∀ other ∈ r.chains, other.member.1 ≠ chain.member.1 → Spared t r r s
      { s with pods := pod :: s.pods, carried := chain.id :: s.carried } other :=
    fun other among apart =>
      other_spared rolling caller among apart (fun _ _ _ journey => journey)
        (fun different => by simp [different])
  refine ⟨rolling.mandated, rolling.machine, rolling.head, rolling.travels, rolling.covers,
    rolling.knows, ?_, fun server had => ?_, fun watched server had => ?_, ?_⟩
  · intro j carried
    rcases List.mem_cons.mp carried with rfl | carried
    · rw [rolling.machine]
      exact (List.getElem?_eq_some_iff.mp waits).1
    · exact rolling.within j carried
  · by_cases own : server = chain.member.1
    · exact .has ⟨pod, List.mem_cons_self, own ▸ owned⟩
    · exact held_still (rolling.held server had) rfl
        (fun other among serves => stays other among (serves ▸ own)) has_more (fun failed => failed)
  · exact (rolling.settled watched server had).imp_right current_more
  · refine rolling.clean.imp_right fun clean => ⟨clean.unfailed, fun other among => ?_⟩
    by_cases own : other.member.1 = chain.member.1
    · cases one_chain_a_server rolling.travels.opened (members_distinct t) among caller.among own
      exact ⟨old, .creating, journey,
        .creating fun _ => ⟨pod, List.mem_cons_self, owned, made_version like⟩⟩
    · exact legs_still clean among (stays other among own) current_more

/-- The world changes by itself. -/
theorem rolling_outside (c : Conduct) (g : GuestRules ε) {world : World} {pods : List Pod}
    (rolling : Rolling k t ready r s) (notClosed : r.progress ≠ .closed)
    (stay : StillThere s.pods pods) (tidy : Tidy k.owner k.id world) :
    Rolling k t ready { r with machine := { r.machine with world } }
      { s with machine := { s.machine with world }, pods } := by
  have follows : r.follow? c g (.outside world) =
      some { r with machine := { r.machine with world } } := follow_quiet rfl rfl
  have proper : Proper r.machine (.outside world) := proper_of_no_answer fun _ _ => nofun
  have spared : ∀ chain ∈ r.chains, Spared t r { r with machine := { r.machine with world } } s
      { s with machine := { s.machine with world }, pods } chain := fun chain _ =>
    ⟨fun old leg journey => journey_stays journey follows (fun _ => nofun), .rfl⟩
  refine ⟨rolling.mandated, by simp only [rolling.machine], rolling.head,
    travels_follow rolling.travels proper follows,
    covers_follow rolling.travels proper notClosed rolling.covers follows, ?_, rolling.within,
    fun server had => ?_, fun watched server had => ?_, ?_⟩
  · obtain ⟨now, known, _⟩ := tidy
    rw [rolling.mandated.place, view?, known]
    exact Option.some_ne_none _
  · exact held_still (rolling.held server had) rfl (fun chain among _ => spared chain among)
      (fun has => has_still has stay) (fun failed => failed)
  · exact (rolling.settled watched server had).imp_right fun current => current_still current stay
  · refine rolling.clean.imp (spoiled_lasts (c := c) (g := g) (h := .outside world) rfl)
      fun clean => ⟨clean.unfailed, fun chain among => ?_⟩
    have among : chain ∈ r.chains := among
    exact legs_still clean among (spared chain among) fun current => current_still current stay

/-- A call of a restart that was carried out succeeds, and any other fails. -/
private theorem reply_fate {owner : String → String} (replies : Replies owner s i q response)
    (matters : ¬ Harmless q) : i ∈ s.carried ∧ response.isFailure = false ∨
      i ∉ s.carried ∧ response.isFailure = true := by
  cases replies with
  | done response carried success => exact .inl ⟨carried, success⟩
  | failed f idle => exact .inr ⟨idle, rfl⟩
  | told _ harmless => exact absurd harmless matters

private theorem caller_matters (caller : Caller k t r q chain old) : ¬ Harmless q := by
  rcases caller.asks with ⟨_, rfl⟩ | ⟨_, rfl⟩
  · exact Bool.true_eq_false.mp
  · exact Bool.true_eq_false.mp

/-- Only the chain of a server calls for the making of its pod. -/
private theorem making_is_own (caller : Caller k t r q chain old)
    (makes : makesFor k.owner server q = true) :
    chain.member.1 = server ∧ q = t.createCall old := by
  rcases caller.asks with ⟨_, rfl⟩ | ⟨_, rfl⟩
  · cases makes
  · obtain ⟨own, named, owns⟩ := caller.owned.named
    have same : old.metadata.name.map k.owner = some server := of_decide_eq_true makes
    rw [named, Option.map_some, owns] at same
    exact ⟨Option.some.inj same, rfl⟩

private theorem own_making (caller : Caller k t r (t.createCall old) chain old) :
    makesFor k.owner chain.member.1 (t.createCall old) = true := by
  obtain ⟨own, named, owns⟩ := caller.owned.named
  refine decide_eq_true (?_ : old.metadata.name.map k.owner = some chain.member.1)
  rw [named, Option.map_some, owns]

/-- The log tells which makings failed: of other servers it tells what it told
before, and of the server itself that nothing was made. -/
private theorem failed_making (caller : Caller k t r q chain old)
    (replies : Replies k.owner s chain.id q response)
    (idle : chain.member.1 = server → chain.id ∉ s.carried)
    (failed : LastMakingFailed k.owner s.log server) :
    LastMakingFailed k.owner (⟨q, !response.isFailure⟩ :: s.log) server := by
  cases makes : makesFor k.owner server q with
  | false => exact (making_skipped makes).mpr failed
  | true =>
    have own := (making_is_own caller makes).1
    rcases reply_fate replies (caller_matters caller) with ⟨carried, _⟩ | ⟨_, failure⟩
    · exact absurd carried (idle own)
    · exact making_failed makes (by simp [failure])

/-- The chain that called has taken the answer in. -/
private theorem caller_answered (caller : Caller k t r q chain old)
    (follows : r.follow? c g (.move chain.id (.answer (.response response))) = some r')
    (goesOn : r.machine.world.isStopping = false) :
    ∃ leg', Journey t r'.machine chain old leg' ∧ (q = t.deleteCall old ∧ leg' = .deleted response ∨
      q = t.createCall old ∧ leg' = .created response) := by
  have proper := proper_of_response (m := r.machine) chain.id response
  rcases caller.asks with ⟨journey, asks⟩ | ⟨journey, asks⟩
  · obtain ⟨leg', journey', advances⟩ := journey_goes journey proper follows
    rw [goesOn] at advances
    rcases answered_advances (.inl rfl) advances with ⟨_, answered⟩ | ⟨other, _⟩
    · exact ⟨leg', journey', .inl ⟨asks, answered⟩⟩
    · cases other
  · obtain ⟨leg', journey', advances⟩ := journey_goes journey proper follows
    rw [goesOn] at advances
    rcases answered_advances (.inr rfl) advances with ⟨other, _⟩ | ⟨_, answered⟩
    · cases other
    · exact ⟨leg', journey', .inr ⟨asks, answered⟩⟩

/-- What becomes of the pod of a server when its chain is answered. -/
private theorem own_answered {leg' : Leg} (rolling : Rolling k t ready r s)
    (caller : Caller k t r q chain old) (replies : Replies k.owner s chain.id q response)
    (journey : Journey t after chain old leg')
    (answered : q = t.deleteCall old ∧ leg' = .deleted response ∨
      q = t.createCall old ∧ leg' = .created response)
    (held : Held k.owner t r s chain.member.1) :
    Held k.owner t { r with machine := after }
      { s with
        machine := after
        carried := s.carried.filter (· ≠ chain.id)
        log := ⟨q, !response.isFailure⟩ :: s.log } chain.member.1 := by
  have only : ∀ other ∈ r.chains, other.member.1 = chain.member.1 → other = chain :=
    fun other among serves =>
      one_chain_a_server rolling.travels.opened (members_distinct t) among caller.among serves
  have settled : ∀ other ∈ r.chains, other.member.1 = chain.member.1 →
      other.id ∉ s.carried.filter (· ≠ chain.id) := by
    intro other among serves
    simp [only other among serves]
  cases held with
  | has has => exact .has has
  | lost failed idle =>
    exact .lost (failed_making caller replies (fun _ => idle chain caller.among rfl) failed) settled
  | owing other among serves old' leg journey' owing =>
    cases only other among serves
    cases caller.held.symm.trans journey'.held
    rcases caller_leg caller journey' with ⟨rfl, rfl⟩ | ⟨rfl, rfl⟩
    · obtain ⟨_, rfl⟩ := answered.resolve_right fun other => calls_differ other.1
      have carried : chain.id ∈ s.carried := by
        rcases owing with ⟨_, carried⟩ | ⟨owes, _⟩
        · exact carried
        · cases owes
      rcases reply_fate replies (caller_matters caller) with ⟨_, success⟩ | ⟨never, _⟩
      · exact .owing chain among rfl old _ journey
          (.inr ⟨.deleted response success, settled chain among rfl⟩)
      · exact absurd carried never
    · have idle : chain.id ∉ s.carried := by
        rcases owing with ⟨other, _⟩ | ⟨_, idle⟩
        · cases other
        · exact idle
      rcases reply_fate replies (caller_matters caller) with ⟨carried, _⟩ | ⟨_, failure⟩
      · exact absurd carried idle
      · exact .lost (making_failed (own_making caller) (by simp [failure])) settled

/-- No call of a restart has failed when the last one succeeds. -/
private theorem own_served {leg' : Leg} (clean : Clean k.owner t r s)
    (caller : Caller k t r q chain old) (replies : Replies k.owner s chain.id q response)
    (success : response.isFailure = false)
    (journey : Journey t after chain old leg')
    (answered : q = t.deleteCall old ∧ leg' = .deleted response ∨
      q = t.createCall old ∧ leg' = .created response) :
    ∃ old leg, Journey t after chain old leg ∧
      Served (chain.id ∈ s.carried.filter (· ≠ chain.id))
        (Current k.owner t.version s.pods chain.member.1) leg := by
  obtain ⟨old', leg, journey', served⟩ := clean.legs chain caller.among
  cases caller.held.symm.trans journey'.held
  refine ⟨old, leg', journey, ?_⟩
  rcases answered with ⟨_, rfl⟩ | ⟨rfl, rfl⟩
  · exact .deleted response success (by simp)
  · obtain ⟨rfl, _⟩ := (caller_leg caller journey').resolve_left fun other =>
      calls_differ other.2.symm
    cases served with
    | creating there =>
      rcases reply_fate replies (caller_matters caller) with ⟨carried, _⟩ | ⟨_, failure⟩
      · exact .created response success (there carried)
      · exact absurd (failure.symm.trans success) Bool.true_eq_false.mp

/-- A call of a restart is answered. -/
theorem rolling_answers (rolling : Rolling k t ready r s) (notClosed : r.progress ≠ .closed)
    (goesOn : s.machine.world.isStopping = false)
    (waits : s.machine.fiber? i = some ⟨p, .waiting (.call q) next⟩)
    (replies : Replies k.owner s i q response)
    (moved : s.machine.move? (chainDynamics c g) i (.answer (.response response)) = some after) :
    Rolling k t ready { r with machine := after }
      { s with
        machine := after
        carried := s.carried.filter (· ≠ i)
        log := ⟨q, !response.isFailure⟩ :: s.log } := by
  obtain ⟨chain, old, rfl, caller⟩ := caller_found rolling notClosed waits
  obtain ⟨here, unseen, length⟩ := call_answered waits goesOn moved
  rw [← rolling.machine] at moved goesOn unseen length
  have follows : r.follow? c g (.move chain.id (.answer (.response response))) =
      some { r with machine := after } := follow_quiet moved rfl
  have proper := proper_of_response (m := r.machine) chain.id response
  obtain ⟨leg', journey, answered⟩ := caller_answered caller follows goesOn
  have spared : ∀ other ∈ r.chains, other.member.1 ≠ chain.member.1 →
      Spared t r { r with machine := after } s
        { s with
          machine := after
          carried := s.carried.filter (· ≠ chain.id)
          log := ⟨q, !response.isFailure⟩ :: s.log } other := fun other among apart =>
    other_spared rolling caller among apart
      (fun _ _ different journey => journey_stays journey follows
        fun _ same => different (Happening.move.inj same).1.symm)
      (fun different => by simp [different])
  refine ⟨rolling.mandated, rfl, rolling.head, travels_follow rolling.travels proper follows,
    covers_follow rolling.travels proper notClosed rolling.covers follows, ?_, ?_,
    fun server had => ?_, rolling.settled, ?_⟩
  · rw [unseen]
    exact rolling.knows
  · intro j carried
    rw [length]
    exact rolling.within j (List.mem_filter.mp carried).1
  · by_cases own : server = chain.member.1
    · subst own
      exact own_answered rolling caller replies journey answered (rolling.held _ had)
    · exact held_still (rolling.held server had) rfl
        (fun other among serves => spared other among (serves ▸ own)) (fun has => has)
        (failed_making caller replies fun same => absurd same.symm own)
  · cases failure : response.isFailure with
    | true => exact .inl (.inl ⟨_, List.mem_cons_self, by rfl⟩)
    | false =>
      have spoils (spoiled : Spoiled s.log s.machine) : Spoiled s.log after :=
        spoiled_lasts (h := .move chain.id (.answer (.response response))) (rolling.machine ▸ moved)
          spoiled
      refine rolling.clean.imp (fun spoiled => spoiled_later (spoils spoiled))
        fun clean => ⟨?_, fun other among => ?_⟩
      · refine others_unfailed clean.unfailed moved ?_
        rintro ⟨f, e, found, failed⟩
        cases here.symm.trans found
        cases failed
      · change other ∈ r.chains at among
        by_cases own : other.member.1 = chain.member.1
        · obtain rfl : other = chain :=
            one_chain_a_server rolling.travels.opened (members_distinct t) among caller.among own
          exact own_served clean caller replies failure journey answered
        · exact legs_still clean among (failure ▸ spared other among own) fun current => current

end DomainSteward.Stocks
