import DomainSteward.Proofs.Fiber.Forks
import DomainSteward.Proofs.Site.Recovery
import DomainSteward.Proofs.Site.Stations

/-! What a reconcile leaves behind, whatever its calls are answered: the flags of its presence, and
the events that it has reported. -/
namespace DomainSteward.Aftermath
open Machine Moves WaveLoop Ledger Anatomy Lots Paths Journeys Blame Faces Orders Stories Stations
open Convergence (loneOld)
open Recovery (loneDomain listed refusal)

variable {ε : Type} {c : Conduct} {g : GuestRules ε} {id : PresenceId}
  {before : Option RecordedFailure} {r r' : Roll ε} {s : Story} {t : Restarts.Mandate ε}
  {ready : NameSet} {i : FiberId} {move : Move Answer} {p : Packet} {world : World}
  {robbed kept : Prop}

/-! ## The whole reconcile -/

/-- A failure that is recorded: neither is the object missing nor is there a conflict. A call that
was never answered has no status, and its failure is recorded too. -/
def IsSevere (f : CallFailure) : Prop :=
  f.statusCode ≠ some codeNotFound ∧ f.statusCode ≠ some codeConflict

/-- A roll has begun, every server that was due has been restarted, and all these restarts have
succeeded. -/
def Finished (r : Roll ε) (s : Story) : Prop :=
  (∃ message, .rollStarting message ∈ s.events) ∧
    (∀ server ∈ s.due, ∃ chain ∈ r.chains, chain.member.1 = server) ∧
    ∀ chain ∈ r.chains, Succeeded r.machine chain.id

/-- The flags that a reconcile leaves, what it has told, and what has become of its roll agree. -/
structure Consistent (kept : Prop) (failure : Option FiberError) (flags : Flags) (r : Roll ε)
    (s : Story) : Prop where
  idle : flags.rolling = false
  clean : failure = none → flags.failure = none
  recorded : (∃ f ∈ s.givenUp, IsSevere f) → ∃ f ∈ s.givenUp, IsSevere f ∧
    flags.failure = some ⟨kubernetesFailureReason, f.message⟩
  startedOnce : s.events.countP (· matches .rollStarting _) ≤ 1
  completedOnce : s.events.count .rollCompleted ≤ 1
  /-- Nobody restarts whose restart was not due. -/
  forked : ∀ chain ∈ r.chains, chain.member.1 ∈ s.due
  /-- The end of a roll is reported only if the roll is finished. -/
  completed : .rollCompleted ∈ s.events → Finished r s
  /-- As long as the clusters have kept their floors, it is reported exactly then. -/
  completed_iff : kept → (.rollCompleted ∈ s.events ↔ Finished r s)

theorem severe_iff {f : CallFailure} : IsSevere f ↔ f.isBenign = false := by
  simp [IsSevere, CallFailure.isBenign]

private theorem severe_recorded (before : Option RecordedFailure) (givenUp : List CallFailure) :
    (∃ f ∈ givenUp, IsSevere f) → ∃ f ∈ givenUp, IsSevere f ∧
      recorded before givenUp = some ⟨kubernetesFailureReason, f.message⟩ := by
  rintro ⟨f, among, severe⟩
  rcases recorded_failure before givenUp with ⟨benign, _⟩ | ⟨f', among', severe', same⟩
  · exact absurd ((severe_iff.mp severe).symm.trans (benign f among)) Bool.false_ne_true
  · exact ⟨f', among', severe_iff.mpr severe', same⟩

/-- After a failure no roll is under way. -/
private theorem close_flags {failure : Option FiberError} {flags : Flags} (seconds : Float)
    (now : flags? id world = some flags) :
    flags? id (closeReconcile c id failure seconds world) =
      some ⟨!failure.isSome && flags.rolling, flags.failure⟩ := by
  have shown : face? id (closeReconcile c id failure seconds world) =
      (face? id world).map
        (fun face => { face with rolling := !failure.isSome && face.rolling }) := by
    cases failure with
    | none => exact (face_count_roll _).trans (congrFun Option.map_id _).symm
    | some e =>
      have stops (w : World) : face? id (w.modifyPresence id (·.setRolling false)) =
          (face? id w).map (fun face => { face with rolling := false }) :=
        face_modify fun _ _ => rfl
      exact (stops _).trans (congrArg _ (face_count_roll _))
  obtain ⟨face, rolling, failure', _, now', _⟩ := flags_change now shown
  rw [now', rolling, failure']

/-- A reconcile that has come to its status leaves no flags. -/
private theorem settled_consistent {failure : Option FiberError} (settled : Settled r s) :
    Consistent kept failure ⟨false, none⟩ r s := by
  have nothing : ¬ ∃ f ∈ s.givenUp, IsSevere f := by
    rintro ⟨f, among, _⟩
    rw [settled.gaveUp] at among
    exact absurd among List.not_mem_nil
  rcases settled.told with told | ⟨message, told, restarted, succeeded⟩
  · have unbegun : ¬ Finished r s := by
      rintro ⟨⟨_, begun⟩, _⟩
      simp [told] at begun
    exact ⟨rfl, fun _ => rfl, fun severe => absurd severe nothing, by simp [told], by simp [told],
      settled.forked, by simp [told], fun _ => iff_of_false (by simp [told]) unbegun⟩
  · have finished : Finished r s := ⟨⟨message, by simp [told]⟩, restarted, succeeded⟩
    exact ⟨rfl, fun _ => rfl, fun severe => absurd severe nothing, by simp [told], by simp [told],
      settled.forked, fun _ => finished, fun _ => iff_of_true (by simp [told]) finished⟩

/-- A reconcile the list or the roll of which has failed leaves the failure of a call behind, if
any. -/
private theorem failed_consistent (before : Option RecordedFailure) (e : FiberError)
    (forked : ∀ chain ∈ r.chains, chain.member.1 ∈ s.due)
    (told : s.events = [] ∨ ∃ message, s.events = [.rollStarting message])
    (unfinished : kept → ¬ Finished r s) :
    Consistent kept (some e) ⟨false, recorded before s.givenUp⟩ r s := by
  have uncompleted : .rollCompleted ∉ s.events := by
    rcases told with told | ⟨message, told⟩ <;> simp [told]
  refine ⟨rfl, nofun, severe_recorded before s.givenUp, ?_, ?_, forked,
    fun completed => absurd completed uncompleted,
    fun kept => iff_of_false uncompleted (unfinished kept)⟩
  · rcases told with told | ⟨message, told⟩ <;> simp [told]
  · rcases told with told | ⟨message, told⟩ <;> simp [told]

/-- The head of an open roll ends only by failing, with somebody to blame. -/
private theorem rolls_ended {failure : Option FiberError}
    (rolling : Rolling (¬ kept) c id before t ready r s)
    (ended : r.machine.fiber? 0 = some ⟨p, .ended failure⟩) :
    ∃ e, failure = some e ∧ (kept → ¬ Finished r s) := by
  rw [← rolling.isHead] at ended
  have stands := rolling.travels.opened.head
  have notClosed := rolling.notClosed
  generalize r.progress = progress at stands notClosed
  cases stands with
  | waits found | closing found => cases found.symm.trans ended
  | closed => exact absurd rfl notClosed
  | failed q e found =>
    cases found.symm.trans ended
    refine ⟨e, rfl, fun kept ⟨_, restarted, succeeded⟩ => ?_⟩
    cases rolling.blamed.resolve_left (not_not_intro kept) with
    | chain chain among failed => exact not_succeeded failed (succeeded chain among)
    | starved i b gate _ nobody =>
      obtain ⟨server, isDue, unserved⟩ := starved_server rolling.travels gate nobody
      obtain ⟨chain, among, serves⟩ := restarted server ((rolling.due server).mpr isDue)
      exact unserved chain among serves
    | nobody unfailed => exact unfailed r.head ⟨_, e, found, rfl⟩

private theorem stands_ended {failure : Option FiberError} (seconds : Float)
    (stands : Stands (¬ kept) c id before r s)
    (ended : r.machine.fiber? 0 = some ⟨p, .ended failure⟩) :
    ∃ flags, flags? id (closeReconcile c id failure seconds r.machine.world) = some flags ∧
      Consistent kept failure flags r s := by
  cases stands with
  | lists f q x alone agenda lists unsought =>
    obtain ⟨_, rfl⟩ := lone_only alone.only ended
    exact absurd rfl (lists_end lists failure)
  | looks p alone => cases (lone_only alone.only ended).2
  | opens t place continues due alone => cases (lone_only alone.only ended).2
  | clears p before settled works found => cases found.symm.trans ended
  | crashed p message found => cases found.symm.trans ended
  | rolls t ready rolling =>
    obtain ⟨e, rfl, unfinished⟩ := rolls_ended rolling ended
    obtain ⟨message, begun⟩ := rolling.begun
    refine ⟨_, close_flags seconds rolling.flags,
      failed_consistent before e (fun chain among => ?_) (.inr ⟨message, begun⟩) unfinished⟩
    obtain ⟨old, held, outdated, _⟩ := chain_due rolling.travels.opened among
    exact (rolling.due _).mpr ⟨old, held, outdated⟩
  | late settled writes flags =>
    refine ⟨_, close_flags seconds flags, ?_⟩
    rw [Bool.and_false]
    exact settled_consistent settled
  | failed q e only flags quiet nobody =>
    cases (lone_found only).symm.trans ended
    refine ⟨_, close_flags seconds flags,
      failed_consistent before e (fun chain among => ?_) (.inl quiet) fun _ ⟨⟨_, begun⟩, _⟩ => ?_⟩
    · rw [nobody] at among
      cases among
    · rw [quiet] at begun
      cases begun

section

variable {domain : Domain} {old : World} {head : Step ε} {start : Presence}

private theorem stands_begins (begins : beginReconcile c domain old = .fiber id head p world)
    (known : world.presence? id = some start) (idle : start.rolling = false) :
    Stands robbed c id start.failure { machine := Forks.solo head p world, head := 0 } {} := by
  unfold beginReconcile at begins
  split at begins
  · cases begins
  split at begins
  · cases begins
  injection begins with place chain packet same
  subst chain packet
  have flags : flags? id world = some ⟨false, start.failure⟩ := by
    rw [flags?, known, Option.map_some, idle]
  have agenda : Agenda c id
      { id := .listPods, request := none, handler := .podsListed, sink := some (.domain id)
        next := some (.rollIfNeeded (some (.domain id)) (some (finish (ε := ε) c))) } :=
    ⟨rfl, rfl, rfl⟩
  rw [← place] at agenda flags ⊢
  exact .lists _ _ _ ⟨rfl, rfl, rfl, ⟨rfl, rfl, rfl, rfl⟩, flags, rfl, rfl⟩ agenda (.first _) rfl

end

/-! ## A deletion that is refused -/

end DomainSteward.Aftermath
