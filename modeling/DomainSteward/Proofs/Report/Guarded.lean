import DomainSteward.Proofs.Report.Stages

/-! A status update makes a bounded number of calls, and every status that it writes is guarded by the
version of the domain it was computed from. What is still allowed at each stage is a number that every
move lowers; what has been done is a list that every act lengthens. -/
namespace DomainSteward.Updates
open Machine Moves Acts Exchanges Draws Paths

variable {ε : Type} {c : Conduct} {g : GuestRules ε} {next : Option (Step ε)} {left n : UInt32}
  {stage stage' : Stage} {did : Option (Act (Step ε) Packet World)}
  {phase phase' : Phase (Step ε) (Pending ε)} {log : List (Act (Step ε) Packet World)}
  {q : Request} {a : Act (Step ε) Packet World}

/-! ## What is still allowed -/

/-- The calls of an update that bears so many conflicts, each call failing as often as it may. -/
def mostCalls (retries conflicts : Nat) : Nat := conflicts * (retries + 2) + retries + 1

/-- The calls that are made once a call has come so far, beyond its retries. -/
def Pose.calls : Pose → Nat
  | .asks | .pauses => 1
  | .waits | .told => 0

/-- The calls that are still allowed. -/
def Stage.calls (retries : Nat) : Stage → Nat
  | .computing left => mostCalls retries left.toNat
  | .calling left n (.write _) pose =>
    left.toNat * (retries + 2) + (retries - n.toNat) + pose.calls
  | .calling left n (.read _) pose =>
    mostCalls retries left.toNat + (retries - n.toNat) + pose.calls
  | .rerouting left n => mostCalls retries left.toNat + (retries - n.toNat) + 1
  | .past => 0

/-- The moves of a call besides those that come with each further call. -/
def Pose.moves : Pose → Nat
  | .asks => 0
  | .waits => 3
  | .told => 2
  | .pauses => 1

/-- The moves that are still allowed: four for each call, and those between calls. -/
def Stage.moves (retries : Nat) (stage : Stage) : Nat :=
  match stage with
  | .computing left => 4 * stage.calls retries + 2 * left.toNat + 1
  | .calling left _ (.write _) pose => 4 * stage.calls retries + 2 * left.toNat + pose.moves
  | .calling left _ (.read _) pose => 4 * stage.calls retries + 2 * left.toNat + pose.moves + 2
  | .rerouting left _ => 4 * stage.calls retries + 2 * left.toNat + 3
  | .past => 0

/-- The statuses that may still be computed. -/
def Stage.statuses : Stage → Nat
  | .computing left | .calling left _ (.read _) _ | .rerouting left _ => left.toNat + 1
  | .calling left _ (.write _) _ => left.toNat
  | .past => 0

/-- The calls of some acts. -/
def callsOf (c : Conduct) (g : GuestRules ε) (log : List (Act (Step ε) Packet World)) :
    List Request :=
  log.filterMap (call? c g)

private theorem no_calls (silent : ∀ a ∈ did, call? c g a = none) :
    callsOf c g did.toList = [] := by
  cases did with
  | none => rfl
  | some a => simp [callsOf, silent a rfl]

private theorem one_less (more : 0 < left) : left.toNat = (left - 1).toNat + 1 := by
  have positive : 0 < left.toNat := by simpa using UInt32.lt_iff_toNat_lt.mp more
  have least : (1 : UInt32) ≤ left := UInt32.le_iff_toNat_le.mpr positive
  rw [UInt32.toNat_sub_of_le _ _ least]
  simp only [UInt32.toNat_one]
  omega

private theorem one_more {most : UInt32} (within : n ≤ most) (fits : most.toNat + 1 < UInt32.size) :
    (n + 1).toNat = n.toNat + 1 := by
  have within := UInt32.le_iff_toNat_le.mp within
  rw [UInt32.toNat_add, UInt32.toNat_one]
  exact Nat.mod_eq_of_lt (Nat.lt_of_le_of_lt (Nat.add_le_add_right within 1) fits)

/-- The acts of an update that make no call. -/
private theorem advances_silent (advances : Advances c g next stage did stage' phase')
    (other : ∀ left n purpose, stage ≠ .calling left n purpose .asks) :
    ∀ a ∈ did, call? c g a = none := by
  rintro a ⟨⟩
  cases advances with
  | calls left n purpose => exact absurd rfl (other left n purpose)
  | computes | skips | again | reroutes | reads | loses | rereads | closes => assumption

/-- Every move uses up some of what is allowed. -/
theorem advances_spend (advances : Advances c g next stage did stage' phase')
    (fits : c.tuning.maxRetries.toNat + 1 < UInt32.size) :
    (callsOf c g did.toList).length + stage'.calls c.tuning.maxRetries.toNat ≤
        stage.calls c.tuning.maxRetries.toNat ∧
      stage'.moves c.tuning.maxRetries.toNat + 1 ≤ stage.moves c.tuning.maxRetries.toNat := by
  have silent := no_calls ∘ advances_silent advances
  cases advances with
  | calls left n purpose a phase fits step calls =>
    cases purpose <;>
      simp [callsOf, calls, Stage.calls, Stage.moves, Pose.calls, Pose.moves] <;> omega
  | again left n purpose a phase f judges other within more =>
    have taken := one_more within fits
    have bounded := UInt32.le_iff_toNat_le.mp more
    rw [silent (by simp)]
    cases purpose <;>
      simp only [Stage.calls, Stage.moves, Pose.calls, Pose.moves, taken, List.length_nil] <;> omega
  | reroutes left n q a phase f judges conflict more =>
    have fewer := one_less more
    rw [silent (by simp)]
    simp only [Stage.calls, Stage.moves, Pose.calls, Pose.moves, mostCalls, fewer, Nat.succ_mul]
    constructor <;> simp <;> omega
  | closes left n purpose | answered left n purpose | aborts left n purpose
  | wakes left n purpose =>
    rw [silent (by simp)]
    cases purpose <;> simp [Stage.calls, Stage.moves, Pose.calls, Pose.moves]
  | computes | skips | reads | loses | rereads =>
    rw [silent (by simp)]
    simp [Stage.calls, Stage.moves, Pose.calls, Pose.moves, mostCalls]
    all_goals omega

/-! ## Patches -/

/-- The patch that is being called for. -/
def Stage.patch? : Stage → Option Request
  | .calling _ _ (.write q) _ => some q
  | _ => none

/-- Every patch in a list is the last one, or the domain has been read again since. -/
def Since (c : Conduct) (g : GuestRules ε) (log : List (Act (Step ε) Packet World))
    (last : Option Request) : Prop :=
  ∀ before a after q, log = before ++ a :: after → Patches c g a q →
    last = some q ∨ ∃ b ∈ after, Rereads c g b

private theorem since_longer {last : Option Request} (since : Since c g log last)
    (now : ∀ a ∈ did, ∀ q, Patches c g a q → last = some q) : Since c g (log ++ did.toList) last := by
  cases did with
  | none => simpa using since
  | some b =>
    intro before a after q split patches
    rcases split_last split with ⟨_, rfl, _⟩ | ⟨rest, rfl, same⟩
    · exact .inl (now _ rfl q patches)
    · rcases since before a rest q same patches with last | ⟨r, among, rereads⟩
      · exact .inl last
      · exact .inr ⟨r, List.mem_append_left _ among, rereads⟩

/-- Once the domain is read again every patch lies before that. -/
private theorem since_rereads (rereads : Rereads c g a) (silent : call? c g a = none) :
    Since c g (log ++ [a]) none := by
  intro before b after q split patches
  rcases split_last split with ⟨_, rfl, _⟩ | ⟨rest, rfl, _⟩
  · cases silent.symm.trans patches.1
  · exact .inr ⟨a, by simp, rereads⟩

private theorem since_weaker {last : Option Request} (since : Since c g log none) :
    Since c g log last := by
  intro before a after q split patches
  rcases since before a after q split patches with nothing | rereads
  · cases nothing
  · exact .inr rereads

/-- Only the patch of a stage is called for. -/
private theorem advances_patches (advances : Advances c g next stage did stage' phase') :
    ∀ a ∈ did, ∀ q, Patches c g a q → stage.patch? = some q := by
  intro a among q patches
  cases stage with
  | calling left n purpose pose =>
    cases pose with
    | asks =>
      cases advances with
      | calls _ _ _ _ _ fits step calls =>
        cases among
        cases Option.some.inj (calls.symm.trans patches.1)
        cases purpose with
        | write q => rfl
        | read q =>
          obtain ⟨now, d, rfl⟩ := fits
          cases patches.2
    | waits | told | pauses =>
      cases (advances_silent advances (by simp) a among).symm.trans patches.1
  | computing | rerouting | past =>
    cases (advances_silent advances (by simp) a among).symm.trans patches.1

/-- A patch is called for that has just been computed, or that was called for before. -/
private theorem advances_patch (advances : Advances c g next stage did stage' phase') :
    (∃ left a q, stage = .computing left ∧ did = some a ∧ Computes next a q ∧
        stage' = .calling left 0 (.write q) .asks) ∨
      (∀ q, stage'.patch? = some q → stage.patch? = some q) ∧ stage'.statuses ≤ stage.statuses := by
  cases advances with
  | computes left a q phase computes => exact .inl ⟨left, a, q, rfl, rfl, computes, rfl⟩
  | reroutes left n q a phase f judges conflict more =>
    have fewer := one_less more
    exact .inr ⟨by simp [Stage.patch?], by simp only [Stage.statuses]; omega⟩
  | calls left n purpose | answered left n purpose | aborts left n purpose | again left n purpose
  | wakes left n purpose | closes left n purpose =>
    cases purpose <;> exact .inr ⟨by simp [Stage.patch?], by simp [Stage.statuses]⟩
  | _ => exact .inr ⟨by simp [Stage.patch?], by simp [Stage.statuses]⟩

private theorem advances_computing (advances : Advances c g next stage did (.computing left) phase') :
    ∃ a, did = some a ∧ Rereads c g a ∧ call? c g a = none := by
  cases advances with
  | rereads _ _ _ a _ rereads silent => exact ⟨a, rfl, rereads, silent⟩

/-- What is known of the patches that have been called for: there are few of them, each was computed
before it was called for, and between any two of them the domain was read again. -/
structure Patched (c : Conduct) (g : GuestRules ε) (next : Option (Step ε)) (most : Nat)
    (stage : Stage) (log : List (Act (Step ε) Packet World)) : Prop where
  few : ∃ qs : List Request, qs.length + stage.statuses ≤ most ∧
    (∀ q, stage.patch? = some q → q ∈ qs) ∧ ∀ a ∈ log, ∀ q, Patches c g a q → q ∈ qs
  computed : ∀ q, stage.patch? = some q → ∃ u ∈ log, Computes next u q
  guarded : Throughout (fun before a => ∀ q, Patches c g a q → ∃ u ∈ before, Computes next u q) log
  since : ∃ last, (∀ q, stage.patch? = some q → last = some q) ∧
    (∀ left, stage = .computing left → last = none) ∧ Since c g log last
  separated : Throughout (fun before a => ∀ q, Patches c g a q → Since c g before (some q)) log

private theorem among_longer {did : Option (Act (Step ε) Packet World)} :
    a ∈ log ++ did.toList ↔ a ∈ log ∨ a ∈ did := by
  cases did <;> simp [eq_comm]

theorem patched_advance {most : Nat} (patched : Patched c g next most stage log)
    (advances : Advances c g next stage did stage' phase') :
    Patched c g next most stage' (log ++ did.toList) := by
  obtain ⟨few, computed, guarded, since, separated⟩ := patched
  have patches := advances_patches advances
  refine ⟨?_, ?_, ?_, ?_, ?_⟩
  · obtain ⟨qs, length, current, listed⟩ := few
    rcases advances_patch advances with ⟨left, b, q, rfl, rfl, _, rfl⟩ | ⟨same, fewer⟩
    · refine ⟨qs ++ [q], ?_, ?_, ?_⟩
      · simp only [List.length_append, List.length_singleton, Stage.statuses] at length ⊢
        omega
      · rintro _ ⟨⟩
        simp
      · intro a among q' patched
        rcases among_longer.mp among with among | now
        · exact List.mem_append_left _ (listed a among q' patched)
        · cases patches a now q' patched
    · refine ⟨qs, Nat.le_trans (Nat.add_le_add_left fewer _) length,
        fun q now => current q (same q now), fun a among q patched => ?_⟩
      rcases among_longer.mp among with among | now
      · exact listed a among q patched
      · exact current q (patches a now q patched)
  · intro q now
    rcases advances_patch advances with ⟨left, b, q', rfl, rfl, computes, rfl⟩ | ⟨same, _⟩
    · cases now
      exact ⟨b, by simp, computes⟩
    · obtain ⟨u, among, computes⟩ := computed q (same q now)
      exact ⟨u, List.mem_append_left _ among, computes⟩
  · exact throughout_toList guarded fun a now q patched => computed q (patches a now q patched)
  · obtain ⟨last, current, none, since⟩ := since
    rcases advances_patch advances with ⟨left, b, q, rfl, rfl, computes, rfl⟩ | ⟨same, _⟩
    · cases none left rfl
      refine ⟨some q, fun _ now => now, fun _ same => (by cases same), since_weaker ?_⟩
      exact since_longer since fun a now q patched => (by cases patches a now q patched)
    · by_cases computing : ∃ left, stage' = .computing left
      · obtain ⟨left, rfl⟩ := computing
        obtain ⟨b, rfl, rereads, silent⟩ := advances_computing advances
        exact ⟨.none, fun _ now => (by cases now), fun _ _ => rfl, since_rereads rereads silent⟩
      · refine ⟨last, fun q now => current q (same q now),
          fun left same => absurd ⟨left, same⟩ computing, since_longer since fun a now q patched => ?_⟩
        exact current q (patches a now q patched)
  · refine throughout_toList separated fun a now q patched => ?_
    obtain ⟨last, current, _, since⟩ := since
    cases current q (patches a now q patched)
    exact since

/-! ## Conflicts -/

variable {conflicts : UInt32}

/-- The conflicts that patches have met. -/
def metConflicts (log : List (Act (Step ε) Packet World)) : Nat := log.countP meetsConflict

/-- The conflicts that are left to bear. -/
def Stage.left? : Stage → Option UInt32
  | .computing left | .calling left _ _ _ | .rerouting left _ => some left
  | .past => none

theorem meets_iff : meetsConflict a = true ↔ ∃ x f, Judges x (.failure f) a ∧
    x.handler = .statusPatched ∧ f.statusCode = some codeConflict := by
  unfold meetsConflict Judges
  constructor
  · intro meets
    split at meets
    · rename_i step
      obtain ⟨f, found, conflict⟩ := Option.any_eq_true _ _ |>.mp meets
      obtain ⟨r, told, failure⟩ := Option.bind_eq_some_iff.mp found
      cases r with
      | failure f' =>
        cases failure
        exact ⟨_, f, ⟨step, told⟩, rfl, of_decide_eq_true conflict⟩
      | _ => cases failure
    · cases meets
  · rintro ⟨x, f, ⟨step, told⟩, handler, conflict⟩
    obtain ⟨⟩ := x
    cases handler
    simp [step, told, Response.failure?, conflict]

/-- An answer is handled where it was told; if it is a conflict that is given up on, it is what the
fiber ends with. -/
private theorem advances_judges (advances : Advances c g next stage did stage' phase')
    {x : Exchange ε (Step ε)} {r : Response} (now : a ∈ did) (judges : Judges x r a)
    (other : x.handler = .statusPatched ∨ r.isFailure = true) :
    ∃ left n purpose, stage = .calling left n purpose .told ∧ x = purpose.under left next ∧
      ∀ f, r = .failure f → f.statusCode = some codeConflict → x.conflict = none →
        phase' = .ended (some f.toFiberError) := by
  have same {y : Exchange ε (Step ε)} {r' : Response} (judges' : Judges y r' a) :
      x = y ∧ r = r' := by
    cases judges.1.symm.trans judges'.1
    cases judges.2.symm.trans judges'.2
    exact ⟨rfl, rfl⟩
  cases now
  cases advances with
  | again left n purpose a phase f' judges' no =>
    obtain ⟨rfl, rfl⟩ := same judges'
    refine ⟨left, n, purpose, rfl, rfl, fun f failed conflict => ?_⟩
    cases failed
    exact absurd conflict no
  | reroutes left n q a phase f' judges' _ more =>
    obtain ⟨rfl, rfl⟩ := same judges'
    refine ⟨left, n, .write q, rfl, rfl, fun _ _ _ plain => ?_⟩
    have bears : ((Purpose.write q).under left next).conflict =
        if 0 < left then some (.rereadDomain (left - 1) next) else none := rfl
    rw [plain, if_pos more] at bears
    cases bears
  | closes left n purpose a phase r' judges' ends =>
    obtain ⟨rfl, rfl⟩ := same judges'
    exact ⟨left, n, purpose, rfl, rfl, fun f failed conflict _ => ends f failed conflict⟩
  | rereads _ _ _ _ _ rereads =>
    obtain ⟨y, r', d, step, handler, told, brought, _⟩ := rereads
    obtain ⟨rfl, rfl⟩ := same ⟨step, told⟩
    rcases other with other | other
    · cases handler.symm.trans other
    · cases r <;> cases other
      cases brought
  | computes _ _ _ _ computes =>
    obtain ⟨_, _, _, _, step, _⟩ := computes
    cases step.symm.trans judges.1
  | calls _ _ _ _ _ _ step =>
    obtain ⟨_, step⟩ := step
    cases step.symm.trans judges.1
  | skips _ _ _ step | reads _ _ _ _ _ step | loses _ _ _ _ step =>
    cases step.symm.trans judges.1

/-- What is left to bear has been borne before, or is met now. -/
private theorem advances_left (advances : Advances c g next stage did stage' phase')
    (left : UInt32) (now : stage'.left? = some left) : ∃ before, stage.left? = some before ∧
      metConflicts did.toList + left.toNat = before.toNat := by
  have unmet (other : ∀ a x f, a ∈ did → Judges x (.failure f) a → x.handler = .statusPatched →
      f.statusCode ≠ some codeConflict) : metConflicts did.toList = 0 := by
    cases did with
    | none => rfl
    | some a =>
      cases meets : meetsConflict a with
      | false => simp [metConflicts, meets]
      | true =>
        obtain ⟨x, f, judges, handler, conflict⟩ := meets_iff.mp meets
        exact absurd conflict (other a x f rfl judges handler)
  have untold (other : ∀ left n purpose, stage ≠ .calling left n purpose .told) :
      metConflicts did.toList = 0 := by
    refine unmet fun a x f among judges handler _ => ?_
    obtain ⟨left, n, purpose, same, _⟩ := advances_judges advances among judges (.inl handler)
    exact other left n purpose same
  cases advances with
  | reroutes k n q a phase f judges conflict more =>
    cases now
    have met : meetsConflict a = true := meets_iff.mpr ⟨_, f, judges, rfl, conflict⟩
    refine ⟨k, rfl, ?_⟩
    rw [one_less more]
    simp [metConflicts, met]
    omega
  | again k n purpose a phase f judges other =>
    cases now
    refine ⟨_, rfl, ?_⟩
    rw [unmet, Nat.zero_add]
    rintro _ x f' ⟨⟩ judges' _
    cases judges.2.symm.trans judges'.2
    exact other
  | rereads k n q a phase rereads =>
    cases now
    refine ⟨_, rfl, ?_⟩
    rw [unmet, Nat.zero_add]
    rintro _ x f' ⟨⟩ judges' handler' _
    obtain ⟨y, r, d, step, handler, _⟩ := rereads
    cases step.symm.trans judges'.1
    cases handler.symm.trans handler'
  | computes | calls | answered | wakes | reads =>
    cases now
    refine ⟨_, rfl, ?_⟩
    rw [untold (by simp), Nat.zero_add]
  | skips | aborts | loses | closes => cases now

/-- What is known of the conflicts that patches have met: with those left to bear they make up all
that may be borne, a patch has no step for more, and whatever conflict has no step is what the fiber
has ended with. -/
structure Borne (conflicts : UInt32) (stage : Stage) (phase : Phase (Step ε) (Pending ε))
    (log : List (Act (Step ε) Packet World)) : Prop where
  left : ∀ left, stage.left? = some left → metConflicts log + left.toNat = conflicts.toNat
  last : Throughout (fun before a => ∀ x r, Judges x r a → x.handler = .statusPatched →
    metConflicts before = conflicts.toNat → x.conflict = none) log
  refused : ∀ a ∈ log, ∀ x f, Judges x (.failure f) a → x.conflict = none →
    f.statusCode = some codeConflict → phase = .ended (some f.toFiberError)

theorem borne_advance (borne : Borne conflicts stage phase log)
    (busy : ∀ e, phase ≠ .ended (some e))
    (advances : Advances c g next stage did stage' phase') :
    Borne conflicts stage' phase' (log ++ did.toList) := by
  refine ⟨?_, ?_, ?_⟩
  · intro left now
    obtain ⟨before, then', met⟩ := advances_left advances left now
    have sofar := borne.left before then'
    rw [metConflicts, List.countP_append]
    simp only [metConflicts] at met sofar
    omega
  · refine throughout_toList borne.last fun a now x r judges handler spent => ?_
    obtain ⟨left, n, purpose, rfl, rfl, _⟩ := advances_judges advances now judges (.inl handler)
    have sofar := borne.left left rfl
    have none : ¬ 0 < left := fun more => by
      have := one_less more
      omega
    cases purpose with
    | write q => exact if_neg none
    | read q => rfl
  · intro a among x f judges plain conflict
    rcases among_longer.mp among with among | now
    · exact absurd (borne.refused a among x f judges plain conflict) (busy _)
    · obtain ⟨_, _, _, _, _, ends⟩ := advances_judges advances now judges (.inr rfl)
      exact ends f rfl conflict plain

/-! ## The whole update -/

variable {i : FiberId} {m m' : ChainMachine ε} {moves : Nat} {h : Happening Answer World}
  {hs : List (Happening Answer World)} {p : Packet}

/-- What can happen while a fiber updates a status: calls are answered with responses, nobody else takes
from the retry budget of the fiber, and the fiber does not yet apply the step that follows. -/
structure Tended (c : Conduct) (g : GuestRules ε) (next : Option (Step ε)) (i : FiberId)
    (m : ChainMachine ε) (h : Happening Answer World) : Prop where
  proper : Proper m h
  spared : ∀ m' f, (∀ move, h ≠ .move i move) → happen? (chainDynamics c g) m h = some m' →
    m.fiber? i = some f → m'.world.budget? f.packet = m.world.budget? f.packet
  busy : ∀ move p step, h = .move i move → m.fiber? i = some ⟨p, .running (some step)⟩ →
    next ≠ some step

/-- The books of an update: what has been done and what is still allowed. -/
structure Booked (c : Conduct) (g : GuestRules ε) (next : Option (Step ε)) (conflicts : UInt32)
    (stage : Stage) (phase : Phase (Step ε) (Pending ε)) (log : List (Act (Step ε) Packet World))
    (moves : Nat) : Prop where
  patched : Patched c g next (conflicts.toNat + 1) stage log
  borne : Borne conflicts stage phase log
  spent : c.tuning.maxRetries.toNat + 1 < UInt32.size →
    (callsOf c g log).length + stage.calls c.tuning.maxRetries.toNat ≤
        mostCalls c.tuning.maxRetries.toNat conflicts.toNat ∧
      moves + stage.moves c.tuning.maxRetries.toNat ≤
        4 * mostCalls c.tuning.maxRetries.toNat conflicts.toNat + 2 * conflicts.toNat + 1

/-- The fiber of an update stands at a stage that is in keeping with its books. -/
def Audited (c : Conduct) (g : GuestRules ε) (next : Option (Step ε)) (conflicts : UInt32)
    (i : FiberId) (m : ChainMachine ε) (log : List (Act (Step ε) Packet World)) (moves : Nat) :
    Prop :=
  ∃ stage f, m.fiber? i = some f ∧ At c next m.world stage f ∧
    Booked c g next conflicts stage f.phase log moves

private theorem audited_first
    (starts : m.fiber? i = some ⟨p, .running (some (.updateStatus conflicts next))⟩)
    (fresh : p.budget = none) : Audited c g next conflicts i m [] 0 := by
  refine ⟨.computing conflicts, _, starts, .computing p conflicts fresh, ?_, ?_, ?_⟩
  · refine ⟨⟨[], by simp [Stage.statuses], by simp [Stage.patch?], by simp⟩, by simp [Stage.patch?],
      throughout_nil, ⟨none, by simp [Stage.patch?], fun _ _ => rfl, ?_⟩, throughout_nil⟩
    intro before a after q split
    simp at split
  · refine ⟨?_, throughout_nil, by simp⟩
    rintro _ ⟨⟩
    simp [metConflicts]
  · intro _
    simp [callsOf, Stage.calls, Stage.moves]

private theorem audited_next (audited : Audited c g next conflicts i m log moves)
    (tended : Tended c g next i m h) (happened : happen? (chainDynamics c g) m h = some m') :
    Audited c g next conflicts i m' (log ++ (act? m i h).toList) (moves + ownMoves i [h]) := by
  obtain ⟨stage, f, found, stands, booked⟩ := audited
  by_cases own : ∃ move, h = .move i move
  · obtain ⟨move, rfl⟩ := own
    have busy : ∀ step, next = some step → f.phase ≠ .running (some step) := by
      rintro step follows running
      obtain ⟨p, phase⟩ := f
      cases running
      exact tended.busy move p step rfl found follows
    have going : ∀ e, f.phase ≠ .ended (some e) := by
      intro e ended
      obtain ⟨_, _, _, mover, open', _⟩ := move_shape happened
      cases found.symm.trans mover
      simp [Fiber.verdict?, ended] at open'
    obtain ⟨stage', f', found', stands', advances⟩ :=
      at_moves stands found busy tended.proper happened
    refine ⟨stage', f', found', stands', patched_advance booked.patched advances,
      borne_advance booked.borne going advances, fun fits => ?_⟩
    obtain ⟨calls, moved⟩ := booked.spent fits
    obtain ⟨fewerCalls, fewerMoves⟩ := advances_spend advances fits
    simp only [callsOf, List.filterMap_append, List.length_append, ownMoves, ↓reduceIte] at *
    constructor <;> omega
  · have foreign : ∀ move, h ≠ .move i move := fun move same => own ⟨move, same⟩
    have idle : act? m i h = none := act_none fun _ _ run => absurd run (foreign _)
    have none : ownMoves i [h] = 0 := by
      cases h with
      | move j move =>
        have other : j ≠ i := fun same => foreign move (same ▸ rfl)
        simp [ownMoves, other]
      | outside => rfl
    rw [idle, none]
    refine ⟨stage, f, bystander_stays happened foreign found,
      at_kept stands (tended.spared m' f foreign happened found), ?_⟩
    simpa using booked

/-- An update that bears so many conflicts is bounded, and guarded by the version of what it was
computed from. -/
structure Guarded (c : Conduct) (g : GuestRules ε) (next : Option (Step ε)) (conflicts : UInt32)
    (i : FiberId) (did : List (Act (Step ε) Packet World)) (moves : Nat) (m' : ChainMachine ε) :
    Prop where
  /-- It makes only so many calls, as far as failures can be counted. -/
  calls : c.tuning.maxRetries.toNat + 1 < UInt32.size →
    (callsOf c g did).length ≤
      conflicts.toNat * (c.tuning.maxRetries.toNat + 2) + c.tuning.maxRetries.toNat + 1
  /-- It makes only so many moves. -/
  moves : c.tuning.maxRetries.toNat + 1 < UInt32.size →
    moves ≤ 4 * (conflicts.toNat * (c.tuning.maxRetries.toNat + 2) + c.tuning.maxRetries.toNat + 1) +
      2 * conflicts.toNat + 1
  /-- Until it is over it goes on, whatever its calls are answered. -/
  goesOn : ∃ f, m'.fiber? i = some f ∧ (Over next f.phase ∨ GoesOn c g m' i)
  /-- It calls for few patches. -/
  few : ∃ patches : List Request, patches.length ≤ conflicts.toNat + 1 ∧
    ∀ a ∈ did, ∀ q, Patches c g a q → q ∈ patches
  /-- A patch was computed from the domain whose version it carries. -/
  versions : ∀ before a after q, did = before ++ a :: after → Patches c g a q →
    ∃ u ∈ before, Computes next u q
  /-- Between two patches that differ the domain was read again, and held. -/
  rereads : ∀ before a between b after q q', did = before ++ a :: (between ++ b :: after) →
    Patches c g a q → Patches c g b q' → q ≠ q' → ∃ r ∈ between, Rereads c g r
  /-- A conflict is what it ends with once there is no step for it, and so once as many conflicts as may
  be borne have been met. -/
  refused : ∀ before a after x f, did = before ++ a :: after → Judges x (.failure f) a →
    f.statusCode = some codeConflict →
    x.conflict = none ∨ x.handler = .statusPatched ∧ metConflicts before = conflicts.toNat →
    ∃ p', m'.fiber? i = some ⟨p', .ended (some (.api (some codeConflict) f.reason f.message))⟩

private theorem conflict_error {f : CallFailure} (conflict : f.statusCode = some codeConflict) :
    f.toFiberError = .api (some codeConflict) f.reason f.message := by
  have authorized : f.isNotAuthorized = false := by
    rw [CallFailure.isNotAuthorized, conflict]
    decide
  simp [CallFailure.toFiberError, conflict, authorized]

/-- A fiber that updates a status without a retry budget of its own is bounded and guarded, whatever
its calls are answered and whatever happens besides. -/
theorem status_update_is_bounded_and_guarded
    (starts : m.fiber? i = some ⟨p, .running (some (.updateStatus conflicts next))⟩)
    (fresh : p.budget = none) (tended : Along (chainDynamics c g) (Tended c g next i) m hs)
    (ran : course? (chainDynamics c g) m hs = some m') :
    Guarded c g next conflicts i (acts (chainDynamics c g) i m hs) (ownMoves i hs) m' := by
  have audited := law_of_course (fun _ _ _ _ _ audited tended happened =>
    audited_next audited tended happened) (audited_first starts fresh) tended ran
  rw [List.nil_append, Nat.zero_add] at audited
  obtain ⟨stage, f, found, stands, booked⟩ := audited
  generalize acts (chainDynamics c g) i m hs = did at booked
  refine ⟨?_, ?_, ⟨f, found, at_goes_on stands found g⟩, ?_, ?_, ?_, ?_⟩
  · intro fits
    exact Nat.le_trans (Nat.le_add_right ..) (booked.spent fits).1
  · intro fits
    exact Nat.le_trans (Nat.le_add_right ..) (booked.spent fits).2
  · obtain ⟨patches, length, _, listed⟩ := booked.patched.few
    exact ⟨patches, Nat.le_trans (Nat.le_add_right ..) length, listed⟩
  · intro before a after q split patches
    exact booked.patched.guarded before a after split q patches
  · intro before a between b after q q' split patches patches' different
    have split : did = (before ++ a :: between) ++ b :: after := by simpa using split
    have since := booked.patched.separated _ b after split q' patches'
    rcases since before a between q rfl patches with same | rereads
    · exact absurd (Option.some.inj same).symm different
    · exact rereads
  · intro before a after x f' split judges conflict spent
    have plain : x.conflict = none := spent.elim id fun spent =>
      booked.borne.last before a after split x _ judges spent.1 spent.2
    have among : a ∈ did := split ▸ by simp
    obtain ⟨p', phase⟩ := f
    cases booked.borne.refused a among x f' judges plain conflict
    exact ⟨p', conflict_error conflict ▸ found⟩

/-! ## An update that meets conflicts -/

def contested (version : String) : Domain :=
  { metadata := { name := some "domain1", resourceVersion := some version }, spec := {} }

/-- A fiber that is to write the status of a domain whose version is out of date. -/
def contestedStart : ChainMachine Empty :=
  { fibers := [⟨{ presence := some 0 }, .running (some (.updateStatus 1 none))⟩]
    world := { feed := { registry := { presences :=
      [{ namespaceName := "ns1", domainUid := "domain1", domain := some (contested "10") }] } } } }

def refusal : CallFailure := .http default { code := 409, reason := "Conflict", message := "stale" }

/-- Both writes meet a conflict; in between the domain is read again. -/
def contestedMoves : List (Move Answer) :=
  [.run, .run, .answer (.response (.failure refusal)), .run,
    .run, .run, .answer (.response (.object (contested "11").toObject 200)), .run,
    .run, .run, .answer (.response (.failure refusal)), .run]

/-- A fiber that is left alone is tended as long as its calls are answered with responses. -/
private theorem tended_alone {moves : List (Move Answer)}
    (proper : ∀ answer, .answer answer ∈ moves → ∃ r, answer = .response r) :
    Along (chainDynamics c g) (Tended c g none i) m (moves.map (.move i)) := by
  induction moves generalizing m with
  | nil => trivial
  | cons move rest ih =>
    refine ⟨⟨?_, fun _ _ foreign => absurd rfl (foreign move), fun _ _ _ _ _ => nofun⟩,
      fun m' _ => ih fun answer among => proper answer (List.mem_cons_of_mem _ among)⟩
    intro j answer p r next same _
    cases same
    exact proper answer List.mem_cons_self

/-- An update that may bear one conflict meets two, and ends with the second. -/
theorem contested_update_is_guarded :
    ∃ m', course? (chainDynamics {} .nobody) contestedStart (contestedMoves.map (.move 0)) = some m' ∧
      Guarded {} .nobody none 1 0
        (acts (chainDynamics {} .nobody) 0 contestedStart (contestedMoves.map (.move 0))) 12 m' ∧
      ∃ p', m'.fiber? 0 =
        some ⟨p', .ended (some (.api (some codeConflict) refusal.reason refusal.message))⟩ := by
  have ran : course? (chainDynamics {} .nobody) contestedStart (contestedMoves.map (.move 0)) =
      some _ := rfl
  refine ⟨_, ran, status_update_is_bounded_and_guarded (i := 0) rfl rfl (tended_alone ?_) ran, _, rfl⟩
  intro answer among
  simp only [contestedMoves, List.mem_cons, Move.answer.injEq, reduceCtorEq, List.not_mem_nil,
    or_false, false_or] at among
  rcases among with rfl | rfl | rfl <;> exact ⟨_, rfl⟩

end DomainSteward.Updates
