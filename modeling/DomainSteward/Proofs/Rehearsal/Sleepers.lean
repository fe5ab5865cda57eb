import Mathlib.Logic.Relation
import DomainSteward.Proofs.Chain.Flag
import DomainSteward.Proofs.Fiber.Moves
import DomainSteward.Rehearsal.Play

/-! Sleeps under the stopping flag. Time goes on only when nobody has a turn to
take, and once the flag is settled everybody who sleeps has one: the sleepers of
the moment at which it was settled are woken, and who falls asleep later is on
its turn and goes on at once. So nobody waits out a delay any more. -/
namespace DomainSteward.Sleepers
open Machine Moves Play

variable {s s' s'' before after : Play} {i j : FiberId} {who : FiberId → Prop}

def Asleep (s : Play) (i : FiberId) : Prop :=
  ∃ p wait next, s.machine.fiber? i = some ⟨p, .sleeping wait next⟩

/-- Whether a wait for the stopping flag ends at once. -/
abbrev IsSettled (s : Play) : Prop := s.world.shutdown.isSettled = true

/-- Once the flag is settled, those of some fibers that sleep have a turn to come. -/
def Roused (who : FiberId → Prop) (s : Play) : Prop :=
  IsSettled s → ∀ i, who i → Asleep s i → .fiber i ∈ s.queue

/-- A change that leaves nobody asleep: whoever sleeps after it under the flag has a turn to come
or has slept under the flag before. -/
structure Rouses (who : FiberId → Prop) (s s' : Play) : Prop where
  queue : ∀ t ∈ s.queue, t ∈ s'.queue
  sleepers : IsSettled s' → ∀ i, who i → Asleep s' i →
    .fiber i ∈ s'.queue ∨ IsSettled s ∧ Asleep s i

theorem rouses_trans (first : Rouses who s s') (second : Rouses who s' s'') :
    Rouses who s s'' := by
  refine ⟨fun t among => second.queue t (first.queue t among), fun settled i ours asleep => ?_⟩
  rcases second.sleepers settled i ours asleep with turn | ⟨settled', asleep'⟩
  · exact .inl turn
  · exact (first.sleepers settled' i ours asleep').imp_left (second.queue _)

theorem roused_after (roused : Roused who s) (rouses : Rouses who s s') : Roused who s' := by
  intro settled i ours asleep
  rcases rouses.sleepers settled i ours asleep with turn | ⟨settled', asleep'⟩
  · exact turn
  · exact rouses.queue _ (roused settled' i ours asleep')

/-- A change by which nobody falls asleep. -/
structure Quiet (s s' : Play) : Prop where
  rouses : ∀ who, Rouses who s s'
  awake : ∀ i, Asleep s' i → Asleep s i

theorem quiet_trans (first : Quiet s s') (second : Quiet s' s'') : Quiet s s'' :=
  ⟨fun who => rouses_trans (first.rouses who) (second.rouses who),
    fun i asleep => first.awake i (second.awake i asleep)⟩

/-- A change of neither the fibers nor the flag. -/
theorem quiet_same (fibers : s'.machine.fibers = s.machine.fibers)
    (flag : s'.world.shutdown = s.world.shutdown) (queue : ∀ t ∈ s.queue, t ∈ s'.queue) :
    Quiet s s' := by
  have awake : ∀ i, Asleep s' i → Asleep s i := fun i asleep => by
    rwa [Asleep, Machine.fiber?, fibers] at asleep
  refine ⟨fun _ => ⟨queue, fun settled i _ asleep => .inr ⟨?_, awake i asleep⟩⟩, awake⟩
  rwa [IsSettled, flag] at settled

/-! ## Those who can go on are woken -/

private theorem created_awake {m : ChainMachine Cue} {step : Step Cue} {p p' : Packet}
    {wait : Duration} {next : Option (Step Cue)}
    (found : (m.create step p).fiber? i = some ⟨p', .sleeping wait next⟩) :
    m.fiber? i = some ⟨p', .sleeping wait next⟩ := by
  simp only [Machine.fiber?, Machine.create, List.getElem?_append] at found
  split at found
  · exact found
  · have among := List.mem_of_getElem? found
    cases List.mem_singleton.mp among

/-- Fibers that are begun do not sleep. -/
private theorem publish_awake (asleep : Asleep s.publish i) : Asleep s i := by
  obtain ⟨p, wait, next, found⟩ := asleep
  refine ⟨p, wait, next, ?_⟩
  unfold publish at found
  dsimp only at found
  generalize s.world.publications = asked at found
  have base : (s.modifyWorld (fun w => { w with publications := [] })).machine.fiber? i =
      s.machine.fiber? i := rfl
  rw [← base]
  generalize (s.modifyWorld (fun w => { w with publications := [] })).machine = m at found
  induction asked generalizing m with
  | nil => exact found
  | cons id rest ih => exact created_awake (ih _ found)

private theorem asleep_listed (asleep : Asleep s i) : i ∈ s.fibersIn isAsleep := by
  obtain ⟨p, wait, next, found⟩ := asleep
  refine List.mem_map.mpr ⟨(⟨p, .sleeping wait next⟩, i), ?_, rfl⟩
  exact List.mem_filter.mpr ⟨List.mem_zipIdx_iff_getElem?.mpr found, rfl⟩

/-- After a change by which nobody has fallen asleep, whoever sleeps is woken if the change has
settled the flag. -/
theorem follow_rouses (queue : ∀ t ∈ before.queue, t ∈ after.queue)
    (awake : ∀ i, who i → Asleep after i → Asleep before i) :
    Rouses who before (follow before after) := by
  unfold follow
  dsimp only
  generalize fresh : List.range' before.machine.fibers.length
    (after.publish.machine.fibers.length - before.machine.fibers.length) = ids
  have kept : ∀ t ∈ before.queue, t ∈ (after.publish.enqueue ids).queue := fun t among =>
    List.mem_append_left _ (queue t among)
  have slept : ∀ i, who i → Asleep (after.publish.enqueue ids) i → Asleep before i :=
    fun i ours asleep => awake i ours (publish_awake asleep)
  split
  · refine ⟨fun t among => List.mem_append_left _ (kept t among), fun _ i ours asleep => .inl ?_⟩
    exact List.mem_append_right _ (List.mem_map_of_mem (asleep_listed asleep))
  · rename_i unchanged
    refine ⟨kept, fun settled i ours asleep => .inr ⟨?_, slept i ours asleep⟩⟩
    cases prior : before.world.shutdown.isSettled with
    | true => exact prior
    | false =>
      rw [prior, Bool.not_false, Bool.and_true] at unchanged
      exact absurd settled unchanged

theorem follow_quiet (queue : ∀ t ∈ before.queue, t ∈ after.queue)
    (fibers : after.machine.fibers = before.machine.fibers) :
    Quiet before (follow before after) := by
  have same : ∀ i, Asleep after i → Asleep before i := fun i asleep => by
    rwa [Asleep, Machine.fiber?, fibers] at asleep
  refine ⟨fun _ => follow_rouses queue fun i _ asleep => same i asleep, fun i asleep => ?_⟩
  refine same i (publish_awake ?_)
  unfold follow at asleep
  dsimp only at asleep
  split at asleep <;> exact asleep

/-! ## Calls -/

private theorem alarm_quiet (due : Nat) (t : Turn) : Quiet s (s.alarm due t) := by
  unfold alarm
  split <;> exact quiet_same rfl rfl fun _ among => among

private theorem alarms_set (later : List (Nat × Deed)) (due : Play → Nat → Nat) :
    (later.foldl (fun s (wait, d) => s.alarm (due s wait) (.deed d)) s).machine = s.machine ∧
      (later.foldl (fun s (wait, d) => s.alarm (due s wait) (.deed d)) s).queue = s.queue := by
  induction later generalizing s with
  | nil => exact ⟨rfl, rfl⟩
  | cons first rest ih =>
    have set : (s.alarm (due s first.1) (.deed first.2)).machine = s.machine ∧
        (s.alarm (due s first.1) (.deed first.2)).queue = s.queue := by
      unfold alarm
      split <;> exact ⟨rfl, rfl⟩
    exact ⟨ih.1.trans set.1, ih.2.trans set.2⟩

private theorem serve_quiet (r : Request) : Quiet s (s.serve r).2 := by
  unfold serve
  dsimp only
  split
  · exact quiet_same rfl rfl fun _ among => among
  · exact quiet_same rfl rfl fun _ among => among
  · refine quiet_trans (quiet_same rfl rfl fun _ among => among) (follow_quiet ?_ ?_)
    · intro t among
      rw [(alarms_set _ (fun s wait => s.now + wait)).2]
      exact among
    · rw [(alarms_set _ (fun s wait => s.now + wait)).1]
      rfl

private theorem set_wait_quiet (wait : Wait) : Quiet s (s.setWait i wait) :=
  quiet_same rfl rfl fun _ among => among

private theorem drop_wait_quiet : Quiet s (s.dropWait i) :=
  quiet_same rfl rfl fun _ among => among

private theorem attend_quiet (r : Request) (stage : CallStage) (deadline : Nat) :
    Quiet s (s.attend i r stage deadline).2 := by
  unfold attend
  cases stage with
  | sent arrives =>
    by_cases came : arrives ≤ s.now
    · have served := serve_quiet (s := s) r
      simp only [came, if_true]
      generalize s.serve r = answer at served
      obtain ⟨stage, s'⟩ := answer
      cases stage with
      | answered arrives response =>
        exact quiet_trans served (quiet_trans (alarm_quiet arrives _) (set_wait_quiet _))
      | sent | lost => exact quiet_trans served (set_wait_quiet _)
    · simp only [came, if_false]
      exact set_wait_quiet _
  | answered | lost => exact set_wait_quiet _

private theorem send_quiet (r : Request) : Quiet s (s.send i r) := by
  have noted : Quiet s ((s.modifyWorld (·.note (.call r))).setWait i (.call
      (.sent (s.now + s.server.latency)) (s.now + s.staging.conduct.callTimeout.millis))) :=
    quiet_same rfl rfl fun _ among => among
  exact quiet_trans (quiet_trans noted (alarm_quiet _ _)) (alarm_quiet _ _)

/-! ## A fiber on its turn -/

private theorem move_awake {m m' : ChainMachine Cue} {d : Dynamics (Step Cue) Packet (Pending Cue)
    Answer World} {move : Move Answer} {p : Packet} {wait : Duration} {next : Option (Step Cue)}
    (moved : m.move? d i move = some m') (other : j ≠ i)
    (found : m'.fiber? j = some ⟨p, .sleeping wait next⟩) :
    m.fiber? j = some ⟨p, .sleeping wait next⟩ := by
  obtain ⟨f, f', added, mover, _, shape, fresh⟩ := move_shape moved
  have within : i < m.fibers.length := (List.getElem?_eq_some_iff.mp mover).1
  have same : m'.fiber? j = Machine.fiber? ⟨m.fibers.set i f' ++ added, m.world⟩ j := by
    simp [Machine.fiber?, shape]
  rw [same, fiber?_changed within, if_neg other] at found
  split at found
  · exact found
  · obtain ⟨step, created⟩ := fresh _ (List.mem_of_getElem? found)
    cases created

private theorem move_rouses (s : Play) (i : FiberId) (move : Move Answer) :
    Rouses (· ≠ i) s (s.move i move) := by
  unfold Play.move
  split
  · rename_i machine moved
    refine follow_rouses (fun _ among => among) fun j other asleep => ?_
    obtain ⟨p, wait, next, found⟩ := asleep
    exact ⟨p, wait, next, move_awake moved other found⟩
  · exact (quiet_same rfl rfl fun _ among => among).rouses _

/-- What a fiber on its turn may come to: others are roused, and if it has to wait it does not sleep
under the flag. -/
def Fine (i : FiberId) (s : Play) : Progress → Prop
  | .goesOn s' => Rouses (· ≠ i) s s'
  | .waits s' => Rouses (· ≠ i) s s' ∧ (IsSettled s' → ¬ Asleep s' i)

private theorem fine_move (quiet : Quiet s s') (move : Move Answer) :
    Rouses (· ≠ i) s (s'.move i move) :=
  rouses_trans (quiet.rouses _) (move_rouses s' i move)

private theorem quiet_refl : Quiet s s := quiet_same rfl rfl fun _ among => among

private theorem fine_wait {p : Packet} {phase : Phase (Step Cue) (Pending Cue)}
    (quiet : Quiet s s') (found : s.machine.fiber? i = some ⟨p, phase⟩)
    (awake : ∀ wait next, phase ≠ .sleeping wait next) : Fine i s (.waits s') := by
  refine ⟨quiet.rouses _, fun _ asleep => ?_⟩
  obtain ⟨_, wait, next, found'⟩ := quiet.awake i asleep
  cases found.symm.trans found'
  exact awake wait next rfl

/-- Who sleeps under the flag does not wait, however long the sleep. -/
private theorem pause_fine {p : Packet} {phase : Phase (Step Cue) (Pending Cue)} {wait : Nat}
    {elapsed : Bool} (found : s.machine.fiber? i = some ⟨p, phase⟩) (move : Move Answer)
    (early : IsSettled s → ∀ wait next, phase = .sleeping wait next → elapsed = true) :
    Fine i s (s.pause i wait elapsed move) := by
  have waits {s' : Play} (quiet : Quiet s s') (settled : IsSettled s' → IsSettled s)
      (on : elapsed = false) :
      Fine i s (.waits s') := by
    refine ⟨quiet.rouses _, fun settled' asleep => ?_⟩
    obtain ⟨_, wait, next, found'⟩ := quiet.awake i asleep
    cases found.symm.trans found'
    cases on.symm.trans (early (settled settled') wait next rfl)
  unfold pause
  split
  · split
    · exact fine_move drop_wait_quiet move
    · rename_i stays
      simp only [Bool.or_eq_true, not_or, Bool.not_eq_true] at stays
      exact waits quiet_refl id stays.1
  · split
    · exact fine_move quiet_refl move
    · rename_i stays
      simp only [Bool.or_eq_true, not_or, Bool.not_eq_true] at stays
      refine waits (quiet_trans (set_wait_quiet _) (alarm_quiet _ _)) (fun settled => ?_) stays.1
      unfold alarm at settled
      split at settled <;> exact settled

private theorem close_quiet (failure : Option FiberError) : Quiet s (s.close i failure) := by
  unfold close
  split
  · refine quiet_same rfl ?_ fun _ among => among
    show (closeReconcile ..).shutdown = _
    unfold closeReconcile
    dsimp only
    split <;> exact Worlds.shutdown_count_roll _ _
  · exact quiet_refl

/-- A fiber on its turn leaves nobody asleep under the flag who has no turn to come. -/
theorem progress_fine (s : Play) (i : FiberId) : Fine i s (s.progress i) := by
  unfold progress
  cases found : s.machine.fiber? i with
  | none =>
    have nobody : s.phase? i = none := by rw [phase?, found, Option.map_none]
    rw [nobody]
    refine ⟨quiet_refl.rouses _, fun _ asleep => ?_⟩
    obtain ⟨_, _, _, found'⟩ := asleep
    cases found.symm.trans found'
  | some f =>
    obtain ⟨p, phase⟩ := f
    have here : s.phase? i = some phase := by rw [phase?, found, Option.map_some]
    rw [here]
    cases phase with
    | created | running => exact fine_move quiet_refl .run
    | sleeping wait next => exact pause_fine found .wake fun settled _ _ _ => settled
    | waiting call next =>
      cases call with
      | guest cue => exact pause_fine found _ fun _ _ _ same => nomatch same
      | call r =>
        dsimp only
        split
        · rename_i stage deadline _
          have attended := attend_quiet (s := s) (i := i) r stage deadline
          generalize s.attend i r stage deadline = outcome at attended
          obtain ⟨response, s'⟩ := outcome
          cases response with
          | some response =>
            have dropped : Quiet s (s'.dropWait i) := quiet_trans attended drop_wait_quiet
            exact fine_move dropped _
          | none => exact fine_wait attended found fun _ _ same => nomatch same
        · exact (send_quiet r).rouses _
    | joining children next =>
      dsimp only
      split
      · exact fine_move quiet_refl .join
      · exact fine_wait quiet_refl found fun _ _ same => nomatch same
    | ended failure =>
      have woken : Quiet (s.close i failure)
          ((s.close i failure).enqueue (s.fibersIn (awaits i))) :=
        quiet_same rfl rfl fun t among => List.mem_append_left _ among
      exact fine_wait (quiet_trans (close_quiet failure) woken) found fun _ _ same => nomatch same
    | crashed message =>
      exact fine_wait (quiet_same rfl rfl fun t among => List.mem_append_left _ among) found
        fun _ _ same => nomatch same

/-! ## Courses of a rehearsal -/

/-- A fiber takes its turn: it makes moves until it has to wait. -/
inductive Turns (i : FiberId) : Play → Play → Prop where
  | waits {s s' : Play} (stays : s.progress i = .waits s') : Turns i s s'
  | goesOn {s s' s'' : Play} (moves : s.progress i = .goesOn s') (rest : Turns i s' s'') :
      Turns i s s''

/-- What can happen in a rehearsal: whoever is first takes a turn, time goes on if nobody has one,
or a fiber is started. -/
inductive Takes (s : Play) : Play → Prop where
  | fiber (i : FiberId) (rest : List Turn) (s' : Play) (first : s.queue = .fiber i :: rest)
      (turn : Turns i { s with queue := rest } s') : Takes s s'
  | deed (d : Deed) (rest : List Turn) (first : s.queue = .deed d :: rest) :
      Takes s ({ s with queue := rest }.perform d)
  | passes (time : Nat) (nobody : s.queue = []) : Takes s (s.advance time)
  | starts (step : Step Cue) (p : Packet) : Takes s (s.start step p).2
  | reconciles (domain : Domain) (id : PresenceId) (head : Step Cue) (p : Packet) (w : World)
      (opened : OpenReconcile)
      (begins : beginReconcile s.staging.conduct domain s.world = .fiber id head p w) :
      Takes s { ((s.modifyWorld fun _ => w).start head p).2 with
        reconciles := s.reconciles ++ [opened] }

/-- Every fiber that sleeps under the flag has a turn to come. -/
abbrev AllRoused (s : Play) : Prop := Roused (fun _ => True) s

private theorem turn_rouses (turn : Turns i s s') (roused : Roused (· ≠ i) s) : AllRoused s' := by
  induction turn with
  | @waits s s' stays =>
    have fine : Fine i s (.waits s') := stays ▸ progress_fine s i
    intro settled j _ asleep
    by_cases own : j = i
    · subst own
      exact absurd asleep (fine.2 settled)
    · exact roused_after roused fine.1 settled j own asleep
  | @goesOn s s' s'' moves _ ih =>
    have fine : Fine i s (.goesOn s') := moves ▸ progress_fine s i
    exact ih (roused_after roused fine)

private theorem start_rouses (step : Step Cue) (p : Packet) : Rouses who s (s.start step p).2 := by
  refine follow_rouses (fun _ among => among) fun j _ asleep => ?_
  obtain ⟨p', wait, next, found⟩ := asleep
  exact ⟨p', wait, next, created_awake found⟩

private theorem takes_rouses (takes : Takes s s') (roused : AllRoused s) : AllRoused s' := by
  cases takes with
  | fiber i rest s' first turn =>
    refine turn_rouses turn fun settled j other asleep => ?_
    have turn := roused settled j trivial asleep
    rw [first, List.mem_cons] at turn
    exact turn.resolve_left fun same => other (Turn.fiber.inj same)
  | deed d rest first =>
    have performed : Quiet { s with queue := rest } ({ s with queue := rest }.perform d) :=
      follow_quiet (fun _ among => among) rfl
    have others : AllRoused { s with queue := rest } := fun settled j _ asleep => by
      have turn := roused settled j trivial asleep
      rw [first, List.mem_cons] at turn
      exact turn.resolve_left (by simp)
    exact roused_after others (performed.rouses _)
  | passes time nobody =>
    have advanced : Quiet s (s.advance time) :=
      quiet_same rfl rfl fun _ among => List.mem_append_left _ among
    exact roused_after roused (advanced.rouses _)
  | starts step p => exact roused_after roused (start_rouses step p)
  | reconciles domain id head p w opened begins =>
    have opens : Quiet s (s.modifyWorld fun _ => w) :=
      quiet_same rfl (Flags.begin_keeps_flag begins) fun _ among => among
    have booked : Quiet ((s.modifyWorld fun _ => w).start head p).2
        { ((s.modifyWorld fun _ => w).start head p).2 with
          reconciles := s.reconciles ++ [opened] } :=
      quiet_same rfl rfl fun _ among => among
    exact roused_after roused
      (rouses_trans (opens.rouses _) (rouses_trans (start_rouses head p) (booked.rouses _)))

/-- Time does not go on while somebody sleeps under the flag. -/
theorem nobody_sleeps_on {start : Play} (nobody : start.machine.fibers = [])
    (ran : Relation.ReflTransGen Takes start s) (settled : IsSettled s) (idle : s.queue = [])
    (i : FiberId) : ¬ Asleep s i := by
  have roused : Roused (fun _ => True) start := by
    rintro _ j _ ⟨_, _, _, found⟩
    simp [Machine.fiber?, nobody] at found
  have rousedAfter : AllRoused s := by
    clear settled idle
    induction ran with
    | refl => exact roused
    | tail _ takes ih => exact takes_rouses takes ih
  intro asleep
  have turn := rousedAfter settled i trivial asleep
  rw [idle] at turn
  exact List.not_mem_nil turn

end DomainSteward.Sleepers
