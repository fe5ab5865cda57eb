import Mathlib.Data.List.DropRight
import DomainSteward.Proofs.Domain.Conditions

/-! The conditions of a status tell the history of its updates. A type has a condition exactly if it
was set after it was last removed. The condition says what was set last, and its time is when this
status was set first, with no other one in between. -/
namespace DomainSteward.Histories
open Conditions

/-- What can be done to the conditions of a status. -/
inductive Update where
  | set (condition : DomainCondition) (now : String)
  | remove (type : ConditionType)
  /-- A failure is recorded. -/
  | fail (reason message now : String)
deriving DecidableEq

def Update.apply (s : DomainStatus) : Update → DomainStatus
  | .set condition now => s.setCondition condition now
  | .remove type => s.removeCondition type
  | .fail reason message now => s.recordFailure reason message now

/-- What becomes of an empty status. -/
def outcome (updates : List Update) : DomainStatus := updates.foldl Update.apply {}

/-- A condition that is set, and when. -/
structure Setting where
  condition : DomainCondition
  now : String

/-- The condition of a failure. -/
def failedFor (reason message : String) : DomainCondition :=
  { type := .failed, status := "True", reason := some reason, message := some message }

/-- What an update sets. Recording a failure sets its condition. -/
def Update.setting? : Update → Option Setting
  | .set condition now => some ⟨condition, now⟩
  | .remove _ => none
  | .fail reason message now => some ⟨failedFor reason message, now⟩

/-- What has been set of a type since it was last removed, the oldest first. -/
def settings (type : ConditionType) (updates : List Update) : List Setting :=
  (updates.rtakeWhile (· ≠ .remove type)).filterMap
    (fun u => u.setting?.filter (fun g => g.condition.type = type))

/-- The last of some settings with those right before it that give the same status. -/
def stretch (gs : List Setting) : List Setting :=
  gs.rtakeWhile (fun g => gs.getLast?.any (fun last => g.condition.status = last.condition.status))

/-- A status says of its conditions what some updates have made of them. -/
structure Tells (updates : List Update) (s : DomainStatus) : Prop where
  distinct : Distinct s
  present_iff : ∀ type, (∃ c ∈ s.conditions, c.type = type) ↔ settings type updates ≠ []
  /-- All but the time is what was set last; the time is that of the first setting of the stretch. -/
  last_set : ∀ c ∈ s.conditions, ∃ first last,
    (stretch (settings c.type updates)).head? = some first ∧
      (settings c.type updates).getLast? = some last ∧
      c = { last.condition with lastTransitionTime := some first.now }

variable {updates : List Update} {update : Update} {type : ConditionType} {gs : List Setting}
  {g last : Setting} {c : DomainCondition}

private theorem outcome_concat : outcome (updates ++ [update]) = update.apply (outcome updates) := by
  rw [outcome, List.foldl_append]
  rfl

theorem outcome_distinct (updates : List Update) : Distinct (outcome updates) := by
  induction updates using List.reverseRecOn with
  | nil => exact List.nodup_nil
  | append_singleton updates update ih =>
    rw [outcome_concat]
    cases update with
    | set condition now => exact distinct_set ih condition now
    | remove type => exact distinct_removed ih type
    | fail reason message now => exact distinct_set ih _ now

/-! ## What stands after some settings -/

/-- The condition that stands once all this has been set, one after the other. -/
def standing (gs : List Setting) : Option DomainCondition :=
  gs.foldl (fun before g => some (renewed g.condition before g.now)) none

private theorem standing_concat :
    standing (gs ++ [g]) = some (renewed g.condition (standing gs) g.now) := by
  rw [standing, List.foldl_append]
  rfl

theorem standing_none : standing gs = none ↔ gs = [] := by
  induction gs using List.reverseRecOn with
  | nil => exact iff_of_true rfl rfl
  | append_singleton gs g _ => simp [standing_concat]

private theorem stretch_concat : stretch (gs ++ [g]) =
    gs.rtakeWhile (fun h => h.condition.status = g.condition.status) ++ [g] := by
  simp [stretch]

/-- A setting that gives the same status makes the stretch longer. -/
private theorem stretch_longer (before : gs.getLast? = some last)
    (same : last.condition.status = g.condition.status) :
    stretch (gs ++ [g]) = stretch gs ++ [g] := by
  rw [stretch_concat, stretch, before]
  simp [same]

/-- A setting that gives another status begins a new stretch. -/
private theorem stretch_new (other : ∀ last, gs.getLast? = some last →
    last.condition.status ≠ g.condition.status) : stretch (gs ++ [g]) = [g] := by
  rw [stretch_concat]
  cases gs using List.reverseRecOn with
  | nil => rfl
  | append_singleton gs last =>
    have differs := other last List.getLast?_concat
    rw [List.rtakeWhile_concat_neg _ _ _ (by simpa using differs)]
    rfl

theorem standing_tells (stands : standing gs = some c) : ∃ first last,
    (stretch gs).head? = some first ∧ gs.getLast? = some last ∧
      c = { last.condition with lastTransitionTime := some first.now } := by
  induction gs using List.reverseRecOn generalizing c with
  | nil => cases stands
  | append_singleton gs g ih =>
    rw [standing_concat] at stands
    cases stands
    cases before : standing gs with
    | none =>
      rw [standing_none] at before
      subst before
      refine ⟨g, g, ?_, rfl, rfl⟩
      rw [stretch_new (by simp)]
      rfl
    | some old =>
      obtain ⟨first, last, begins, ends, rfl⟩ := ih before
      -- The same status leaves the stretch its beginning, another one begins a new stretch.
      by_cases same : last.condition.status = g.condition.status
      · refine ⟨first, g, ?_, List.getLast?_concat, ?_⟩
        · rw [stretch_longer ends same, List.head?_append, begins]
          rfl
        · simp [renewed, same]
      · refine ⟨g, g, ?_, List.getLast?_concat, ?_⟩
        · rw [stretch_new fun other here => ?_]
          · rfl
          · rw [ends] at here
            cases here
            exact same
        · simp [renewed, same]

/-! ## What stands after some updates -/

private theorem settings_concat (type : ConditionType) (updates : List Update) (update : Update) :
    settings type (updates ++ [update]) =
      if update = .remove type then []
      else settings type updates ++
        (update.setting?.filter (fun g => g.condition.type = type)).toList := by
  unfold settings
  rw [List.rtakeWhile_concat]
  by_cases removed : update = .remove type
  · simp [removed]
  · simp only [removed, ne_eq, not_false_eq_true, decide_true, ↓reduceIte, List.filterMap_append]
    cases kept : update.setting?.filter (fun g => g.condition.type = type) <;> simp [kept]

/-- What stands under a type depends on what has been set of it alone. -/
theorem condition_outcome (type : ConditionType) (updates : List Update) :
    (outcome updates).condition? type = standing (settings type updates) := by
  induction updates using List.reverseRecOn with
  | nil => rfl
  | append_singleton updates update ih =>
    -- A failure that is recorded sets a condition like any other.
    have set (g : Setting) : ((outcome updates).setCondition g.condition g.now).condition? type =
        standing (settings type updates ++
          ((some g).filter (fun g => g.condition.type = type)).toList) := by
      rw [condition_set]
      by_cases here : g.condition.type = type
      · rw [Option.filter_some_pos (by simpa using here), Option.toList_some, standing_concat,
          here, if_pos rfl, ih]
      · rw [Option.filter_some_neg (by simpa using here), Option.toList_none, List.append_nil,
          if_neg here, ih]
    rw [outcome_concat, settings_concat]
    cases update with
    | set condition now => exact set ⟨condition, now⟩
    | remove other =>
      rw [Update.apply, condition_removed, ih]
      by_cases here : type = other
      · simp [here, standing]
      · simp [here, Ne.symm here, Update.setting?]
    | fail reason message now => exact set ⟨failedFor reason message, now⟩

/-- The conditions of a status tell the history of its updates. -/
theorem conditions_tell_their_history (updates : List Update) :
    Tells updates (outcome updates) where
  distinct := outcome_distinct updates
  present_iff type := by
    have listed : (∃ c ∈ (outcome updates).conditions, c.type = type) ↔
        (outcome updates).condition? type ≠ none := by
      rw [Option.ne_none_iff_exists']
      exact exists_congr fun c => (condition_listed (outcome_distinct updates)).symm
    rw [listed, condition_outcome, ne_eq, standing_none]
  last_set c among := by
    have stands := (condition_listed (outcome_distinct updates)).mpr ⟨among, rfl⟩
    rw [condition_outcome] at stands
    exact standing_tells stands

/-- A new reason is told at once, under the time at which the status began. -/
example :
    (outcome [.set { type := .rolling, status := "False" } "t1",
      .set { type := .rolling, status := "True" } "t2", .fail "Kubernetes" "refused" "t3",
      .set { type := .rolling, status := "True", reason := some "Still" } "t4",
      .remove .failed]).conditions =
      [{ type := .rolling, status := "True", reason := some "Still",
          lastTransitionTime := some "t2" }] := by
  decide

end DomainSteward.Histories
