import DomainSteward.Chain.Conduct

/-! What the writers of the world leave as it is. Notes, counters and budgets
say nothing about presences, and a change of one presence leaves all others. -/
namespace DomainSteward.Worlds
open World

variable {w : World} {id other : PresenceId} {p : Packet}

@[simp] theorem presence_note (n : Note) : (w.note n).presence? id = w.presence? id := rfl

@[simp] theorem presence_emit (e : DomainEvent) : (w.emit e).presence? id = w.presence? id := rfl

@[simp] theorem presence_count (c : Conduct) (f : Metrics → Metrics) :
    (c.count f w).presence? id = w.presence? id := by
  unfold Conduct.count
  split <;> rfl

@[simp] theorem presence_count_roll (c : Conduct) (f : Metrics → Metrics) :
    (c.countRoll f w).presence? id = w.presence? id := by
  unfold Conduct.countRoll
  split <;> rfl

@[simp] theorem presence_modify_budget (f : RetryBudget → RetryBudget) :
    (w.modifyBudget p f).presence? id = w.presence? id := by
  unfold modifyBudget
  split <;> rfl

theorem presence_modify (f : Presence → Presence) :
    (w.modifyPresence other f).presence? id =
      if other = id then (w.presence? id).map f else w.presence? id := by
  simp [modifyPresence, withRegistry, presence?, registry, Registry.get?, Registry.modify,
    List.getElem?_modify]
  split <;> simp

theorem presence_modify_same (f : Presence → Presence) :
    (w.modifyPresence id f).presence? id = (w.presence? id).map f := by
  rw [presence_modify, if_pos rfl]

theorem presence_modify_of (works : p.presence = some id) (f : Presence → Presence) :
    (w.modifyPresenceOf p f).presence? id = (w.presence? id).map f := by
  simp only [modifyPresenceOf, works]
  exact presence_modify_same f

/-! ## Budgets -/

@[simp] theorem budgets_modify_presence_of (f : Presence → Presence) :
    (w.modifyPresenceOf p f).budgets = w.budgets := by
  unfold modifyPresenceOf
  split <;> rfl

theorem budgets_modify_budget (f : RetryBudget → RetryBudget) :
    (w.modifyBudget p f).budgets = p.budget.elim w.budgets (w.budgets.modify · f) := by
  unfold modifyBudget
  cases p.budget <;> rfl

@[simp] theorem budgets_tell (sink : FailureSink) (reason message : String) :
    (w.tell sink reason message).budgets = w.budgets := by
  cases sink <;> rfl

/-! ## The stopping flag -/

@[simp] theorem shutdown_note (n : Note) : (w.note n).shutdown = w.shutdown := rfl

@[simp] theorem shutdown_emit (e : DomainEvent) : (w.emit e).shutdown = w.shutdown := rfl

@[simp] theorem shutdown_count (c : Conduct) (f : Metrics → Metrics) :
    (c.count f w).shutdown = w.shutdown := by
  unfold Conduct.count
  split <;> rfl

@[simp] theorem shutdown_count_roll (c : Conduct) (f : Metrics → Metrics) :
    (c.countRoll f w).shutdown = w.shutdown := by
  unfold Conduct.countRoll
  split <;> rfl

@[simp] theorem shutdown_modify_presence (f : Presence → Presence) :
    (w.modifyPresence id f).shutdown = w.shutdown := rfl

@[simp] theorem shutdown_modify_presence_of (f : Presence → Presence) :
    (w.modifyPresenceOf p f).shutdown = w.shutdown := by
  unfold modifyPresenceOf
  split <;> rfl

@[simp] theorem shutdown_modify_budget (f : RetryBudget → RetryBudget) :
    (w.modifyBudget p f).shutdown = w.shutdown := by
  unfold modifyBudget
  split <;> rfl

@[simp] theorem shutdown_tell (sink : FailureSink) (reason message : String) :
    (w.tell sink reason message).shutdown = w.shutdown := by
  cases sink <;> rfl

end DomainSteward.Worlds
