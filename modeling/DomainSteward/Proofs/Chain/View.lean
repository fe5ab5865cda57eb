import DomainSteward.Proofs.Chain.World

/-! What rolls and restarts see of the world: the pods of one presence, the
marks on its servers, and its domain. -/
namespace DomainSteward.Views

/-- What rolls and restarts see of the world and change in it. -/
structure View where
  servers : NameMap Pod
  marks : NameSet
  domain : Option Domain

namespace View

def mark (v : View) (server : String) : View := { v with marks := NameSet.add v.marks server }

def unmark (v : View) (server : String) : View := { v with marks := v.marks.erase server }

def without (v : View) (server : String) : View := { v with servers := v.servers.erase server }

/-- Takes a pod in where there is none. -/
def offered (v : View) (server : String) (pod : Pod) : View :=
  if (v.servers.get? server).isNone then { v with servers := v.servers.insert server pod } else v

/-- The old pod of a server is not there any more. -/
def IsGone (v : View) (server : String) (old : Pod) : Prop :=
  ∀ pod, v.servers.get? server = some pod → pod.metadata.uid ≠ old.metadata.uid

/-- What is seen of one server: its pod, and whether it is marked. -/
def part (v : View) (server : String) : Option Pod × Bool :=
  (v.servers.get? server, v.marks.contains server)

/-- A server is seen Ready. -/
def isReady (v : View) (server : String) : Bool :=
  (v.part server).1.any (fun pod => !pod.isTerminating && !(v.part server).2 && pod.isReady)

variable {v : View} {server other : String} {pod : Pod}

theorem mark_other (foreign : other ≠ server) : (v.mark server).part other = v.part other := by
  simp [part, mark, NameSet.add, NameMap.contains, NameMap.get?_insert, foreign]

theorem unmark_other (foreign : other ≠ server) : (v.unmark server).part other = v.part other := by
  simp [part, unmark, NameMap.contains, NameMap.get?_erase, foreign]

theorem without_other (foreign : other ≠ server) :
    (v.without server).part other = v.part other := by
  simp [part, without, NameMap.get?_erase, foreign]

theorem offered_other (foreign : other ≠ server) :
    (v.offered server pod).part other = v.part other := by
  unfold offered
  split
  · simp [part, NameMap.get?_insert, foreign]
  · rfl

/-- A server that is marked is not Ready. -/
theorem mark_not_ready : (v.mark server).isReady server = false := by
  simp [isReady, part, mark, NameSet.add, NameMap.contains, NameMap.get?_insert]

end View

/-- A presence as it is seen. -/
def viewOf (p : Presence) : View := ⟨p.servers, p.beingDeleted, p.domain⟩

/-- What is seen by those who work for a presence, if there is the presence. -/
def view? (id : PresenceId) (w : World) : Option View := (w.presence? id).map viewOf

variable {c : Conduct} {id other : PresenceId} {w : World} {p : Packet} {v : View}

theorem view_known (seen : view? id w = some v) :
    ∃ now, w.presence? id = some now ∧ now.servers = v.servers ∧ now.beingDeleted = v.marks ∧
      now.domain = v.domain := by
  obtain ⟨now, known, rfl⟩ := Option.map_eq_some_iff.mp seen
  exact ⟨now, known, rfl, rfl, rfl⟩

theorem view_of_known {now : Presence} (known : w.presence? id = some now) :
    view? id w = some (viewOf now) := by
  rw [view?, known, Option.map_some]

theorem view_ready (p : Presence) (server : String) :
    (viewOf p).isReady server = p.isServerReady server := rfl

@[simp] theorem view_note (n : Note) : view? id (w.note n) = view? id w := rfl

@[simp] theorem view_emit (e : DomainEvent) : view? id (w.emit e) = view? id w := rfl

@[simp] theorem view_count (f : Metrics → Metrics) : view? id (c.count f w) = view? id w := by
  unfold Conduct.count
  split <;> rfl

@[simp] theorem view_count_roll (f : Metrics → Metrics) :
    view? id (c.countRoll f w) = view? id w := by
  unfold Conduct.countRoll
  split <;> rfl

theorem view_modify {f : Presence → Presence} {change : View → View}
    (changes : ∀ now, viewOf (f now) = change (viewOf now)) :
    view? id (w.modifyPresence id f) = (view? id w).map change := by
  rw [view?, Worlds.presence_modify_same, view?, Option.map_map, Option.map_map]
  exact congrFun (congrArg Option.map (funext changes)) _

/-- A change of a presence that is not seen. -/
theorem view_modify_kept {f : Presence → Presence}
    (kept : ∀ now, viewOf (f now) = viewOf now) :
    view? id (w.modifyPresence other f) = view? id w := by
  by_cases same : other = id
  · subst same
    have seen : view? other (w.modifyPresence other f) = (view? other w).map (fun v => v) :=
      view_modify kept
    exact seen.trans (congrFun Option.map_id _)
  · rw [view?, Worlds.presence_modify, if_neg same, view?]

theorem view_modify_of {f : Presence → Presence} {change : View → View}
    (works : p.presence = some id)
    (changes : ∀ now, viewOf (f now) = change (viewOf now)) :
    view? id (w.modifyPresenceOf p f) = (view? id w).map change := by
  simp only [World.modifyPresenceOf, works]
  exact view_modify changes

theorem view_modify_of_kept {f : Presence → Presence}
    (kept : ∀ now, viewOf (f now) = viewOf now) :
    view? id (w.modifyPresenceOf p f) = view? id w := by
  unfold World.modifyPresenceOf
  split
  · exact view_modify_kept kept
  · rfl

theorem view_mark (server : String) :
    view? id (w.modifyPresence id (·.mark server)) = (view? id w).map (·.mark server) :=
  view_modify (fun _ => rfl)

theorem view_unmark (server : String) :
    view? id (w.modifyPresence id (·.unmark server)) = (view? id w).map (·.unmark server) :=
  view_modify (fun _ => rfl)

end DomainSteward.Views
