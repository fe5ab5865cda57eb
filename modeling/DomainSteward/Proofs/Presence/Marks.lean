import DomainSteward.Presence.PodFeed
import DomainSteward.Proofs.Presence.Registry

/-! The marks on servers are no business of the watch. Whatever it tells of pods, a server is marked
as being deleted exactly if it was so before; a presence that is made meanwhile marks nobody. -/
namespace DomainSteward.Marks
open Registries

/-- Whether a server is marked as being deleted in the presence held by a number. -/
def marked (r : Registry) (id : PresenceId) (server : String) : Bool :=
  (r.get? id).any (·.isMarked server)

variable {α : Type} {r : Registry} {id : PresenceId} {server : String} {f : Presence → Presence}

/-- A change of a presence that leaves the mark of a server as it is. -/
theorem marked_modify (number : PresenceId)
    (kept : ∀ p, (f p).isMarked server = p.isMarked server) :
    marked (r.modify number f) id server = marked r id server := by
  rw [marked, get?_modify, marked]
  split
  · rw [Option.any_map]
    exact congrArg (Option.any · (r.get? id)) (funext kept)
  · rfl

theorem marked_created (r : Registry) (key : DomainKey) :
    marked (r.findOrCreate key).2 id server = marked r id server := by
  unfold Registry.findOrCreate
  split
  · rfl
  · rw [marked, marked, Registry.get?, Registry.get?, List.getElem?_append]
    split
    · rfl
    · next beyond =>
      have nobody : r.presences[id]? = none := List.getElem?_eq_none (by omega)
      rw [nobody]
      cases id - r.presences.length with
      | zero => rfl
      | succ _ => rfl

theorem marked_change (key : DomainKey) (kept : ∀ p, (f p).isMarked server = p.isMarked server) :
    marked (change r key f) id server = marked r id server :=
  (marked_modify _ kept).trans (marked_created r key)

private theorem marked_fold {change : Registry → α → Registry} (l : List α)
    (kept : ∀ r a, marked (change r a) id server = marked r id server) :
    marked (l.foldl change r) id server = marked r id server := by
  induction l generalizing r with
  | nil => rfl
  | cons a rest ih => exact ih.trans (kept r a)

theorem marked_applied (pod : Pod) :
    marked (r.podApplied pod) id server = marked r id server := by
  cases identity : pod.identity? with
  | none => rw [applied_unnamed identity]
  | some named =>
    obtain ⟨ns, uid, name⟩ := named
    rw [applied_changes identity]
    exact marked_change _ fun _ => rfl

theorem marked_deleted (pod : Pod) :
    marked (r.podDeleted pod) id server = marked r id server := by
  unfold Registry.podDeleted
  split
  · split
    · refine marked_modify _ fun p => ?_
      split <;> rfl
    · rfl
  · rfl

theorem marked_replaced (pods : List Pod) :
    marked (r.replacePods pods) id server = marked r id server := by
  refine (marked_fold _ fun r key => ?_).trans (marked_fold _ fun r entry => ?_)
  · exact marked_change key fun _ => rfl
  · exact marked_modify entry.2 fun _ => rfl

/-- The watch leaves every mark as it is. -/
theorem watch_leaves_marks (feed : PodFeed) (event : PodEvent) (id : PresenceId)
    (server : String) :
    marked (feed.receive event).registry id server = marked feed.registry id server := by
  cases event with
  | applied pod => exact marked_applied pod
  | deleted pod => exact marked_deleted pod
  | listBegan => rfl
  | listed pod =>
    rw [PodFeed.receive]
    split
    · rfl
    · exact marked_applied pod
  | listDone => exact marked_replaced _

end DomainSteward.Marks
