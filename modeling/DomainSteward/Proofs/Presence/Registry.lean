import Mathlib.Data.List.Induction
import Mathlib.Data.List.Nodup
import DomainSteward.Presence.Registry
import DomainSteward.Proofs.Data.NameMap

/-! What becomes of the presence of a domain when pods come and go. A registry
is sound when a domain has one number and a number one domain; every writer
keeps that, and then what is found under one domain says nothing of another. -/
namespace DomainSteward.Registries
open Registry

/-- A presence of which nothing is known yet. -/
def fresh (key : DomainKey) : Presence := { namespaceName := key.1, domainUid := key.2 }

/-- Every domain that can be found has one number of its own, under which a presence is held. -/
structure Sound (r : Registry) : Prop where
  keys : (r.index.map (·.1)).Nodup
  numbers : (r.index.map (·.2)).Nodup
  held : ∀ e ∈ r.index, e.2 < r.presences.length

/-- Changes the presence of a domain, made if there is none. -/
def change (r : Registry) (key : DomainKey) (f : Presence → Presence) : Registry :=
  (r.findOrCreate key).2.modify (r.findOrCreate key).1 f

variable {r : Registry} {key other : DomainKey} {id number : PresenceId}
  {f : Presence → Presence} {pod : Pod} {pods : List Pod} {server name : String}

theorem empty_sound : Sound {} := ⟨.nil, .nil, nofun⟩

/-! ## Numbers -/

theorem found_listed (found : r.find? key = some id) : (key, id) ∈ r.index := by
  obtain ⟨⟨_, _⟩, first, rfl⟩ := Option.map_eq_some_iff.mp found
  have same := List.find?_some first
  rw [decide_eq_true_iff] at same
  exact same ▸ List.mem_of_find?_eq_some first

theorem listed_found (sound : Sound r) (listed : (key, id) ∈ r.index) :
    r.find? key = some id := by
  cases found : r.find? key with
  | none =>
    have absent := List.find?_eq_none.mp (Option.map_eq_none_iff.mp found) _ listed
    simp at absent
  | some number =>
    have same := List.inj_on_of_nodup_map sound.keys (found_listed found) listed rfl
    rw [(Prod.mk.injEq ..).mp same |>.2]

/-- Two domains do not share a number. -/
theorem number_of_one (sound : Sound r) (found : r.find? key = some id)
    (again : r.find? other = some id) : key = other := by
  have same := List.inj_on_of_nodup_map sound.numbers (found_listed found) (found_listed again) rfl
  exact ((Prod.mk.injEq ..).mp same).1

theorem found_held (sound : Sound r) (found : r.find? key = some id) :
    ∃ p, r.get? id = some p :=
  ⟨_, List.getElem?_eq_getElem (sound.held _ (found_listed found))⟩

/-! ## The writers of one presence -/

theorem get?_modify :
    (r.modify id f).get? number = if id = number then (r.get? number).map f else r.get? number := by
  simp only [Registry.modify, Registry.get?, List.getElem?_modify]
  split <;> simp

theorem modify_sound (sound : Sound r) : Sound (r.modify id f) := by
  refine ⟨sound.keys, sound.numbers, fun e listed => ?_⟩
  rw [Registry.modify, List.length_modify]
  exact sound.held e listed

theorem lookup_modify (sound : Sound r) (found : r.find? key = some id) :
    (r.modify id f).lookup? other =
      if other = key then (r.lookup? other).map f else r.lookup? other := by
  have same : (r.modify id f).find? other = r.find? other := rfl
  rw [lookup?, same, lookup?]
  cases again : r.find? other with
  | none => simp
  | some number =>
    simp only [Option.bind_some, get?_modify]
    by_cases here : other = key
    · subst here
      cases found.symm.trans again
      simp
    · have apart : id ≠ number := by
        rintro rfl
        exact here (number_of_one sound again found)
      simp [here, apart]

private theorem created (sound : Sound r) (absent : r.find? key = none) :
    let made := r.findOrCreate key
    Sound made.2 ∧ made.2.find? key = some made.1 ∧
      (∀ other, made.2.lookup? other =
        if other = key then some (fresh key) else r.lookup? other) := by
  have nobody : r.index.find? (fun e => e.1 = key) = none := Option.map_eq_none_iff.mp absent
  have unlisted : ∀ e ∈ r.index, e.1 ≠ key := by
    intro e listed
    simpa using List.find?_eq_none.mp nobody e listed
  simp only [findOrCreate, absent]
  refine ⟨⟨?_, ?_, ?_⟩, ?_, fun other => ?_⟩
  · simp only [List.map_append, List.map_cons, List.map_nil]
    refine List.nodup_append.mpr ⟨sound.keys, List.nodup_singleton _, ?_⟩
    rintro _ old _ new rfl
    obtain ⟨e, listed, rfl⟩ := List.mem_map.mp old
    exact unlisted e listed (List.mem_singleton.mp new)
  · simp only [List.map_append, List.map_cons, List.map_nil]
    refine List.nodup_append.mpr ⟨sound.numbers, List.nodup_singleton _, ?_⟩
    rintro _ old _ new rfl
    obtain ⟨e, listed, rfl⟩ := List.mem_map.mp old
    exact Nat.lt_irrefl _ (List.mem_singleton.mp new ▸ sound.held e listed)
  · intro e listed
    rw [List.length_append, List.length_singleton]
    rcases List.mem_append.mp listed with old | new
    · exact Nat.lt_succ_of_lt (sound.held e old)
    · exact List.mem_singleton.mp new ▸ Nat.lt_succ_self _
  · simp [find?, List.find?_append, nobody]
  · simp only [lookup?, find?, List.find?_append]
    by_cases here : other = key
    · subst here
      simp [nobody, Registry.get?, fresh]
    · have foreign : ¬ key = other := Ne.symm here
      rw [if_neg here]
      cases first : r.index.find? (fun e => e.1 = other) with
      | none => simp [foreign]
      | some e =>
        have within := sound.held e (List.mem_of_find?_eq_some first)
        simp [Registry.get?, List.getElem?_append_left within]

theorem found_or_created (sound : Sound r) (key : DomainKey) :
    let made := r.findOrCreate key
    Sound made.2 ∧ made.2.find? key = some made.1 ∧
      (∀ other, made.2.lookup? other =
        if other = key then some ((r.lookup? key).getD (fresh key)) else r.lookup? other) := by
  cases found : r.find? key with
  | none =>
    have unknown : r.lookup? key = none := by rw [lookup?, found, Option.bind_none]
    rw [unknown]
    exact created sound found
  | some id =>
    obtain ⟨p, held⟩ := found_held sound found
    have known : r.lookup? key = some p := by rw [lookup?, found, Option.bind_some, held]
    simp only [findOrCreate, found]
    refine ⟨sound, trivial, fun other => ?_⟩
    split
    · next here => rw [here, known, Option.getD_some]
    · rfl

theorem change_sound (sound : Sound r) : Sound (change r key f) :=
  modify_sound (found_or_created sound key).1

theorem lookup_change (sound : Sound r) :
    (change r key f).lookup? other =
      if other = key then some (f ((r.lookup? key).getD (fresh key))) else r.lookup? other := by
  obtain ⟨still, found, looks⟩ := found_or_created sound key
  rw [change, lookup_modify still found, looks]
  split <;> simp

/-- A domain that can be found keeps its number. -/
theorem change_finds (found : r.find? other = some id) :
    (change r key f).find? other = some id := by
  have kept : (change r key f).find? other = (r.findOrCreate key).2.find? other := rfl
  rw [kept, findOrCreate]
  cases r.find? key with
  | some number => exact found
  | none =>
    obtain ⟨e, first, same⟩ := Option.map_eq_some_iff.mp found
    simp [find?, List.find?_append, first, same]

/-! ## Single pods -/

theorem applied_changes {ns uid : String} (named : pod.identity? = some (ns, uid, server)) :
    r.podApplied pod = change r (ns, uid) (·.setPod server pod) := by
  rw [podApplied, named]
  rfl

theorem pod_set (p : Presence) :
    (p.setPod server pod).pod? name = if name = server then some pod else p.pod? name :=
  NameMap.get?_insert _ _ _ _

theorem applied_unnamed (unnamed : pod.identity? = none) : r.podApplied pod = r := by
  rw [podApplied, unnamed]

theorem applied_sound (sound : Sound r) : Sound (r.podApplied pod) := by
  cases named : pod.identity? with
  | none => rwa [applied_unnamed named]
  | some identity =>
    rw [applied_changes named]
    exact change_sound sound

theorem applied_finds (found : r.find? other = some id) :
    (r.podApplied pod).find? other = some id := by
  cases named : pod.identity? with
  | none => rwa [applied_unnamed named]
  | some identity =>
    rw [applied_changes named]
    exact change_finds found

/-- Forgets the pod of a server if it has the given uid. -/
def dropPod (server : String) (uid : Option String) (p : Presence) : Presence :=
  if (p.pod? server).any (fun current => current.metadata.uid ≠ uid) then p
  else p.removePod server

theorem pod_dropped (p : Presence) (uid : Option String) :
    (dropPod server uid p).pod? name =
      if name = server then (p.pod? name).filter (fun current => current.metadata.uid ≠ uid)
      else p.pod? name := by
  unfold dropPod
  split
  · next differs =>
    obtain ⟨current, held, differs⟩ := Option.any_eq_true _ _ |>.mp differs
    split
    · next here => rw [here, held, Option.filter, if_pos differs]
    · rfl
  · next same =>
    simp only [Presence.pod?, Presence.removePod, NameMap.get?_erase]
    split
    · next here =>
      rw [here]
      symm
      rw [Option.filter_eq_none_iff]
      intro current held differs
      exact same (Option.any_eq_true _ _ |>.mpr ⟨current, held, differs⟩)
    · rfl

theorem deleted_unnamed (unnamed : pod.identity? = none) : r.podDeleted pod = r := by
  rw [podDeleted, unnamed]

theorem deleted_sound (sound : Sound r) : Sound (r.podDeleted pod) := by
  unfold podDeleted
  split
  · split
    · exact modify_sound sound
    · exact sound
  · exact sound

theorem deleted_finds (found : r.find? other = some id) :
    (r.podDeleted pod).find? other = some id := by
  unfold podDeleted
  split
  · split <;> exact found
  · exact found

theorem lookup_deleted {ns uid : String} (sound : Sound r)
    (named : pod.identity? = some (ns, uid, server)) :
    (r.podDeleted pod).lookup? other =
      if other = (ns, uid) then (r.lookup? other).map (dropPod server pod.metadata.uid)
      else r.lookup? other := by
  cases found : r.find? (ns, uid) with
  | none =>
    have unknown : r.lookup? (ns, uid) = none := by rw [lookup?, found, Option.bind_none]
    simp only [podDeleted, named, found]
    split
    · next here => rw [here, unknown, Option.map_none]
    · rfl
  | some id =>
    simp only [podDeleted, named, found]
    exact lookup_modify sound found

/-! ## All pods at once -/

/-- The pod of a server in a list; of two the later counts. -/
def lastOf (ns uid server : String) (pods : List Pod) : Option Pod :=
  (pods.filter (fun pod => pod.identity? = some (ns, uid, server))).getLast?

private theorem last_appended (ns uid server : String) (pods : List Pod) (pod : Pod) :
    lastOf ns uid server (pods ++ [pod]) =
      if pod.identity? = some (ns, uid, server) then some pod else lastOf ns uid server pods := by
  rw [lastOf, List.filter_append]
  by_cases here : pod.identity? = some (ns, uid, server) <;> simp [here, lastOf]

private theorem pods_appended (ns uid : String) (pods : List Pod) (pod : Pod) :
    podsOf (ns, uid) (pods ++ [pod]) =
      match pod.identity? with
      | some (ns', uid', server) =>
        if (ns', uid') = (ns, uid) then (podsOf (ns, uid) pods).insert server pod
        else podsOf (ns, uid) pods
      | none => podsOf (ns, uid) pods := by
  rw [podsOf, List.filterMap_append, NameMap.ofList, List.foldl_append]
  cases named : pod.identity? with
  | none => simp [named, podsOf, NameMap.ofList]
  | some identity =>
    obtain ⟨ns', uid', server⟩ := identity
    by_cases domain : (ns', uid') = (ns, uid) <;>
      simp only [List.filterMap_cons, named, if_pos, if_neg, domain, not_false_eq_true] <;> rfl

/-- The pods that a list tells of a domain, by server. -/
theorem pods_of_list (ns uid server : String) (pods : List Pod) :
    (podsOf (ns, uid) pods).get? server = lastOf ns uid server pods := by
  induction pods using List.reverseRecOn with
  | nil => rfl
  | append_singleton pods pod ih =>
    rw [last_appended, pods_appended]
    cases pod.identity? with
    | none => simpa using ih
    | some identity =>
      obtain ⟨ns', uid', server'⟩ := identity
      simp only [Option.some.injEq, Prod.mk.injEq]
      by_cases domain : ns' = ns ∧ uid' = uid
      · rw [if_pos domain, NameMap.get?_insert, ih]
        simp [domain, eq_comm]
      · rw [if_neg domain, ih, if_neg (fun same => domain ⟨same.1, same.2.1⟩)]

theorem mem_keysOf :
    key ∈ keysOf pods ↔ ∃ pod ∈ pods, ∃ server, pod.identity? = some (key.1, key.2, server) := by
  simp only [keysOf, List.mem_eraseDups, List.mem_filterMap, Option.map_eq_some_iff]
  constructor
  · rintro ⟨pod, listed, ⟨ns, uid, server⟩, named, rfl⟩
    exact ⟨pod, listed, server, named⟩
  · rintro ⟨pod, listed, server, named⟩
    exact ⟨pod, listed, _, named, rfl⟩

private theorem lookup_all_changed {l : List (DomainKey × PresenceId)} (sound : Sound r)
    (known : ∀ e ∈ l, r.find? e.1 = some e.2) (given : DomainKey → NameMap Pod) :
    let after := l.foldl (fun r (key, id) => r.modify id (·.replacePods (given key))) r
    Sound after ∧ ∀ other, after.lookup? other =
      if other ∈ l.map (·.1) then (r.lookup? other).map (·.replacePods (given other))
      else r.lookup? other := by
  induction l generalizing r with
  | nil => exact ⟨sound, fun other => by simp⟩
  | cons head rest ih =>
    obtain ⟨key, id⟩ := head
    have found := known _ List.mem_cons_self
    obtain ⟨still, looks⟩ := ih (modify_sound sound)
      (fun e listed => known e (List.mem_cons_of_mem _ listed))
    refine ⟨still, fun other => ?_⟩
    rw [List.foldl_cons, looks, lookup_modify sound found]
    by_cases here : other = key
    · subst here
      cases r.lookup? other <;> simp [Presence.replacePods]
    · by_cases later : other ∈ rest.map (·.1) <;> simp only [List.map_cons, List.mem_cons, here,
        later, or_true, or_false, if_true, if_false]

private theorem lookup_all_made (keys : List DomainKey) (sound : Sound r)
    (given : DomainKey → NameMap Pod) :
    let after := keys.foldl (fun r key => change r key (·.replacePods (given key))) r
    Sound after ∧ ∀ other, after.lookup? other =
      if other ∈ keys then
        some (((r.lookup? other).getD (fresh other)).replacePods (given other))
      else r.lookup? other := by
  induction keys generalizing r with
  | nil => exact ⟨sound, fun other => by simp⟩
  | cons key rest ih =>
    obtain ⟨still, looks⟩ := ih (change_sound sound)
    refine ⟨still, fun other => ?_⟩
    rw [List.foldl_cons, looks, lookup_change sound]
    by_cases here : other = key
    · subst here
      simp [Presence.replacePods]
    · simp [here]

private theorem replaced (sound : Sound r) (pods : List Pod) :
    Sound (r.replacePods pods) ∧ ∀ other, (r.replacePods pods).lookup? other =
      if other ∈ keysOf pods then
        some (((r.lookup? other).getD (fresh other)).replacePods (podsOf other pods))
      else (r.lookup? other).map (·.replacePods (podsOf other pods)) := by
  obtain ⟨cleared, first⟩ := lookup_all_changed sound
    (fun e listed => listed_found sound listed) (podsOf · pods)
  obtain ⟨filled, second⟩ := lookup_all_made (keysOf pods) cleared (podsOf · pods)
  refine ⟨filled, fun other => (second other).trans ?_⟩
  have everybody : ∀ p, r.lookup? other = some p → other ∈ r.index.map (·.1) := by
    intro p known
    obtain ⟨id, found, _⟩ := Option.bind_eq_some_iff.mp known
    exact List.mem_map_of_mem (f := (·.1)) (found_listed found)
  rw [first]
  cases known : r.lookup? other with
  | none => simp
  | some p => simp [everybody p known, Presence.replacePods]

theorem replaced_sound (sound : Sound r) : Sound (r.replacePods pods) := (replaced sound pods).1

theorem lookup_replaced (sound : Sound r) (pods : List Pod) (other : DomainKey) :
    (r.replacePods pods).lookup? other =
      if other ∈ keysOf pods then
        some (((r.lookup? other).getD (fresh other)).replacePods (podsOf other pods))
      else (r.lookup? other).map (·.replacePods (podsOf other pods)) :=
  (replaced sound pods).2 other

/-- A list tells the same without the pods that do not say whose they are. -/
theorem replace_named (r : Registry) (pods : List Pod) :
    r.replacePods (pods.filter (·.identity?.isSome)) = r.replacePods pods := by
  have sameKeys : keysOf (pods.filter (·.identity?.isSome)) = keysOf pods := by
    rw [keysOf, keysOf, List.filterMap_filter]
    congr 2
    funext pod
    cases named : pod.identity? <;> simp
  have samePods : ∀ key, podsOf key (pods.filter (·.identity?.isSome)) = podsOf key pods := by
    intro key
    rw [podsOf, podsOf, List.filterMap_filter]
    congr 2
    funext pod
    cases named : pod.identity? <;> simp
  simp only [replacePods, sameKeys, samePods]

/-! ## The pods that are held -/

/-- The pod held for a server of a domain that can be found. -/
def heldPod (r : Registry) (ns uid server : String) : Option Pod :=
  (r.lookup? (ns, uid)).bind (·.pod? server)

theorem held_applied {ns uid ns' uid' server' : String} (sound : Sound r)
    (named : pod.identity? = some (ns', uid', server')) :
    heldPod (r.podApplied pod) ns uid server =
      if (ns', uid', server') = (ns, uid, server) then some pod else heldPod r ns uid server := by
  rw [applied_changes named, heldPod, lookup_change sound]
  by_cases domain : (ns, uid) = (ns', uid')
  · cases domain
    rw [if_pos rfl, Option.bind_some, pod_set, heldPod]
    have unknown : (fresh (ns, uid)).pod? server = none := rfl
    cases r.lookup? (ns, uid) <;> simp [unknown, eq_comm]
  · have away : ¬ (ns', uid', server') = (ns, uid, server) := by
      intro same
      cases same
      exact domain rfl
    rw [if_neg domain, if_neg away, heldPod]

theorem held_deleted {ns uid ns' uid' server' : String} (sound : Sound r)
    (named : pod.identity? = some (ns', uid', server')) :
    heldPod (r.podDeleted pod) ns uid server =
      if (ns', uid', server') = (ns, uid, server) then
        (heldPod r ns uid server).filter (fun current => current.metadata.uid ≠ pod.metadata.uid)
      else heldPod r ns uid server := by
  rw [heldPod, lookup_deleted sound named]
  by_cases domain : (ns, uid) = (ns', uid')
  · cases domain
    cases known : r.lookup? (ns, uid) with
    | none => simp [heldPod, known]
    | some p =>
      simp only [heldPod, known, if_pos, Option.map_some, Option.bind_some, pod_dropped,
        Prod.mk.injEq, true_and]
      by_cases here : server = server' <;> simp [here, eq_comm]
  · have away : ¬ (ns', uid', server') = (ns, uid, server) := by
      intro same
      cases same
      exact domain rfl
    rw [if_neg domain, if_neg away, heldPod]

/-- After a complete list the pods of the list are all that is held. -/
theorem held_replaced {ns uid : String} (sound : Sound r) (pods : List Pod) :
    heldPod (r.replacePods pods) ns uid server = lastOf ns uid server pods := by
  rw [heldPod, lookup_replaced sound, ← pods_of_list]
  by_cases told : (ns, uid) ∈ keysOf pods
  · simp [told, Presence.pod?, Presence.replacePods]
  · have nothing : (podsOf (ns, uid) pods).get? server = none := by
      rw [pods_of_list, lastOf, List.getLast?_eq_none_iff, List.filter_eq_nil_iff]
      intro pod listed named
      exact told (mem_keysOf.mpr ⟨pod, listed, server, of_decide_eq_true named⟩)
    rw [if_neg told, nothing]
    cases r.lookup? (ns, uid) with
    | none => rfl
    | some p => exact nothing

end DomainSteward.Registries
