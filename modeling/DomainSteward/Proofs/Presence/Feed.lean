import DomainSteward.Presence.PodFeed
import DomainSteward.Proofs.Presence.Registry

/-! What a watch tells is what the registry holds. The events of a watch are read
once for one server, as words that set its pod or take one back, and once by the
registry; both readings agree after every event. -/
namespace DomainSteward.Feeds
open Registries

/-- Takes in all that a watch tells. -/
def receiveAll (f : PodFeed) (events : List PodEvent) : PodFeed := events.foldl PodFeed.receive f

/-- Whether a list is under way after an event. -/
def underWayAfter (underWay : Bool) : PodEvent → Bool
  | .listBegan => true
  | .listDone => false
  | _ => underWay

/-- Every listed pod, and every end of a list, comes while a list is under way. -/
def Bracketed : Bool → List PodEvent → Prop
  | _, [] => True
  | underWay, e :: rest =>
    (match e with
      | .listed _ | .listDone => underWay = true
      | _ => True) ∧ Bracketed (underWayAfter underWay e) rest

/-! ## What is told of one server -/

/-- What one event says of one server. -/
inductive Word where
  /-- From now on this is its pod, or it has none. -/
  | sets (pod : Option Pod)
  /-- The pod with this uid is not there any more. -/
  | takes (uid : Option String)

/-- What an event says of a server after these pods have been listed. A list says something of
every server, but not before it is complete. -/
def word? (ns uid server : String) (listing : List Pod) : PodEvent → Option Word
  | .applied pod =>
    if pod.identity? = some (ns, uid, server) then some (.sets (some pod)) else none
  | .deleted pod =>
    if pod.identity? = some (ns, uid, server) then some (.takes pod.metadata.uid) else none
  | .listDone => some (.sets (lastOf ns uid server listing))
  | .listBegan | .listed _ => none

/-- The pods listed since a list last began. -/
def listingAfter (listing : List Pod) : PodEvent → List Pod
  | .listBegan => []
  | .listed pod => listing ++ [pod]
  | _ => listing

/-- All that is said of a server. -/
def words (ns uid server : String) : List Pod → List PodEvent → List Word
  | _, [] => []
  | listing, e :: rest =>
    (word? ns uid server listing e).toList ++ words ns uid server (listingAfter listing e) rest

def Word.set? : Word → Option (Option Pod)
  | .sets pod => some pod
  | .takes _ => none

/-- The pod that was set last. -/
def setLast (before : Option Pod) (said : List Word) : Option Pod :=
  (said.filterMap Word.set?).getLast?.getD before

/-- The uids of the pods taken back since a pod was set. -/
def takenSince (said : List Word) : List (Option String) :=
  said.foldl (fun taken word =>
    match word with
    | .sets _ => []
    | .takes uid => uid :: taken) []

/-- The pod that a server has by what was said: the one that was set last, unless that one has
been taken back since. -/
def heldAfter (before : Option Pod) (said : List Word) : Option Pod :=
  (setLast before said).filter (fun pod => pod.metadata.uid ∉ takenSince said)

/-- What one more word makes of the pod of a server. -/
def hold (held : Option Pod) : Word → Option Pod
  | .sets pod => pod
  | .takes uid => held.filter (fun pod => pod.metadata.uid ≠ uid)

variable {f g : PodFeed} {e : PodEvent} {events : List PodEvent} {pod : Pod}
  {listing : List Pod} {underWay : Bool} {ns uid server : String} {key : DomainKey}

private theorem nothing_taken (held : Option Pod) :
    held.filter (fun pod => pod.metadata.uid ∉ ([] : List (Option String))) = held := by
  cases held <;> rfl

/-- Words may be read one by one. -/
theorem held_by_words (before : Option Pod) (said : List Word) :
    said.foldl hold before = heldAfter before said := by
  induction said using List.reverseRecOn with
  | nil => exact (nothing_taken before).symm
  | append_singleton said word ih =>
    rw [List.foldl_append, ih]
    cases word with
    | sets pod =>
      have setNow : setLast before (said ++ [.sets pod]) = pod := by simp [setLast, Word.set?]
      have noneTaken : takenSince (said ++ [.sets pod]) = [] := by simp [takenSince]
      simp only [List.foldl_cons, List.foldl_nil, hold]
      rw [heldAfter, setNow, noneTaken]
      exact (nothing_taken pod).symm
    | takes uid =>
      have sameSet : setLast before (said ++ [.takes uid]) = setLast before said := by
        simp [setLast, Word.set?]
      have oneMore : takenSince (said ++ [.takes uid]) = uid :: takenSince said := by
        simp [takenSince]
      simp only [List.foldl_cons, List.foldl_nil, hold, heldAfter, sameSet, oneMore,
        Option.filter_filter]
      congr 1
      funext pod
      simp [Bool.and_comm]

/-! ## One event -/

theorem receive_sound (sound : Sound f.registry) : Sound (f.receive e).registry := by
  cases e with
  | applied pod => exact applied_sound sound
  | deleted pod => exact deleted_sound sound
  | listBegan => exact sound
  | listed pod =>
    unfold PodFeed.receive
    cases f.pending with
    | none => exact applied_sound sound
    | some pods => exact sound
  | listDone => exact replaced_sound sound

theorem listed_waits (listed : f.pending.isSome) :
    f.receive (.listed pod) = { f with pending := some (f.pending.getD [] ++ [pod]) } := by
  obtain ⟨pods, pending⟩ := Option.isSome_iff_exists.mp listed
  simp [PodFeed.receive, pending]

theorem pending_received : (f.receive e).pending.isSome = underWayAfter f.pending.isSome e := by
  cases e with
  | listed pod =>
    cases pending : f.pending <;> simp [PodFeed.receive, pending, underWayAfter]
  | _ => rfl

/-- The registry takes an event as it reads for every server. -/
theorem receive_holds (sound : Sound f.registry)
    (pending : f.pending = if underWay then some listing else none)
    (bracketed : Bracketed underWay [e]) :
    heldPod (f.receive e).registry ns uid server =
      (word? ns uid server listing e).toList.foldl hold (heldPod f.registry ns uid server) := by
  cases e with
  | applied pod =>
    cases named : pod.identity? with
    | none => simp [PodFeed.receive, applied_unnamed named, word?, named]
    | some identity =>
      simp only [PodFeed.receive, held_applied sound named, word?, named, Option.some.injEq]
      split <;> rfl
  | deleted pod =>
    cases named : pod.identity? with
    | none => simp [PodFeed.receive, deleted_unnamed named, word?, named]
    | some identity =>
      simp only [PodFeed.receive, held_deleted sound named, word?, named, Option.some.injEq]
      split <;> rfl
  | listBegan => rfl
  | listed pod =>
    rw [listed_waits (by simp [pending, bracketed.1])]
    rfl
  | listDone =>
    have begun : underWay = true := bracketed.1
    rw [begun, if_pos rfl] at pending
    simp only [PodFeed.receive, pending, Option.getD_some, held_replaced sound, word?,
      Option.toList_some, List.foldl_cons, List.foldl_nil, hold]

private theorem pending_after (pending : f.pending = if underWay then some listing else none)
    (bracketed : Bracketed underWay [e]) :
    (f.receive e).pending =
      if underWayAfter underWay e then some (listingAfter listing e) else none := by
  cases e with
  | listed pod =>
    have begun : underWay = true := bracketed.1
    rw [begun, if_pos rfl] at pending
    simp [PodFeed.receive, pending, underWayAfter, begun, listingAfter]
  | listBegan => rfl
  | listDone => rfl
  | _ => exact pending

theorem bracketed_first (bracketed : Bracketed underWay (e :: events)) : Bracketed underWay [e] :=
  ⟨bracketed.1, trivial⟩

/-- So it does with all events. -/
theorem receive_all_holds (sound : Sound f.registry)
    (pending : f.pending = if underWay then some listing else none)
    (bracketed : Bracketed underWay events) :
    heldPod (receiveAll f events).registry ns uid server =
      heldAfter (heldPod f.registry ns uid server) (words ns uid server listing events) := by
  rw [← held_by_words]
  induction events generalizing f underWay listing with
  | nil => rfl
  | cons e rest ih =>
    have first := bracketed_first bracketed
    rw [words, List.foldl_append, ← receive_holds sound pending first]
    exact ih (receive_sound sound) (pending_after pending first) bracketed.2

/-! ## What events do not change -/

/-- The pod that an event is about. -/
def podOf? : PodEvent → Option Pod
  | .applied pod | .deleted pod | .listed pod => some pod
  | .listBegan | .listDone => none

/-- An event is about no pod, or about one that says of which server of which domain it is. -/
def isNamed (e : PodEvent) : Bool := (podOf? e).all (·.identity?.isSome)

def isListed : PodEvent → Bool
  | .listed _ => true
  | _ => false

/-- What is known of a domain differs in its pods at most; what was not known is known with pods
only. -/
def OnlyPods (key : DomainKey) : Option Presence → Option Presence → Prop
  | some before, some after => ∃ pods, after = before.replacePods pods
  | none, some after => ∃ pods, after = (fresh key).replacePods pods
  | none, none => True
  | some _, none => False

theorem only_pods_same (known : Option Presence) : OnlyPods key known known := by
  cases known with
  | none => trivial
  | some p => exact ⟨p.servers, rfl⟩

private theorem only_pods_made (known : Option Presence) (pods : NameMap Pod) :
    OnlyPods key known (some ((known.getD (fresh key)).replacePods pods)) := by
  cases known <;> exact ⟨pods, rfl⟩

private theorem only_pods_mapped (known : Option Presence) {change : Presence → Presence}
    (changes : ∀ p, ∃ pods, change p = p.replacePods pods) :
    OnlyPods key known (known.map change) := by
  cases known with
  | none => trivial
  | some p => exact changes p

private theorem applied_only_pods (sound : Sound f.registry) :
    OnlyPods key (f.registry.lookup? key) ((f.registry.podApplied pod).lookup? key) := by
  cases named : pod.identity? with
  | none =>
    rw [applied_unnamed named]
    exact only_pods_same _
  | some identity =>
    rw [applied_changes named, lookup_change sound]
    split
    · next here =>
      subst here
      exact only_pods_made _ _
    · exact only_pods_same _

private theorem drop_only_pods (server : String) (uid : Option String) (p : Presence) :
    ∃ pods, dropPod server uid p = p.replacePods pods := by
  unfold dropPod
  split
  · exact ⟨p.servers, rfl⟩
  · exact ⟨p.servers.erase server, rfl⟩

/-- No event changes what is known of a domain apart from its pods. -/
theorem receive_only_pods (sound : Sound f.registry) :
    OnlyPods key (f.registry.lookup? key) ((f.receive e).registry.lookup? key) := by
  cases e with
  | applied pod => exact applied_only_pods sound
  | deleted pod =>
    cases named : pod.identity? with
    | none =>
      simp only [PodFeed.receive, deleted_unnamed named]
      exact only_pods_same _
    | some identity =>
      simp only [PodFeed.receive, lookup_deleted sound named]
      split
      · exact only_pods_mapped _ (drop_only_pods _ _)
      · exact only_pods_same _
  | listBegan => exact only_pods_same _
  | listed pod =>
    unfold PodFeed.receive
    cases f.pending with
    | none => exact applied_only_pods sound
    | some pods => exact only_pods_same _
  | listDone =>
    simp only [PodFeed.receive, lookup_replaced sound]
    split
    · exact only_pods_made _ _
    · exact only_pods_mapped _ (fun p => ⟨_, rfl⟩)

/-- An event about a pod of one domain leaves all others as they are. -/
theorem receive_foreign (sound : Sound f.registry) (single : e ≠ .listDone)
    (foreign : ∀ pod server, podOf? e = some pod → pod.identity? ≠ some (key.1, key.2, server)) :
    (f.receive e).registry.lookup? key = f.registry.lookup? key := by
  have applied : ∀ pod, podOf? e = some pod →
      (f.registry.podApplied pod).lookup? key = f.registry.lookup? key := by
    intro pod about
    cases named : pod.identity? with
    | none => rw [applied_unnamed named]
    | some identity =>
      rw [applied_changes named, lookup_change sound, if_neg]
      rintro rfl
      exact foreign pod _ about named
  cases e with
  | applied pod => exact applied pod rfl
  | deleted pod =>
    cases named : pod.identity? with
    | none => simp only [PodFeed.receive, deleted_unnamed named]
    | some identity =>
      simp only [PodFeed.receive, lookup_deleted sound named]
      rw [if_neg]
      rintro rfl
      exact foreign pod _ rfl named
  | listBegan => rfl
  | listed pod =>
    unfold PodFeed.receive
    cases f.pending with
    | none => exact applied pod rfl
    | some pods => rfl
  | listDone => exact absurd rfl single

/-- Pods that do not say whose they are change nothing, not even in a list. -/
theorem unnamed_ignored (same : f.registry = g.registry)
    (listing : f.pending = g.pending.map (·.filter (·.identity?.isSome))) :
    (receiveAll f (events.filter isNamed)).registry = (receiveAll g events).registry := by
  induction events generalizing f g with
  | nil => exact same
  | cons e rest ih =>
    cases named : isNamed e with
    | true =>
      rw [List.filter_cons_of_pos named]
      refine ih ?_ ?_
      · cases e with
        | listed pod =>
          cases pending : g.pending <;> simp [PodFeed.receive, listing, pending, same]
        | listDone =>
          simp only [PodFeed.receive, listing, same]
          cases g.pending with
          | none => rfl
          | some pods => exact replace_named _ _
        | _ => simp [PodFeed.receive, same]
      · cases e with
        | listed pod =>
          have whose : pod.identity?.isSome = true := named
          cases pending : g.pending <;>
            simp [PodFeed.receive, listing, pending, List.filter_append, whose]
        | listBegan => rfl
        | listDone => rfl
        | _ => exact listing
    | false =>
      rw [List.filter_cons_of_neg (by simp [named])]
      refine ih ?_ ?_
      · cases e with
        | applied pod =>
          have unnamed : pod.identity? = none := by simpa [isNamed, podOf?] using named
          rw [same, PodFeed.receive, applied_unnamed unnamed]
        | deleted pod =>
          have unnamed : pod.identity? = none := by simpa [isNamed, podOf?] using named
          rw [same, PodFeed.receive, deleted_unnamed unnamed]
        | listed pod =>
          have unnamed : pod.identity? = none := by simpa [isNamed, podOf?] using named
          cases pending : g.pending <;>
            simp [PodFeed.receive, pending, same, applied_unnamed unnamed]
        | listBegan => exact nomatch named
        | listDone => exact nomatch named
      · cases e with
        | listed pod =>
          have unnamed : pod.identity? = none := by simpa [isNamed, podOf?] using named
          cases pending : g.pending <;>
            simp [PodFeed.receive, pending, listing, List.filter_append, unnamed]
        | listBegan => exact nomatch named
        | listDone => exact nomatch named
        | _ => exact listing

/-- Until a list is complete the registry is as if nothing had been listed. -/
theorem listed_ignored (same : f.registry = g.registry)
    (bracketed : Bracketed g.pending.isSome events) (incomplete : ∀ e ∈ events, e ≠ .listDone) :
    (receiveAll f (events.filter (!isListed ·))).registry = (receiveAll g events).registry := by
  induction events generalizing f g with
  | nil => exact same
  | cons e rest ih =>
    have later : Bracketed (g.receive e).pending.isSome rest := by
      rw [pending_received]
      exact bracketed.2
    have still : ∀ e ∈ rest, e ≠ .listDone :=
      fun e listed => incomplete e (List.mem_cons_of_mem _ listed)
    cases e with
    | listed pod =>
      rw [List.filter_cons_of_neg (by simp [isListed])]
      refine ih ?_ later still
      rw [listed_waits bracketed.1]
      exact same
    | listDone => exact absurd rfl (incomplete _ List.mem_cons_self)
    | _ =>
      rw [List.filter_cons_of_pos rfl]
      refine ih ?_ later still
      simp [PodFeed.receive, same]

/-! ## All that is told -/

theorem receive_all_append (f : PodFeed) (before after : List PodEvent) :
    receiveAll f (before ++ after) = receiveAll (receiveAll f before) after :=
  List.foldl_append

theorem receive_all_sound (sound : Sound f.registry) : Sound (receiveAll f events).registry := by
  induction events generalizing f with
  | nil => exact sound
  | cons e rest ih => exact ih (receive_sound sound)

theorem bracketed_after {before after : List PodEvent}
    (bracketed : Bracketed f.pending.isSome (before ++ after)) :
    Bracketed (receiveAll f before).pending.isSome after := by
  induction before generalizing f with
  | nil => exact bracketed
  | cons e rest ih =>
    refine ih ?_
    rw [pending_received]
    exact bracketed.2

theorem bracketed_before {before after : List PodEvent}
    (bracketed : Bracketed underWay (before ++ after)) : Bracketed underWay before := by
  induction before generalizing underWay with
  | nil => trivial
  | cons e rest ih => exact ⟨bracketed.1, ih bracketed.2⟩

/-- The registry holds what the watch tells of pods, and nothing else changes by it. -/
structure Faithful (f : PodFeed) (events : List PodEvent) : Prop where
  /-- A server has the pod that was set last, unless that one was taken back since. -/
  held : ∀ ns uid server, heldPod (receiveAll f events).registry ns uid server =
    heldAfter (heldPod f.registry ns uid server) (words ns uid server [] events)
  /-- Pods that do not say whose they are change nothing. -/
  unnamed : (receiveAll f (events.filter isNamed)).registry = (receiveAll f events).registry
  /-- What is listed changes nothing before the list is complete. -/
  listed : ∀ before among after, events = before ++ among ++ after →
    (∀ e ∈ among, e ≠ .listDone) →
    (receiveAll f (before ++ among.filter (!isListed ·))).registry =
      (receiveAll f (before ++ among)).registry
  /-- Nothing but pods changes, whatever the domain. -/
  onlyPods : ∀ before e after, events = before ++ e :: after → ∀ key,
    OnlyPods key ((receiveAll f before).registry.lookup? key)
      ((receiveAll f (before ++ [e])).registry.lookup? key)
  /-- An event other than the end of a list leaves all domains but that of its pod alone. -/
  foreign : ∀ before e after, events = before ++ e :: after → e ≠ .listDone →
    ∀ ns uid, (∀ pod server, podOf? e = some pod → pod.identity? ≠ some (ns, uid, server)) →
    (receiveAll f (before ++ [e])).registry.lookup? (ns, uid) =
      (receiveAll f before).registry.lookup? (ns, uid)

/-- What the watch tells is what the registry holds. -/
theorem registry_follows_watch (sound : Sound f.registry) (idle : f.pending = none)
    (bracketed : Bracketed false events) : Faithful f events where
  held ns uid server :=
    receive_all_holds sound (idle.trans (if_neg Bool.false_ne_true).symm) bracketed
  unnamed := unnamed_ignored rfl (by rw [idle]; rfl)
  listed before among after split incomplete := by
    have here : Bracketed f.pending.isSome (before ++ (among ++ after)) := by
      rwa [idle, ← List.append_assoc, ← split]
    rw [receive_all_append, receive_all_append]
    exact listed_ignored rfl (bracketed_before (bracketed_after here)) incomplete
  onlyPods before e after _ key := by
    rw [receive_all_append]
    exact receive_only_pods (receive_all_sound sound)
  foreign before e after _ single ns uid foreign := by
    rw [receive_all_append]
    exact receive_foreign (receive_all_sound sound) single foreign

/-- A pod of a server of one domain, by its uid. -/
def podNumbered (server uid : String) : Pod where
  metadata :=
    { namespaceName := some "ns", uid := some uid,
      labels := some (NameMap.ofList
        [(Label.domainUid, "domain1"), (Label.serverName, server)]) }

/-- Two servers are listed; the pod of one is replaced before its end is told, the other goes. -/
def relisted : List PodEvent :=
  [.listBegan, .listed (podNumbered "ms1" "1"), .listed (podNumbered "ms2" "2"), .listDone,
    .applied (podNumbered "ms1" "3"), .deleted (podNumbered "ms1" "1"),
    .deleted (podNumbered "ms2" "2")]

theorem relisted_followed :
    Sound {} ∧ Bracketed false relisted ∧ Faithful {} relisted ∧
      heldPod (receiveAll {} relisted).registry "ns" "domain1" "ms1" =
        some (podNumbered "ms1" "3") ∧
      heldPod (receiveAll {} relisted).registry "ns" "domain1" "ms2" = none := by
  have bracketed : Bracketed false relisted := by simp [relisted, Bracketed, underWayAfter]
  exact ⟨empty_sound, bracketed, registry_follows_watch empty_sound rfl bracketed, rfl, rfl⟩

end DomainSteward.Feeds
