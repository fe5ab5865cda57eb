import Mathlib.Logic.Relation
import DomainSteward.Proofs.Exchange.Steps
import DomainSteward.Proofs.Presence.Feed

/-! A watch and lists that tell of the same pods. The watch tells of every change
in order, but late; a page of a list shows the pods of one moment, and is
taken in whenever its answer is handled. The pod that is held for a server is
one that the server had at some moment; it is older than what the watch has told
only if a page that was read before has brought it back. -/
namespace DomainSteward.Outlooks
open Registries Feeds Exchanges

variable {ε : Type}

/-! ## The pods of a domain at the server -/

/-- A change of the pod of a server. -/
structure Change where
  server : String
  pod : Pod
  /-- Whether the pod is deleted; else it is made or modified. -/
  gone : Bool := false

/-- The pod that a server has by a change of its own. -/
def Change.leaves (change : Change) : Option Pod := if change.gone then none else some change.pod

/-- What a watch tells of a change. -/
def Change.event (change : Change) : PodEvent :=
  if change.gone then .deleted change.pod else .applied change.pod

/-- The pod of a server after so many changes. -/
def podAfter (history : List Change) (moment : Nat) (server : String) : Option Pod :=
  (history.take moment).foldl
    (fun held change => if change.server = server then change.leaves else held) none

/-- A change of a pod of the domain; what is deleted is the pod that the server has. -/
structure Proper (ns uid : String) (history : List Change) (change : Change) : Prop where
  identity : change.pod.identity? = some (ns, uid, change.server)
  was : change.gone = true → ∃ old, podAfter history history.length change.server = some old ∧
    old.metadata.uid = change.pod.metadata.uid

/-- A page shows pods that the servers have at a moment. -/
def Shows (history : List Change) (moment : Nat) (page : ObjectPage) : Prop :=
  ∀ server pod, (server, pod) ∈ podsOnPage (.list page) →
    podAfter history moment server = some pod

/-! ## What is known of them -/

/-- The changes of the pods of a domain, and the operator that is told of them. -/
structure Outlook where
  world : World
  /-- The changes so far. -/
  history : List Change := []
  /-- How many of them the watch has told. -/
  told : Nat := 0
  /-- The pages that were read, with their moments. -/
  pages : List (Nat × ObjectPage) := []
  /-- The servers whose pod was taken from a page although the watch had told of a later change,
  and has not told of another pod since. -/
  behind : List String := []

namespace Outlook

/-- The pod held for a server. -/
def held (s : Outlook) (ns uid server : String) : Option Pod :=
  heldPod s.world.registry ns uid server

/-- Whether the watch has told of a change of a server since a moment. -/
def toldSince (s : Outlook) (moment : Nat) (server : String) : Bool :=
  ((s.history.take s.told).drop moment).any (·.server = server)

/-- The watch has told of a change. -/
def tell (s : Outlook) (change : Change) : Outlook :=
  { s with
    world := { s.world with feed := s.world.feed.receive change.event }
    told := s.told + 1
    behind := if change.gone then s.behind else s.behind.filter (· ≠ change.server) }

/-- A page that was read at a moment has been handled, which left this world. -/
def take (s : Outlook) (moment : Nat) (page : ObjectPage) (world : World) : Outlook :=
  let listed := (podsOnPage (.list page)).map (·.1)
  { s with
    world
    behind := s.behind.filter (· ∉ listed) ++ listed.filter (s.toldSince moment) }

end Outlook

/-- The pods and the places of presences are the same. -/
structure SamePods (id : PresenceId) (before after : World) : Prop where
  index : after.registry.index = before.registry.index
  size : after.registry.presences.length = before.registry.presences.length
  pods : (after.presence? id).map (·.servers) = (before.presence? id).map (·.servers)

/-- One thing that happens. -/
inductive Goes (c : Conduct) (g : GuestRules ε) (ns uid : String) (id : PresenceId)
    (s : Outlook) : Outlook → Prop where
  /-- A pod changes at the server. -/
  | changes (change : Change) (proper : Proper ns uid s.history change) :
      Goes c g ns uid id s { s with history := s.history ++ [change] }
  /-- The watch tells of the next change. -/
  | tells (change : Change) (next : s.history[s.told]? = some change) :
      Goes c g ns uid id s (s.tell change)
  /-- A page of a list is read from what the servers have now. -/
  | reads (page : ObjectPage) (shows : Shows s.history s.history.length page) :
      Goes c g ns uid id s { s with pages := (s.history.length, page) :: s.pages }
  /-- A fiber that works for the domain takes in a page that was read. -/
  | handles (moment : Nat) (page : ObjectPage) (x : Exchange ε (Step ε)) (p : Packet)
      (read : (moment, page) ∈ s.pages) (handler : x.handler = .podsListed)
      (told : p.response? = some (.list page)) (works : p.presence = some id) :
      Goes c g ns uid id s
        (s.take moment page ((chainDynamics c g).apply (.response x) p s.world).world)
  /-- Something else happens that is none of the pods. -/
  | outside (world : World) (same : SamePods id s.world world) :
      Goes c g ns uid id s { s with world }

variable {c : Conduct} {g : GuestRules ε} {ns uid server : String} {id : PresenceId}
  {s s' : Outlook} {history more : List Change} {change : Change} {moment later : Nat}
  {page : ObjectPage} {x : Exchange ε (Step ε)} {p : Packet} {w w' : World}

/-! ## Moments -/

theorem pod_after_earlier (early : moment ≤ history.length) :
    podAfter (history ++ more) moment server = podAfter history moment server := by
  rw [podAfter, List.take_append_of_le_length early, podAfter]

theorem pod_after_next (next : history[moment]? = some change) :
    podAfter history (moment + 1) server =
      if change.server = server then change.leaves else podAfter history moment server := by
  rw [podAfter, List.take_add_one, next, List.foldl_append]
  rfl

/-- A server whose pod does not change has the same pod later. -/
theorem pod_after_steady (order : moment ≤ later)
    (steady : ((history.take later).drop moment).any (·.server = server) = false) :
    podAfter history later server = podAfter history moment server := by
  have parts := List.take_append_drop moment (history.take later)
  rw [List.take_take, Nat.min_eq_left order] at parts
  rw [podAfter, ← parts, List.foldl_append, podAfter]
  generalize (history.take later).drop moment = between at steady
  generalize (history.take moment).foldl _ _ = held
  induction between with
  | nil => rfl
  | cons change rest ih =>
    rw [List.any_cons, Bool.or_eq_false_iff, decide_eq_false_iff_not] at steady
    rw [List.foldl_cons, if_neg steady.1]
    exact ih steady.2

/-! ## Pages -/

private theorem modify_budget_registry (f : RetryBudget → RetryBudget) :
    (w.modifyBudget p f).registry = w.registry := by
  unfold World.modifyBudget
  split <;> rfl

/-- All pods of a page are taken in at once. -/
private theorem page_is_one_change (entries : List (String × Pod)) (works : p.presence = some id) :
    entries.foldl (fun w (server, pod) => w.modifyPresenceOf p (·.setPod server pod)) w =
      w.modifyPresence id (fun now => entries.foldl (fun now e => now.setPod e.1 e.2) now) := by
  induction entries generalizing w with
  | nil =>
    have nothing : w.feed.registry.presences.modify id (fun now => now) =
        w.feed.registry.presences := List.modify_id ..
    simp [World.modifyPresence, World.withRegistry, Registry.modify, nothing]
  | cons entry rest ih =>
    rw [List.foldl_cons, ih]
    simp only [World.modifyPresenceOf, works, World.modifyPresence, World.withRegistry,
      Registry.modify, List.modify_modify_eq]
    rfl

private theorem page_sets (entries : List (String × Pod)) (now : Presence) :
    (entries.foldl (fun now e => now.setPod e.1 e.2) now).pod? server =
      (entries.reverse.lookup server).or (now.pod? server) := by
  rw [Presence.pod?, Presence.pod?, ← NameMaps.get?_inserted]
  congr 1
  induction entries generalizing now with
  | nil => rfl
  | cons entry rest ih => exact ih (now.setPod entry.1 entry.2)

/-- What the handling of a page does: its pods are taken in, and nothing else
becomes of the presences. -/
theorem page_handled (sound : Sound w.registry) (found : w.registry.find? (ns, uid) = some id)
    (handler : x.handler = .podsListed) (told : p.response? = some (.list page))
    (works : p.presence = some id) :
    let after := ((chainDynamics c g).apply (.response x) p w).world.registry
    Sound after ∧ after.find? (ns, uid) = some id ∧
      ∀ server, heldPod after ns uid server =
        ((podsOnPage (.list page)).reverse.lookup server).or
          (heldPod w.registry ns uid server) := by
  have working : (p.remove Packet.responseKey).presence = some id := works
  obtain ⟨now, held⟩ := found_held sound found
  have present : w.presenceOf? (p.remove Packet.responseKey) = some now := by
    rw [World.presenceOf?, working]
    exact held
  have fate : ((chainDynamics c g).apply (.response x) p w).world.registry =
      w.registry.modify id
        (fun now => (podsOnPage (.list page)).foldl (fun now e => now.setPod e.1 e.2) now) := by
    have judges : Step.judge c g x (.list page) (p.remove Packet.responseKey) w =
        x.nextPageOr (.list page) x.next (p.remove Packet.responseKey) (w.modifyPresence id
          (fun now => (podsOnPage (.list page)).foldl (fun now e => now.setPod e.1 e.2) now)) := by
      simp only [Step.judge, handler, Response.isFailure, Bool.false_eq_true, ↓reduceIte,
        podsListed, present, page_is_one_change _ working]
    cases more : (Response.list page).continueToken? with
    | none =>
      rw [Exchange.nextPageOr, more] at judges
      have applies : (chainDynamics c g).apply (.response x) p w = _ := settle_does told judges
      rw [applies]
      rfl
    | some token =>
      simp only [Exchange.nextPageOr, more] at judges
      have starts : Step.judge c g x (.list page) (p.remove Packet.responseKey) w =
          .of _ _ (World.modifyBudget _ _ _) := judges
      have applies : (chainDynamics c g).apply (.response x) p w = _ := settle_does told starts
      rw [applies]
      exact modify_budget_registry _
  rw [fate]
  refine ⟨modify_sound sound, found, fun server => ?_⟩
  have known : w.registry.lookup? (ns, uid) = some now := by
    rw [Registry.lookup?, found, Option.bind_some, held]
  rw [heldPod, lookup_modify sound found, if_pos rfl, known, heldPod, known]
  exact page_sets _ _

/-! ## Keeping up -/

/-- A pod is that of a server at some moment; on a condition that moment is not early. -/
def Dated (history : List Change) (server : String) (held : Option Pod) (earliest : Nat)
    (condition : Prop) : Prop :=
  ∃ moment ≤ history.length, held = podAfter history moment server ∧
    (condition → earliest ≤ moment)

/-- What is held is what the servers had; only who is behind may have what the watch knows to be
over. -/
structure KeepsUp (ns uid : String) (id : PresenceId) (s : Outlook) : Prop where
  sound : Sound s.world.registry
  found : s.world.registry.find? (ns, uid) = some id
  told : s.told ≤ s.history.length
  proper : ∀ moment change, s.history[moment]? = some change →
    Proper ns uid (s.history.take moment) change
  shown : ∀ read ∈ s.pages, read.1 ≤ s.history.length ∧ Shows s.history read.1 read.2
  held : ∀ server, Dated s.history server (s.held ns uid server) s.told (server ∉ s.behind)

/-- A law of every change and of those before it still holds when one more change keeps it. -/
theorem law_of_more {law : List Change → Change → Prop}
    (sofar : ∀ moment change, history[moment]? = some change → law (history.take moment) change)
    (now : law history change) (moment : Nat) (other : Change)
    (here : (history ++ [change])[moment]? = some other) :
    law ((history ++ [change]).take moment) other := by
  rcases Nat.lt_trichotomy moment history.length with within | rfl | beyond
  · rw [List.getElem?_append_left within] at here
    rw [List.take_append_of_le_length (Nat.le_of_lt within)]
    exact sofar moment other here
  · rw [List.getElem?_concat_length] at here
    cases here
    rwa [List.take_left']
    rfl
  · have none : (history ++ [change])[moment]? = none := by
      rw [List.getElem?_eq_none_iff, List.length_append]
      exact beyond
    cases none.symm.trans here

private theorem changes_kept (keeps : KeepsUp ns uid id s)
    (proper : Proper ns uid s.history change) :
    KeepsUp ns uid id { s with history := s.history ++ [change] } where
  sound := keeps.sound
  found := keeps.found
  told := by
    rw [List.length_append]
    exact Nat.le_add_right_of_le keeps.told
  proper := law_of_more keeps.proper proper
  shown read among := by
    obtain ⟨early, shows⟩ := keeps.shown read among
    refine ⟨by rw [List.length_append]; exact Nat.le_add_right_of_le early, ?_⟩
    intro server pod listed
    rw [pod_after_earlier early]
    exact shows server pod listed
  held server := by
    obtain ⟨moment, early, held, law⟩ := keeps.held server
    refine ⟨moment, by rw [List.length_append]; exact Nat.le_add_right_of_le early, ?_, law⟩
    rw [pod_after_earlier early]
    exact held

theorem pod_after_taken (history : List Change) (moment : Nat) (server : String) :
    podAfter (history.take moment) (history.take moment).length server =
      podAfter history moment server := by
  rw [podAfter, List.take_length, podAfter]

/-- The watch replaces or takes away the pod of the server that it tells of. -/
theorem held_told (sound : Sound s.world.registry)
    (identity : change.pod.identity? = some (ns, uid, change.server)) (server : String) :
    (s.tell change).held ns uid server =
      if change.server = server then
        if change.gone then
          (s.held ns uid server).filter (fun pod => pod.metadata.uid ≠ change.pod.metadata.uid)
        else some change.pod
      else s.held ns uid server := by
  cases gone : change.gone with
  | false =>
    have applied : (s.tell change).world.registry = s.world.registry.podApplied change.pod := by
      simp [Outlook.tell, Change.event, gone, PodFeed.receive, World.registry]
    rw [Outlook.held, applied, held_applied sound identity]
    simp [Outlook.held]
  | true =>
    have deleted : (s.tell change).world.registry = s.world.registry.podDeleted change.pod := by
      simp [Outlook.tell, Change.event, gone, PodFeed.receive, World.registry]
    rw [Outlook.held, deleted, held_deleted sound identity]
    simp [Outlook.held]

/-- A deletion that is told leaves no pod, or one that is newer. -/
private theorem deletion_dated {old : Pod} {held : Option Pod} {free : Prop}
    (next : history[moment]? = some change) (gone : change.gone = true)
    (before : podAfter history moment change.server = some old)
    (sameUid : old.metadata.uid = change.pod.metadata.uid)
    (dated : Dated history change.server held moment free) :
    Dated history change.server
      (held.filter (fun pod => pod.metadata.uid ≠ change.pod.metadata.uid)) (moment + 1) free := by
  obtain ⟨within, _⟩ := List.getElem?_eq_some_iff.mp next
  have after : podAfter history (moment + 1) change.server = none := by
    rw [pod_after_next next, if_pos rfl, Change.leaves, if_pos gone]
  obtain ⟨date, early, was, law⟩ := dated
  have later : free → held ≠ some old → moment + 1 ≤ date := by
    intro isFree differs
    refine Nat.lt_of_le_of_ne (law isFree) ?_
    rintro rfl
    exact differs (was.trans before)
  cases held with
  | none => exact ⟨date, early, was, fun isFree => later isFree nofun⟩
  | some pod =>
    by_cases same : pod.metadata.uid = change.pod.metadata.uid
    · exact ⟨moment + 1, within, by simp [after, same], fun _ => Nat.le_refl _⟩
    · have stays : (some pod).filter (fun pod => pod.metadata.uid ≠ change.pod.metadata.uid) =
          some pod := by simp [Option.filter, same]
      rw [stays]
      refine ⟨date, early, was, fun isFree => later isFree ?_⟩
      rintro ⟨rfl⟩
      exact same sameUid

/-- A change of another server that is told dates nothing back. -/
private theorem other_dated {held : Option Pod} {free : Prop}
    (next : history[moment]? = some change) (other : change.server ≠ server)
    (dated : Dated history server held moment free) :
    Dated history server held (moment + 1) free := by
  obtain ⟨within, _⟩ := List.getElem?_eq_some_iff.mp next
  obtain ⟨date, early, was, law⟩ := dated
  by_cases reached : date = moment
  · refine ⟨moment + 1, within, ?_, fun _ => Nat.le_refl _⟩
    rw [pod_after_next next, if_neg other, was, reached]
  · exact ⟨date, early, was, fun isFree => Nat.lt_of_le_of_ne (law isFree) (Ne.symm reached)⟩

/-- What the watch tells is news, and nobody falls behind by it. -/
private theorem tells_kept (keeps : KeepsUp ns uid id s)
    (next : s.history[s.told]? = some change) : KeepsUp ns uid id (s.tell change) := by
  obtain ⟨within, _⟩ := List.getElem?_eq_some_iff.mp next
  obtain ⟨identity, was⟩ := keeps.proper s.told change next
  refine ⟨receive_sound keeps.sound, ?_, within, keeps.proper, keeps.shown, fun server => ?_⟩
  · simp only [Outlook.tell, Change.event]
    split
    · exact deleted_finds keeps.found
    · exact applied_finds keeps.found
  · rw [held_told keeps.sound identity]
    by_cases mine : change.server = server
    · subst mine
      rw [if_pos rfl]
      cases gone : change.gone with
      | false =>
        refine ⟨s.told + 1, within, ?_, fun _ => Nat.le_refl _⟩
        have after : podAfter s.history (s.told + 1) change.server = _ := pod_after_next next
        rw [if_pos rfl, Change.leaves, gone] at after
        exact after.symm
      | true =>
        obtain ⟨old, before, sameUid⟩ := was gone
        rw [pod_after_taken] at before
        have behind : (s.tell change).behind = s.behind := by simp [Outlook.tell, gone]
        rw [behind]
        exact deletion_dated next gone before sameUid (keeps.held change.server)
    · rw [if_neg mine]
      have still : server ∉ (s.tell change).behind ↔ server ∉ s.behind := by
        simp only [Outlook.tell]
        split
        · rfl
        · simp [Ne.symm mine]
      rw [still]
      exact other_dated next mine (keeps.held server)

/-- A page brings pods of its moment; nobody falls behind by it of whom no later change was
told. -/
private theorem handles_kept (keeps : KeepsUp ns uid id s) (read : (moment, page) ∈ s.pages)
    (handler : x.handler = .podsListed) (told : p.response? = some (.list page))
    (works : p.presence = some id) :
    KeepsUp ns uid id
      (s.take moment page ((chainDynamics c g).apply (.response x) p s.world).world) := by
  obtain ⟨sound, found, holds⟩ := page_handled (c := c) (g := g) keeps.sound keeps.found handler
    told works
  obtain ⟨early, shows⟩ := keeps.shown _ read
  refine ⟨sound, found, keeps.told, keeps.proper, keeps.shown, fun server => ?_⟩
  have held := holds server
  cases listed : (podsOnPage (.list page)).reverse.lookup server with
  | none =>
    rw [listed, Option.none_or] at held
    obtain ⟨date, early, was, law⟩ := keeps.held server
    refine ⟨date, early, held.trans was, fun free => law fun among => free ?_⟩
    refine List.mem_append_left _ (List.mem_filter.mpr ⟨among, ?_⟩)
    rw [List.lookup_eq_none_iff] at listed
    rw [decide_eq_true_iff, List.mem_map]
    rintro ⟨entry, onPage, same⟩
    have differs := listed entry (List.mem_reverse.mpr onPage)
    rw [same] at differs
    simp at differs
  | some pod =>
    rw [listed, Option.some_or] at held
    have onPage : (server, pod) ∈ podsOnPage (.list page) := by
      obtain ⟨before, after, split, _⟩ := List.lookup_eq_some_iff.mp listed
      rw [← List.mem_reverse, split]
      simp
    have was := held.trans (shows server pod onPage).symm
    by_cases overtaken : s.toldSince moment server = true
    · refine ⟨moment, early, was, fun free => absurd ?_ free⟩
      refine List.mem_append_right _ (List.mem_filter.mpr ⟨?_, overtaken⟩)
      exact List.mem_map_of_mem (f := (·.1)) onPage
    · have steady : s.toldSince moment server = false := by simpa using overtaken
      rcases Nat.le_total s.told moment with order | order
      · exact ⟨moment, early, was, fun _ => order⟩
      · refine ⟨s.told, keeps.told, ?_, fun _ => Nat.le_refl _⟩
        exact was.trans (pod_after_steady order steady).symm

private theorem outside_kept (keeps : KeepsUp ns uid id s) (same : SamePods id s.world w) :
    KeepsUp ns uid id { s with world := w } := by
  have finds : w.registry.find? (ns, uid) = some id := by
    rw [Registry.find?, same.index]
    exact keeps.found
  refine ⟨⟨?_, ?_, ?_⟩, finds, keeps.told, keeps.proper, keeps.shown, fun server => ?_⟩
  · rw [same.index]
    exact keeps.sound.keys
  · rw [same.index]
    exact keeps.sound.numbers
  · intro e listed
    rw [same.size]
    exact keeps.sound.held e (same.index ▸ listed)
  · have pods : heldPod w.registry ns uid server = s.held ns uid server := by
      have seen : ∀ w : World, w.registry.find? (ns, uid) = some id →
          heldPod w.registry ns uid server =
            ((w.presence? id).map (·.servers)).bind (·.get? server) := by
        intro w found
        rw [heldPod, Registry.lookup?, found, Option.bind_some, Option.bind_map]
        rfl
      rw [seen w finds, same.pods, Outlook.held, seen s.world keeps.found]
    have dated := keeps.held server
    rw [← pods] at dated
    exact dated

/-- Whatever happens, all this stays so. -/
theorem goes_kept (keeps : KeepsUp ns uid id s) (goes : Goes c g ns uid id s s') :
    KeepsUp ns uid id s' := by
  cases goes with
  | changes change proper => exact changes_kept keeps proper
  | tells change next => exact tells_kept keeps next
  | reads page shows =>
    refine ⟨keeps.sound, keeps.found, keeps.told, keeps.proper, ?_, keeps.held⟩
    intro read among
    rcases List.mem_cons.mp among with rfl | among
    · exact ⟨Nat.le_refl _, shows⟩
    · exact keeps.shown read among
  | handles moment page x p read handler told works =>
    exact handles_kept keeps read handler told works
  | outside world same => exact outside_kept keeps same

/-- The domain can be found, and nothing has happened to pods yet. -/
structure Begins (ns uid : String) (id : PresenceId) (s : Outlook) : Prop where
  sound : Sound s.world.registry
  found : s.world.registry.find? (ns, uid) = some id
  none : ∀ server, s.held ns uid server = none
  history : s.history = []
  told : s.told = 0
  pages : s.pages = []

private theorem keeps_begins (begins : Begins ns uid id s) : KeepsUp ns uid id s where
  sound := begins.sound
  found := begins.found
  told := by simp [begins.told]
  proper := by simp [begins.history]
  shown := by simp [begins.pages]
  held server := ⟨0, Nat.zero_le _, by simp [begins.none, podAfter], by simp [begins.told]⟩

/-- The pod that is held for a server is never older than what the watch has told of that server,
unless a page brought it that was read before. -/
theorem only_overtaken_pages_roll_back (begins : Begins ns uid id s)
    (ran : Relation.ReflTransGen (Goes c g ns uid id) s s') (server : String) :
    Dated s'.history server (s'.held ns uid server) s'.told (server ∉ s'.behind) := by
  have keeps : KeepsUp ns uid id s' := by
    induction ran with
    | refl => exact keeps_begins begins
    | tail _ goes ih => exact goes_kept ih goes
  exact keeps.held server

/-- A domain that is known and has no pods. -/
def bareOutlook : Outlook where
  world :=
    { feed := { registry :=
      { presences := [fresh ("ns", "domain1")], index := [(("ns", "domain1"), 0)] } } }

theorem bare_begins : Begins "ns" "domain1" 0 bareOutlook :=
  ⟨⟨by decide, by decide, by decide⟩, rfl, fun _ => rfl, rfl, rfl, rfl⟩

def onlyPod : Pod := podNumbered "ms1" "1"

def onlyPage : ObjectPage := { items := [{ metadata := onlyPod.metadata }] }

private theorem only_page_shows : podsOnPage (.list onlyPage) = [("ms1", onlyPod)] := rfl

def listing : Exchange Empty (Step Empty) :=
  { id := .listPods, request := none, handler := .podsListed, sink := none, next := none }

def answeredPacket : Packet :=
  ({ presence := some 0 } : Packet).put Packet.responseKey (.response (.list onlyPage))

/-- The pod is made; a page shows it and is taken in before the watch has told of it. -/
def ahead : Outlook :=
  let made : Outlook := { bareOutlook with history := [⟨"ms1", onlyPod, false⟩] }
  let read : Outlook := { made with pages := [(1, onlyPage)] }
  read.take 1 onlyPage
    (((chainDynamics {} .nobody).apply (.response listing) answeredPacket read.world).world)

private theorem only_page_shown : Shows [⟨"ms1", onlyPod, false⟩] 1 onlyPage := by
  intro server pod listed
  rw [only_page_shows] at listed
  cases List.mem_singleton.mp listed
  rfl

theorem page_ahead_of_watch :
    Begins "ns" "domain1" 0 bareOutlook ∧
      Relation.ReflTransGen (Goes {} .nobody "ns" "domain1" 0) bareOutlook ahead ∧
      ahead.held "ns" "domain1" "ms1" = some onlyPod ∧ ahead.behind = [] ∧
      Dated ahead.history "ms1" (ahead.held "ns" "domain1" "ms1") ahead.told
        ("ms1" ∉ ahead.behind) := by
  have ran : Relation.ReflTransGen (Goes {} .nobody "ns" "domain1" 0) bareOutlook ahead := by
    refine .head (.changes ⟨"ms1", onlyPod, false⟩ ⟨rfl, nofun⟩) ?_
    refine .head (.reads onlyPage only_page_shown) ?_
    exact .single (.handles 1 onlyPage listing answeredPacket List.mem_cons_self rfl rfl rfl)
  exact ⟨bare_begins, ran, rfl, rfl, only_overtaken_pages_roll_back bare_begins ran "ms1"⟩

/-! ## A pod that comes back -/

/-- The pod is made, and a page shows it. The watch tells that the pod was made and that it is
gone, and then the page is taken in. -/
def revived : Outlook :=
  let made : Outlook := { bareOutlook with history := [⟨"ms1", onlyPod, false⟩] }
  let read : Outlook := { made with pages := [(1, onlyPage)] }
  let told := read.tell ⟨"ms1", onlyPod, false⟩
  let gone : Outlook := { told with history := told.history ++ [⟨"ms1", onlyPod, true⟩] }
  let cleared := gone.tell ⟨"ms1", onlyPod, true⟩
  cleared.take 1 onlyPage
    (((chainDynamics {} .nobody).apply (.response listing) answeredPacket cleared.world).world)

private theorem revived_reached :
    Relation.ReflTransGen (Goes {} .nobody "ns" "domain1" 0) bareOutlook revived := by
  refine .head (.changes ⟨"ms1", onlyPod, false⟩ ⟨rfl, nofun⟩) ?_
  refine .head (.reads onlyPage only_page_shown) ?_
  refine .head (.tells ⟨"ms1", onlyPod, false⟩ rfl) ?_
  refine .head (.changes ⟨"ms1", onlyPod, true⟩ ⟨rfl, fun _ => ⟨onlyPod, rfl, rfl⟩⟩) ?_
  refine .head (.tells ⟨"ms1", onlyPod, true⟩ rfl) ?_
  exact .single (.handles 1 onlyPage listing answeredPacket List.mem_cons_self rfl rfl rfl)

/-- The watch has told that a pod is gone, and it comes back from a page that was read before. -/
theorem deleted_pod_comes_back :
    Begins "ns" "domain1" 0 bareOutlook ∧
      Relation.ReflTransGen (Goes {} .nobody "ns" "domain1" 0) bareOutlook revived ∧
      revived.history[1]? = some ⟨"ms1", onlyPod, true⟩ ∧ revived.told = 2 ∧
      revived.held "ns" "domain1" "ms1" = some onlyPod ∧
      ¬ Dated revived.history "ms1" (revived.held "ns" "domain1" "ms1") revived.told True := by
  refine ⟨bare_begins, revived_reached, rfl, rfl, rfl, ?_⟩
  rintro ⟨moment, early, was, law⟩
  have last : moment = 2 := Nat.le_antisymm early (law trivial)
  subst last
  exact nomatch was

end DomainSteward.Outlooks
