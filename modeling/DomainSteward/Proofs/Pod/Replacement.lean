import DomainSteward.Presence.Basic
import DomainSteward.Proofs.Object.Meta

/-! The pod that takes a pod's place. It is what remains of the document of the pod when everything
is taken out that belongs to the one pod alone, and the restart version is set. Nothing else
differs, so the new pod serves the same server, is up to date, and a further replacement of it is a
replacement of the old pod. -/
namespace DomainSteward.Replacements
open Json Fields Objects

/-! ## The document of a pod, edited -/

/-- The metadata that belongs to one pod alone. -/
def ownMetadata : List String :=
  ["resourceVersion", "uid", "creationTimestamp", "deletionTimestamp",
    "deletionGracePeriodSeconds", "managedFields"]

/-- Metadata without what belongs to one pod alone, with a label for the restart version. Labels are
added if there are none. -/
def stamped (version : String) (fields : List (String × Json)) : List (String × Json) :=
  let rest := ownMetadata.foldl (fun rest name => dropField name rest) fields
  let labels := ((fieldOf "labels" rest).bind object?).getD []
  setField "labels" (.object (setField Label.restartVersion (.text version) labels)) rest

/-- Changes the object in a field, if there is one. -/
def within (name : String) (change : List (String × Json) → List (String × Json))
    (fields : List (String × Json)) : List (String × Json) :=
  match (fieldOf name fields).bind object? with
  | some inner => setField name (.object (change inner)) fields
  | none => fields

/-- The document of a pod as that of a new one: stamped, on no node, and without a status. -/
def edited (version : String) : Json → Json
  | .object fields =>
    .object (dropField "status"
      (within "spec" (dropField "nodeName") (within "metadata" (stamped version) fields)))
  | j => j

variable {version name : String} {fields : List (String × Json)}

private theorem dropped_field (names : List String) (fields : List (String × Json)) :
    fieldOf name (names.foldl (fun rest name => dropField name rest) fields) =
      if name ∈ names then none else fieldOf name fields := by
  induction names generalizing fields with
  | nil => simp
  | cons first others ih =>
    rw [List.foldl_cons, ih, fieldOf_drop]
    by_cases here : name = first
    · simp [here]
    · simp [here, Ne.symm here]

theorem stamped_field (version : String) (fields : List (String × Json)) (other : name ≠ "labels") :
    fieldOf name (stamped version fields) =
      if name ∈ ownMetadata then none else fieldOf name fields := by
  rw [stamped, fieldOf_set, if_neg (Ne.symm other), dropped_field]

theorem stamped_labels (version : String) (fields : List (String × Json)) :
    fieldOf "labels" (stamped version fields) =
      some (.object (setField Label.restartVersion (.text version)
        (((fieldOf "labels" fields).bind object?).getD []))) := by
  have kept : "labels" ∉ ownMetadata := by decide
  rw [stamped, fieldOf_set, if_pos rfl, dropped_field, if_neg kept]

/-! ## What it is read as -/

/-- A map as the fields of an object. -/
def shown (entries : List (String × String)) : List (String × Json) :=
  entries.map (fun e => (e.1, .text e.2))

private theorem set_present {l : List (String × String)} {value : String}
    (sorted : l.Pairwise (fun a b => a.1 < b.1)) (present : name ∈ l.map (·.1)) :
    setField name (.text value) (shown l) = shown (NameMap.place name value l) := by
  induction l with
  | nil => cases present
  | cons head rest ih =>
    obtain ⟨first, old⟩ := head
    obtain ⟨before, tail⟩ := List.pairwise_cons.mp sorted
    by_cases here : name = first
    · subst here
      simp [shown, setField, NameMap.place]
    · have later : name ∈ rest.map (·.1) := (List.mem_cons.mp present).resolve_left here
      obtain ⟨e, among, rfl⟩ := List.mem_map.mp later
      have after : ¬ e.1 < first := fun less =>
        String.lt_irrefl e.1 (String.lt_trans less (before e among))
      have stays := ih tail later
      simp only [shown, List.map_cons, setField, NameMap.place, if_neg here, if_neg after,
        if_neg (Ne.symm here)] at stays ⊢
      rw [stays]

private theorem set_absent {value : Json} (absent : name ∉ fields.map (·.1)) :
    setField name value fields = fields ++ [(name, value)] := by
  induction fields with
  | nil => rfl
  | cons head rest ih =>
    obtain ⟨other, later⟩ := not_or.mp (mt List.mem_cons.mpr absent)
    simp only [setField, if_neg (Ne.symm other), ih later, List.cons_append]

private theorem shown_reads (l : List (String × String)) :
    (shown l).mapM (fun (name, value) => (text? value).map (name, ·)) = some l := by
  induction l with
  | nil => rfl
  | cons head rest ih => simp_all [shown, text?]

/-- A map in whose object a field is set is the map with that entry. -/
theorem map_set (labels : NameMap String) (name value : String) :
    mapOf? text? (.object (setField name (.text value) (shown labels.entries))) =
      some (labels.insert name value) := by
  -- A field that is there keeps its place. A new one comes last, and the reader sorts it in.
  by_cases present : name ∈ labels.entries.map (·.1)
  · rw [set_present labels.sorted present]
    exact (map_faithful text_faithful).reads (labels.insert name value)
  · have absent : name ∉ (shown labels.entries).map (·.1) := by simpa [shown] using present
    have last : setField name (.text value) (shown labels.entries) =
        shown (labels.entries ++ [(name, value)]) := by
      rw [set_absent absent]
      simp [shown]
    rw [last]
    simp only [mapOf?, object?, Option.bind_eq_bind, Option.bind_some, shown_reads]
    have inserted : NameMap.ofList (labels.entries ++ [(name, value)]) =
        (NameMap.ofList labels.entries).insert name value := List.foldl_append
    rw [inserted, NameMaps.ofList_entries]
    rfl

/-- The metadata of a new pod that is made from metadata. -/
def renewed (m : ObjectMeta) (version : String) : ObjectMeta :=
  { m with
    resourceVersion := none
    uid := none
    creationTimestamp := none
    deletionTimestamp := none
    deletionGracePeriodSeconds := none
    managedFields := none
    labels := some ((m.labels.getD {}).insert Label.restartVersion version) }

/-- Stamped metadata is that of a new pod. -/
theorem stamped_reads (version : String) (m : ObjectMeta) :
    ∃ fields, m.write = .object fields ∧
      ObjectMeta.read (.object (stamped version fields)) = some (renewed m version) := by
  obtain ⟨fields, written, labels⟩ : ∃ fields, m.write = .object fields ∧
      fieldOf "labels" fields = m.labels.map (ofMap .text) := by
    refine ⟨_, rfl, ?_⟩
    simp
  have reads : ReadAs fields m := read_iff.mp (written ▸ meta_faithful.reads m)
  have kept (name : String) (other : name ≠ "labels") (free : name ∉ ownMetadata) :
      fieldOf name (stamped version fields) = fieldOf name fields := by
    rw [stamped_field version fields other, if_neg free]
  have gone {α : Type} (name : String) (read : Json → Option α) (other : name ≠ "labels")
      (own : name ∈ ownMetadata) :
      optional? (stamped version fields) name read = some none := by
    rw [optional?, stamped_field version fields other, if_pos own]
  refine ⟨fields, written, read_iff.mpr ?_⟩
  exact {
    annotations := (optional_same (kept _ (by decide) (by decide))).trans reads.annotations
    creationTimestamp := gone _ _ (by decide) (by decide)
    deletionGracePeriodSeconds := gone _ _ (by decide) (by decide)
    deletionTimestamp := gone _ _ (by decide) (by decide)
    finalizers := (optional_same (kept _ (by decide) (by decide))).trans reads.finalizers
    generateName := (optional_same (kept _ (by decide) (by decide))).trans reads.generateName
    generation := (optional_same (kept _ (by decide) (by decide))).trans reads.generation
    labels := by
      have before : ((fieldOf "labels" fields).bind object?).getD [] =
          shown (m.labels.getD {}).entries := by
        rw [labels]
        cases m.labels <;> rfl
      have set := map_set (m.labels.getD {}) Label.restartVersion version
      rw [optional?, stamped_labels, before]
      simp [set, renewed]
    managedFields := gone _ _ (by decide) (by decide)
    name := (optional_same (kept _ (by decide) (by decide))).trans reads.name
    namespaceName := (optional_same (kept _ (by decide) (by decide))).trans reads.namespaceName
    ownerReferences := (optional_same (kept _ (by decide) (by decide))).trans reads.ownerReferences
    resourceVersion := gone _ _ (by decide) (by decide)
    selfLink := (optional_same (kept _ (by decide) (by decide))).trans reads.selfLink
    uid := gone _ _ (by decide) (by decide) }

/-- The edited document of a pod is read as the definition of the pod that takes its place. -/
theorem edited_reads (p : Pod) (version : String) :
    ApiObject.read (edited version p.write) = some (p.replacement version) := by
  obtain ⟨fields, written, reads⟩ := stamped_reads version p.metadata
  have document : edited version p.write = .object
      (("apiVersion", .text "v1") :: ("kind", .text "Pod") ::
        ("metadata", .object (stamped version fields)) :: (p.replacement version).data) := by
    rw [Pod.write, edited, written]
    cases spec : p.spec <;> cases p.status <;>
      simp [spec, within, fieldOf, field?, setField, dropField, object?, Pod.replacement]
  have others : (("apiVersion", Json.text "v1") :: ("kind", .text "Pod") ::
      ("metadata", .object (stamped version fields)) :: (p.replacement version).data).filter
        (fun f => !ApiObject.isOwnField f.1) = (p.replacement version).data := by
    cases spec : p.spec <;> simp [spec, field?, Pod.replacement, ApiObject.isOwnField]
  have metaRead (rest : List (String × Json)) : defaulted? (("apiVersion", .text "v1") ::
      ("kind", .text "Pod") :: ("metadata", .object (stamped version fields)) :: rest) "metadata" {}
        ObjectMeta.read = some (renewed p.metadata version) := reads
  rw [document, ApiObject.read]
  simp only [object?, Option.bind_eq_bind, Option.bind_some, metaRead, others]
  rfl

/-! ## What is different about it -/

/-- What a document holds in a field of one of its objects. -/
def part? (j : Json) (object name : String) : Option Json := (j.get? object).bind (·.get? name)

/-- An object that is made to take the place of a pod. -/
structure Renews (p : Pod) (version : String) (o : ApiObject) : Prop where
  /-- Its labels are those of the pod, but that it has the restart version. -/
  labels : ∃ labels, o.metadata.labels = some labels ∧ ∀ name, labels.get? name =
    if name = Label.restartVersion then some version else p.metadata.label? name
  /-- Its other metadata is that of the pod, without what belongs to one pod alone. -/
  metadata : ∀ name, name ≠ "labels" → part? o.write "metadata" name =
    if name ∈ ownMetadata then none else part? p.write "metadata" name
  /-- It wants what the pod wants, on any node. -/
  spec : ∀ name, part? o.write "spec" name =
    if name = "nodeName" then none else part? p.write "spec" name
  specKept : (o.write.get? "spec").isSome = p.spec.isSome
  /-- All else is as it was, but that nothing is known of its state. -/
  others : ∀ name, name ≠ "metadata" → name ≠ "spec" → o.write.get? name =
    if name = "status" then none else p.write.get? name

theorem renewed_labels (m : ObjectMeta) (version name : String) :
    (renewed m version).label? name =
      if name = Label.restartVersion then some version else m.label? name := by
  rw [ObjectMeta.label?, renewed, Option.bind_some, NameMap.get?_insert, ObjectMeta.label?]
  cases m.labels <;> rfl

/-- The written metadata of a new pod. -/
theorem renewed_field (m : ObjectMeta) (version : String) (other : name ≠ "labels") :
    (renewed m version).write.get? name =
      if name ∈ ownMetadata then none else m.write.get? name := by
  unfold ObjectMeta.write
  simp only [get?, object?, Option.bind_some, fieldOf_append, fieldOf_field]
  by_cases own : name ∈ ownMetadata
  · rw [if_pos own]
    simp only [ownMetadata, List.mem_cons, List.not_mem_nil, or_false] at own
    rcases own with rfl | rfl | rfl | rfl | rfl | rfl <;> simp [renewed]
  · rw [if_neg own]
    simp only [ownMetadata, List.mem_cons, List.not_mem_nil, or_false, not_or] at own
    obtain ⟨version, uid, created, deleted, grace, managed⟩ := own
    simp only [if_neg (Ne.symm version), if_neg (Ne.symm uid), if_neg (Ne.symm created),
      if_neg (Ne.symm deleted), if_neg (Ne.symm grace), if_neg (Ne.symm managed),
      if_neg (Ne.symm other)]
    rfl

private theorem pod_parts (p : Pod) : p.write.get? "metadata" = some p.metadata.write ∧
    p.write.get? "spec" = p.spec.map (fun s => .object s.fields) ∧
    ∀ name, name ≠ "metadata" → name ≠ "spec" → p.write.get? name =
      if name = "apiVersion" then some (.text "v1")
      else if name = "kind" then some (.text "Pod")
      else if name = "status" then p.status.map Pod.writeStatus
      else none := by
  simp only [Pod.write, get?, object?, Option.bind_some, fieldOf_append, fieldOf_field, fieldOf]
  refine ⟨by simp, by simp, fun name metadata spec => ?_⟩
  simp only [if_neg (Ne.symm metadata), if_neg (Ne.symm spec), eq_comm (a := name)]
  split
  · simp
  · split <;> simp

private theorem replacement_parts (p : Pod) (version : String) :
    (p.replacement version).write.get? "metadata" = some (renewed p.metadata version).write ∧
    (p.replacement version).write.get? "spec" =
      p.spec.map (fun s => .object (dropField "nodeName" s.fields)) ∧
    ∀ name, name ≠ "metadata" → name ≠ "spec" → (p.replacement version).write.get? name =
      if name = "apiVersion" then some (.text "v1")
      else if name = "kind" then some (.text "Pod")
      else none := by
  have own : (p.replacement version).metadata = renewed p.metadata version := rfl
  simp only [ApiObject.write, own, get?, object?, Option.bind_some, fieldOf_append, fieldOf]
  simp only [Pod.replacement, fieldOf_field, fieldOf]
  refine ⟨by simp, by simp, fun name metadata spec => ?_⟩
  simp only [if_neg (Ne.symm metadata), if_neg (Ne.symm spec), eq_comm (a := name)]
  split
  · simp
  · split <;> simp

theorem replacement_renews (p : Pod) (version : String) :
    Renews p version (p.replacement version) := by
  obtain ⟨metadataBefore, specBefore, othersBefore⟩ := pod_parts p
  obtain ⟨metadata, spec, others⟩ := replacement_parts p version
  exact {
    labels := ⟨_, rfl, renewed_labels p.metadata version⟩
    metadata := fun name other => by
      simp only [part?, metadata, metadataBefore, Option.bind_some]
      exact renewed_field p.metadata version other
    spec := fun name => by
      rw [part?, spec, part?, specBefore]
      cases p.spec with
      | none => simp
      | some s => simp [get?, object?, fieldOf_drop, eq_comm]
    specKept := by
      rw [spec, Option.isSome_map]
    others := fun name noMetadata noSpec => by
      rw [others name noMetadata noSpec, othersBefore name noMetadata noSpec]
      by_cases state : name = "status"
      · subst state
        rfl
      · rw [if_neg state, if_neg state] }

/-! ## Read back as a pod -/

/-- A wanted state is what its fields give. -/
theorem given_back (s : PodSpec) : PodSpec.ofFields s.fields = s := by
  have whole : Pod.without [] s.fields = s.fields :=
    List.filter_eq_self.mpr fun f among => by simp [s.filled f among]
  have same : Pod.withContainers (Pod.without [] s.fields) = s.fields := by
    rw [whole]
    exact if_pos s.containers
  obtain ⟨fields, filled, containers⟩ := s
  simp only [PodSpec.ofFields, PodSpec.mk.injEq]
  exact same

/-- A wanted state without a node. -/
def unplaced (s : PodSpec) : PodSpec where
  fields := dropField "nodeName" s.fields
  filled f among := s.filled f (List.mem_of_mem_filter among)
  containers := by
    rw [fieldOf_drop, if_neg (by decide)]
    exact s.containers

/-- The pod that the definition of a new pod describes. -/
def successor (p : Pod) (version : String) : Pod :=
  { metadata := renewed p.metadata version, spec := p.spec.map unplaced }

theorem replacement_reads (p : Pod) (version : String) :
    Pod.ofObject? (p.replacement version) = some (successor p version) := by
  obtain ⟨metadata, spec, others⟩ := replacement_parts p version
  obtain ⟨fields, written⟩ : ∃ fields, (p.replacement version).write = .object fields := ⟨_, rfl⟩
  rw [written] at metadata spec others
  have spec' : fieldOf "spec" fields =
      (p.spec.map (fun s => (unplaced s).fields)).map .object := by
    rw [Option.map_map]
    exact spec
  have apiVersion : defaulted? fields "apiVersion" "v1" text? = some "v1" :=
    defaulted_read text_faithful (.inl (others "apiVersion" (by decide) (by decide)))
  have kind : defaulted? fields "kind" "Pod" text? = some "Pod" :=
    defaulted_read text_faithful (.inl (others "kind" (by decide) (by decide)))
  have metadata : defaulted? fields "metadata" {} ObjectMeta.read =
      some (renewed p.metadata version) := defaulted_read meta_faithful (.inl metadata)
  have spec := optional_read object_faithful spec'
  have status : optional? fields "status" Pod.readStatus = some none := by
    rw [optional?, show fieldOf "status" fields = none from others "status" (by decide) (by decide)]
  rw [Pod.ofObject?, written, Pod.read]
  simp only [object?, Option.bind_eq_bind, Option.bind_some, apiVersion, kind, metadata, spec,
    status, ne_eq, not_true_eq_false, or_self, if_false, Option.map_map]
  have given : (PodSpec.ofFields ∘ fun s : PodSpec => (unplaced s).fields) = unplaced := by
    funext s
    exact given_back (unplaced s)
  rw [given]
  rfl

/-! ## A replacement of a replacement -/

theorem renewed_again (m : ObjectMeta) (version other : String) :
    renewed (renewed m version) other = renewed m other := by
  simp only [renewed, Option.getD_some, NameMaps.insert_again]

theorem unplaced_again (s : PodSpec) : unplaced (unplaced s) = unplaced s := by
  simp [unplaced, dropField, List.filter_filter]

theorem replaced_again (p : Pod) (version other : String) :
    (successor p version).replacement other = p.replacement other := by
  have data : ((successor p version).replacement other).data = (p.replacement other).data := by
    simp only [successor, Pod.replacement]
    cases p.spec with
    | none => rfl
    | some s =>
      have again := congrArg PodSpec.fields (unplaced_again s)
      simp only [Option.map_some, field?]
      exact congrArg (fun fields => [("spec", Json.object fields)]) again
  have metadata : ((successor p version).replacement other).metadata =
      (p.replacement other).metadata := renewed_again p.metadata version other
  exact congrArg₂ (ApiObject.mk (some ⟨"v1", "Pod"⟩)) metadata data

/-- A server whose pod is new for a restart version does not have to restart for it. -/
theorem successor_is_current (p : Pod) (version : String) (now : Presence) (server : String) :
    server ∉ ((now.setPod server (successor p version)).serversToRoll version).map (·.1) := by
  intro waits
  obtain ⟨entry, listed, rfl⟩ := List.mem_map.mp waits
  obtain ⟨⟨name, pod⟩, outdated, rfl⟩ := List.mem_map.mp listed
  obtain ⟨held, other⟩ := List.mem_filter.mp outdated
  have new : pod = successor p version := by
    have found := NameMaps.mem_entries.mp held
    rw [Presence.setPod, NameMap.get?_insert, if_pos rfl] at found
    exact (Option.some.inj found).symm
  have made : (successor p version).restartVersion? = some version :=
    (renewed_labels p.metadata version Label.restartVersion).trans (if_pos rfl)
  rw [new, made] at other
  exact of_decide_eq_true other rfl

/-- The pod that takes a pod's place is defined by the document of the pod, edited, and differs from
it in what belongs to the one pod alone, in the restart version and in nothing else. So it runs the
same server of the same domain, which does not have to restart again for this version, and what
takes its place takes the place of the old pod. -/
theorem replacement_changes_only_what_it_must (p : Pod) (version : String) :
    ApiObject.read (edited version p.write) = some (p.replacement version) ∧
      Renews p version (p.replacement version) ∧
      ∃ q, Pod.ofObject? (p.replacement version) = some q ∧
        q.serverName? = p.serverName? ∧ q.clusterName? = p.clusterName? ∧
        q.domainUid? = p.domainUid? ∧
        (∀ (now : Presence) (server : String),
          server ∉ ((now.setPod server q).serversToRoll version).map (·.1)) ∧
        ∀ other, q.replacement other = p.replacement other := by
  have label (name : String) (free : name ≠ Label.restartVersion) :
      (successor p version).metadata.label? name = p.metadata.label? name :=
    (renewed_labels p.metadata version name).trans (if_neg free)
  exact ⟨edited_reads p version, replacement_renews p version, successor p version,
    replacement_reads p version, label _ (by decide), label _ (by decide), label _ (by decide),
    successor_is_current p version, replaced_again p version⟩

end DomainSteward.Replacements
