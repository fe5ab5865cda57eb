import DomainSteward.Domain.Basic
import DomainSteward.Proofs.Json.MergePatch
import DomainSteward.Proofs.Object.Meta

/-! A patch of a status leaves nothing of the old one: whatever stood there, the domain that is read
back has the status that was written, and its wanted state is untouched. -/
namespace DomainSteward.StatusPatches
open Json Fields Merges

variable {s : DomainStatus} {fields stored : List (String × Json)} {key name : String} {absent : Json}

/-! ## What is written of a status is read back -/

theorem type_faithful : Faithful (fun j => j.text?.bind ConditionType.ofName?)
    (fun type => .text type.name) :=
  ⟨fun type => by cases type <;> rfl, nofun⟩

theorem condition_faithful : Faithful DomainCondition.read DomainCondition.write where
  reads c := by
    have fieldsRead : ∀ fields, c.write = .object fields →
        required? fields "type" (fun j => j.text?.bind ConditionType.ofName?) = some c.type ∧
        required? fields "status" text? = some c.status ∧
        optional? fields "reason" text? = some c.reason ∧
        optional? fields "message" text? = some c.message ∧
        optional? fields "lastTransitionTime" text? = some c.lastTransitionTime := by
      rintro _ ⟨⟩
      exact ⟨required_read type_faithful (by simp [fieldOf]),
        required_read text_faithful (by simp [fieldOf]),
        optional_read text_faithful (by simp [fieldOf]),
        optional_read text_faithful (by simp [fieldOf]),
        optional_read text_faithful (by simp [fieldOf])⟩
    obtain ⟨type, status, reason, message, time⟩ := fieldsRead _ rfl
    unfold DomainCondition.read DomainCondition.write
    simp only [object?, Option.bind_eq_bind, Option.bind_some, type, status, reason, message, time]
    rfl
  shown c null := by
    unfold DomainCondition.write at null
    cases null

theorem server_faithful : Faithful ServerStatus.read ServerStatus.write where
  reads server := by
    have fieldsRead : ∀ fields, server.write = .object fields →
        required? fields "serverName" text? = some server.serverName ∧
        optional? fields "clusterName" text? = some server.clusterName ∧
        optional? fields "state" text? = some server.state ∧
        defaulted? fields "ready" false bool? = some server.ready := by
      rintro _ ⟨⟩
      exact ⟨required_read text_faithful (by simp [fieldOf]),
        optional_read text_faithful (by simp [fieldOf]),
        optional_read text_faithful (by simp [fieldOf]),
        defaulted_read bool_faithful (by simp [fieldOf])⟩
    obtain ⟨serverName, clusterName, state, ready⟩ := fieldsRead _ rfl
    unfold ServerStatus.read ServerStatus.write
    simp only [object?, Option.bind_eq_bind, Option.bind_some, serverName, clusterName, state, ready]
    rfl
  shown server null := by
    unfold ServerStatus.write at null
    cases null

/-- A status is what its fields are read as: both lists in full, the rest where it is present. -/
theorem status_read
    (conditions : fieldOf "conditions" fields = some (.list (s.conditions.map DomainCondition.write)))
    (servers : fieldOf "servers" fields = some (.list (s.servers.map ServerStatus.write)))
    (generation : optional? fields "observedGeneration" int64? = some s.observedGeneration)
    (reason : optional? fields "reason" text? = some s.reason)
    (message : optional? fields "message" text? = some s.message) :
    DomainStatus.read (.object fields) = some s := by
  simp only [DomainStatus.read, object?, Option.bind_eq_bind, Option.bind_some,
    defaulted_read (list_faithful condition_faithful) (.inl conditions),
    defaulted_read (list_faithful server_faithful) (.inl servers), generation, reason, message]
  rfl

/-! ## What a patch names -/

theorem fieldOf_orElse : fieldOf name (DomainStatus.orElse key absent fields) =
    if key = name then some ((fieldOf name fields).getD absent) else fieldOf name fields := by
  unfold DomainStatus.orElse
  by_cases here : key = name
  · subst here
    cases found : fieldOf key fields <;> simp [found, fieldOf]
  · split <;> simp [here, fieldOf]

theorem orElse_distinct (distinct : (fields.map (·.1)).Nodup) :
    ((DomainStatus.orElse key absent fields).map (·.1)).Nodup := by
  unfold DomainStatus.orElse
  split
  · exact distinct
  · next missing =>
    have fresh : key ∉ fields.map (·.1) := fieldOf_none_iff.mp (by simpa using missing)
    simpa using distinct.concat fresh

theorem defaults_distinct {names : List String} (distinct : (fields.map (·.1)).Nodup) :
    ((names.foldl (fun fs name => DomainStatus.orElse name absent fs) fields).map (·.1)).Nodup := by
  induction names generalizing fields with
  | nil => exact distinct
  | cons name rest ih => exact ih (orElse_distinct distinct)

theorem fields_distinct (s : DomainStatus) : (s.fields.map (·.1)).Nodup := by
  have among : (s.fields.map (·.1)).Sublist
      ["conditions", "servers", "observedGeneration", "reason", "message"] := by
    simp only [DomainStatus.fields, List.map_append]
    exact ((((listField_names _ _).append (listField_names _ _)).append (field_names _ _)).append
      (field_names _ _)).append (field_names _ _)
  exact among.nodup (by decide)

/-- The fields of a patch: those of the status, and what stands for the others. -/
def named (s : DomainStatus) : List (String × Json) :=
  ["reason", "message", "observedGeneration"].foldl (fun fs name => DomainStatus.orElse name .null fs)
    (["conditions", "servers"].foldl (fun fs name => DomainStatus.orElse name (.list []) fs) s.fields)

theorem patch_object (s : DomainStatus) (version : Option String) : s.patch version =
    .object [("metadata", .object [("resourceVersion", ofText? version)]),
      ("status", .object (named s))] := rfl

private theorem named_conditions (s : DomainStatus) : fieldOf "conditions" (named s) =
    some (.list (s.conditions.map DomainCondition.write)) := by
  cases h : s.conditions <;> simp [named, fieldOf_orElse, DomainStatus.fields, h]

private theorem named_servers (s : DomainStatus) : fieldOf "servers" (named s) =
    some (.list (s.servers.map ServerStatus.write)) := by
  cases h : s.servers <;> simp [named, fieldOf_orElse, DomainStatus.fields, h]

/-- A patch says what it will leave. -/
theorem named_read (s : DomainStatus) : DomainStatus.read (.object (named s)) = some s := by
  apply status_read (named_conditions s) (named_servers s)
  · refine optional_or_null int64_faithful ?_
    simp [named, fieldOf_orElse, DomainStatus.fields]
  · refine optional_or_null text_faithful ?_
    simp [named, fieldOf_orElse, DomainStatus.fields]
  · refine optional_or_null text_faithful ?_
    simp [named, fieldOf_orElse, DomainStatus.fields]

theorem named_distinct (s : DomainStatus) : ((named s).map (·.1)).Nodup :=
  defaults_distinct (defaults_distinct (fields_distinct s))

/-! ## What a merge leaves -/

/-- Merged into any status, a patch leaves the one it was made of. -/
theorem status_merged (s : DomainStatus) (old : List (String × Json)) :
    DomainStatus.read (.object (mergeFields old (named s))) = some s := by
  have distinct := named_distinct s
  apply status_read
  · exact merged_option distinct (some _) (named_conditions s) (by simp [object?, isNull])
  · exact merged_option distinct (some _) (named_servers s) (by simp [object?, isNull])
  · exact optional_read int64_faithful (merged_option distinct (Option.map _ _)
      (by simp [named, fieldOf_orElse, DomainStatus.fields]) (by simp [object?, isNull, ofInt]))
  · exact optional_read text_faithful (merged_option distinct (Option.map _ _)
      (by simp [named, fieldOf_orElse, DomainStatus.fields]) (by simp [object?, isNull]))
  · exact optional_read text_faithful (merged_option distinct (Option.map _ _)
      (by simp [named, fieldOf_orElse, DomainStatus.fields]) (by simp [object?, isNull]))

/-- Merged into any metadata, the version of a patch is the only thing that changes. -/
theorem meta_merged {m : ObjectMeta} (reads : ObjectMeta.read (.object fields) = some m)
    (version : Option String) :
    ObjectMeta.read (.object (mergeFields fields [("resourceVersion", ofText? version)])) =
      some { m with resourceVersion := version } := by
  have others : ∀ name, "resourceVersion" ≠ name →
      fieldOf name (mergeFields fields [("resourceVersion", ofText? version)]) =
        fieldOf name fields := by
    intro name other
    rw [fieldOf_merged (by simp)]
    simp [fieldOf, other]
  have reads := Objects.read_iff.mp reads
  refine Objects.read_iff.mpr ?_
  constructor
  case resourceVersion =>
    refine optional_read text_faithful (merged_option (by simp) _ ?_ (by simp [object?, isNull]))
    cases version <;> simp [fieldOf, ofText?, ofOption]
  case annotations => exact (optional_same (others _ (by decide))).trans reads.annotations
  case creationTimestamp => exact (optional_same (others _ (by decide))).trans reads.creationTimestamp
  case deletionGracePeriodSeconds =>
    exact (optional_same (others _ (by decide))).trans reads.deletionGracePeriodSeconds
  case deletionTimestamp => exact (optional_same (others _ (by decide))).trans reads.deletionTimestamp
  case finalizers => exact (optional_same (others _ (by decide))).trans reads.finalizers
  case generateName => exact (optional_same (others _ (by decide))).trans reads.generateName
  case generation => exact (optional_same (others _ (by decide))).trans reads.generation
  case labels => exact (optional_same (others _ (by decide))).trans reads.labels
  case managedFields => exact (optional_same (others _ (by decide))).trans reads.managedFields
  case name => exact (optional_same (others _ (by decide))).trans reads.name
  case namespaceName => exact (optional_same (others _ (by decide))).trans reads.namespaceName
  case ownerReferences => exact (optional_same (others _ (by decide))).trans reads.ownerReferences
  case selfLink => exact (optional_same (others _ (by decide))).trans reads.selfLink
  case uid => exact (optional_same (others _ (by decide))).trans reads.uid

/-- A domain is what its metadata, its wanted state and its status are read as. -/
theorem domain_read_iff {d : Domain} : Domain.read (.object fields) = some d ↔
    required? fields "metadata" ObjectMeta.read = some d.metadata ∧
    required? fields "spec" DomainSpec.read = some d.spec ∧
    optional? fields "status" DomainStatus.read = some d.status := by
  constructor
  · intro reads
    simp only [Domain.read, object?, Option.bind_eq_bind, Option.bind_some,
      Option.bind_eq_some_iff] at reads
    obtain ⟨_, metaRead, _, specRead, _, statusRead, same⟩ := reads
    cases same
    exact ⟨metaRead, specRead, statusRead⟩
  · rintro ⟨metaRead, specRead, statusRead⟩
    simp only [Domain.read, object?, Option.bind_eq_bind, Option.bind_some, metaRead, specRead,
      statusRead]
    rfl

/-- What stands in an object once the patch of a status is merged into it. -/
theorem patch_merged (s : DomainStatus) (version : Option String)
    (stored metaFields : List (String × Json))
    (hasMeta : fieldOf "metadata" stored = some (.object metaFields)) :
    ∃ fields old, (Json.object stored).mergePatch (s.patch version) = .object fields ∧
      fieldOf "metadata" fields =
        some (.object (mergeFields metaFields [("resourceVersion", ofText? version)])) ∧
      fieldOf "status" fields = some (.object (mergeFields old (named s))) ∧
      fieldOf "spec" fields = fieldOf "spec" stored := by
  rw [patch_object, merge_object]
  refine ⟨_, ((fieldOf "status" stored).getD .null).object?.getD [], rfl, ?_, ?_, ?_⟩ <;>
    rw [fieldOf_merged (by simp)] <;> simp [fieldOf, hasMeta, isNull, merge_object, object?]

/-- Whatever status is stored with a domain, or none, or one that cannot be read: once a patch is merged
into it, the object that is returned describes the same domain with exactly the status written. -/
theorem patch_writes_the_status {d : Domain} (s : DomainStatus) (version : Option String)
    (described : Domain.read (.object (dropField "status" stored)) = some d) :
    ∃ o, ApiObject.read ((Json.object stored).mergePatch (s.patch version)) = some o ∧
      Domain.ofObject? o =
        some { metadata := { d.metadata with resourceVersion := version }, spec := d.spec,
               status := some s } := by
  obtain ⟨metaRead, specRead, _⟩ := domain_read_iff.mp described
  have kept : ∀ name, "status" ≠ name →
      fieldOf name stored = fieldOf name (dropField "status" stored) := by
    intro name other
    rw [fieldOf_drop, if_neg other]
  rw [← required_same (kept _ (by decide))] at metaRead specRead
  obtain ⟨metaFields, hasMeta, metaRead⟩ : ∃ metaFields,
      fieldOf "metadata" stored = some (.object metaFields) ∧
        ObjectMeta.read (.object metaFields) = some d.metadata := by
    obtain ⟨value, found, reads⟩ := Option.bind_eq_some_iff.mp metaRead
    cases value with
    | object metaFields => exact ⟨metaFields, found, reads⟩
    | _ => cases reads
  obtain ⟨fields, old, merged, metaNow, statusNow, specNow⟩ :=
    patch_merged s version stored metaFields hasMeta
  have metaMerged : defaulted? fields "metadata" {} ObjectMeta.read =
      some { d.metadata with resourceVersion := version } := by
    rw [defaulted?, metaNow]
    exact meta_merged metaRead version
  obtain ⟨o, shown, reads, written, metaShown, others⟩ := Objects.object_read metaMerged
  rw [merged]
  refine ⟨o, reads, ?_⟩
  rw [Domain.ofObject?, written]
  refine domain_read_iff.mpr ⟨required_read Objects.meta_faithful metaShown, ?_, ?_⟩
  · rw [required_same ((others "spec" rfl).trans specNow)]
    exact specRead
  · rw [optional?, others "status" rfl, statusNow]
    simp [status_merged]

/-- A stored domain that has failed, with two servers known. -/
def failedDomain : List (String × Json) :=
  [("metadata", .object [("name", .text "domain1"), ("resourceVersion", .text "10")]),
    ("spec", .object [("domainUID", .text "domain1"), ("replicas", ofInt 2)]),
    ("status", .object [
      ("conditions", .list [.object [("type", .text "Failed"), ("status", .text "True"),
        ("message", .text "boom")]]),
      ("servers", .list [.object [("serverName", .text "ms1")], .object [("serverName", .text "ms2")]]),
      ("observedGeneration", ofInt 3), ("reason", .text "Kubernetes"), ("message", .text "boom")])]

/-- Nothing is left of the failure, of the servers and of the generation once an empty status is
written over them. -/
theorem failed_status_is_overwritten :
    ∃ o, ApiObject.read ((Json.object failedDomain).mergePatch (DomainStatus.patch {} (some "10"))) =
        some o ∧
      Domain.ofObject? o =
        some { metadata := { name := some "domain1", resourceVersion := some "10" },
               spec := { domainUid := some "domain1", replicas := 2 }, status := some {} } :=
  patch_writes_the_status
    (d := { metadata := { name := some "domain1", resourceVersion := some "10" },
            spec := { domainUid := some "domain1", replicas := 2 } }) {} (some "10") rfl

end DomainSteward.StatusPatches
