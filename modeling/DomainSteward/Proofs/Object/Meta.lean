import DomainSteward.Object.Basic
import DomainSteward.Proofs.Json.Fields

/-! Metadata and objects are read back as they were written. An object keeps in one place what it has no
name for, so those fields are found again as they came. -/
namespace DomainSteward.Objects
open Json Fields

variable {m : ObjectMeta} {fields fields' : List (String × Json)}

/-- Metadata is what its fields are read as. -/
structure ReadAs (fields : List (String × Json)) (m : ObjectMeta) : Prop where
  annotations : optional? fields "annotations" (mapOf? text?) = some m.annotations
  creationTimestamp : optional? fields "creationTimestamp" ObjectMeta.readStamp =
    some m.creationTimestamp
  deletionGracePeriodSeconds : optional? fields "deletionGracePeriodSeconds" int64? =
    some m.deletionGracePeriodSeconds
  deletionTimestamp : optional? fields "deletionTimestamp" ObjectMeta.readStamp =
    some m.deletionTimestamp
  finalizers : optional? fields "finalizers" (listOf? text?) = some m.finalizers
  generateName : optional? fields "generateName" text? = some m.generateName
  generation : optional? fields "generation" int64? = some m.generation
  labels : optional? fields "labels" (mapOf? text?) = some m.labels
  managedFields : optional? fields "managedFields" (listOf? object?) = some m.managedFields
  name : optional? fields "name" text? = some m.name
  namespaceName : optional? fields "namespace" text? = some m.namespaceName
  ownerReferences : optional? fields "ownerReferences" (listOf? object?) = some m.ownerReferences
  resourceVersion : optional? fields "resourceVersion" text? = some m.resourceVersion
  selfLink : optional? fields "selfLink" text? = some m.selfLink
  uid : optional? fields "uid" text? = some m.uid

theorem read_iff : ObjectMeta.read (.object fields) = some m ↔ ReadAs fields m := by
  constructor
  · intro reads
    unfold ObjectMeta.read at reads
    obtain ⟨_, ⟨⟩, reads⟩ := Option.bind_eq_some_iff.mp reads
    obtain ⟨_, annotations, reads⟩ := Option.bind_eq_some_iff.mp reads
    obtain ⟨_, creationTimestamp, reads⟩ := Option.bind_eq_some_iff.mp reads
    obtain ⟨_, deletionGracePeriodSeconds, reads⟩ := Option.bind_eq_some_iff.mp reads
    obtain ⟨_, deletionTimestamp, reads⟩ := Option.bind_eq_some_iff.mp reads
    obtain ⟨_, finalizers, reads⟩ := Option.bind_eq_some_iff.mp reads
    obtain ⟨_, generateName, reads⟩ := Option.bind_eq_some_iff.mp reads
    obtain ⟨_, generation, reads⟩ := Option.bind_eq_some_iff.mp reads
    obtain ⟨_, labels, reads⟩ := Option.bind_eq_some_iff.mp reads
    obtain ⟨_, managedFields, reads⟩ := Option.bind_eq_some_iff.mp reads
    obtain ⟨_, name, reads⟩ := Option.bind_eq_some_iff.mp reads
    obtain ⟨_, namespaceName, reads⟩ := Option.bind_eq_some_iff.mp reads
    obtain ⟨_, ownerReferences, reads⟩ := Option.bind_eq_some_iff.mp reads
    obtain ⟨_, resourceVersion, reads⟩ := Option.bind_eq_some_iff.mp reads
    obtain ⟨_, selfLink, reads⟩ := Option.bind_eq_some_iff.mp reads
    obtain ⟨_, uid, same⟩ := Option.bind_eq_some_iff.mp reads
    cases same
    constructor <;> assumption
  · intro reads
    unfold ObjectMeta.read
    rw [object?, Option.bind_eq_bind, Option.bind_some, reads.annotations, reads.creationTimestamp,
      reads.deletionGracePeriodSeconds, reads.deletionTimestamp, reads.finalizers,
      reads.generateName, reads.generation, reads.labels, reads.managedFields, reads.name,
      reads.namespaceName, reads.ownerReferences, reads.resourceVersion, reads.selfLink, reads.uid]
    rfl

theorem stamp_faithful : Faithful ObjectMeta.readStamp (fun t => .text t.text) := by
  refine ⟨fun t => ?_, nofun⟩
  show Stamp.ofText? t.text = some t
  rw [Stamp.ofText?, dif_pos t.valid]

/-- Metadata is read back as it was written. -/
theorem meta_faithful : Faithful ObjectMeta.read ObjectMeta.write where
  reads m := by
    unfold ObjectMeta.write
    refine read_iff.mpr ?_
    constructor
    · exact optional_read (map_faithful text_faithful) (by simp)
    · exact optional_read stamp_faithful (by simp)
    · exact optional_read int64_faithful (by simp)
    · exact optional_read stamp_faithful (by simp)
    · exact optional_read (list_faithful text_faithful) (by simp)
    · exact optional_read text_faithful (by simp)
    · exact optional_read int64_faithful (by simp)
    · exact optional_read (map_faithful text_faithful) (by simp)
    · exact optional_read (list_faithful object_faithful) (by simp)
    · exact optional_read text_faithful (by simp)
    · exact optional_read text_faithful (by simp)
    · exact optional_read (list_faithful object_faithful) (by simp)
    · exact optional_read text_faithful (by simp)
    · exact optional_read text_faithful (by simp)
    · exact optional_read text_faithful (by simp)
  shown m null := by
    unfold ObjectMeta.write at null
    cases null

/-- The fields of a written object: its metadata, and its other fields as they came. -/
theorem object_shown (o : ApiObject) : ∃ fields, o.write = .object fields ∧
    fieldOf "metadata" fields = some o.metadata.write ∧
    ∀ name, ApiObject.isOwnField name = false → fieldOf name fields = fieldOf name o.data := by
  refine ⟨_, rfl, ?_, fun name other => ?_⟩
  · cases o.types <;> simp [fieldOf]
  · simp only [ApiObject.isOwnField, Bool.or_eq_false_iff, decide_eq_false_iff_not] at other
    obtain ⟨⟨version, kind⟩, metadata⟩ := other
    cases o.types <;> simp [fieldOf, Ne.symm version, Ne.symm kind, Ne.symm metadata]

/-- An object shows the fields it was read from, but for the three that have a place of their own. -/
theorem object_read (metaRead : defaulted? fields "metadata" {} ObjectMeta.read = some m) :
    ∃ o shown, ApiObject.read (.object fields) = some o ∧ o.write = .object shown ∧
      fieldOf "metadata" shown = some m.write ∧
      ∀ name, ApiObject.isOwnField name = false → fieldOf name shown = fieldOf name fields := by
  obtain ⟨o, reads, metadata, data⟩ : ∃ o, ApiObject.read (.object fields) = some o ∧
      o.metadata = m ∧ o.data = fields.filter (fun f => !ApiObject.isOwnField f.1) := by
    simp [ApiObject.read, object?, metaRead]
  obtain ⟨shown, written, metaShown, dataShown⟩ := object_shown o
  refine ⟨o, shown, reads, written, metadata ▸ metaShown, fun name other => ?_⟩
  rw [dataShown name other, data, fieldOf_filter (fun name => !ApiObject.isOwnField name), other]
  rfl

end DomainSteward.Objects
