import DomainSteward.Chain.Status
import DomainSteward.Proofs.Chain.World
import DomainSteward.Proofs.Domain.StatusPatch

/-! A domain is read back as it was written, whatever of it is absent, empty or at its default. So
an answer that equals what was written may be held in place of it: nothing that is decided by the
wanted state or the status changes. -/
namespace DomainSteward.RoundTrips
open Json Fields StatusPatches Worlds

/-! ## The wanted state and the status -/

theorem cluster_faithful : Faithful ClusterSpec.read ClusterSpec.write where
  reads cluster := by
    have fieldsRead : ∀ fields, cluster.write = .object fields →
        required? fields "clusterName" text? = some cluster.clusterName ∧
        optional? fields "replicas" int32? = some cluster.replicas ∧
        optional? fields "maxUnavailable" int32? = some cluster.maxUnavailable ∧
        defaulted? fields "servers" [] (listOf? text?) = some cluster.servers := by
      rintro _ ⟨⟩
      exact ⟨required_read text_faithful (by simp [fieldOf]),
        optional_read int32_faithful (by simp [fieldOf]),
        optional_read int32_faithful (by simp [fieldOf]),
        listed_read text_faithful (by simp [fieldOf])⟩
    obtain ⟨clusterName, replicas, maxUnavailable, servers⟩ := fieldsRead _ rfl
    unfold ClusterSpec.read ClusterSpec.write
    simp only [object?, Option.bind_eq_bind, Option.bind_some, clusterName, replicas,
      maxUnavailable, servers]
    rfl
  shown cluster null := by
    unfold ClusterSpec.write at null
    cases null

theorem spec_faithful : Faithful DomainSpec.read DomainSpec.write where
  reads spec := by
    have fieldsRead : ∀ fields, spec.write = .object fields →
        optional? fields "domainUID" text? = some spec.domainUid ∧
        defaulted? fields "replicas" 1 int32? = some spec.replicas ∧
        optional? fields "restartVersion" text? = some spec.restartVersion ∧
        optional? fields "maxClusterUnavailable" int32? = some spec.maxClusterUnavailable ∧
        defaulted? fields "clusters" [] (listOf? ClusterSpec.read) = some spec.clusters := by
      rintro _ ⟨⟩
      exact ⟨optional_read text_faithful (by simp [fieldOf]),
        defaulted_read int32_faithful (by simp [fieldOf]),
        optional_read text_faithful (by simp [fieldOf]),
        optional_read int32_faithful (by simp [fieldOf]),
        listed_read cluster_faithful (by simp [fieldOf])⟩
    obtain ⟨domainUid, replicas, restartVersion, maxUnavailable, clusters⟩ := fieldsRead _ rfl
    unfold DomainSpec.read DomainSpec.write
    simp only [object?, Option.bind_eq_bind, Option.bind_some, domainUid, replicas, restartVersion,
      maxUnavailable, clusters]
    rfl
  shown spec null := by
    unfold DomainSpec.write at null
    cases null

theorem status_faithful : Faithful DomainStatus.read DomainStatus.write where
  reads status := by
    have fieldsRead : ∀ fields, status.write = .object fields →
        defaulted? fields "conditions" [] (listOf? DomainCondition.read) =
          some status.conditions ∧
        defaulted? fields "servers" [] (listOf? ServerStatus.read) = some status.servers ∧
        optional? fields "observedGeneration" int64? = some status.observedGeneration ∧
        optional? fields "reason" text? = some status.reason ∧
        optional? fields "message" text? = some status.message := by
      rintro _ ⟨⟩
      exact ⟨listed_read condition_faithful (by simp [DomainStatus.fields]),
        listed_read server_faithful (by simp [DomainStatus.fields]),
        optional_read int64_faithful (by simp [DomainStatus.fields]),
        optional_read text_faithful (by simp [DomainStatus.fields]),
        optional_read text_faithful (by simp [DomainStatus.fields])⟩
    obtain ⟨conditions, servers, generation, reason, message⟩ := fieldsRead _ rfl
    unfold DomainStatus.read DomainStatus.write
    simp only [object?, Option.bind_eq_bind, Option.bind_some, conditions, servers, generation,
      reason, message]
    rfl
  shown status null := by
    unfold DomainStatus.write at null
    cases null

/-! ## The domain -/

/-- What is found in an object that shows the fields of a domain is the domain. -/
theorem domain_read {d : Domain} {fields : List (String × Json)}
    (metadata : fieldOf "metadata" fields = some d.metadata.write)
    (spec : fieldOf "spec" fields = some d.spec.write)
    (status : fieldOf "status" fields = d.status.map DomainStatus.write) :
    Domain.read (.object fields) = some d :=
  domain_read_iff.mpr ⟨required_read Objects.meta_faithful metadata,
    required_read spec_faithful spec, optional_read status_faithful status⟩

/-- A domain is read back from the object that it is written as. -/
theorem domain_returns (d : Domain) :
    ∃ o, ApiObject.read d.write = some o ∧ Domain.ofObject? o = some d := by
  obtain ⟨fields, written, metadata, data⟩ := Objects.object_shown d.toObject
  have metaRead : defaulted? fields "metadata" {} ObjectMeta.read = some d.metadata :=
    defaulted_read Objects.meta_faithful (.inl metadata)
  obtain ⟨o, shown, reads, rewritten, metaShown, others⟩ := Objects.object_read metaRead
  refine ⟨o, ?_, ?_⟩
  · rw [Domain.write, written, reads]
  · rw [Domain.ofObject?, rewritten]
    refine domain_read metaShown ?_ ?_
    · rw [others "spec" rfl, data "spec" rfl]
      simp [Domain.toObject, fieldOf]
    · rw [others "status" rfl, data "status" rfl]
      simp [Domain.toObject, fieldOf]

/-! ## Held in place of what was written -/

/-- Two presences agree about what the wanted state decides: the restart version, and of each
cluster the members, the wanted number of them and the floor. -/
structure Agree (p q : Presence) : Prop where
  restartVersion : q.domain.map Domain.restartVersion = p.domain.map Domain.restartVersion
  topology : q.domain.map (fun d => Topology.ofSpec d.spec) =
    p.domain.map (fun d => Topology.ofSpec d.spec)
  replicas : ∀ cluster, q.replicaCount cluster = p.replicaCount cluster
  floor : ∀ cluster, q.minAvailable cluster = p.minAvailable cluster

/-- The held domain has the status that it should report, so that none is written. -/
def UpToDate (p : Presence) (now : String) : Prop :=
  ∃ d s, p.domain = some d ∧ p.computeStatus d now = .ok s ∧ d.status = some s

section

variable {p : Presence} {d : Domain} {m : ObjectMeta} {now : String}

theorem agree_set (held : p.domain = some d) : Agree p (p.setDomain { d with metadata := m }) where
  restartVersion := by simp [Presence.setDomain, held, Domain.restartVersion]
  topology := by simp [Presence.setDomain, held]
  replicas cluster := by simp [Presence.setDomain, Presence.replicaCount, held]
  floor cluster := by simp [Presence.setDomain, Presence.minAvailable, held]

theorem up_to_date_set (held : p.domain = some d)
    (generation : m.generation = d.metadata.generation) :
    UpToDate (p.setDomain { d with metadata := m }) now ↔ UpToDate p now := by
  have computed : (p.setDomain { d with metadata := m }).computeStatus
      { d with metadata := m } now = p.computeStatus d now := by
    unfold Presence.computeStatus Presence.statusWith
    rw [generation]
    rfl
  simp [UpToDate, Presence.setDomain, held, ← computed]

end

/-- A domain is read back from its object with the wanted state and the status that were written,
and with whatever metadata the answer has. Held by either handler in place of what was written, it
changes neither the restart version nor the members, the number and the floor of any cluster, and,
if the answer is of the same generation, not whether the status is up to date. -/
theorem written_domain_returns_unchanged {ε : Type} (d : Domain) (answered : ObjectMeta)
    (x : Exchange ε (Step ε)) (code : UInt16) (packet : Packet) (w : World) :
    ∃ o, ApiObject.read (Domain.write { d with metadata := answered }) = some o ∧
      Domain.ofObject? o = some { d with metadata := answered } ∧
      ∀ judged ∈ [statusPatched x (.object o code) packet w,
          domainReread x (.object o code) packet w],
        ∀ id p, packet.presence = some id → w.presence? id = some p → p.domain = some d →
          ∃ q, judged.world.presence? id = some q ∧
            q.domain = some { d with metadata := answered } ∧ Agree p q ∧
            (answered.generation = d.metadata.generation →
              ∀ now, UpToDate q now ↔ UpToDate p now) := by
  obtain ⟨o, reads, returns⟩ := domain_returns { d with metadata := answered }
  refine ⟨o, reads, returns, fun judged among id p works known held => ?_⟩
  have stored : judged.world =
      w.modifyPresenceOf packet (·.setDomain { d with metadata := answered }) := by
    have brought : (Response.object o code).object?.bind Domain.ofObject? =
        some { d with metadata := answered } := returns
    simp only [List.mem_cons, List.not_mem_nil, or_false] at among
    rcases among with rfl | rfl
    · rw [statusPatched, brought]
      rfl
    · rw [domainReread, brought]
      rfl
  refine ⟨p.setDomain { d with metadata := answered }, ?_, rfl, agree_set held,
    fun generation now => up_to_date_set held generation⟩
  rw [stored, presence_modify_of works, known, Option.map_some]

/-! ## A domain whose status is written -/

/-- A domain of two clusters, of which the second leaves to the domain what the first says. -/
def twoClusters : Domain :=
  { metadata := { name := some "domain1", namespaceName := some "ns1", resourceVersion := some "1" }
    spec := { clusters := [{ clusterName := "c1", replicas := some 0, servers := ["s1"] },
      { clusterName := "c2" }] }
    status := some {} }

/-- The server counts the write. -/
def counted : ObjectMeta := { twoClusters.metadata with resourceVersion := some "2" }

def steward : Presence :=
  { namespaceName := "ns1", domainUid := "domain1", domain := some twoClusters }

def holding : World :=
  { feed := { registry := { presences := [steward], index := [(("ns1", "domain1"), 0)] } } }

def writing : Exchange Empty (Step Empty) :=
  { id := .patchStatus, request := none, handler := .statusPatched, sink := none, next := none }

theorem counted_write_agrees : ∃ o q,
    Domain.ofObject? o = some { twoClusters with metadata := counted } ∧
      (statusPatched writing (.object o 200) { presence := some 0 } holding).world.presence? 0 =
        some q ∧ Agree steward q ∧ ∀ now, UpToDate q now ↔ UpToDate steward now := by
  obtain ⟨o, -, returns, kept⟩ := written_domain_returns_unchanged twoClusters counted writing 200
    { presence := some 0 } holding
  obtain ⟨q, held, -, agree, upToDate⟩ := kept _ (.head _) 0 steward rfl rfl rfl
  exact ⟨o, q, returns, held, agree, upToDate rfl⟩

end DomainSteward.RoundTrips
