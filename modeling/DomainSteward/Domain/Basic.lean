import DomainSteward.Domain.Spec
import DomainSteward.Domain.Status
import DomainSteward.Object.Basic

/-!
Domains as objects of the API.

A domain has metadata, a wanted state and, once it has been reported on, an observed state. The
version and the kind of the object are not looked at when it is read.
-/

namespace DomainSteward

structure Domain where
  metadata : ObjectMeta := {}
  spec : DomainSpec
  status : Option DomainStatus := none
deriving Inhabited

namespace Domain

/-- The name of the domain; empty if it has none. -/
def name (d : Domain) : String := d.metadata.bestName

/-- What identifies the domain within its namespace. -/
def uid (d : Domain) : String := d.spec.domainUid.getD d.name

/-- The restart version that pods should carry. -/
def restartVersion (d : Domain) : String := d.spec.restartVersion.getD ""

def read (j : Json) : Option Domain := do
  let fs ← j.object?
  let metadata ← Json.required? fs "metadata" ObjectMeta.read
  let spec ← Json.required? fs "spec" DomainSpec.read
  let status ← Json.optional? fs "status" DomainStatus.read
  return { metadata, spec, status }

def toObject (d : Domain) : ApiObject :=
  { types := some ⟨Resource.domain.apiVersion, Resource.domain.kind⟩
    metadata := d.metadata
    data := [("spec", d.spec.write)] ++ Json.field? "status" DomainStatus.write d.status }

def write (d : Domain) : Json := d.toObject.write

/-- The domain that an object describes. -/
def ofObject? (o : ApiObject) : Option Domain := read o.write

end Domain

end DomainSteward
