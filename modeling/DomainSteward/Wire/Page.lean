import DomainSteward.Json.Fields

/-!
Pages of lists as the API writes them.
-/

namespace DomainSteward

/-- A page of a list. -/
structure Page (α : Type) where
  items : List α
  /-- Where the next page starts. -/
  continueToken : Option String
  /-- The version of the collection that the page shows. -/
  resourceVersion : Option String

namespace Page

variable {α : Type}

/-- Reads the metadata of a page: its continue token and its version. -/
def readMeta (j : Json) : Option (Option String × Option String) := do
  let fs ← j.object?
  let token ← Json.optional? fs "continue" Json.text?
  let _ ← Json.optional? fs "remainingItemCount" Json.int64?
  let version ← Json.optional? fs "resourceVersion" Json.text?
  let _ ← Json.optional? fs "selfLink" Json.text?
  return (token, version)

/-- Reads a page. The items have to be named, though `null` stands for none. -/
def read (item : Json → Option α) (j : Json) : Option (Page α) := do
  let fs ← j.object?
  let (continueToken, resourceVersion) ← Json.defaulted? fs "metadata" (none, none) readMeta
  let listed ← Json.fieldOf "items" fs
  let items ← if listed.isNull then some [] else Json.listOf? item listed
  return { items, continueToken, resourceVersion }

end Page

end DomainSteward
