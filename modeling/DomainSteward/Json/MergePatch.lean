import DomainSteward.Json.Basic

/-!
Merge patches of JSON values.

A patch that is an object sets the fields it names, removes those it gives as `null`, and leaves
the others; any other patch is the new value.
-/

namespace DomainSteward.Json

mutual

/-- The value that a patch makes of a target. -/
def mergePatch (target : Json) : Json → Json
  | .object patch => .object (mergeFields (target.object?.getD []) patch)
  | patch => patch

/-- The fields that the fields of a patch, taken in order, make of those of a target. -/
def mergeFields (target : List (String × Json)) : List (String × Json) → List (String × Json)
  | [] => target
  | (name, value) :: rest =>
    if value.isNull then mergeFields (dropField name target) rest
    else
      mergeFields
        (setField name (mergePatch ((fieldOf name target).getD .null) value) target) rest

end

end DomainSteward.Json
