import DomainSteward.Call.Request

/-!
What a request carries besides its name.
-/

namespace DomainSteward

def Json.ofCount? (n : Option UInt32) : Json := ofOption (n.map (fun n => ofInt n.toNat))

/-- Which objects a list asks for. -/
def ListOptions.summary (o : ListOptions) : Json :=
  .object
    [("labels", Json.ofText? o.labelSelector), ("fields", Json.ofText? o.fieldSelector),
      ("limit", Json.ofCount? o.limit), ("continue", Json.ofText? o.continueToken)]

namespace Operation

/-- What an operation carries, all in one. -/
def detail : Operation → Json
  | .get _ => .null
  | .list options => options.summary
  | .create body => body.write
  | .replace _ body => body.write
  | .patch _ p => patchDetail p
  | .patchStatus _ p => patchDetail p
  | .delete _ grace => .object [("grace", Json.ofCount? grace)]
where
  patchDetail (p : Patch) : Json :=
    .object
      [("patch", .text (match p.type with
          | .merge => "merge"
          | .strategic => "strategic")),
        ("body", p.body)]

/-- What an operation carries, field by field; the bodies of whole objects only if asked for. -/
def fields (bodies : Bool) : Operation → List (String × Json)
  | .get _ => []
  | .list options => [("list", options.summary)]
  | .create body => if bodies then [("body", body.write)] else []
  | .replace _ body => if bodies then [("body", body.write)] else []
  | .patch _ p => patchFields p
  | .patchStatus _ p => patchFields p
  | .delete _ grace => [("grace", Json.ofCount? grace)]
where
  patchFields (p : Patch) : List (String × Json) :=
    [("type", .text (match p.type with
        | .merge => "Merge"
        | .strategic => "Strategic")),
      ("body", p.body)]

end Operation

end DomainSteward
