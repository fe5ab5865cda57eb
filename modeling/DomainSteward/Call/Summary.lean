import DomainSteward.Call.Response

/-!
Responses in short.
-/

namespace DomainSteward.Response

def nameOf (o : ApiObject) : Json := Json.ofText? o.metadata.name

/-- A response in short: how it went and the names of what it brought. -/
def summary (r : Response) : Json :=
  .object
    [("outcome", .text r.outcome),
      ("is_failure", .bool r.isFailure),
      ("status_code", Json.ofOption (r.statusCode?.map (fun c => Json.ofInt c.toNat))),
      ("object", Json.ofOption (r.object?.map nameOf)),
      ("items", Json.ofOption (r.page?.map (fun page => .list (page.items.map nameOf)))),
      ("continue", Json.ofText? r.continueToken?)]

end DomainSteward.Response
