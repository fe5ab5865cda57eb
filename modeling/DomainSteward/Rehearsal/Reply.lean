import DomainSteward.Call.Response

/-!
Replies that a rehearsed API server is told to give.
-/

namespace DomainSteward

/-- What a reply says. -/
inductive ReplyContent where
  /-- A fault with a body of its own making. -/
  | fault (code : Int)
  /-- A fault with a body. -/
  | error (code : UInt16) (body : String)
  /-- The server is not reached. -/
  | transport (what : String)
  | page (page : ObjectPage)
  /-- An explanation in place of an object, though nothing is wrong. -/
  | status (code : UInt16) (body : String)
  | object (object : ApiObject) (code : UInt16)
  /-- An object of the requested kind and name. -/
  | plain
deriving Inhabited

/-- A reply, which may take its time; without content it never comes. -/
structure Reply where
  delay : Nat := 0
  content : Option ReplyContent := some .plain
deriving Inhabited

namespace ReplyContent

def faultBody (code : Int) : String :=
  Json.render (.object
    [("kind", .text "Status"), ("status", .text "Failure"), ("reason", .text "Injected"),
      ("message", .text ("injected " ++ toString code)), ("code", Json.ofInt code)])

/-- An answer with a fault. -/
def failed (request : Request) (code : UInt16) (body : String) : Response :=
  .failure (.http request (.ofBody code body))

/-- An answer with a fault that has a body of its own making. -/
def refused (request : Request) (code : Int) : Response :=
  failed request (UInt16.ofInt code) (faultBody code)

/-- The object of the requested kind and name. -/
def plainObject (request : Request) : ApiObject :=
  .named request.resource (request.name?.getD "unnamed")

/-- The response that a reply to a request makes. -/
def response (request : Request) : ReplyContent → Response
  | .fault code => refused request code
  | .error code body => failed request code body
  | .transport what => .failure (.transport request what)
  | .page p => .list p
  | .status code body => .status (.ofBody code body)
  | .object o code => .object o code
  | .plain => .object (plainObject request) 200

end ReplyContent

end DomainSteward
