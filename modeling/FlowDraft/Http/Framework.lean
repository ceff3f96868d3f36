import FlowDraft.Http.Site
import FlowDraft.Json.Finite
import FlowDraft.Json.Levels

/-!
# `FlowDraft.Http.Framework`: the web framework that a site runs in

A web framework reads requests, calls the site for what they ask for, and makes responses of what
comes of the calls. It is no part of the site, so it is a parameter (`Framework`), and what the site
relies on is named in `Framework.Lawful`: refusals and errors have the statuses that they should
have, and a document is sent as it is if it can be written in the bytes of a response. It cannot if
one of its texts has a half of a pair, because there are no bytes for that.

How requests are routed and read is left open. `Framework.plain` is a framework with all that.
-/

set_option autoImplicit false

namespace FlowDraft.Http

/-- A web framework. -/
structure Framework where
  Request : Type
  Response : Type
  /-- What a request asks for, or the response to one that asks the site for nothing. -/
  route : Request → Except Response Call
  /-- The response to a request, from what came of the call. -/
  respond : Handled → Response
  status : Response → Nat
  /-- The document in the body of a response, if there is one. -/
  body? : Response → Option (Json Letters)
  /-- The document can be written as the body of a response. -/
  renders : Json Letters → Prop
  /-- The levels that a document may have and still be written. -/
  depth : Nat

namespace Framework

/-- The response has a status, and a document as its body. -/
def Says (web : Framework) (response : web.Response) (status : Nat) (body : Json Letters) : Prop :=
  web.status response = status ∧ web.body? response = some body

/-- The document in a response that tells why there is no other one. -/
def detail (text : String) : Json Letters :=
  .obj [("detail", .str text)]

/-- What a site relies on. -/
structure Lawful (web : Framework) : Prop where
  /-- A refusal is sent with its status and its reason. -/
  refused : ∀ status text, web.Says (web.respond (.refused status text)) status (detail text)
  /-- An error that the site does not catch is one of the server. -/
  raised : web.status (web.respond .raised) = 500
  /-- A document is sent as it is. -/
  returned : ∀ body, body.isFinite = true → web.renders body →
    web.Says (web.respond (.returned body)) 200 body
  /-- A document that cannot be written is an error that nothing catches either. -/
  unwritten : ∀ body, ¬ web.renders body → web.status (web.respond (.returned body)) = 500
  /-- A body is written in UTF-8, and there are no bytes for a half of a pair. -/
  encoded : ∀ body, web.renders body → ∀ s ∈ body.texts, s.isWhole = true
  /-- Nothing else stands against a document with finite numbers that does not go too deep. -/
  rendered : ∀ body, body.isFinite = true → (∀ s ∈ body.texts, s.isWhole = true) →
    body.levels ≤ web.depth → web.renders body

/-- The response to a request for a site. -/
def serve (web : Framework) (site : Site) (request : web.Request) (desk : Desk) :
    Served web.Response :=
  match web.route request with
  | .error response => .still desk response
  | .ok call =>
    let served := site.handle desk call
    ⟨web.respond served.answer, served.events, served.desk⟩

end Framework

end FlowDraft.Http
