import FlowDraft.Http.Framework
import FlowDraft.Http.Request

/-!
# `FlowDraft.Http.Response`: the responses of a plain framework

Numbers that are not finite are sent as null. A document that goes too deep is not sent, and neither
is one that there are no bytes for.
-/

set_option autoImplicit false

namespace FlowDraft.Http

/-- The answer to a request. -/
inductive Response where
  /-- A document, with a status. -/
  | document (status : Nat) (body : Json Letters)
  /-- A text, with a status. -/
  | text (status : Nat) (body : String)
  /-- The request is not accepted. -/
  | refused (complaints : List Complaint)
  /-- The request was sent elsewhere too often. -/
  | astray

namespace Response

/-- The status of a response. One that was sent elsewhere too often is to be sent elsewhere. -/
def status : Response → Nat
  | .document status _ | .text status _ => status
  | .refused _ => 422
  | .astray => 307

/-- The document that was sent. -/
def body? : Response → Option (Json Letters)
  | .document _ body => some body
  | _ => none

/-- A response that tells why there is no other one. -/
def detail (status : Nat) (text : String) : Response :=
  .document status (Framework.detail text)

/-- Something went wrong that there is no other response for. -/
def failure : Response := .text 500 "Internal Server Error"

/-- The most levels of a document that is sent. -/
def maxLevels : Nat := 255

/-- There are bytes for the texts of the document, and it does not go too deep. -/
def renders (body : Json Letters) : Bool :=
  body.texts.all Letters.isWhole && body.levels ≤ maxLevels

/-- A document sent with the status of success. -/
def send (body : Json Letters) : Response :=
  if renders body then .document 200 body.toFinite else failure

/-- The response to a request, from what came of the call. -/
def ofHandled : Handled → Response
  | .returned body => send body
  | .refused status reason => detail status reason
  | .raised => failure

/-- There is nothing at the path. -/
def nothingThere : Response := detail 404 "Not Found"

/-- The path is not for this method. -/
def wrongMethod : Response := detail 405 "Method Not Allowed"

/-- The body cannot be read. -/
def unreadableBody : Response := detail 400 "There was an error parsing the body"

/-- The response to a body that is not read. -/
def ofContentError : ContentError → Response
  | .malformed position => .refused [⟨["body", toString position], .notDocument⟩]
  | .unreadable => unreadableBody

/-- The response without its body. -/
def withoutBody : Response → Response
  | .document status _ | .text status _ => .text status ""
  | .refused _ => .text 422 ""
  | .astray => .astray

end Response

end FlowDraft.Http
