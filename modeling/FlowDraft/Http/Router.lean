import FlowDraft.Http.Response

/-!
# `FlowDraft.Http.Router`: a plain framework

`Framework.plain` is a web framework that a site can run in. `Route.ofPath?` finds what a path leads
to, and `Router.route` what a request asks the site for. A path that leads somewhere when the
slashes at its end are left out is answered by sending the request there.
-/

set_option autoImplicit false

namespace FlowDraft.Http

/-- What a path leads to. -/
inductive Route where
  | health
  | draft
  | catalogue
  | traces
  | trace (id : String)
  | metrics
  /-- A page about the site. -/
  | manual
deriving Repr, DecidableEq

namespace Route

/-- The paths that lead to one thing each. -/
def fixed : List (List Char × Route) :=
  [("/health".toList, health), ("/ai/workflow".toList, draft), ("/ai/prompts".toList, catalogue),
   ("/traces".toList, traces), ("/metrics".toList, metrics), ("/openapi.json".toList, manual),
   ("/docs".toList, manual), ("/docs/oauth2-redirect".toList, manual), ("/redoc".toList, manual)]

/-- The start of the paths of single traces. -/
def tracePath : List Char := "/traces/".toList

/-- A path without the line feed that may stand at its end. -/
def dropLineFeed (path : List Char) : List Char :=
  if path.getLast? = some '\n' then path.dropLast else path

/-- The trace that a path leads to. -/
def traceId? (path : List Char) : Option String :=
  let id := path.drop tracePath.length
  if tracePath.isPrefixOf path && !id.isEmpty && !id.contains '/' then some (String.ofList id)
  else none

/-- What a path leads to. -/
def ofPath? (path : List Char) : Option Route :=
  match traceId? path with
  | some id => some (trace id)
  | none => fixed.lookup (dropLineFeed path)

/-- The methods that a route is for. -/
def methods : Route → List String
  | draft => ["POST"]
  | manual => ["GET", "HEAD"]
  | _ => ["GET"]

end Route

namespace Router

/-- The order in a request for a draft. -/
def orderOf (request : Request) : Except Response DraftOrder :=
  match request.content with
  | .error e => .error (.ofContentError e)
  | .ok content => (DraftOrder.ofContent content).mapError .refused

/-- The limit that a request names, or a default. -/
def limitOf (request : Request) (default : Int) : Except Response Int :=
  (request.whole "limit" default).mapError .refused

/-- What a request for a route asks for. The pages about the site are not kept here; only that they
are there is known. -/
def callOf (request : Request) : Route → Except Response Call
  | .health => .ok .health
  | .draft => (orderOf request).map .draft
  | .catalogue => (limitOf request Sample.defaultLimit).map .catalogue
  | .traces => (limitOf request Trace.Store.defaultLimit).map .traces
  | .trace id => .ok (.trace id)
  | .metrics => .ok .metrics
  | .manual => .error (.text 200 "")

/-- Where a request is sent whose path leads nowhere: to the same path without the slashes at its
end, if that leads somewhere. -/
def elsewhere? (target : Target) : Option Target :=
  let path := (target.path.reverse.dropWhile (· == '/')).reverse
  if path.length < target.path.length && (Route.ofPath? path).isSome then
    some (.resent path target.query)
  else none

/-- What a request asks for that may be sent elsewhere so many times. -/
def follow (request : Request) : (sendings : Nat) → Target → Except Response Call
  | sendings, target =>
    match Route.ofPath? target.path with
    | some route =>
      if route.methods.contains request.method then callOf { request with target } route
      else .error .wrongMethod
    | none =>
      match elsewhere? target, sendings with
      | none, _ => .error .nothingThere
      | some _, 0 => .error .astray
      | some target, sendings + 1 => follow request sendings target

/-- How many times a request may be sent elsewhere. -/
def maxSendings : Nat := 20

/-- What a request asks for. A request for the head alone gets no body. -/
def route (request : Request) : Except Response Call :=
  let found := follow request maxSendings request.target
  if request.method = "HEAD" then found.mapError Response.withoutBody else found

end Router

/-- A web framework that a site can run in. -/
def Framework.plain : Framework where
  Request := Http.Request
  Response := Http.Response
  route := Router.route
  respond := Response.ofHandled
  status := Response.status
  body? := Response.body?
  renders := fun body => Response.renders body = true
  depth := Response.maxLevels

theorem Framework.plain_route (request : Http.Request) :
    plain.route request = Router.route request := rfl

end FlowDraft.Http
