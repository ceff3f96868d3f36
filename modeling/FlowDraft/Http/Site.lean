import FlowDraft.Draft.Drafter
import FlowDraft.Sample.Bundled

/-!
# `FlowDraft.Http.Site`: what a site does when it is called

A site offers drafting, the catalogue of prompts, the traces and their figures. It runs in a web
framework (`FlowDraft.Http.Framework`), which finds out what a request asks for and calls the site
for it (`Call`). What comes of a call (`Handled`) is a document, or a refusal, or an error that is
left to the framework.

The handlers that `Site.handle` goes to follow those of the source: `Site.draft` is
`generate_workflow`, `Site.catalogue` is `prompts`, `Site.trace` is `trace_detail`, and `health`,
`traces` and `metrics` have the same names there. A `DraftOrder` is a `WorkflowRequest`.
-/

set_option autoImplicit false

namespace FlowDraft

/-! ### Documents -/

/-- The document that is shown of a suggestion. -/
def Suggestion.toResponse (s : Suggestion) : Json Letters :=
  .obj [("ok", .bool true), ("suggestion", s.toJson)]

/-- The document that is shown of an entry of the catalogue. -/
def CatalogueEntry.toJson (e : CatalogueEntry) : Json :=
  .obj
    [("id", .str e.id), ("title", .str e.title), ("prompt", .str e.prompt),
     ("description", .str e.description), ("industries", .ofTexts e.profile.industries.toList),
     ("domains", .ofTexts e.profile.domains.toList),
     ("channels", .ofTexts e.profile.channels.toList), ("trigger", .ofText? e.profile.trigger),
     ("complexity", .ofText? e.complexity), ("integrations", .ofTexts e.integrations),
     ("tags", .ofTexts e.tags)]

/-- The document that is shown of a try at a model. -/
def Model.Attempt.toJson (a : Model.Attempt) : Json :=
  .obj [("model", .str a.model), ("attempt", .int a.number), ("error", .ofText? a.error)]

/-- The document that is shown of a trace. -/
def Trace.Record.toJson (r : Trace.Record) : Json Letters :=
  .obj
    [("trace_id", .str r.id), ("prompt", .str r.prompt), ("summary", .str r.summary),
     ("example_titles", .ofTexts (r.exampleTitles.map Letters.ofString)),
     ("model_attempts", .arr (r.attempts.map fun a => a.toJson.map Letters.ofString)),
     ("input_tokens", .int r.inputTokens), ("output_tokens", .int r.outputTokens),
     ("latency_ms", .float r.latency), ("degraded", .bool r.degraded)]

/-- The document that is shown of the figures over traces. -/
def Trace.Metrics.toJson (m : Trace.Metrics) : Json :=
  .obj
    [("total_requests", .int m.requests), ("avg_latency_ms", .float m.averageLatency),
     ("p95_latency_ms", .float m.highLatency), ("degraded_responses", .int m.degraded),
     ("fallback_responses", .int m.fallbacks), ("total_input_tokens", .int m.inputTokens),
     ("total_output_tokens", .int m.outputTokens)]

namespace Http

/-! ### Calls -/

/-- What is asked for in a request for a draft. -/
structure DraftOrder where
  prompt : String
  /-- The workflow that is being edited, or null. -/
  existing : Json

/-- What a site is called for. -/
inductive Call where
  | health
  | draft (order : DraftOrder)
  | catalogue (limit : Int)
  | traces (limit : Int)
  | trace (id : String)
  | metrics

/-- What comes of a call. -/
inductive Handled where
  /-- The document for the response. -/
  | returned (body : Json Letters)
  /-- The call is refused with a status, and with a text that says why. -/
  | refused (status : Nat) (detail : String)
  /-- An error that is left to the framework. -/
  | raised

/-- The handling of a draft that gave no suggestion. -/
def Handled.ofDraftError : DraftError → Handled
  | .notConfigured => .refused 503 DraftError.notConfiguredMessage
  | .stage failure => .refused 500 failure.message
  | _ => .raised

/-- An answer, what happened meanwhile, and what is left for the next call. -/
structure Served (α : Type) where
  answer : α
  events : List Model.Event
  desk : Desk

/-- An answer that leaves everything as it is. -/
def Served.still {α : Type} (desk : Desk) (answer : α) : Served α :=
  ⟨answer, [], desk⟩

/-- What a site serves from. -/
structure Site where
  drafter : Drafter
  /-- The models that are named as those in use. -/
  models : List String := (default : ModelOptions).chain
  samples : List Sample := Sample.bundled

namespace Site

/-- The most traces that are counted. -/
def countedTraces : Int := 1000

/-- The state of the site. -/
def health (site : Site) (desk : Desk) : Json :=
  .obj
    [("status", .str "ok"), ("llm_configured", .bool site.drafter.configured),
     ("models", .ofTexts site.models),
     ("trace_count", .int (desk.traces.recent countedTraces).length)]

/-- The catalogue, cut to a limit. -/
def catalogue (site : Site) (limit : Int) : Json :=
  let entries := Sample.catalogue site.samples limit
  .obj [("prompts", .arr (entries.map CatalogueEntry.toJson)), ("count", .int entries.length)]

/-- The latest traces. -/
def traces (desk : Desk) (limit : Int) : Json Letters :=
  .obj [("items", .arr ((desk.traces.recent limit).map Trace.Record.toJson))]

/-- One trace. -/
def trace (desk : Desk) (id : String) : Handled :=
  match desk.traces.get? id with
  | some r => .returned r.toJson
  | none => .refused 404 (Text.quoted (Trace.Store.notFound id))

/-- What is logged for a draft that failed. -/
def failedLines : DraftError → List Model.Event
  | .stage failure => [.log .error ("Workflow generation failed: " ++ failure.message)]
  | _ => []

/-- A draft. -/
def draft (site : Site) (order : DraftOrder) (desk : Desk) : Served Handled :=
  let prompt := Text.trim order.prompt
  -- A blank prompt is refused before it counts whether there are models.
  if prompt.isEmpty then .still desk (.refused 400 DraftError.promptRequiredMessage)
  else
    let r := site.drafter.suggest prompt order.existing desk
    match r.outcome with
    | .ok suggestion => ⟨.returned suggestion.toResponse, r.events, r.desk⟩
    | .error e => ⟨.ofDraftError e, r.events ++ failedLines e, r.desk⟩

/-- What comes of a call. -/
def handle (site : Site) (desk : Desk) : Call → Served Handled
  | .health => .still desk (.returned ((site.health desk).map Letters.ofString))
  | .draft order => site.draft order desk
  | .catalogue limit => .still desk (.returned ((site.catalogue limit).map Letters.ofString))
  | .traces limit => .still desk (.returned (traces desk limit))
  | .trace id => .still desk (trace desk id)
  | .metrics => .still desk (.returned (desk.traces.metrics.toJson.map Letters.ofString))

end Site

end Http

end FlowDraft
