import FlowDraft.Model.Invoke
import FlowDraft.Prompt.Instruction
import FlowDraft.Prompt.Request
import FlowDraft.Reply.Suggestion
import FlowDraft.Retrieval.Search
import FlowDraft.Text.Word
import FlowDraft.Trace.Metrics

/-!
# `FlowDraft.Draft.Drafter`: from a request to a suggestion

A request is drafted in steps: references are found, the prompt is composed, the models are asked,
the reply is read, and a trace is kept. Only requests that were answered leave a trace.

`draft` is `WorkflowGenerator.generate`, and `suggest` is `generate_workflow_suggestion`.
-/

set_option autoImplicit false

namespace FlowDraft

open Model

/-- Everything a request is drafted with. -/
structure Drafter where
  /-- The models. Without them nothing is drafted. -/
  models : Option ModelOptions
  instruction : String := Prompt.instruction
  service : Service
  /-- Where references are sought, if anywhere. -/
  source : Option Source := none
  retrieval : RetrievalOptions := {}
  /-- Names for new conditions. -/
  conditionNames : Nat → String
  /-- Names for new traces. -/
  traceNames : Nat → String

/-- What a drafter leaves from one request to the next. -/
structure Desk where
  session : Session := {}
  /-- The number of names for conditions that were taken. -/
  conditionsNamed : Nat := 0
  traces : Trace.Store := {}

instance : Inhabited Desk := ⟨{}⟩

/-- A request. -/
structure DraftRequest where
  prompt : String
  existing : Option Workflow.Snapshot := none

/-- Why there is no suggestion. -/
inductive DraftError where
  | notConfigured
  | promptRequired
  | stage (failure : StageFailure)
  | waitOverflow
  /-- There is no room for the trace. -/
  | noRoom

namespace DraftError

/-- What is reported for a drafter without models. -/
def notConfiguredMessage : String :=
  "The generative model is not configured. Set OPENAI_API_KEY to enable this feature."

/-- What is reported for a blank prompt. -/
def promptRequiredMessage : String := "Prompt is required."

/-- The error of models that gave no text. -/
def ofInvoke : InvokeError → DraftError
  | .stage failure => .stage failure
  | .waitOverflow => .waitOverflow

end DraftError

/-- What came of a request, what happened meanwhile, and what is left for the next one. -/
structure Drafted where
  outcome : Except DraftError Suggestion
  events : List Event
  desk : Desk

namespace Drafter

/-- The drafter has models. -/
def configured (d : Drafter) : Bool :=
  d.models.isSome

/-- The references for a prompt. Without a source there are none, and nothing happens. -/
def references (d : Drafter) (prompt : String) : Found :=
  match d.source with
  | none => ⟨[], []⟩
  | some source => Retrieval.find d.retrieval source prompt none

/-- What is logged for a reply. -/
def replyLines (s : Suggestion) : List Event :=
  if s.degraded then [.log .warning Suggestion.unparsedWarning] else []

/-- The trace of an answered request. -/
def record (prompt userPrompt : String) (raw : Letters) (examples : List Example)
    (attempts : List Attempt) (latency : Float) (s : Suggestion) (id : String) : Trace.Record where
  id := id
  prompt := prompt
  summary := s.summary
  exampleTitles := examples.map (·.title)
  attempts := attempts
  inputTokens := Text.tokenCount userPrompt
  outputTokens := Letters.tokenCount raw
  latency := latency
  degraded := s.degraded

/-- The suggestion of a reply, with the name of its trace. -/
def finish (d : Drafter) (prompt userPrompt : String) (raw : Letters) (examples : List Example)
    (start : Float) (events : List Event) (desk : Desk) : Drafted :=
  let (suggestion, conditionsNamed) :=
    Suggestion.parseFrom d.conditionNames desk.conditionsNamed raw
  let latency := Trace.milliseconds start desk.session.clock
  let (traces, kept) := desk.traces.add d.traceNames
    (record prompt userPrompt raw examples (Event.attempts events) latency suggestion)
  { outcome := match kept with
      | some r => .ok { suggestion with traceId := some r.id }
      | none => .error .noRoom
    events := events ++ replyLines suggestion
    desk := { desk with conditionsNamed, traces } }

/-- A prompt that is not blank, drafted with models. -/
def draftWith (d : Drafter) (options : ModelOptions) (prompt : String)
    (existing : Option Workflow.Snapshot) (desk : Desk) : Drafted :=
  let start := desk.session.clock
  let found := d.references prompt
  let userPrompt := Prompt.compose prompt existing found.examples
  let r := askChain d.service options ⟨d.instruction, userPrompt⟩ desk.session
  let events := found.events ++ r.events
  let desk := { desk with session := r.session }
  match r.value with
  | .error e => ⟨.error (.ofInvoke e), events, desk⟩
  | .ok raw => d.finish prompt userPrompt raw found.examples start events desk

/-- A request, drafted. -/
def draft (d : Drafter) (request : DraftRequest) (desk : Desk) : Drafted :=
  match d.models with
  | none => ⟨.error .notConfigured, [], desk⟩
  | some options =>
    -- Only a drafter with models looks at the prompt.
    let prompt := Text.trim request.prompt
    if prompt.isEmpty then ⟨.error .promptRequired, [], desk⟩
    else d.draftWith options prompt request.existing desk

/-- The workflow that is being edited, unless there is none: a void document describes none. -/
def existingWorkflow (v : Json) : Option Workflow.Snapshot :=
  v.nonVoid?.map Workflow.Snapshot.ofJson

/-- A prompt and the document of an existing workflow, drafted. -/
def suggest (d : Drafter) (prompt : String) (existing : Json) (desk : Desk) : Drafted :=
  d.draft ⟨prompt, existingWorkflow existing⟩ desk

end Drafter

end FlowDraft
