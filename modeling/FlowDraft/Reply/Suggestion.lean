import FlowDraft.Json.Reader
import FlowDraft.Reply.Action
import FlowDraft.Reply.Extract
import FlowDraft.Workflow.Conditions

/-!
# `FlowDraft.Reply.Suggestion`: what a reply suggests

A reply that holds an object is read into a suggestion. Any other reply gives a degraded one,
which has the whole reply as its raw text and asks for a review; reading never fails.

`parse` has the name that it has in the source, `notesOf` is `_normalize_notes`, and `toJson` is
`GenerationResult.to_payload`.
-/

set_option autoImplicit false

namespace FlowDraft

/-- The outcome of a request. -/
structure Suggestion where
  summary : Letters
  workflow : Json Letters
  rawText : Letters
  notes : Option (List Letters)
  actions : List Action
  degraded : Bool
  traceId : Option String
deriving Inhabited

namespace Suggestion

/-- The document form of a suggestion. -/
def fields (s : Suggestion) : Fields Letters :=
  ([("summary", .str s.summary), ("workflow", s.workflow),
    ("actions", .arr (s.actions.map Action.toJson)),
    ("rawText", .str s.rawText)] : Fields Letters) ++
  Fields.optional "notes" (s.notes.map .ofTexts) ++
  Fields.optional "traceId" (s.traceId.map fun id => .str (Letters.ofString id))

/-- The document form of a suggestion. -/
def toJson (s : Suggestion) : Json Letters :=
  .obj s.fields

/-- The summary of a reply that gives none. -/
def defaultSummary : String := "Suggested workflow"

/-- The summary of a reply that holds no object. -/
def unparsedSummary : String := "AI response (unparsed)"

/-- The note that goes with a reply that holds no object. -/
def unparsedNote : String :=
  "Unable to parse the model response. Please review the rawText payload."

/-- What is logged for a reply that holds no object. -/
def unparsedWarning : String :=
  "Model output was not a JSON object; returning degraded result"

/-- The suggestion of a reply that holds no object. -/
def unparsed (raw : Letters) : Suggestion where
  summary := unparsedSummary
  workflow := .obj []
  rawText := raw
  notes := some [unparsedNote]
  actions := []
  degraded := true
  traceId := none

/-- The notes of a reply: the texts of a list that are not blank. -/
def notesOf (v : Json Letters) : Option (List Letters) :=
  v.items?.map fun items => items.filterMap Action.nonBlankText?

/-- The workflow of a reply, in the current shape, and the number of names taken. Null stands for
an empty workflow. -/
def workflowOf (names : Nat → String) (taken : Nat) : Json Letters → Json Letters × Nat
  | .null => (.obj [], taken)
  | v => Workflow.modernizeFrom names taken v

/-- The suggestion of a reply that holds the object `v`, and the number of names taken. -/
def ofObject (names : Nat → String) (taken : Nat) (raw : Letters) (v : Json Letters) :
    Suggestion × Nat :=
  let (workflow, after) := workflowOf names taken (v.field "workflow")
  ({ summary := (Action.nonBlankText? (v.field "summary")).getD defaultSummary
     workflow
     rawText := raw
     notes := notesOf (v.field "notes")
     actions := Action.listOfJson (v.field "actions")
     degraded := false
     traceId := none }, after)

/-- The object inside a reply, if there is one. -/
def object? (raw : Letters) : Option (Json Letters) :=
  match Json.readWithin Json.maxDepth (Reply.extract raw) with
  | .ok v => v.object?
  | .error _ => none

/-- The suggestion of a reply, and the number of names taken. -/
def parseFrom (names : Nat → String) (taken : Nat) (raw : Letters) : Suggestion × Nat :=
  match object? raw with
  | some v => ofObject names taken raw v
  | none => (unparsed raw, taken)

/-- The suggestion of a reply. -/
def parse (names : Nat → String) (raw : Letters) : Suggestion :=
  (parseFrom names 0 raw).1

end Suggestion

end FlowDraft
