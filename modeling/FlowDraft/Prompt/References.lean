import FlowDraft.Example.Document
import FlowDraft.Json.Writer
import FlowDraft.Prompt.Preview
import FlowDraft.Text.Blank

/-!
# `FlowDraft.Prompt.References`: reference workflows in a prompt

Each reference workflow has a section with its title, tags, profile, summary and an excerpt of its
graph. Sections are numbered from one and stand apart by a blank line.

`references` is `build_few_shot_block`, with `_format_example`, `_format_metadata` and
`_workflow_excerpt` for its parts.
-/

set_option autoImplicit false

namespace FlowDraft.Prompt

/-- Texts with commas between them. -/
def listed (texts : List String) : String :=
  if texts.isEmpty then missing else ", ".intercalate texts

/-- The labels of a category. -/
def categoryText (name : String) (labels : LabelSet) : String :=
  name ++ "=" ++ listed labels.toList

/-- A profile in one line. -/
def profileText (p : Profile) : String :=
  "; ".intercalate
    [categoryText "industries" p.industries, categoryText "domains" p.domains,
     categoryText "channels" p.channels, "trigger=" ++ p.trigger?.getD missing]

/-- The part of a graph that is shown. -/
def excerpt (graph : Fields) : Json :=
  let v := Json.obj graph
  .obj [("name", v.field "name"), ("nodes", v.field "nodes"),
    ("connections", v.field "connections")]

/-- The excerpt of the graph of a reference workflow. -/
def excerptText : Option Fields → String
  | none | some [] => "Workflow JSON unavailable."
  | some graph => (excerpt graph).write .indented

/-- The section of the reference workflow with a number. -/
def referenceText (number : Nat) (e : Example) : String :=
  "\n".intercalate
    ["Example " ++ toString number ++ ": " ++ e.title,
     "Tags: " ++ listed e.tags,
     "Metadata: " ++ profileText (e.profile.getD .empty),
     "Summary:",
     Text.trim e.summary,
     "Workflow JSON:",
     excerptText e.graph]

/-- The sections of reference workflows, numbered from `number` on. -/
def referenceTexts : (number : Nat) → List Example → List String
  | _, [] => []
  | number, e :: es => referenceText number e :: referenceTexts (number + 1) es

/-- The reference workflows of a prompt. -/
def references (examples : List Example) : String :=
  "\n\n".intercalate (referenceTexts 1 examples)

end FlowDraft.Prompt
