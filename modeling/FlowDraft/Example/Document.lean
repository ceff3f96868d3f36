import FlowDraft.Json.Display
import FlowDraft.Label.Profile

/-!
# `FlowDraft.Example.Document`: indexed documents and the examples in them

A reference workflow is indexed as a document: a text that is searched, and fields that are kept
beside it. An example is what a document tells about its workflow.

`Example.ofDocument` is `document_to_example`, and an `Example` is a `RetrievedExample`.
-/

set_option autoImplicit false

namespace FlowDraft

/-- A searchable text with the fields that are kept beside it. -/
structure Document where
  content : String
  fields : Fields
deriving Inhabited

/-- A reference workflow. -/
structure Example where
  title : String
  summary : String
  tags : List String
  profile : Option Profile
  graph : Option Fields
deriving Inhabited

namespace Example

/-- The title of a workflow that has none. -/
def untitled : String := "Untitled workflow"

/-- The text of a value of any kind, unless it is void. -/
def shownText? (v : Json) : Option String :=
  v.nonVoid?.map Json.display

/-- The example that a document holds. -/
def ofDocument (d : Document) : Example :=
  let v := Json.obj d.fields
  { title := (shownText? (v.field "title")).getD untitled
    summary := d.content
    tags := ((v.field "tags").items?.getD []).map Json.display
    profile := Profile.ofJson? (v.field "metadata")
    graph := (v.field "workflow").fields? }

end Example

end FlowDraft
