import FlowDraft.Json.Display

/-!
# `FlowDraft.Workflow.Snapshot`: a workflow that is being edited

A snapshot is the part of an existing workflow that a request is drafted against. It is read from
any document: what is not of the expected kind is left out, and names of any kind are taken as
text.

`Snapshot.ofJson` and `NodeSnapshot.ofJson` are `from_payload` of `ArtifactSnapshot` and of
`NodeSnapshot`.
-/

set_option autoImplicit false

namespace FlowDraft.Workflow

/-- A node of a workflow that is being edited. -/
structure NodeSnapshot where
  id : Option String
  name : Option String
  type : Option String
  /-- Where the node stands. Null when nothing is known of it. -/
  position : Json
  parameters : Option Fields
  notes : Option String
deriving Inhabited

/-- A workflow that is being edited. -/
structure Snapshot where
  nodes : List NodeSnapshot
  connections : Json
  id : Option String
  name : Option String
deriving Inhabited

/-- The text of a field of any kind. A missing field and null have none. -/
def fieldText? (v : Json) (name : String) : Option String :=
  match v.field name with
  | .null => none
  | w => some w.display

namespace NodeSnapshot

/-- The node that a document describes. A document that is no object describes an empty one. -/
def ofJson (v : Json) : NodeSnapshot where
  id := fieldText? v "id"
  name := fieldText? v "name"
  type := fieldText? v "type"
  position := v.field "position"
  parameters := (v.field "parameters").fields?
  notes := fieldText? v "notes"

end NodeSnapshot

namespace Snapshot

/-- The workflow that a document describes. -/
def ofJson (v : Json) : Snapshot where
  nodes := ((v.field "nodes").items?.getD []).map NodeSnapshot.ofJson
  connections := v.field "connections"
  id := fieldText? v "id"
  name := fieldText? v "name"

end Snapshot

end FlowDraft.Workflow
