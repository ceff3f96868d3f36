import FlowDraft.Json.Basic
import FlowDraft.Text.Letter

/-!
# `FlowDraft.Reply.Action`: proposed changes

A reply may list the changes that it makes to a workflow. A change counts when it has a summary
that is not blank; everything else about it is kept if it is of the expected kind.

`listOfJson` is `normalize_actions`, and `toJson` is `Action.to_payload`.
-/

set_option autoImplicit false

namespace FlowDraft

/-- A field that is left out where it has no value. -/
def Fields.optional (name : Letters) (value : Option (Json Letters)) : Fields Letters :=
  value.toList.map fun v => (name, v)

/-- What a change does. -/
inductive ActionKind where
  | replaceArtifact
  | addNode
  | removeNode
  | updateNode
  | reconnectNodes
  | custom
deriving DecidableEq, Repr, Inhabited

namespace ActionKind

/-- The name of a kind of change. -/
def name : ActionKind → String
  | replaceArtifact => "replace_artifact"
  | addNode => "add_node"
  | removeNode => "remove_node"
  | updateNode => "update_node"
  | reconnectNodes => "reconnect_nodes"
  | custom => "custom"

/-- Every kind of change. -/
def all : List ActionKind :=
  [replaceArtifact, addNode, removeNode, updateNode, reconnectNodes, custom]

/-- The kind of that name. Any other name stands for a custom change. -/
def ofName (s : Letters) : ActionKind :=
  (all.find? fun k => k.name == s).getD custom

theorem ofName_name (k : ActionKind) : ofName k.name = k := by
  cases k <;> decide

end ActionKind

/-- A proposed change. -/
structure Action where
  kind : ActionKind
  summary : Letters
  target : Option Letters
  details : Option (Fields Letters)
  metadata : Option (Fields Letters)
deriving Inhabited

namespace Action

/-- The document form of a change. -/
def toJson (a : Action) : Json Letters :=
  .obj (([("type", .str a.kind.name), ("summary", .str a.summary)] : Fields Letters) ++
    Fields.optional "targetNode" (a.target.map .str) ++
    Fields.optional "details" (a.details.map .obj) ++
    Fields.optional "metadata" (a.metadata.map .obj))

/-- The text of a value that is a text and not blank. -/
def nonBlankText? (v : Json Letters) : Option Letters :=
  v.text?.filter fun s => !s.isBlank

/-- The change that a document describes. -/
def ofJson? (v : Json Letters) : Option Action :=
  (nonBlankText? (v.field "summary")).map fun summary =>
    { kind := ((v.field "type").text?.map ActionKind.ofName).getD .custom
      summary
      target := (v.field "targetNode").text?
      details := (v.field "details").fields?
      metadata := (v.field "metadata").fields? }

/-- The changes that a list of documents describes. -/
def listOfJson (v : Json Letters) : List Action :=
  (v.items?.getD []).filterMap ofJson?

end Action

end FlowDraft
