import FlowDraft.Json.Writer
import FlowDraft.Workflow.Snapshot

/-!
# `FlowDraft.Prompt.Preview`: the workflow being edited, in a few lines

A preview names the workflow, counts its nodes and lists the first twenty, one below the other.
Parameters are cut after four hundred characters.

`preview` is `format_workflow_snapshot`, with `_format_node` and `_preview` for its lines.
-/

set_option autoImplicit false

namespace FlowDraft.Prompt

open Workflow

/-- The most nodes that are listed. -/
def nodeLimit : Nat := 20

/-- The most characters of the parameters of a node. -/
def parameterLimit : Nat := 400

/-- What stands for something that is not known. -/
def missing : String := "n/a"

/-- The text, unless there is none or it is empty. -/
def filled? (s : Option String) : Option String :=
  s.filter fun t => !t.isEmpty

/-- The start of a text of characters, with three points where something was cut. -/
def cut (limit : Nat) (cs : List Char) : List Char :=
  if cs.length ≤ limit then cs else cs.take limit ++ ['.', '.', '.']

/-- The parameters of a node. -/
def parameterText (parameters : Fields) : String :=
  String.ofList (cut parameterLimit (Json.dump .compact (.obj parameters)))

/-- What a node is called. -/
def nodeLabel (node : NodeSnapshot) : String :=
  ((filled? node.name).or (filled? node.id)).getD "unnamed node"

/-- Where a node stands. -/
def positionText : Json → String
  | .null => missing
  | v => v.write .ascii7

/-- The parameters of a node that has some. -/
def parameterPart : Option Fields → String
  | none | some [] => ""
  | some parameters => " | parameters=" ++ parameterText parameters

/-- The notes of a node that has some. -/
def notesPart (notes : Option String) : String :=
  match filled? notes with
  | some text => " | notes=" ++ text
  | none => ""

/-- The line of the node with a number. -/
def nodeLine (number : Nat) (node : NodeSnapshot) : String :=
  toString number ++ ". " ++ nodeLabel node ++ " | type=" ++
    (filled? node.type).getD "unknown" ++ " | position=" ++ positionText node.position ++
    parameterPart node.parameters ++ notesPart node.notes

/-- The lines of the nodes that are listed, numbered from `number` on. -/
def nodeLines : (number : Nat) → List NodeSnapshot → List String
  | _, [] => []
  | number, node :: nodes => nodeLine number node :: nodeLines (number + 1) nodes

/-- The lines of a preview. -/
def previewLines (s : Snapshot) : List String :=
  let total := s.nodes.length
  ["Workflow name: " ++ (filled? s.name).getD "Untitled workflow",
   "Node count: " ++ toString total] ++
  (if total = 0 then [] else ["Nodes:"]) ++
  nodeLines 1 (s.nodes.take nodeLimit) ++
  (if nodeLimit < total then
    ["... " ++ toString (total - nodeLimit) ++ " more node(s) omitted from this preview."]
   else [])

/-- The preview of a workflow. -/
def preview (s : Snapshot) : String :=
  "\n".intercalate (previewLines s)

end FlowDraft.Prompt
