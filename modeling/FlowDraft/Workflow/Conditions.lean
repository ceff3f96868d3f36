import FlowDraft.Json.Basic
import FlowDraft.Text.Letter

/-!
# `FlowDraft.Workflow.Conditions`: conditions of branching nodes

Branching nodes once listed their conditions as bare expressions under `conditions.value`. The
current shape has options, a combinator and a list of comparisons, each with a name. `modernize`
puts the current shape in place of the old one in every branching node of a workflow and leaves
everything else as it is.

The functions thread the number of names taken from the supply `names`.

`modernize` is `sanitize`, with `_sanitize_node` and `_upgrade_conditions` for its steps.
-/

set_option autoImplicit false

namespace FlowDraft

/-- The text of a value that is one and not empty. -/
def Json.filledText? (v : Json Letters) : Option Letters :=
  v.text?.filter fun s => !s.isEmpty

namespace Workflow

/-- The type of branching nodes. -/
def branchType : Letters := "n8n-nodes-base.if"

/-- How comparisons are carried out. -/
def comparisonOptions : Json Letters :=
  .obj [("caseSensitive", .bool true), ("leftValue", .str ""), ("typeValidation", .str "strict"),
    ("version", .int 2)]

/-- The comparison that holds when its left side is true. -/
def isTrueOperator : Json Letters :=
  .obj [("type", .str "boolean"), ("operation", .str "true"), ("singleValue", .bool true)]

/-- The comparison that stands for a bare expression. -/
def comparison (name expression : Letters) : Json Letters :=
  .obj [("id", .str name), ("leftValue", .str expression), ("rightValue", .str ""),
    ("operator", isTrueOperator)]

/-- The comparisons for the entries of an old list, and the number of names taken after them. An
entry without an expression gives none, and an entry with a name of its own takes none. -/
def comparisons (names : Nat → String) :
    (taken : Nat) → List (Json Letters) → List (Json Letters) × Nat
  | taken, [] => ([], taken)
  | taken, entry :: entries =>
    match (entry.field "value").filledText? with
    | none => comparisons names taken entries
    | some expression =>
      match (entry.field "id").filledText? with
      | some own =>
        let (rest, after) := comparisons names taken entries
        (comparison own expression :: rest, after)
      | none =>
        let (rest, after) := comparisons names (taken + 1) entries
        (comparison (names taken) expression :: rest, after)

/-- Comparisons in the current shape. -/
def current (items : List (Json Letters)) : Json Letters :=
  .obj [("options", comparisonOptions), ("combinator", .str "and"), ("conditions", .arr items)]

/-- The entries of the old shape, if the parameters are in it. -/
def oldEntries? (parameters : Fields Letters) : Option (List (Json Letters)) :=
  (((Json.obj parameters).field "conditions").field "value").items?

/-- Parameters with the current shape in place of the old one. Where no comparison is left, the
conditions are taken out. -/
def modernizeParameters (names : Nat → String) (taken : Nat) (parameters : Fields Letters)
    (entries : List (Json Letters)) : Fields Letters × Nat :=
  match comparisons names taken entries with
  | ([], after) => (Fields.erase "conditions" parameters, after)
  | (items, after) => (Fields.put "conditions" (current items) parameters, after)

/-- The parameters of a branching node in the old shape, and the entries of that shape. -/
def oldBranch? (node : Fields Letters) : Option (Fields Letters × List (Json Letters)) :=
  if (Fields.get? node "type").bind Json.text? = some branchType then do
    let parameters ← ((Json.obj node).field "parameters").fields?
    let entries ← oldEntries? parameters
    pure (parameters, entries)
  else none

/-- A node with its conditions in the current shape. -/
def modernizeNode (names : Nat → String) (taken : Nat) : Json Letters → Json Letters × Nat
  | .obj node =>
    match oldBranch? node with
    | none => (.obj node, taken)
    | some (parameters, entries) =>
      let (parameters, after) := modernizeParameters names taken parameters entries
      (.obj (Fields.put "parameters" (.obj parameters) node), after)
  | v => (v, taken)

/-- Nodes with their conditions in the current shape. -/
def modernizeNodes (names : Nat → String) :
    (taken : Nat) → List (Json Letters) → List (Json Letters) × Nat
  | taken, [] => ([], taken)
  | taken, v :: vs =>
    let (node, between) := modernizeNode names taken v
    let (nodes, after) := modernizeNodes names between vs
    (node :: nodes, after)

/-- A workflow with the conditions of its branching nodes in the current shape, and the number of
names taken. A value without a list of nodes is left as it is. -/
def modernizeFrom (names : Nat → String) (taken : Nat) : Json Letters → Json Letters × Nat
  | .obj workflow =>
    match (Fields.get? workflow "nodes").bind Json.items? with
    | none => (.obj workflow, taken)
    | some nodes =>
      let (nodes, after) := modernizeNodes names taken nodes
      (.obj (Fields.put "nodes" (.arr nodes) workflow), after)
  | v => (v, taken)

/-- A workflow with the conditions of its branching nodes in the current shape. -/
def modernize (names : Nat → String) (v : Json Letters) : Json Letters :=
  (modernizeFrom names 0 v).1

end Workflow

end FlowDraft
