import FlowDraft.Proofs.Prompt.PreviewLines
import FlowDraft.Prompt.Request
import Mathlib.Data.List.Forall2

/-!
# `FlowDraft.Proofs.Prompt.Bounded`: what a prompt tells of a workflow

A prompt tells of a workflow that is being edited what its preview shows: the name, the number of
nodes, and five fields and the start of the parameters of the first twenty. `SameListed` relates
workflows that agree in all of this. The parameters are shown as a function of how they are written
(`parameterPart_eq_parametersShown`), and that function looks at the start only
(`parametersShown_congr`). From there the relation is carried through the line of a node, the lines
of all nodes and the preview to the prompt (`compose_congr`).
-/

set_option autoImplicit false

namespace FlowDraft.Prompt

open Workflow

/-! ### Parameters -/

/-- Two texts that are the same, or that go on beyond a limit and are the same up to it. -/
def SameStart (limit : Nat) (cs ds : List Char) : Prop :=
  cs = ds ∨ limit < cs.length ∧ limit < ds.length ∧ cs.take limit = ds.take limit

theorem cut_congr {limit : Nat} {cs ds : List Char} (h : SameStart limit cs ds) :
    cut limit cs = cut limit ds := by
  obtain rfl | ⟨hcs, hds, htake⟩ := h
  · rfl
  · rw [cut, cut, if_neg (Nat.not_le.2 hcs), if_neg (Nat.not_le.2 hds), htake]

/-- Texts with the same start start with the same character. -/
theorem SameStart.head? {limit : Nat} {cs ds : List Char} (h : SameStart limit cs ds)
    (hlimit : 0 < limit) : cs.head? = ds.head? := by
  obtain rfl | ⟨-, -, htake⟩ := h
  · rfl
  · have htaken : ∀ es : List Char, (es.take limit).head? = es.head? := fun es => by
      rw [List.head?_take, if_neg (Nat.ne_of_gt hlimit)]
    rw [← htaken, htake, htaken]

/-- The parameters of a node on one line. -/
def parameterDump (node : Json) : List Char :=
  Json.dump .compact (node.field "parameters")

/-- What a preview shows of parameters, if they are written like this. Only objects start with a
brace, and the empty one is not shown. -/
def parametersShown (dump : List Char) : String :=
  if dump.head? = some '\x7b' ∧ dump ≠ ['\x7b', '\x7d'] then
    " | parameters=" ++ String.ofList (cut parameterLimit dump)
  else ""

theorem renderFields_ne_nil (style : Json.Style) (level : Nat) (f : Letters × Json Letters)
    (fs : Fields Letters) : Json.renderFields style level (f :: fs) ≠ [] := by
  cases fs with
  | nil => exact List.cons_ne_nil _ _
  | cons g gs => exact List.cons_ne_nil _ _

/-- Only the empty object is written as a pair of braces. -/
theorem dump_compact_ne_braces (f : String × Json) (fs : Fields) :
    Json.dump .compact (.obj (f :: fs)) ≠ ['\x7b', '\x7d'] := by
  obtain ⟨name, value⟩ := f
  intro h
  have hlength : (Json.renderFields .compact 1
      (Json.mapFields Letters.ofString ((name, value) :: fs))).length = 0 := by
    simpa [Json.dump, Json.map, Json.mapFields, Json.render, Json.Style.lineBreak,
      Json.Style.compact] using congrArg List.length h
  exact renderFields_ne_nil .compact 1 _ _ (List.length_eq_zero_iff.1 hlength)

/-- The parameters of a node are shown as they are written. -/
theorem parameterPart_eq_parametersShown (node : Json) :
    parameterPart (node.field "parameters").fields? = parametersShown (parameterDump node) := by
  rw [parametersShown, parameterDump]
  generalize node.field "parameters" = parameters
  cases parameters with
  | obj fields =>
    cases fields with
    | nil => rfl
    | cons f fs =>
      rw [if_pos ⟨Json.head?_dump_eq_brace_iff.2 ⟨f :: fs, rfl⟩, dump_compact_ne_braces f fs⟩]
      rfl
  | _ =>
    rw [if_neg fun h => by
      obtain ⟨fields, hfields⟩ := Json.head?_dump_eq_brace_iff.1 h.1
      cases hfields]
    rfl

/-- Parameters with the same start are shown alike. -/
theorem parametersShown_congr {cs ds : List Char} (h : SameStart parameterLimit cs ds) :
    parametersShown cs = parametersShown ds := by
  have hbraces : cs = ['\x7b', '\x7d'] ↔ ds = ['\x7b', '\x7d'] := by
    obtain rfl | ⟨hcs, hds, -⟩ := h
    · exact Iff.rfl
    -- What goes on beyond the limit is longer than the two braces.
    · constructor
      · rintro rfl
        exact absurd hcs (by decide)
      · rintro rfl
        exact absurd hds (by decide)
  simp only [parametersShown, h.head? (by decide), ne_eq, hbraces, cut_congr h]

/-! ### Nodes -/

/-- The nodes agree in what a preview shows of them. -/
structure SameShown (node node' : Json) : Prop where
  id : node.field "id" = node'.field "id"
  name : node.field "name" = node'.field "name"
  type : node.field "type" = node'.field "type"
  position : node.field "position" = node'.field "position"
  notes : node.field "notes" = node'.field "notes"
  parameters : SameStart parameterLimit (parameterDump node) (parameterDump node')

theorem SameShown.rfl {node : Json} : SameShown node node :=
  ⟨.refl _, .refl _, .refl _, .refl _, .refl _, .inl (.refl _)⟩

theorem fieldText?_congr {v w : Json} {name : String} (h : v.field name = w.field name) :
    fieldText? v name = fieldText? w name := by
  rw [fieldText?, fieldText?, h]

theorem nodeLine_congr {node node' : Json} (h : SameShown node node') (number : Nat) :
    nodeLine number (.ofJson node) = nodeLine number (.ofJson node') := by
  have hfront : lineFront number (.ofJson node) = lineFront number (.ofJson node') := by
    simp only [lineFront, nodeLabel, NodeSnapshot.ofJson, fieldText?_congr h.id,
      fieldText?_congr h.name, fieldText?_congr h.type, h.position]
  -- The objects may differ, so they are compared by how they are written.
  have hparameters : parameterPart (NodeSnapshot.ofJson node).parameters
      = parameterPart (NodeSnapshot.ofJson node').parameters := by
    show parameterPart (node.field "parameters").fields?
      = parameterPart (node'.field "parameters").fields?
    rw [parameterPart_eq_parametersShown, parameterPart_eq_parametersShown,
      parametersShown_congr h.parameters]
  have hnotes : (NodeSnapshot.ofJson node).notes = (NodeSnapshot.ofJson node').notes :=
    fieldText?_congr h.notes
  rw [nodeLine_eq, nodeLine_eq, hfront, hparameters, hnotes]

theorem nodeLines_congr {nodes nodes' : List Json} (h : List.Forall₂ SameShown nodes nodes')
    (number : Nat) :
    nodeLines number (nodes.map .ofJson) = nodeLines number (nodes'.map .ofJson) := by
  induction h generalizing number with
  | nil => rfl
  | cons hnode _ ih =>
    rw [List.map_cons, List.map_cons, nodeLines, nodeLines, nodeLine_congr hnode, ih]

/-- The line of a node that has parameters shows all of them, or their start and three points. -/
theorem nodeLine_of_parameters {node : Json} {fields : Fields}
    (h : node.field "parameters" = .obj fields) (hfields : fields ≠ []) (number : Nat) :
    nodeLine number (.ofJson node)
      = lineFront number (.ofJson node) ++
        (" | parameters=" ++ parameterText fields) ++
        notesPart (fieldText? node "notes") := by
  obtain ⟨f, fs, rfl⟩ := List.exists_cons_of_ne_nil hfields
  have hparameters : (NodeSnapshot.ofJson node).parameters = some (f :: fs) :=
    congrArg Json.fields? h
  rw [nodeLine_eq, hparameters]
  rfl

/-! ### Workflows -/

/-- The workflows agree in what a preview shows of them. -/
structure SameListed (w w' : Json) : Prop where
  name : w.field "name" = w'.field "name"
  count : (nodesOf w).length = (nodesOf w').length
  nodes : List.Forall₂ SameShown (listedNodes w) (listedNodes w')

theorem preview_congr {w w' : Json} (h : SameListed w w') :
    preview (.ofJson w) = preview (.ofJson w') := by
  rw [preview, preview, previewLines_ofJson, previewLines_ofJson, fieldText?_congr h.name, h.count,
    listedLines, listedLines, nodeLines_congr h.nodes]

theorem compose_congr {w w' : Json} (h : SameListed w w') (request : String)
    (examples : List Example) :
    compose request (some (.ofJson w)) examples = compose request (some (.ofJson w')) examples := by
  have hediting : editingPart (.ofJson w) = editingPart (.ofJson w') := by
    -- Rewriting with its equation would take the long text of the definition apart.
    unfold editingPart
    rw [preview_congr h]
  simp only [compose, Option.toList_some, List.map_singleton, hediting]

/-- **A prompt tells a bounded part of a workflow.** A workflow can be exchanged for any other one
that has the same name, as many nodes, and among the first twenty the same fields and the same start
of the parameters. A preview shows the parameters of a node that has some, all of them up to four
hundred characters and otherwise that many and three points, and the nodes that it lists and those
that it tells to be omitted make up all nodes. -/
theorem preview_is_bounded (w : Json) :
    (∀ w', SameListed w w' → ∀ request examples,
      compose request (some (.ofJson w)) examples
        = compose request (some (.ofJson w')) examples) ∧
      ∃ listed omitted,
        preview (.ofJson w)
            = "\n".intercalate
              (["Workflow name: " ++ (filled? (fieldText? w "name")).getD "Untitled workflow",
                "Node count: " ++ toString (nodesOf w).length] ++
                nodesHeading (nodesOf w).length ++ listed ++ omittedNotice omitted) ∧
          listed.length = min (nodesOf w).length 20 ∧
          listed.length + omitted = (nodesOf w).length ∧
          (∀ i node, i < 20 → (nodesOf w)[i]? = some node →
            listed[i]? = some (nodeLine (i + 1) (.ofJson node)) ∧
            ∀ fields, node.field "parameters" = .obj fields → fields ≠ [] →
              let dump := Json.dump .compact (.obj fields)
              ∃ shown,
                listed[i]?
                    = some (lineFront (i + 1) (.ofJson node) ++
                      (" | parameters=" ++ String.ofList shown) ++
                      notesPart (fieldText? node "notes")) ∧
                  (dump.length ≤ 400 → shown = dump) ∧
                  (400 < dump.length → shown = dump.take 400 ++ ['.', '.', '.'])) := by
  refine ⟨fun w' h => compose_congr h, listedLines w, (nodesOf w).length - nodeLimit, ?_,
    length_listedLines w, ?_, fun i node hi hnode => ?_⟩
  · rw [preview, previewLines_ofJson]
  · rw [length_listedLines, nodeLimit]
    omega
  · have hline := getElem?_listedLines hi hnode
    refine ⟨hline, fun fields hfields hne => ?_⟩
    refine ⟨cut parameterLimit (Json.dump .compact (.obj fields)), ?_, fun hshort => ?_,
      fun hlong => ?_⟩
    · rw [hline, nodeLine_of_parameters hfields hne, parameterText]
    · exact if_pos hshort
    · exact if_neg (Nat.not_le.2 hlong)

/-- Two workflows that differ in their ids, in a field and behind the four hundredth character of
the parameters of the first node, and in the node behind the twentieth. -/
theorem preview_is_bounded_of_long_parameters :
    let parameters (last : Int) : Json :=
      .obj [("rows", .arr (List.replicate 200 (.int 0) ++ [.int last]))]
    let w : Json := .obj
      [("id", .str "a"),
       ("nodes", .arr
         (.obj [("name", .str "Sum"), ("parameters", parameters 1)] ::
           List.replicate 20 (.obj [])))]
    let w' : Json := .obj
      [("id", .str "b"),
       ("nodes", .arr
         (.obj [("name", .str "Sum"), ("parameters", parameters 2), ("disabled", .bool true)] ::
           (List.replicate 19 (.obj []) ++ [.obj [("name", .str "Last")]])))]
    SameListed w w' ∧
      compose "Log errors" (some (.ofJson w)) [] = compose "Log errors" (some (.ofJson w')) [] ∧
      ∃ listed omitted, preview (.ofJson w)
          = "\n".intercalate (["Workflow name: Untitled workflow", "Node count: 21", "Nodes:"] ++
            listed ++ omittedNotice omitted) ∧
        listed.length = 20 ∧ omitted = 1 := by
  intro parameters w w'
  have hfirst : SameShown (.obj [("name", .str "Sum"), ("parameters", parameters 1)])
      (.obj [("name", .str "Sum"), ("parameters", parameters 2), ("disabled", .bool true)]) := by
    constructor
    case parameters => exact .inr (by decide +kernel)
    all_goals rfl
  have hrest : List.Forall₂ SameShown (List.replicate 19 (.obj [])) (List.replicate 19 (.obj [])) :=
    List.forall₂_same.2 fun _ _ => .rfl
  have hsame : SameListed w w' := ⟨rfl, rfl, .cons hfirst hrest⟩
  obtain ⟨hcompose, listed, omitted, hpreview, hlisted, hcount, -⟩ := preview_is_bounded w
  have hhead : ["Workflow name: " ++ (filled? (fieldText? w "name")).getD "Untitled workflow",
      "Node count: " ++ toString (nodesOf w).length] ++ nodesHeading (nodesOf w).length
      = ["Workflow name: Untitled workflow", "Node count: 21", "Nodes:"] := by decide +kernel
  rw [hhead] at hpreview
  refine ⟨hsame, hcompose w' hsame _ _, listed, omitted, hpreview, hlisted, ?_⟩
  rw [hlisted] at hcount
  exact Nat.add_left_cancel (hcount : 20 + omitted = 20 + 1)

end FlowDraft.Prompt
