import FlowDraft.Proofs.Json.Displayed
import FlowDraft.Prompt.Preview

/-!
# `FlowDraft.Proofs.Prompt.PreviewLines`: how many lines a preview has

A preview is put together from its lines, one for every node that is listed (`length_previewLines`).
Numbers, positions and parameters never break the line that they stand in, and neither does a name,
a type or a note that is no text, as it is shown as a literal. A text, however, is shown as it is,
and every line feed in it makes one line more (`lineFeeds_nodeLine`). So a preview has the lines it
is put together from exactly when no text of `shownAsIs` has a line feed.
-/

set_option autoImplicit false

namespace FlowDraft

open Text (lineFeeds lineFeeds_append lineFeeds_eq_zero_iff)

namespace Json

/-- The line feeds of a text. No other value has any. -/
def textFeeds (v : Json) : Nat :=
  (v.text?.map lineFeeds).getD 0

theorem textFeeds_eq_zero_iff {v : Json} :
    v.textFeeds = 0 ↔ ∀ s, v = .str s → '\n' ∉ s.toList := by
  cases v with
  | str s =>
    constructor
    · intro h t ht
      cases ht
      exact lineFeeds_eq_zero_iff.1 h
    · exact fun h => lineFeeds_eq_zero_iff.2 (h s rfl)
  | _ => simp [textFeeds, text?]

end Json

namespace Prompt

open Workflow

/-! ### Texts that are shown as they are -/

/-- The nodes that the document of a workflow lists. -/
def nodesOf (w : Json) : List Json :=
  (w.field "nodes").items?.getD []

/-- The nodes that a preview lists. -/
def listedNodes (w : Json) : List Json :=
  (nodesOf w).take nodeLimit

/-- What a node is called by: its name, or else its id. -/
def calledBy (node : Json) : Json :=
  if (filled? (fieldText? node "name")).isSome then node.field "name" else node.field "id"

/-- The values of a node that are shown as they are, if they are texts. -/
def nodeTexts (node : Json) : List Json :=
  [calledBy node, node.field "type", node.field "notes"]

/-- The values of a workflow that are shown as they are, if they are texts. -/
def shownAsIs (w : Json) : List Json :=
  w.field "name" :: (listedNodes w).flatMap nodeTexts

/-- No text that is shown as it is has a line feed. -/
def IsOneLined (w : Json) : Prop :=
  ∀ s, .str s ∈ shownAsIs w → '\n' ∉ s.toList

theorem isOneLined_iff (w : Json) :
    IsOneLined w ↔ ((shownAsIs w).map Json.textFeeds).sum = 0 := by
  rw [List.sum_eq_zero_iff_forall_eq_nat, List.forall_mem_map]
  simp only [Json.textFeeds_eq_zero_iff]
  exact ⟨fun h v hv s hs => h s (hs ▸ hv), fun h s hs => h _ hs s rfl⟩

/-! ### Line feeds in a line -/

theorem lineFeeds_fieldText? (v : Json) (name : String) :
    ((fieldText? v name).map lineFeeds).getD 0 = (v.field name).textFeeds := by
  rw [fieldText?]
  split
  · next h =>
    rw [h]
    rfl
  · exact Json.lineFeeds_display _

/-- A text that is left out, as it is empty, has no line feeds. -/
theorem lineFeeds_filled (s : Option String) {default : String} (hdefault : lineFeeds default = 0) :
    lineFeeds ((filled? s).getD default) = (s.map lineFeeds).getD 0 := by
  cases s with
  | none => exact hdefault
  | some t =>
    rw [filled?, Option.filter_some]
    split
    · rfl
    · next h =>
      have ht : t = "" := by simpa using h
      rw [ht]
      exact hdefault

theorem lineFeeds_nodeLabel (node : Json) :
    lineFeeds (nodeLabel (.ofJson node)) = (calledBy node).textFeeds := by
  rw [nodeLabel, calledBy]
  show lineFeeds (((filled? (fieldText? node "name")).or (filled? (fieldText? node "id"))).getD
    "unnamed node") = _
  -- The same question, whether there is a name to show, decides both sides.
  cases hname : filled? (fieldText? node "name") with
  | none =>
    rw [Option.none_or, lineFeeds_filled _ (by decide), lineFeeds_fieldText?]
    rfl
  | some name =>
    have hfeeds := lineFeeds_filled (fieldText? node "name") (show lineFeeds "" = 0 by decide)
    rw [hname, lineFeeds_fieldText?] at hfeeds
    exact hfeeds

theorem lineFeeds_notesPart (notes : Option String) :
    lineFeeds (notesPart notes) = (notes.map lineFeeds).getD 0 := by
  have hfilled := lineFeeds_filled notes (show lineFeeds "" = 0 by decide)
  rw [notesPart]
  cases hnotes : filled? notes with
  | none =>
    rw [hnotes] at hfilled
    exact hfilled
  | some text =>
    rw [hnotes] at hfilled
    rw [lineFeeds_append, ← hfilled]
    exact Nat.zero_add _

theorem lineFeeds_ofList_eq_zero {cs : List Char} (h : '\n' ∉ cs) :
    lineFeeds (String.ofList cs) = 0 := by
  rw [lineFeeds_eq_zero_iff, String.toList_ofList]
  exact h

theorem lineFeeds_positionText (v : Json) : lineFeeds (positionText v) = 0 := by
  cases v with
  | null => decide
  | _ => exact lineFeeds_ofList_eq_zero (Json.lineFeed_not_mem_dump rfl _)

theorem lineFeed_not_mem_cut {limit : Nat} {cs : List Char} (h : '\n' ∉ cs) :
    '\n' ∉ cut limit cs := by
  rw [cut]
  split
  · exact h
  · rw [List.mem_append, not_or]
    exact ⟨fun hmem => h (List.mem_of_mem_take hmem), by decide⟩

theorem lineFeeds_parameterPart (parameters : Option Fields) :
    lineFeeds (parameterPart parameters) = 0 := by
  match parameters with
  | none => rfl
  | some [] => rfl
  | some (f :: fs) =>
    show lineFeeds (" | parameters=" ++ parameterText (f :: fs)) = 0
    have hdump : '\n' ∉ Json.dump .compact (.obj (f :: fs)) :=
      Json.lineFeed_not_mem_dump rfl _
    rw [lineFeeds_append, parameterText, lineFeeds_ofList_eq_zero (lineFeed_not_mem_cut hdump)]
    decide

theorem lineFeeds_toString (n : Nat) : lineFeeds (toString n) = 0 := by
  rw [lineFeeds_eq_zero_iff]
  show '\n' ∉ n.repr.toList
  rw [Nat.toList_repr]
  exact fun hmem => absurd (Text.isDigit_of_mem_decimal hmem) (by decide)

/-- The line of a node breaks only where a text breaks that is shown as it is. -/
theorem lineFeeds_nodeLine (number : Nat) (node : Json) :
    lineFeeds (nodeLine number (.ofJson node)) = ((nodeTexts node).map Json.textFeeds).sum := by
  have htype : lineFeeds ((filled? (NodeSnapshot.ofJson node).type).getD "unknown")
      = (node.field "type").textFeeds :=
    (lineFeeds_filled _ (by decide)).trans (lineFeeds_fieldText? node "type")
  have hnotes : lineFeeds (notesPart (NodeSnapshot.ofJson node).notes)
      = (node.field "notes").textFeeds :=
    (lineFeeds_notesPart _).trans (lineFeeds_fieldText? node "notes")
  -- What stands between the parts has no line feeds either.
  have hpoint : lineFeeds ". " = 0 := by decide
  have htypeMark : lineFeeds " | type=" = 0 := by decide
  have hpositionMark : lineFeeds " | position=" = 0 := by decide
  simp only [nodeLine, lineFeeds_append, lineFeeds_toString, hpoint, lineFeeds_nodeLabel,
    htypeMark, htype, hpositionMark, lineFeeds_positionText, lineFeeds_parameterPart, hnotes,
    nodeTexts, List.map_cons, List.map_nil, List.sum_cons, List.sum_nil]
  omega

/-! ### The lines of a preview -/

/-- What stands in front of the parameters in the line of a node. -/
def lineFront (number : Nat) (node : NodeSnapshot) : String :=
  toString number ++ ". " ++ nodeLabel node ++ " | type=" ++
    (filled? node.type).getD "unknown" ++ " | position=" ++ positionText node.position

theorem nodeLine_eq (number : Nat) (node : NodeSnapshot) :
    nodeLine number node
      = lineFront number node ++ parameterPart node.parameters ++ notesPart node.notes :=
  rfl

/-- The line of a node starts with its number and with what it is called. -/
theorem exists_nodeLine_eq (number : Nat) (node : NodeSnapshot) :
    ∃ rest, nodeLine number node = toString number ++ ". " ++ nodeLabel node ++ rest :=
  ⟨" | type=" ++ (filled? node.type).getD "unknown" ++ " | position=" ++
    positionText node.position ++ parameterPart node.parameters ++ notesPart node.notes,
    by simp only [nodeLine, String.append_assoc]⟩

theorem nodeLines_eq_mapIdx (number : Nat) (nodes : List NodeSnapshot) :
    nodeLines number nodes = nodes.mapIdx fun i => nodeLine (number + i) := by
  induction nodes generalizing number with
  | nil => rfl
  | cons node nodes ih =>
    rw [nodeLines, ih, List.mapIdx_cons]
    simp only [Nat.add_zero, Nat.add_assoc, Nat.add_comm 1]

theorem lineFeeds_nodeLines (number : Nat) (nodes : List Json) :
    ((nodeLines number (nodes.map .ofJson)).map lineFeeds).sum
      = ((nodes.flatMap nodeTexts).map Json.textFeeds).sum := by
  induction nodes generalizing number with
  | nil => rfl
  | cons node nodes ih =>
    rw [List.map_cons, nodeLines, List.map_cons, List.sum_cons, lineFeeds_nodeLine, ih,
      List.flatMap_cons, List.map_append, List.sum_append]

/-- The lines of the nodes that a preview lists. -/
def listedLines (w : Json) : List String :=
  nodeLines 1 ((listedNodes w).map .ofJson)

theorem length_listedLines (w : Json) : (listedLines w).length = min (nodesOf w).length 20 := by
  rw [listedLines, nodeLines_eq_mapIdx, List.length_mapIdx, List.length_map, listedNodes,
    List.length_take, Nat.min_comm]
  rfl

/-- The lines are numbered from one. -/
theorem getElem?_listedLines {w node : Json} {i : Nat} (hi : i < 20)
    (hnode : (nodesOf w)[i]? = some node) :
    (listedLines w)[i]? = some (nodeLine (i + 1) (.ofJson node)) := by
  have hlisted : (listedNodes w)[i]? = some node := by
    rw [listedNodes, List.getElem?_take_of_lt (show i < nodeLimit from hi), hnode]
  rw [listedLines, nodeLines_eq_mapIdx, List.getElem?_mapIdx, List.getElem?_map, hlisted,
    Nat.add_comm i 1]
  rfl

/-- The line that heads a list of nodes. -/
def nodesHeading (n : Nat) : List String :=
  if 0 < n then ["Nodes:"] else []

/-- The line that tells how many nodes are not listed, if there are any. -/
def omittedNotice (omitted : Nat) : List String :=
  if 0 < omitted then ["... " ++ toString omitted ++ " more node(s) omitted from this preview."]
  else []

/-- The lines that a preview of the document of a workflow is put together from. -/
theorem previewLines_ofJson (w : Json) :
    previewLines (.ofJson w)
      = ["Workflow name: " ++ (filled? (fieldText? w "name")).getD "Untitled workflow",
          "Node count: " ++ toString (nodesOf w).length] ++
        nodesHeading (nodesOf w).length ++
        listedLines w ++ omittedNotice ((nodesOf w).length - nodeLimit) := by
  have hnodes : (Snapshot.ofJson w).nodes = (nodesOf w).map .ofJson := rfl
  have hheading : (if (nodesOf w).length = 0 then [] else ["Nodes:"])
      = nodesHeading (nodesOf w).length := by
    rw [nodesHeading]
    simp only [Nat.pos_iff_ne_zero, ite_not]
  rw [previewLines, hnodes, List.length_map, ← List.map_take, hheading, omittedNotice]
  simp only [Nat.sub_pos_iff_lt]
  rfl

/-- A preview is put together from a line for the name, the count, the heading, every node that is
listed, and the notice. -/
theorem length_previewLines (w : Json) :
    (previewLines (.ofJson w)).length
      = 2 + (if 0 < (nodesOf w).length then 1 else 0) + min (nodesOf w).length 20 +
        (if 20 < (nodesOf w).length then 1 else 0) := by
  have hheading : (nodesHeading (nodesOf w).length).length
      = if 0 < (nodesOf w).length then 1 else 0 := apply_ite _ _ _ _
  have hnotice : (omittedNotice ((nodesOf w).length - nodeLimit)).length
      = if 20 < (nodesOf w).length then 1 else 0 := by
    simp only [omittedNotice, Nat.sub_pos_iff_lt]
    exact apply_ite _ _ _ _
  simp only [previewLines_ofJson, List.length_append, length_listedLines, hheading, hnotice]
  rfl

/-- The lines of a preview break where a text breaks that is shown as it is. -/
theorem lineFeeds_previewLines (w : Json) :
    ((previewLines (.ofJson w)).map lineFeeds).sum
      = ((shownAsIs w).map Json.textFeeds).sum := by
  have hname : lineFeeds
      ("Workflow name: " ++ (filled? (fieldText? w "name")).getD "Untitled workflow")
      = (w.field "name").textFeeds := by
    rw [lineFeeds_append, lineFeeds_filled _ (by decide), lineFeeds_fieldText?]
    exact Nat.zero_add _
  have hcount : lineFeeds ("Node count: " ++ toString (nodesOf w).length) = 0 := by
    rw [lineFeeds_append, lineFeeds_toString]
    decide
  have hheading : ((nodesHeading (nodesOf w).length).map lineFeeds).sum = 0 := by
    rw [nodesHeading]
    split <;> decide
  have hnotice : ((omittedNotice ((nodesOf w).length - nodeLimit)).map lineFeeds).sum = 0 := by
    rw [omittedNotice]
    split
    · rw [List.map_singleton, List.sum_singleton, lineFeeds_append, lineFeeds_append,
        lineFeeds_toString]
      decide
    · rfl
  rw [previewLines_ofJson]
  simp only [List.map_append, List.map_cons, List.map_nil, List.sum_append, List.sum_cons,
    List.sum_nil, hname, hcount, hheading, hnotice, listedLines, lineFeeds_nodeLines, shownAsIs]
  omega

theorem previewLines_ne_nil (s : Snapshot) : previewLines s ≠ [] := by
  rw [previewLines]
  simp

theorem length_lines_preview (w : Json) :
    (Text.lines (preview (.ofJson w))).length
      = (previewLines (.ofJson w)).length + ((shownAsIs w).map Json.textFeeds).sum := by
  rw [preview, Text.length_lines_intercalate (previewLines_ne_nil _), lineFeeds_previewLines]

/-- If no text that is shown as it is has a line feed, the preview has the lines that it is put
together from. -/
theorem lines_preview_of_isOneLined {w : Json} (h : IsOneLined w) :
    Text.lines (preview (.ofJson w)) = previewLines (.ofJson w) := by
  refine Text.lines_intercalate_of_not_mem (previewLines_ne_nil _) fun line hmem => ?_
  -- The feeds of all lines add up to none, so no line has any.
  have hsum := lineFeeds_previewLines w
  rw [(isOneLined_iff w).1 h, List.sum_eq_zero_iff_forall_eq_nat, List.forall_mem_map] at hsum
  exact lineFeeds_eq_zero_iff.1 (hsum line hmem)

/-- **The lines of a preview.** A preview of the document of a workflow with `n` nodes has a line
for the name, the count, the heading, each of the first twenty nodes and the notice of the others,
and one more for every line feed in a text that is shown as it is. So those are its lines exactly
when no such text has a line feed, and then the line of each node starts with its number and with
what it is called. -/
theorem lines_preview (w : Json) :
    let n := (nodesOf w).length
    let lines := Text.lines (preview (.ofJson w))
    let expected := 2 + (if 0 < n then 1 else 0) + min n 20 + (if 20 < n then 1 else 0)
    lines.length = expected + ((shownAsIs w).map Json.textFeeds).sum ∧
      (lines.length = expected ↔ IsOneLined w) ∧
      (IsOneLined w →
        ∃ name nodes,
          lines = ["Workflow name: " ++ name, "Node count: " ++ toString n] ++
              (if 0 < n then ["Nodes:"] else []) ++ nodes ++
              (if 20 < n then
                ["... " ++ toString (n - 20) ++ " more node(s) omitted from this preview."]
               else []) ∧
            nodes.length = min n 20 ∧
            ∀ i node, i < 20 → (nodesOf w)[i]? = some node →
              ∃ rest, nodes[i]?
                = some (toString (i + 1) ++ ". " ++ nodeLabel (.ofJson node) ++ rest)) := by
  intro n lines expected
  have hlength : lines.length = expected + ((shownAsIs w).map Json.textFeeds).sum := by
    rw [length_lines_preview, length_previewLines]
  have hone : lines.length = expected ↔ IsOneLined w := by
    rw [isOneLined_iff, hlength]
    omega
  refine ⟨hlength, hone, fun h => ?_⟩
  refine ⟨(filled? (fieldText? w "name")).getD "Untitled workflow", listedLines w, ?_,
    length_listedLines w, fun i node hi hnode => ?_⟩
  · show Text.lines (preview (.ofJson w)) = _
    rw [lines_preview_of_isOneLined h, previewLines_ofJson, omittedNotice]
    simp only [Nat.sub_pos_iff_lt]
    rfl
  · obtain ⟨rest, hrest⟩ := exists_nodeLine_eq (i + 1) (.ofJson node)
    exact ⟨rest, by rw [getElem?_listedLines hi hnode, hrest]⟩

/-- Two nodes, one of them with a list for a name, make up two lines under the heading. -/
theorem lines_preview_of_two_nodes :
    let w : Json := .obj
      [("name", .str "Digest"),
       ("nodes", .arr
         [.obj [("name", .arr [.str "two\nlines"]), ("position", .arr [.int 1, .int 2])],
          .obj [("id", .str "n2"), ("parameters", .obj [("text", .str "two\nlines")])]])]
    IsOneLined w ∧ (Text.lines (preview (.ofJson w))).length = 5 := by
  intro w
  have hw : IsOneLined w := (isOneLined_iff w).2 (by decide)
  exact ⟨hw, (lines_preview w).2.1.2 hw⟩

/-- A note of two lines makes up two lines: four are expected, but there are five. -/
theorem lines_preview_of_two_line_note :
    let w : Json := .obj
      [("nodes", .arr [.obj [("name", .str "A"), ("notes", .str "x\ny")]])]
    let n := (nodesOf w).length
    ¬ (Text.lines (preview (.ofJson w))).length
        = 2 + (if 0 < n then 1 else 0) + min n 20 + (if 20 < n then 1 else 0) ∧
      Text.lines (preview (.ofJson w))
        = ["Workflow name: Untitled workflow", "Node count: 1", "Nodes:",
           "1. A | type=unknown | position=n/a | notes=x", "y"] := by
  decide +kernel

end Prompt

end FlowDraft
