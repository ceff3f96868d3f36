import FlowDraft.Proofs.Json.Indented
import FlowDraft.Proofs.Json.Inside
import FlowDraft.Proofs.Prompt.Shown

/-!
# `FlowDraft.Proofs.Prompt.Excerpt`: the graphs of references in a prompt

The section of a reference ends with an excerpt of its graph, behind a line that announces it. Every
line of the excerpt starts with a bracket or with spaces, so no later line looks like the
announcement (`announcement_not_mem_lines`), whatever stands in the title, the summary or the graph.
What stands behind it is read back as the parts of the graph that are shown, and nothing else of the
graph makes a difference (`excerpt_congr`).
-/

set_option autoImplicit false

namespace FlowDraft.Prompt

open Text (textBehindLast?)

/-! ### The excerpt -/

/-- The line that announces an excerpt. -/
def announcement : String := "Workflow JSON:"

theorem isPlain_excerpt {graph : Fields} (h : Json.isPlain (.obj graph) = true) :
    Json.isPlain (excerpt graph) = true := by
  have hfield : ∀ name, Json.isPlain ((Json.obj graph).field name) = true := by
    intro name
    rcases Json.field_eq_null_or_mem graph name with hnull | hmem
    · rw [hnull]
      rfl
    · exact Json.isPlain_of_inside (.field .self hmem) h
  simp [excerpt, Json.isPlain, Json.holdPlain, Fields.keys, hfield]

theorem levels_excerpt_le {graph : Fields} {limit : Nat}
    (h : ∀ f ∈ graph, Json.levels f.2 ≤ limit) : Json.levels (excerpt graph) ≤ limit + 1 := by
  have hfield : ∀ name, Json.levels ((Json.obj graph).field name) ≤ limit := by
    intro name
    rcases Json.field_eq_null_or_mem graph name with hnull | hmem
    · rw [hnull]
      exact Nat.zero_le _
    · exact h _ hmem
  have hname := hfield "name"
  have hnodes := hfield "nodes"
  have hconnections := hfield "connections"
  simp only [excerpt, Json.levels, Json.fieldLevels]
  omega

/-- An excerpt is read back, unless the values in the graph are nested too deeply. -/
theorem read_write_excerpt {graph : Fields} (hplain : Json.isPlain (.obj graph) = true)
    (hlevels : ∀ f ∈ graph, Json.levels f.2 ≤ 400) :
    Json.read ((excerpt graph).write .indented) = .ok (excerpt graph) := by
  have hdepth : Json.levels (excerpt graph) < Json.maxDepth :=
    Nat.lt_of_le_of_lt (levels_excerpt_le hlevels) (by decide)
  exact Json.read_write rfl (isPlain_excerpt hplain) hdepth

/-- No line of an excerpt announces another one. -/
theorem announcement_not_mem_lines (graph : Fields) :
    announcement ∉ Text.lines ((excerpt graph).write .indented) :=
  -- It starts with a letter, and the lines of an indented object do not.
  fun hmem => absurd (Json.head?_of_mem_lines_write hmem) (by decide)

/-- Graphs that agree in the parts that are shown have the same excerpt. -/
theorem excerpt_congr {graph graph' : Fields}
    (h : ∀ name ∈ ["name", "nodes", "connections"],
      (Json.obj graph).field name = (Json.obj graph').field name) :
    excerpt graph = excerpt graph' := by
  simp only [excerpt, h "name" (by simp), h "nodes" (by simp), h "connections" (by simp)]

theorem excerptText_of_ne_nil {graph : Fields} (h : graph ≠ []) :
    excerptText (some graph) = (excerpt graph).write .indented := by
  cases graph with
  | nil => exact absurd rfl h
  | cons f fs => rfl

/-! ### Sections -/

/-- The excerpt stands behind the last line that announces one. -/
theorem textBehindLast?_referenceText {e : Example} {graph : Fields} (he : e.graph = some graph)
    (hne : graph ≠ []) (number : Nat) :
    textBehindLast? announcement (referenceText number e)
      = some ((excerpt graph).write .indented) := by
  have htext : referenceText number e = "\n".intercalate
      (["Example " ++ toString number ++ ": " ++ e.title, "Tags: " ++ listed e.tags,
        "Metadata: " ++ profileText (e.profile.getD .empty), "Summary:", Text.trim e.summary] ++
        [announcement, (excerpt graph).write .indented]) := by
    rw [referenceText, he, excerptText_of_ne_nil hne]
    rfl
  -- The lines in front may say anything, an announcement included.
  rw [htext]
  exact Text.textBehindLast?_intercalate (by decide) (announcement_not_mem_lines graph) _

theorem referenceText_congr {e : Example} {graph graph' : Fields} (hne : graph ≠ [])
    (hne' : graph' ≠ [])
    (h : ∀ name ∈ ["name", "nodes", "connections"],
      (Json.obj graph).field name = (Json.obj graph').field name) (number : Nat) :
    referenceText number { e with graph := some graph }
      = referenceText number { e with graph := some graph' } := by
  simp only [referenceText, excerptText_of_ne_nil hne, excerptText_of_ne_nil hne', excerpt_congr h]

theorem exists_referenceText_eq (number : Nat) (e : Example) :
    ∃ rest, referenceText number e = heading number e ++ rest := by
  rw [referenceText, String.intercalate_cons_cons]
  exact ⟨_, String.append_assoc ..⟩

/-! ### All sections -/

theorem references_congr {e : Example} {graph graph' : Fields} (hne : graph ≠ [])
    (hne' : graph' ≠ [])
    (h : ∀ name ∈ ["name", "nodes", "connections"],
      (Json.obj graph).field name = (Json.obj graph').field name) (before after : List Example) :
    references (before ++ { e with graph := some graph } :: after)
      = references (before ++ { e with graph := some graph' } :: after) := by
  simp only [references, referenceTexts_eq_mapIdx, List.mapIdx_append, List.mapIdx_cons,
    referenceText_congr hne hne' h]

/-- **An excerpt loses nothing of what it shows.** The text behind the last announcement in the
block of a reference with a plain graph is read as the object of the name, the nodes and the
connections of the graph, and null for those that it does not have. References whose graphs agree in
these three have the same place in a block. A block is made up of a section for each reference, in
order and numbered from one, with blank lines between them. -/
theorem excerpt_is_lossless :
    (∀ (e : Example) (graph : Fields), e.graph = some graph → graph ≠ [] →
      Json.isPlain (.obj graph) = true → (∀ f ∈ graph, Json.levels f.2 ≤ 400) →
      ∃ text, textBehindLast? "Workflow JSON:" (references [e]) = some text ∧
        (∀ number, textBehindLast? "Workflow JSON:" (referenceText number e) = some text) ∧
        Json.read text = .ok (.obj
          [("name", (Json.obj graph).field "name"), ("nodes", (Json.obj graph).field "nodes"),
           ("connections", (Json.obj graph).field "connections")])) ∧
      (∀ (e : Example) (graph graph' : Fields), graph ≠ [] → graph' ≠ [] →
        (∀ name ∈ ["name", "nodes", "connections"],
          (Json.obj graph).field name = (Json.obj graph').field name) →
        ∀ before after, references (before ++ { e with graph := some graph } :: after)
          = references (before ++ { e with graph := some graph' } :: after)) ∧
      ∀ examples : List Example, ∃ sections,
        references examples = "\n\n".intercalate sections ∧
          sections.length = examples.length ∧
          ∀ i e, examples[i]? = some e →
            sections[i]? = some (referenceText (i + 1) e) ∧
              ∃ rest, referenceText (i + 1) e = heading (i + 1) e ++ rest := by
  refine ⟨fun e graph he hne hplain hlevels => ?_, fun e graph graph' hne hne' h before after =>
    references_congr hne hne' h before after, fun examples => ?_⟩
  · have hbehind := textBehindLast?_referenceText he hne
    have hblock : references [e] = referenceText 1 e := String.intercalate_singleton
    refine ⟨(excerpt graph).write .indented, ?_, hbehind, read_write_excerpt hplain hlevels⟩
    rw [hblock]
    exact hbehind 1
  · refine ⟨referenceTexts 1 examples, rfl, ?_, fun i e he => ⟨?_, exists_referenceText_eq _ e⟩⟩
    · rw [referenceTexts_eq_mapIdx, List.length_mapIdx]
    · rw [referenceTexts_eq_mapIdx, List.getElem?_mapIdx, he, Nat.add_comm i 1]
      rfl

/-- A summary that announces something itself, and a graph with a line feed in a text, without
connections and with settings that are not shown. -/
theorem excerpt_is_lossless_of_digest :
    let graph : Fields :=
      [("settings", .obj [("timezone", .str "UTC")]),
       ("nodes", .arr [.obj [("name", .str "Read\nWorkflow JSON:")], .arr [], .int (-7)]),
       ("name", .str "Digest")]
    let e : Example := ⟨"Digest", "Two lines:\nWorkflow JSON:", ["slack"], none, some graph⟩
    graph ≠ [] ∧ Json.isPlain (.obj graph) = true ∧ (∀ f ∈ graph, Json.levels f.2 ≤ 400) ∧
      ∃ text, textBehindLast? "Workflow JSON:" (references [e]) = some text ∧
        Json.read text = .ok (.obj
          [("name", .str "Digest"),
           ("nodes", .arr [.obj [("name", .str "Read\nWorkflow JSON:")], .arr [], .int (-7)]),
           ("connections", .null)]) := by
  intro graph e
  have hne : graph ≠ [] := List.cons_ne_nil _ _
  have hplain : Json.isPlain (.obj graph) = true := by decide
  have hlevels : ∀ f ∈ graph, Json.levels f.2 ≤ 400 := by decide
  obtain ⟨text, hbehind, -, hread⟩ := excerpt_is_lossless.1 e graph rfl hne hplain hlevels
  exact ⟨hne, hplain, hlevels, text, hbehind, hread⟩

end FlowDraft.Prompt
