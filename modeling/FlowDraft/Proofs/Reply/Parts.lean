import Mathlib.Data.Option.Basic
import FlowDraft.Proofs.Json.Inside
import FlowDraft.Proofs.Reply.Degraded
import FlowDraft.Proofs.Workflow.Modernized

/-!
# `FlowDraft.Proofs.Reply.Parts`: a suggestion is made of the reply

The workflow, the notes and the changes of a suggestion are parts of the object that was read, and
what is put in place of old conditions is made of texts and a few fixed values. So a property that
does not mind how objects are put together holds throughout a suggestion when it holds throughout
that object (`throughout_parseFrom`, and `throughout_toJson` for its document form).
-/

set_option autoImplicit false

namespace FlowDraft

open Json (Throughout Lenient)

theorem Fields.forall_mem_optional {name : Letters} {value : Option (Json Letters)}
    {Q : Letters × Json Letters → Prop} :
    (∀ field ∈ Fields.optional name value, Q field) ↔ ∀ v ∈ value, Q (name, v) := by
  simp [Fields.optional]

section
variable {P : Json Letters → Prop} (hP : Lenient P)
include hP

/-! ### Workflows -/

namespace Workflow

theorem throughout_comparison (name expression : Letters) :
    Throughout P (comparison name expression) := by
  have hoperator : Throughout P isTrueOperator := by
    refine hP.throughout_obj (by decide) ?_
    simp only [List.forall_mem_cons, List.not_mem_nil, false_implies, implies_true, and_true]
    exact ⟨hP.throughout_str _, hP.throughout_str _,
      Json.throughout_of_bare (hP.bool true) rfl rfl⟩
  refine hP.throughout_obj (by simp [Fields.keys]) ?_
  simp only [List.forall_mem_cons, List.not_mem_nil, false_implies, implies_true, and_true]
  exact ⟨hP.throughout_str name, hP.throughout_str expression, hP.throughout_str "", hoperator⟩

theorem throughout_comparisons (names : Nat → String) (taken : Nat)
    (entries : List (Json Letters)) :
    ∀ v ∈ (comparisons names taken entries).1, Throughout P v := by
  induction entries generalizing taken with
  | nil => exact fun v hv => absurd hv List.not_mem_nil
  | cons entry entries ih =>
    rw [comparisons]
    split
    · exact ih taken
    split
    · exact List.forall_mem_cons.2 ⟨throughout_comparison hP _ _, ih taken⟩
    · exact List.forall_mem_cons.2 ⟨throughout_comparison hP _ _, ih (taken + 1)⟩

theorem throughout_current {items : List (Json Letters)} (h : ∀ v ∈ items, Throughout P v) :
    Throughout P (current items) := by
  have hoptions : Throughout P comparisonOptions := by
    refine hP.throughout_obj (by decide) ?_
    simp only [List.forall_mem_cons, List.not_mem_nil, false_implies, implies_true, and_true]
    exact ⟨Json.throughout_of_bare (hP.bool true) rfl rfl, hP.throughout_str _,
      hP.throughout_str _, Json.throughout_of_bare (hP.int 2 (by decide)) rfl rfl⟩
  refine hP.throughout_obj (by simp [Fields.keys]) ?_
  simp only [List.forall_mem_cons, List.not_mem_nil, false_implies, implies_true, and_true]
  exact ⟨hoptions, hP.throughout_str "and", hP.throughout_arr h⟩

/-- The parameters of a branching node are one of its fields. -/
theorem throughout_parameters {node parameters : Fields Letters} {entries : List (Json Letters)}
    (h : Throughout P (.obj node)) (hbranch : oldBranch? node = some (parameters, entries)) :
    Throughout P (.obj parameters) := by
  obtain ⟨conditions, -, hplace, -⟩ := oldBranch?_eq_some_iff.1 hbranch
  rw [← (Json.field_obj_eq_iff (w := .obj _) nofun).2 hplace]
  exact hP.throughout_field h "parameters"

/-- The list of nodes of a workflow is one of its fields. -/
theorem throughout_nodes {workflow : Fields Letters} {nodes : List (Json Letters)}
    (h : Throughout P (.obj workflow))
    (hnodes : (Fields.get? workflow "nodes").bind Json.items? = some nodes) :
    ∀ v ∈ nodes, Throughout P v := by
  obtain ⟨list, hlist, hitems⟩ := Option.bind_eq_some_iff.1 hnodes
  rw [Json.items?_eq_some_iff.1 hitems] at hlist
  have hold : Throughout P (.arr nodes) := by
    rw [← (Json.field_obj_eq_iff (w := .arr _) nofun).2 hlist]
    exact hP.throughout_field h "nodes"
  exact (Json.throughout_arr_iff.1 hold).2

theorem throughout_modernizeNode (names : Nat → String) (taken : Nat) {v : Json Letters}
    (h : Throughout P v) : Throughout P (modernizeNode names taken v).1 := by
  cases v with
  | obj node =>
    rw [modernizeNode]
    split
    · exact h
    · next parameters entries hbranch =>
      have hparameters := throughout_parameters hP h hbranch
      refine hP.throughout_put h ?_
      rw [modernizeParameters]
      split
      · exact hP.throughout_erase hparameters
      · next hitems =>
        have hcomparisons := throughout_comparisons hP names taken entries
        rw [hitems] at hcomparisons
        exact hP.throughout_put hparameters (throughout_current hP hcomparisons)
  | _ => exact h

theorem throughout_modernizeNodes (names : Nat → String) (taken : Nat) {nodes : List (Json Letters)}
    (h : ∀ v ∈ nodes, Throughout P v) :
    ∀ v ∈ (modernizeNodes names taken nodes).1, Throughout P v := by
  induction nodes generalizing taken with
  | nil => exact h
  | cons v vs ih =>
    rw [List.forall_mem_cons] at h
    exact List.forall_mem_cons.2 ⟨throughout_modernizeNode hP names taken h.1,
      ih (modernizeNode names taken v).2 h.2⟩

theorem throughout_modernizeFrom (names : Nat → String) (taken : Nat) {v : Json Letters}
    (h : Throughout P v) : Throughout P (modernizeFrom names taken v).1 := by
  cases v with
  | obj workflow =>
    rw [modernizeFrom]
    split
    · exact h
    · next nodes hnodes =>
      exact hP.throughout_put h (hP.throughout_arr
        (throughout_modernizeNodes hP names taken (throughout_nodes hP h hnodes)))
  | _ => exact h

end Workflow

/-! ### Changes -/

namespace Action

theorem throughout_toJson {a : Action} (hdetails : ∀ d ∈ a.details, Throughout P (.obj d))
    (hmetadata : ∀ m ∈ a.metadata, Throughout P (.obj m)) : Throughout P a.toJson := by
  obtain ⟨kind, summary, target, details, metadata⟩ := a
  refine hP.throughout_obj ?_ ?_
  · cases target <;> cases details <;> cases metadata <;> simp [Fields.keys, Fields.optional]
  · simp only [List.forall_mem_append, List.forall_mem_cons, Fields.forall_mem_optional,
      Option.forall_mem_map, List.not_mem_nil, false_implies, implies_true, and_true]
    exact ⟨⟨⟨⟨hP.throughout_str _, hP.throughout_str _⟩, fun t _ => hP.throughout_str t⟩,
      hdetails⟩, hmetadata⟩

theorem throughout_ofJson? {v : Json Letters} {a : Action} (h : Throughout P v)
    (ha : ofJson? v = some a) : Throughout P a.toJson := by
  obtain ⟨summary, -, rfl⟩ := Option.map_eq_some_iff.1 ha
  have hfields : ∀ name, ∀ fields ∈ (v.field name).fields?, Throughout P (.obj fields) := by
    intro name fields hfields
    rw [← Json.fields?_eq_some_iff.1 hfields]
    exact hP.throughout_field h name
  exact throughout_toJson hP (hfields "details") (hfields "metadata")

theorem throughout_listOfJson {v : Json Letters} (h : Throughout P v) :
    ∀ w ∈ (listOfJson v).map toJson, Throughout P w := by
  intro w hw
  obtain ⟨a, ha, rfl⟩ := List.mem_map.1 hw
  obtain ⟨item, hitem, hread⟩ := List.mem_filterMap.1 ha
  cases v with
  | arr items => exact throughout_ofJson? hP ((Json.throughout_arr_iff.1 h).2 item hitem) hread
  | _ => exact absurd hitem List.not_mem_nil

end Action

/-! ### Suggestions -/

namespace Suggestion

theorem throughout_toJson {s : Suggestion} (hworkflow : Throughout P s.workflow)
    (hactions : ∀ v ∈ s.actions.map Action.toJson, Throughout P v) : Throughout P s.toJson := by
  obtain ⟨summary, workflow, rawText, notes, actions, degraded, traceId⟩ := s
  have htexts : ∀ texts : List Letters, Throughout P (.ofTexts texts) := by
    intro texts
    refine hP.throughout_arr ?_
    intro v hv
    obtain ⟨text, -, rfl⟩ := List.mem_map.1 hv
    exact hP.throughout_str text
  refine hP.throughout_obj ?_ ?_
  · cases notes <;> cases traceId <;> simp [fields, Fields.keys, Fields.optional]
  · simp only [fields, List.forall_mem_append, List.forall_mem_cons, Fields.forall_mem_optional,
      Option.forall_mem_map, List.not_mem_nil, false_implies, implies_true, and_true]
    exact ⟨⟨⟨hP.throughout_str _, hworkflow, hP.throughout_arr hactions, hP.throughout_str _⟩,
      fun texts _ => htexts texts⟩, fun id _ => hP.throughout_str id⟩

theorem throughout_empty : Throughout P (.obj []) :=
  hP.throughout_obj List.nodup_nil fun _ hfield => absurd hfield List.not_mem_nil

theorem throughout_workflowOf (names : Nat → String) (taken : Nat) {v : Json Letters}
    (h : Throughout P v) : Throughout P (workflowOf names taken v).1 := by
  cases v with
  | null => exact throughout_empty hP
  | _ => exact Workflow.throughout_modernizeFrom hP names taken h

/-- What holds throughout the object in a reply holds throughout the parts of the suggestion. -/
theorem throughout_parseFrom (names : Nat → String) (taken : Nat) {raw : Letters}
    (h : ∀ v, object? raw = some v → Throughout P v) :
    Throughout P (parseFrom names taken raw).1.workflow ∧
      ∀ v ∈ (parseFrom names taken raw).1.actions.map Action.toJson, Throughout P v := by
  rcases parseFrom_cases names taken raw with ⟨fields, hobject, hparse⟩ | ⟨-, hunparsed⟩
  · have hv := h _ hobject
    rw [hparse]
    exact ⟨throughout_workflowOf hP names taken (hP.throughout_field hv _),
      Action.throughout_listOfJson hP (hP.throughout_field hv _)⟩
  · rw [hunparsed]
    exact ⟨throughout_empty hP, fun v hv => absurd hv List.not_mem_nil⟩

end Suggestion

end

end FlowDraft
