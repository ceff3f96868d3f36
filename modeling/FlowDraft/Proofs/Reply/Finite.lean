import FlowDraft.Proofs.Json.Finite
import FlowDraft.Proofs.Reply.Normal

/-!
# `FlowDraft.Proofs.Reply.Finite`: suggestions that hold finite numbers

Nothing looks at the numbers of a reply, so a suggestion holds what the reply holds, also numbers
that are not finite. The comparisons that are put in place of old conditions have finite numbers
only. So whether the document form of a suggestion is finite is a question about three parts of the
reply: the workflow without its old conditions (`Workflow.withoutOld`), and the details and the
metadata of the changes that count. This is `isFinite_iff_keepsFinite`, which also says that a
number that is not finite is written in the reply as a word.
-/

set_option autoImplicit false

namespace FlowDraft

open Json (Throughout Readable lenient_readable lenient_sendable)

/-! ### Workflows -/

namespace Workflow

/-- A node without its conditions, if they are in the old shape. -/
def nodeWithoutOld : Json Letters → Json Letters
  | .obj node =>
    match oldBranch? node with
    | none => .obj node
    | some (parameters, _) =>
      .obj (Fields.put "parameters" (.obj (Fields.erase "conditions" parameters)) node)
  | v => v

/-- A workflow without the conditions of its nodes that are in the old shape. -/
def withoutOld : Json Letters → Json Letters
  | .obj workflow =>
    match (Fields.get? workflow "nodes").bind Json.items? with
    | none => .obj workflow
    | some nodes => .obj (Fields.put "nodes" (.arr (nodes.map nodeWithoutOld)) workflow)
  | v => v

variable (names : Nat → String) (taken : Nat)

/-- Comparisons in the current shape are finite. -/
theorem isFinite_current (entries : List (Json Letters)) :
    (current (comparisons names taken entries).1).isFinite = true :=
  Json.isFinite_iff.2 <| Json.throughout_sendable_iff.1 <|
    throughout_current lenient_sendable (throughout_comparisons lenient_sendable names taken entries)

/-- New conditions count as none. -/
theorem isFinite_modernizeParameters {parameters : Fields Letters}
    (h : (Fields.keys parameters).Nodup) (entries : List (Json Letters)) :
    (Json.obj (modernizeParameters names taken parameters entries).1).isFinite
      = (Json.obj (Fields.erase ("conditions" : Letters) parameters)).isFinite := by
  have hcurrent := isFinite_current names taken entries
  rw [modernizeParameters]
  -- Without comparisons the conditions are erased, and otherwise they are put in their place.
  split
  · rfl
  · next hitems =>
    rw [hitems] at hcurrent
    rw [Json.isFinite_put h, hcurrent, Bool.true_and]

theorem isFinite_modernizeNode {v : Json Letters} (h : Throughout Readable v) :
    (modernizeNode names taken v).1.isFinite = (nodeWithoutOld v).isFinite := by
  cases v with
  | obj node =>
    rw [modernizeNode, nodeWithoutOld]
    cases hbranch : oldBranch? node with
    | none => rfl
    | some branch =>
      obtain ⟨parameters, entries⟩ := branch
      -- Both sides put parameters into the same node, so only the parameters count.
      have hnode : (Fields.keys node).Nodup := h _ .self
      have hparameters : (Fields.keys parameters).Nodup :=
        throughout_parameters lenient_readable h hbranch _ .self
      dsimp only
      rw [Json.isFinite_put hnode, Json.isFinite_put hnode,
        isFinite_modernizeParameters names taken hparameters]
  | _ => rfl

theorem isFinite_modernizeNodes {nodes : List (Json Letters)}
    (h : ∀ v ∈ nodes, Throughout Readable v) :
    (Json.arr (modernizeNodes names taken nodes).1).isFinite
      = (Json.arr (nodes.map nodeWithoutOld)).isFinite := by
  simp only [Json.isFinite_arr]
  induction nodes generalizing taken with
  | nil => rfl
  | cons v vs ih =>
    rw [List.forall_mem_cons] at h
    rw [modernizeNodes, List.map_cons, List.all_cons, List.all_cons,
      isFinite_modernizeNode names taken h.1, ih _ h.2]

/-- A workflow in the current shape is finite when it was finite without its old conditions. -/
theorem isFinite_modernizeFrom {v : Json Letters} (h : Throughout Readable v) :
    (modernizeFrom names taken v).1.isFinite = (withoutOld v).isFinite := by
  cases v with
  | obj workflow =>
    rw [modernizeFrom, withoutOld]
    cases hnodes : (Fields.get? workflow "nodes").bind Json.items? with
    | none => rfl
    | some nodes =>
      have hworkflow : (Fields.keys workflow).Nodup := h _ .self
      dsimp only
      rw [Json.isFinite_put hworkflow, Json.isFinite_put hworkflow,
        isFinite_modernizeNodes names taken (throughout_nodes lenient_readable h hnodes)]
  | _ => rfl

end Workflow

/-! ### Changes -/

namespace Action

/-- A change is finite when its details and its metadata are. -/
theorem isFinite_toJson_iff (a : Action) :
    a.toJson.isFinite = true ↔
      ∀ fields, a.details = some fields ∨ a.metadata = some fields →
        (Json.obj fields).isFinite = true := by
  obtain ⟨kind, summary, target, details, metadata⟩ := a
  have hstr : ∀ s : Letters, (Json.str s).isFinite = true := fun _ => rfl
  cases target <;> cases details <;> cases metadata <;>
    simp [toJson, Fields.optional, Json.isFinite_obj, hstr, or_imp, forall_and]

/-- The changes of a reply are finite when the details and the metadata are of those with a
summary. -/
theorem isFinite_listOfJson_iff (v : Json Letters) :
    (∀ a ∈ listOfJson v, a.toJson.isFinite = true) ↔
      ∀ change ∈ v.items?.getD [], (nonBlankText? (change.field "summary")).isSome = true →
        ∀ fields, change.field "details" = .obj fields ∨ change.field "metadata" = .obj fields →
          (Json.obj fields).isFinite = true := by
  simp only [listOfJson, List.mem_filterMap, isFinite_toJson_iff]
  constructor
  · intro h change hchange hsummary fields hfields
    obtain ⟨summary, hsummary⟩ := Option.isSome_iff_exists.1 hsummary
    refine h _ ⟨change, hchange, by rw [ofJson?, hsummary, Option.map_some]⟩ fields ?_
    exact hfields.imp Json.fields?_eq_some_iff.2 Json.fields?_eq_some_iff.2
  · rintro h a ⟨change, hchange, ha⟩ fields hfields
    obtain ⟨summary, hsummary, rfl⟩ := Option.map_eq_some_iff.1 ha
    refine h change hchange (Option.isSome_iff_exists.2 ⟨summary, hsummary⟩) fields ?_
    exact hfields.imp Json.fields?_eq_some_iff.1 Json.fields?_eq_some_iff.1

end Action

/-! ### Suggestions -/

namespace Suggestion

/-- A suggestion is finite when its workflow and its changes are. -/
theorem isFinite_toJson (s : Suggestion) :
    s.toJson.isFinite = true ↔
      s.workflow.isFinite = true ∧ ∀ a ∈ s.actions, a.toJson.isFinite = true := by
  obtain ⟨summary, workflow, rawText, notes, actions, degraded, traceId⟩ := s
  have hstr : ∀ s : Letters, (Json.str s).isFinite = true := fun _ => rfl
  have htexts : ∀ texts : List Letters, (Json.ofTexts texts).isFinite = true := fun texts => by
    simp [Json.ofTexts, Json.isFinite_arr, hstr]
  cases notes <;> cases traceId <;>
    simp [toJson, fields, Fields.optional, Json.isFinite_obj, Json.isFinite_arr, hstr, htexts]

theorem isFinite_workflowOf (names : Nat → String) (taken : Nat) {v : Json Letters}
    (h : Throughout Readable v) :
    (workflowOf names taken v).1.isFinite = (Workflow.withoutOld v).isFinite := by
  cases v with
  | null => rfl
  | _ => exact Workflow.isFinite_modernizeFrom names taken h

/-- The parts of an object whose numbers a suggestion keeps are finite: the workflow without its old
conditions, and the details and the metadata of every change that has a summary. -/
structure KeepsFinite (v : Json Letters) : Prop where
  workflow : (Workflow.withoutOld (v.field "workflow")).isFinite = true
  changes : ∀ change ∈ (v.field "actions").items?.getD [],
    (Action.nonBlankText? (change.field "summary")).isSome = true →
    ∀ fields, change.field "details" = .obj fields ∨ change.field "metadata" = .obj fields →
      (Json.obj fields).isFinite = true

/-- A suggestion that was read is finite exactly when the parts that it keeps are. -/
theorem isFinite_parseFrom_iff (names : Nat → String) (taken : Nat) (raw : Letters) :
    ((parseFrom names taken raw).1.workflow.isFinite = true ∧
        ∀ a ∈ (parseFrom names taken raw).1.actions, a.toJson.isFinite = true) ↔
      ∀ v, object? raw = some v → KeepsFinite v := by
  rcases parseFrom_cases names taken raw with ⟨fields, hobject, hparse⟩ | ⟨hnone, hunparsed⟩
  · have hreadable : Throughout Readable ((Json.obj fields).field "workflow") :=
      lenient_readable.throughout_field (readable_object hobject) "workflow"
    have hworkflow : (parseFrom names taken raw).1.workflow.isFinite
        = (Workflow.withoutOld ((Json.obj fields).field "workflow")).isFinite := by
      rw [hparse]
      exact isFinite_workflowOf names taken hreadable
    have hactions : (parseFrom names taken raw).1.actions
        = Action.listOfJson ((Json.obj fields).field "actions") := by rw [hparse]; rfl
    rw [hworkflow, hactions, Action.isFinite_listOfJson_iff, hobject]
    constructor
    · rintro ⟨hworkflow, hchanges⟩ v hv
      obtain rfl := Option.some.inj hv
      exact ⟨hworkflow, hchanges⟩
    · intro h
      exact ⟨(h _ rfl).workflow, (h _ rfl).changes⟩
  · rw [hunparsed, hnone]
    refine ⟨fun _ v hv => ?_, fun _ => ⟨rfl, fun a ha => absurd ha List.not_mem_nil⟩⟩
    cases hv

/-- **When a suggestion is finite.** Read any reply. The document form of the suggestion holds
finite numbers only exactly when the object in the reply, if there is one, does so in the parts that
are kept. Otherwise a word of the reply stands for a number that is not finite: one of the names of
such numbers, or a numeral beyond the range. -/
theorem isFinite_iff_keepsFinite (names : Nat → String) (taken : Nat) (raw : Letters)
    (traceId : Option String) :
    let s : Suggestion := { (parseFrom names taken raw).1 with traceId }
    (s.toJson.isFinite = true ↔ ∀ v, object? raw = some v → KeepsFinite v) ∧
    (s.toJson.isFinite = false → ∃ word x, Letters.ofChars word <:+: Reply.extract raw ∧
      Json.Grammar.Literal word (.float x) ∧ x.isFinite = false) := by
  intro s
  refine ⟨(isFinite_toJson s).trans (isFinite_parseFrom_iff names taken raw), ?_⟩
  intro hs
  -- Every number of the suggestion is written in the reply.
  obtain ⟨hworkflow, hactions⟩ := throughout_parseFrom
    (Json.lenient_writtenIn (Reply.extract raw)) names taken fun v hv => by
      obtain ⟨fields, rfl, hderives⟩ := object?_eq_some_iff.1 hv
      exact hderives.writtenIn
  have hwritten : Throughout (Json.WrittenIn (Reply.extract raw)) s.toJson :=
    throughout_toJson (Json.lenient_writtenIn _) hworkflow hactions
  by_contra hnone
  have hfinite : s.toJson.isFinite = true := Json.isFinite_iff.2 fun x hx => by
    obtain ⟨word, hword, hliteral⟩ := hwritten _ hx
    by_contra hx
    exact hnone ⟨word, x, hword, hliteral, Bool.eq_false_iff.2 hx⟩
  exact Bool.noConfusion (hfinite.symm.trans hs)

/-- A reply with a number that has a name, and a suggestion that cannot be sent as it is. The other
fields of the reply are not kept. -/
theorem not_isFinite_of_named_number :
    let others := "\"\\ud800\": 1, \"\\ud801\": 2"
    let raw := "\x7b\"summary\": \"s\", \"workflow\": \x7b\"n\": NaN\x7d, " ++ others ++ "\x7d"
    (parse toString raw).degraded = false ∧ (parse toString raw).toJson.isFinite = false := by
  decide +kernel

/-- Names with different halves are different names, so both of the values are kept. -/
example :
    let fields := "\x7b\"\\ud800\": NaN, \"\\ud801\": 2\x7d"
    (parse toString ("\x7b\"workflow\": " ++ fields ++ "\x7d" : String)).toJson.isFinite
      = false := by
  decide +kernel

/-- Numbers that are not finite do not matter in old conditions and in parts that are not kept. -/
theorem isFinite_toJson_of_old_conditions :
    let conditions := "\x7b\"conditions\": \x7b\"value\": [NaN]\x7d\x7d"
    let node := "\x7b\"type\": \"n8n-nodes-base.if\", \"parameters\": " ++ conditions ++ "\x7d"
    let workflow := "\x7b\"nodes\": [" ++ node ++ "], \"limit\": 1.5\x7d"
    let raw := "\x7b\"rank\": Infinity, \"workflow\": " ++ workflow ++ "\x7d"
    let s : Suggestion := { (parseFrom toString 0 raw).1 with traceId := some "0" }
    s.toJson.isFinite = true ∧ ∀ v, object? raw = some v → KeepsFinite v := by
  intro conditions node workflow raw s
  have hfinite : s.toJson.isFinite = true := by decide +kernel
  exact ⟨hfinite, (isFinite_iff_keepsFinite toString 0 raw (some "0")).1.1 hfinite⟩

end Suggestion

end FlowDraft
