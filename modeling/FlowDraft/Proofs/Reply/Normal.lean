import FlowDraft.Proofs.Reply.Parts
import FlowDraft.Proofs.Reply.Reading
import FlowDraft.Proofs.Workflow.Settled

/-!
# `FlowDraft.Proofs.Reply.Normal`: a suggestion that is read again

The document form of a suggestion is a reply itself. Read again, it gives the suggestion that it was
made of (`read_again`): a change is read back from its document form, the notes and the summary
pass the filters that they passed before, and a workflow in the current shape stays as it is.

Two parts are left out of the document, the reply that was read and the name of the trace: they are
of the request and not of the suggestion.
-/

set_option autoImplicit false

namespace FlowDraft

namespace Action

theorem nonBlankText?_eq_some_iff {v : Json Letters} {text : Letters} :
    nonBlankText? v = some text ↔ v = .str text ∧ Letters.isBlank text = false := by
  rw [nonBlankText?, Option.filter_eq_some_iff, Json.text?_eq_some_iff]
  simp

/-- A change with a summary that is not blank is read back from its document form. -/
theorem ofJson?_toJson {a : Action} (h : Letters.isBlank a.summary = false) :
    ofJson? a.toJson = some a := by
  obtain ⟨kind, summary, target, details, metadata⟩ := a
  have hsummary : nonBlankText? (.str summary) = some summary :=
    nonBlankText?_eq_some_iff.2 ⟨rfl, h⟩
  have hread : ofJson? (toJson ⟨kind, summary, target, details, metadata⟩)
      = (nonBlankText? (.str summary)).map fun summary =>
          ⟨ActionKind.ofName kind.name, summary, target, details, metadata⟩ := by
    cases target <;> cases details <;> cases metadata <;> rfl
  rw [hread, hsummary, Option.map_some, ActionKind.ofName_name]

/-- A change that was read has a summary that is not blank. -/
theorem not_blank_of_mem_listOfJson {v : Json Letters} {a : Action} (h : a ∈ listOfJson v) :
    Letters.isBlank a.summary = false := by
  obtain ⟨item, -, hitem⟩ := List.mem_filterMap.1 h
  obtain ⟨summary, hsummary, rfl⟩ := Option.map_eq_some_iff.1 hitem
  exact (nonBlankText?_eq_some_iff.1 hsummary).2

/-- The changes that were read are read back from their document forms. -/
theorem listOfJson_toJson (v : Json Letters) :
    listOfJson (.arr ((listOfJson v).map toJson)) = listOfJson v := by
  show ((listOfJson v).map toJson).filterMap ofJson? = listOfJson v
  rw [List.filterMap_map]
  calc (listOfJson v).filterMap (ofJson? ∘ toJson)
      = (listOfJson v).filterMap some :=
        List.filterMap_congr fun a ha => ofJson?_toJson (not_blank_of_mem_listOfJson ha)
    _ = listOfJson v := List.filterMap_some

end Action

namespace Suggestion

open Letter (char)

/-- The document form of a suggestion, without the reply that was read and the name of the trace. -/
def bareFields (s : Suggestion) : Fields Letters :=
  Fields.erase "traceId" (Fields.erase "rawText" s.fields)

theorem bareFields_eq (s : Suggestion) :
    s.bareFields = ([("summary", .str s.summary), ("workflow", s.workflow),
      ("actions", .arr (s.actions.map Action.toJson))] : Fields Letters) ++
        Fields.optional "notes" (s.notes.map .ofTexts) := by
  obtain ⟨summary, workflow, rawText, notes, actions, degraded, traceId⟩ := s
  cases notes <;> cases traceId <;> rfl

/-! ### The parts that are read again -/

theorem notesOf_ofTexts {texts : List Letters} (h : ∀ t ∈ texts, Letters.isBlank t = false) :
    notesOf (.ofTexts texts) = some texts := by
  show some ((texts.map Json.str).filterMap Action.nonBlankText?) = some texts
  rw [List.filterMap_map]
  calc some (texts.filterMap (Action.nonBlankText? ∘ Json.str))
      = some (texts.filterMap some) := congrArg some <| List.filterMap_congr fun t ht =>
          Action.nonBlankText?_eq_some_iff.2 ⟨rfl, h t ht⟩
    _ = some texts := by rw [List.filterMap_some]

/-- Notes that were read are read back. No notes stay none, and an empty list stays one. -/
theorem notesOf_notesOf (v : Json Letters) :
    notesOf ((notesOf v).elim .null .ofTexts) = notesOf v := by
  cases hnotes : notesOf v with
  | none => rfl
  | some texts =>
    obtain ⟨items, -, rfl⟩ := Option.map_eq_some_iff.1 hnotes
    refine notesOf_ofTexts ?_
    intro t ht
    obtain ⟨item, -, hitem⟩ := List.mem_filterMap.1 ht
    exact (Action.nonBlankText?_eq_some_iff.1 hitem).2

/-- A summary that was read, or the one in place of it, is read back. -/
theorem nonBlankText?_summary (v : Json Letters) :
    Action.nonBlankText? (.str ((Action.nonBlankText? v).getD defaultSummary))
      = some ((Action.nonBlankText? v).getD defaultSummary) := by
  refine Action.nonBlankText?_eq_some_iff.2 ⟨rfl, ?_⟩
  cases hsummary : Action.nonBlankText? v with
  | none => decide
  | some text => exact (Action.nonBlankText?_eq_some_iff.1 hsummary).2

theorem workflowOf_workflowOf (names names' : Nat → String) (taken taken' : Nat) (v : Json Letters) :
    workflowOf names' taken' (workflowOf names taken v).1
      = ((workflowOf names taken v).1, taken') := by
  cases v with
  | obj workflow =>
    have hsettled := Workflow.modernizeFrom_modernizeFrom names names' taken taken' (.obj workflow)
    have hobject : ∃ fields, (Workflow.modernizeFrom names taken (.obj workflow)).1 = .obj fields := by
      rw [Workflow.modernizeFrom]
      split <;> exact ⟨_, rfl⟩
    show workflowOf names' taken' (Workflow.modernizeFrom names taken (.obj workflow)).1
      = ((Workflow.modernizeFrom names taken (.obj workflow)).1, taken')
    obtain ⟨fields, hfields⟩ := hobject
    rw [hfields] at hsettled ⊢
    exact hsettled
  | _ => rfl

/-- The object that is found in a reply is readable throughout. -/
theorem readable_object {raw : Letters} {v : Json Letters} (h : object? raw = some v) :
    Json.Throughout Json.Readable v := by
  obtain ⟨fields, rfl, hderives⟩ := object?_eq_some_iff.1 h
  exact hderives.readable

/-- A suggestion without binary64 numbers can be written and read again. -/
theorem isPlain_bareFields (names : Nat → String) (taken : Nat) (raw : Letters)
    (hfloat : ∀ x, ¬ Json.Inside (.float x) (.obj (parseFrom names taken raw).1.bareFields)) :
    Json.isPlain (.obj (parseFrom names taken raw).1.bareFields) = true := by
  have hlenient : Json.Lenient (Json.Readable : Json Letters → Prop) := Json.lenient_readable
  have hobject : ∀ v, object? raw = some v → Json.Throughout Json.Readable v :=
    fun _ => readable_object
  obtain ⟨hworkflow, hactions⟩ := throughout_parseFrom hlenient names taken hobject
  have hreadable : Json.Throughout Json.Readable (parseFrom names taken raw).1.toJson :=
    throughout_toJson hlenient hworkflow hactions
  exact Json.isPlain_of_throughout _
    (hlenient.throughout_erase (hlenient.throughout_erase hreadable)) hfloat

/-- No block stands in a document without backticks. -/
theorem not_holdsBlock_render {v : Json Letters} (h : ∀ s ∈ v.texts, char '\x60' ∉ s) :
    ¬ Reply.HoldsBlock (Json.render .compact 0 v) := by
  rintro ⟨a, b, c, hsplit⟩
  refine Json.backtick_not_mem_render .compact 0 h ?_
  rw [hsplit]
  simp [Reply.fence]

/-- The document form of a suggestion that was made of an object is read as that suggestion. -/
theorem ofObject_bareFields (names names' : Nat → String) (taken taken' : Nat) (raw text : Letters)
    (v : Json Letters) :
    let s := (ofObject names taken raw v).1
    ofObject names' taken' text (.obj s.bareFields) = ({ s with rawText := text }, taken') := by
  intro s
  -- First every field is found under its name, and then it is read as what it was made of.
  have hsummary : (Json.obj s.bareFields).field "summary" = .str s.summary := by
    rw [bareFields_eq]
    rfl
  have hworkflow : (Json.obj s.bareFields).field "workflow" = s.workflow := by
    rw [bareFields_eq]
    rfl
  have hactions : (Json.obj s.bareFields).field "actions" = .arr (s.actions.map Action.toJson) := by
    rw [bareFields_eq]
    rfl
  have hnotes : (Json.obj s.bareFields).field "notes" = s.notes.elim .null .ofTexts := by
    rw [bareFields_eq]
    cases s.notes <;> rfl
  have hsummary' : Action.nonBlankText? (.str s.summary) = some s.summary := nonBlankText?_summary _
  have hworkflow' : workflowOf names' taken' s.workflow = (s.workflow, taken') :=
    workflowOf_workflowOf names names' taken taken' _
  have hnotes' : notesOf (s.notes.elim .null .ofTexts) = s.notes := notesOf_notesOf _
  have hactions' : Action.listOfJson (.arr (s.actions.map Action.toJson)) = s.actions :=
    Action.listOfJson_toJson _
  rw [ofObject, hworkflow, hworkflow', hsummary, hsummary', hnotes, hnotes', hactions, hactions']
  rfl

/-- **A suggestion is read back from its document form.** The suggestion of a reply is written
without the reply itself. Unless a block stands in that document, it is read as the same
suggestion, and no name is taken. The changes that are read from any list are read back from their
document forms. -/
theorem read_again (names names' : Nat → String) (taken taken' : Nat) (raw : Letters) :
    let s := (parseFrom names taken raw).1
    let document := Json.obj s.bareFields
    let text := Json.render .compact 0 document
    (s.degraded = false → (∀ x, ¬ Json.Inside (.float x) document) → Json.levels document ≤ 400 →
      ¬ Reply.HoldsBlock text →
      let again := parseFrom names' taken' text
      again.1.degraded = false ∧ again.1.summary = s.summary ∧ again.1.workflow = s.workflow ∧
        again.1.notes = s.notes ∧ again.1.actions = s.actions ∧ again.2 = taken') ∧
    ∀ v, Action.listOfJson (.arr ((Action.listOfJson v).map Action.toJson)) = Action.listOfJson v := by
  intro s document text
  refine ⟨?_, Action.listOfJson_toJson⟩
  intro hunderstood hfloat hlevels hblock again
  have hobject : object? text = some document :=
    object?_render (isPlain_bareFields names taken raw hfloat) hlevels hblock
  rcases parseFrom_cases names taken raw with ⟨fields, -, hparse⟩ | ⟨-, hunparsed⟩
  · have hs : s = (ofObject names taken raw (.obj fields)).1 := congrArg Prod.fst hparse
    have hfound : again = ofObject names' taken' text (.obj s.bareFields) := by
      show parseFrom names' taken' text = _
      rw [parseFrom, hobject]
    have hagain : again = ({ s with rawText := text }, taken') := by
      rw [hfound, hs]
      exact ofObject_bareFields names names' taken taken' raw text (.obj fields)
    rw [hagain]
    exact ⟨hunderstood, rfl, rfl, rfl, rfl, rfl⟩
  · -- A suggestion that was not made of an object says so.
    have hdegraded : (unparsed raw, taken).1.degraded = false := hunparsed ▸ hunderstood
    cases hdegraded

/-- A reply with a blank note, a change of no known kind, two fields whose names are different
halves and a branching node in the old shape. The new name of its condition stays when the
suggestion is read again. -/
theorem read_again_with_old_branch :
    let fields : Fields Letters :=
      [("notes", .arr [.str "Check", .str " "]),
       ("actions", .arr [.obj [("type", .int 7), ("summary", .str "Add")]]),
       ("workflow", .obj [([.half 0], .int 1), ([.half 1], .int 2),
         ("nodes", .arr [.obj [("type", .str "n8n-nodes-base.if"),
           ("parameters", .obj [("conditions", .obj [("value",
             .arr [.obj [("value", .str "ok")]])])])]])])]
    let raw := Json.render .compact 0 (.obj fields)
    let names : Nat → String := fun _ => "new"
    let first := parseFrom names 4 raw
    first.1.degraded = false ∧ first.1.notes = some [Letters.ofString "Check"] ∧ first.2 = 5 ∧
      (parseFrom names 9 (Json.render .compact 0 (.obj first.1.bareFields))).1.workflow
        = first.1.workflow ∧
      (parseFrom names 9 (Json.render .compact 0 (.obj first.1.bareFields))).2 = 9 := by
  intro fields raw names
  have hobject : object? raw = some (.obj fields) := by
    refine object?_render (by decide) (by decide) (not_holdsBlock_render ?_)
    decide
  have hparse : parseFrom names 4 raw = ofObject names 4 raw (.obj fields) := by
    rw [parseFrom, hobject]
  -- The object is known now, so that the suggestion can be computed without the reader.
  have hplain : Json.isPlain (.obj (parseFrom names 4 raw).1.bareFields) = true := by
    rw [hparse]
    rfl
  have hfloat : ∀ x, ¬ Json.Inside (.float x) (.obj (parseFrom names 4 raw).1.bareFields) := by
    intro x hx
    have hfalse := Json.isPlain_of_inside hx hplain
    cases hfalse
  have hlevels : Json.levels (.obj (parseFrom names 4 raw).1.bareFields) ≤ 400 := by
    rw [hparse]
    decide
  have hblock : ¬ Reply.HoldsBlock
      (Json.render .compact 0 (.obj (parseFrom names 4 raw).1.bareFields)) := by
    refine not_holdsBlock_render ?_
    rw [hparse]
    decide
  have hunderstood : (parseFrom names 4 raw).1.degraded = false := by
    rw [hparse]
    rfl
  have hnotes : (parseFrom names 4 raw).1.notes = some [Letters.ofString "Check"] := by
    rw [hparse]
    rfl
  have htaken : (parseFrom names 4 raw).2 = 5 := by
    rw [hparse]
    rfl
  obtain ⟨-, -, hworkflow, -, -, hafter⟩ :=
    (read_again names names 4 9 raw).1 hunderstood hfloat hlevels hblock
  exact ⟨hunderstood, hnotes, htaken, hworkflow, hafter⟩

end Suggestion

end FlowDraft
