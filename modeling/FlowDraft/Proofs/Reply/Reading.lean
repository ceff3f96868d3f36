import FlowDraft.Proofs.Json.Crossing
import FlowDraft.Proofs.Reply.Extract
import FlowDraft.Reply.Suggestion

/-!
# `FlowDraft.Proofs.Reply.Reading`: what a reply is read as

`Suggestion.Reads` says that a reply is read as an object `v`: the suggestion has the summary, the
workflow, the notes and the changes of `v`, and the reply itself as its raw text. The objects are
those that can be written and read again, nested at most 400 levels deep, and they stand in the
reply in their one-line form.

Such an object is read from a block between fences, and from between characters that are no braces
as long as no block stands in the reply. A bare object is such a reply too, but a text in it may
hold a block. Then the block is what is read, and that is never the object itself
(`object?_ne_of_holdsBlock`).
-/

set_option autoImplicit false

namespace FlowDraft.Suggestion

open Letter (char)

/-! ### Objects in replies -/

/-- The reply is read as the object `v`: every part of the suggestion is what `v` says. -/
structure Reads (names : Nat → String) (taken : Nat) (raw : Letters) (v : Json Letters) : Prop where
  degraded : (parseFrom names taken raw).1.degraded = false
  rawText : (parseFrom names taken raw).1.rawText = raw
  summary : (parseFrom names taken raw).1.summary =
    match v.field "summary" with
    | .str text => if Letters.isBlank text then defaultSummary else text
    | _ => defaultSummary
  workflow : (parseFrom names taken raw).1.workflow =
    match v.field "workflow" with
    | .null => .obj []
    | workflow => (Workflow.modernizeFrom names taken workflow).1
  notes : (parseFrom names taken raw).1.notes =
    match v.field "notes" with
    | .arr items => some (items.filterMap Action.nonBlankText?)
    | _ => none
  actions : (parseFrom names taken raw).1.actions = Action.listOfJson (v.field "actions")

/-- A reply in which an object is found is read as that object. -/
theorem reads_of_object? (names : Nat → String) (taken : Nat) {raw : Letters} {v : Json Letters}
    (h : object? raw = some v) : Reads names taken raw v := by
  have hparse : parseFrom names taken raw = ofObject names taken raw v := by rw [parseFrom, h]
  constructor
  · rw [hparse]; rfl
  · rw [hparse]; rfl
  · rw [hparse]
    show (Action.nonBlankText? (v.field "summary")).getD defaultSummary = _
    cases v.field "summary" with
    | str text =>
      show ((some text).filter fun s => !Letters.isBlank s).getD defaultSummary = _
      cases hblank : Letters.isBlank text with
      | true => simp [Option.filter, hblank]
      | false => simp [Option.filter, hblank]
    | _ => rfl
  · rw [hparse]
    show (workflowOf names taken (v.field "workflow")).1 = _
    cases v.field "workflow" <;> rfl
  · rw [hparse]
    show notesOf (v.field "notes") = _
    cases v.field "notes" <;> rfl
  · rw [hparse]; rfl

/-- An object is written between braces. -/
theorem exists_render (fields : Fields Letters) :
    ∃ m, Json.render .compact 0 (.obj fields) = char '\x7b' :: (m ++ [char '\x7d']) := by
  cases fields with
  | nil => exact ⟨[], rfl⟩
  | cons f fs => exact ⟨Json.renderFields .compact 1 (f :: fs), rfl⟩

section
variable {fields : Fields Letters} (hplain : Json.isPlain (.obj fields) = true)
  (hlevels : Json.levels (.obj fields) ≤ 400)
include hplain

/-! ### Where an object is read from -/

include hlevels in
theorem object?_of_extract {raw : Letters}
    (h : Reply.extract raw = Json.render .compact 0 (.obj fields)) :
    object? raw = some (.obj fields) := by
  have hdepth : Json.levels (.obj fields) < Json.maxDepth := Nat.lt_of_le_of_lt hlevels (by decide)
  rw [object?, h, Json.readWithin_render rfl hplain hdepth]
  rfl

include hlevels in
/-- An object between fences is read, behind letters that start no fence. -/
theorem object?_fenced {p tag : Letters} (hp : char '\x60' ∉ p)
    (htag : ∀ c ∈ tag, Reply.isTag c = true)
    (htext : ¬ Reply.fence <:+: Json.render .compact 0 (.obj fields)) (s : Letters) :
    object? (p ++ "```" ++ tag ++ "\n" ++ Json.render .compact 0 (.obj fields) ++ "\n```" ++ s)
      = some (.obj fields) := by
  obtain ⟨m, hm⟩ := exists_render fields
  refine object?_of_extract hplain hlevels ?_
  have hraw : p ++ "```" ++ tag ++ "\n" ++ Json.render .compact 0 (.obj fields) ++ "\n```" ++ s
      = p ++ (Reply.fence ++ (tag ++ char '\n' :: char '\x7b' :: (m ++ [char '\x7d']) ++
          char '\n' :: (Reply.fence ++ s))) := by
    simp [Reply.fence, Letters.ofString, hm]
  rw [hm] at htext
  rw [hraw, Reply.extract, Reply.fenced?_block hp htag htext, Reply.trim_object, hm]
  rfl

include hlevels in
/-- An object between letters that are no braces is read, unless a block stands somewhere. -/
theorem object?_braced {p s : Letters} (hp : char '\x7b' ∉ p) (hs : char '\x7d' ∉ s)
    (hblock : ¬ Reply.HoldsBlock (p ++ Json.render .compact 0 (.obj fields) ++ s)) :
    object? (p ++ Json.render .compact 0 (.obj fields) ++ s) = some (.obj fields) := by
  obtain ⟨m, hm⟩ := exists_render fields
  refine object?_of_extract hplain hlevels ?_
  rw [Reply.extract, Reply.fenced?_eq_none_iff.2 hblock, hm, List.append_assoc,
    Reply.braced?_object m hp hs]
  rfl

include hlevels in
/-- A bare object without a block is found as itself. -/
theorem object?_render (hblock : ¬ Reply.HoldsBlock (Json.render .compact 0 (.obj fields))) :
    object? (Json.render .compact 0 (.obj fields)) = some (.obj fields) := by
  have hbare : [] ++ Json.render .compact 0 (.obj fields) ++ []
      = Json.render .compact 0 (.obj fields) := List.append_nil _
  rw [← hbare]
  refine object?_braced hplain hlevels List.not_mem_nil List.not_mem_nil ?_
  rwa [hbare]

/-- A bare object is not read when a block stands in it: what is read is another document. -/
theorem object?_ne_of_holdsBlock
    (h : Reply.HoldsBlock (Json.render .compact 0 (.obj fields))) :
    object? (Json.render .compact 0 (.obj fields)) ≠ some (.obj fields) := by
  intro hobject
  obtain ⟨before, skipped, text, after, hfound, hsplit, hskipped⟩ := Reply.fenced?_of_holdsBlock h
  have hextract : Reply.extract (Json.render .compact 0 (.obj fields)) = text := by
    rw [Reply.extract, hfound]
    rfl
  have hmarks : ∀ l ∈ skipped, l ≠ char '"' ∧ l ≠ char '\\' := fun l hl => by
    have h := hskipped l hl
    constructor
    · rintro rfl
      exact absurd h (by decide)
    · rintro rfl
      exact absurd h (by decide)
  -- The last backtick of the fence is the one that stands before the text.
  have hrender : Json.render .compact 0 (.obj fields)
      = (before ++ [char '\x60', char '\x60']) ++ char '\x60' :: (skipped ++ text) ++ after := by
    rw [hsplit]
    simp [Reply.fence]
  have hother := Json.readWithin_ne_of_backtick hplain hmarks hrender Json.maxDepth
  rw [object?, hextract] at hobject
  cases hread : Json.readWithin Json.maxDepth text with
  | error e =>
    rw [hread] at hobject
    cases hobject
  | ok w =>
    rw [hread] at hobject hother
    cases w with
    | obj found => exact hother (congrArg Except.ok (Option.some.inj hobject))
    | _ => cases hobject

end

/-! ### Replies around an object -/

/-- **An object is read from a block in a reply, and from between other characters.** The block may
have a tag, and anything may stand behind it. Without a block, no brace may stand around the
object on the sides where the search for braces starts. -/
theorem reads_object_in_reply (names : Nat → String) (taken : Nat) {fields : Fields Letters}
    (hplain : Json.isPlain (.obj fields) = true) (hlevels : Json.levels (.obj fields) ≤ 400) :
    let v := Json.obj fields
    let text := Json.render .compact 0 v
    (∀ p tag s : Letters, char '\x60' ∉ p → (∀ c ∈ tag, Reply.isTag c = true) →
      ¬ Reply.fence <:+: text →
        Reads names taken (p ++ "```" ++ tag ++ "\n" ++ text ++ "\n```" ++ s) v) ∧
    ∀ p s : Letters, char '\x7b' ∉ p → char '\x7d' ∉ s →
      ¬ Reply.HoldsBlock (p ++ text ++ s) → Reads names taken (p ++ text ++ s) v := by
  intro v text
  constructor
  · intro p tag s hp htag htext
    exact reads_of_object? names taken (object?_fenced hplain hlevels hp htag htext s)
  · intro p s hp hs hblock
    exact reads_of_object? names taken (object?_braced hplain hlevels hp hs hblock)

/-- An object with braces and backticks in its texts, in a block behind a greeting and in a line of
prose. -/
theorem reads_object_in_reply_with_note :
    let fields : Fields Letters :=
      [("summary", .str "Adds a step"), ("notes", .arr [.str "Set `id` to \x7b\x7d", .str " "])]
    let text := Json.render .compact 0 (.obj fields)
    let names : Nat → String := fun _ => "name"
    Json.isPlain (.obj fields) = true ∧ Json.levels (.obj fields) ≤ 400 ∧
      Reads names 0 ("Hello!\n" ++ "```" ++ "json" ++ "\n" ++ text ++ "\n```" ++ "\nBye \x7d!")
        (.obj fields) ∧
      Reads names 0 ("Hello! " ++ text ++ " Bye!") (.obj fields) := by
  intro fields text names
  have hplain : Json.isPlain (.obj fields) = true := by decide
  have hlevels : Json.levels (.obj fields) ≤ 400 := by decide
  have hfence : ¬ Reply.fence <:+: text := by
    rw [← Text.cutAt_eq_none_iff]
    rfl
  have htag : ∀ l ∈ Letters.ofString "json", Reply.isTag l = true :=
    List.all_eq_true.1 (by decide)
  have hblock : ¬ Reply.HoldsBlock ("Hello! " ++ text ++ " Bye!") := by
    rw [← Reply.fenced?_eq_none_iff]
    rfl
  have hreads := reads_object_in_reply names 0 hplain hlevels
  exact ⟨hplain, hlevels,
    hreads.1 "Hello!\n" "json" "\nBye \x7d!" (by decide) htag hfence,
    hreads.2 "Hello! " " Bye!" (by decide) (by decide) hblock⟩

/-! ### Bare objects -/

/-- **A bare object is read as itself exactly when no block stands in it.** The object that is found
in the reply is the one that was written, and the suggestion says what it says. -/
theorem reads_bare_object_iff (names : Nat → String) (taken : Nat) {fields : Fields Letters}
    (hplain : Json.isPlain (.obj fields) = true) (hlevels : Json.levels (.obj fields) ≤ 400) :
    let v := Json.obj fields
    let text := Json.render .compact 0 v
    (¬ Reply.HoldsBlock text → Reads names taken text v) ∧
      (object? text = some v ↔ ¬ Reply.HoldsBlock text) := by
  intro v text
  have hread : ¬ Reply.HoldsBlock text → object? text = some v := object?_render hplain hlevels
  refine ⟨fun hblock => reads_of_object? names taken (hread hblock), ?_, hread⟩
  intro hobject hblock
  exact object?_ne_of_holdsBlock hplain hblock hobject

/-- A bare object with braces in its summary, and no block. -/
theorem reads_bare_object_without_block :
    let fields : Fields Letters :=
      [("summary", .str "Returns \x7b\x7d"), ("workflow", .obj [("nodes", .arr [])])]
    let text := Json.render .compact 0 (.obj fields)
    let names : Nat → String := fun _ => "name"
    Json.isPlain (.obj fields) = true ∧ Json.levels (.obj fields) ≤ 400 ∧
      Reads names 0 text (.obj fields) ∧ object? text = some (.obj fields) := by
  intro fields text names
  have hplain : Json.isPlain (.obj fields) = true := by decide
  have hlevels : Json.levels (.obj fields) ≤ 400 := by decide
  have hblock : ¬ Reply.HoldsBlock text := by
    rw [← Reply.fenced?_eq_none_iff]
    rfl
  have hreads := reads_bare_object_iff names 0 hplain hlevels
  exact ⟨hplain, hlevels, hreads.1 hblock, hreads.2.2 hblock⟩

/-- The summary of a bare object holds a block. The block is read in place of the object, the
suggestion is not degraded, and the workflow is lost. -/
theorem bare_object_with_block_is_lost :
    let fields : Fields Letters :=
      [("summary", .str "Returns ```\x7b\x7d```"), ("workflow", .obj [("nodes", .arr [])])]
    let text := Json.render .compact 0 (.obj fields)
    let names : Nat → String := fun _ => "name"
    Json.isPlain (.obj fields) = true ∧ Json.levels (.obj fields) ≤ 400 ∧
      (parseFrom names 0 text).1.degraded = false ∧
      (parseFrom names 0 text).1.workflow = .obj [] ∧ ¬ Reads names 0 text (.obj fields) := by
  intro fields text names
  have hobject : object? text = some (.obj []) := rfl
  have hparse : parseFrom names 0 text = ofObject names 0 text (.obj []) := by
    rw [parseFrom, hobject]
  refine ⟨by decide, by decide, by rw [hparse]; rfl, by rw [hparse]; rfl, fun hreads => ?_⟩
  have hworkflow := hreads.workflow
  rw [hparse] at hworkflow
  cases hworkflow

end FlowDraft.Suggestion
