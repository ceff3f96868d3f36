import FlowDraft.Proofs.Json.Parsing
import FlowDraft.Reply.Suggestion

/-!
# `FlowDraft.Proofs.Reply.Degraded`: which replies are not understood

A reply is understood when the document that is looked for in it is an object of the grammar, and
then the suggestion is made of that object. Any other reply gives the one suggestion that asks for a
review. Reading a reply gives one of the two, whatever stands in it (`parseFrom_cases`).
-/

set_option autoImplicit false

namespace FlowDraft

/-- Every document that the text is has at most so many lists and objects inside each other. -/
def Json.Grammar.NestedWithin (levels : Nat) (cs : Letters) : Prop :=
  ∀ n v, Derives n cs (.element v) → Derives levels cs (.element v)

/-- A text that is read within some number of levels is nested within it, because no number of
levels gives another document. -/
theorem Json.Grammar.nestedWithin_of_readWithin {levels : Nat} {cs : Letters} {v : Json Letters}
    (h : readWithin levels cs = .ok v) : NestedWithin levels cs := by
  intro n w hw
  have hv := readWithin_eq_ok_iff.1 h
  have hsame := (hv.readWithin (Nat.le_max_left levels n)).symm.trans
    (hw.readWithin (Nat.le_max_right levels n))
  rw [← Except.ok.inj hsame]
  exact hv

namespace Suggestion

open Json.Grammar (Derives NestedWithin)

/-- An object is found in a reply when the document in it is one. -/
theorem object?_eq_some_iff {raw : Letters} {v : Json Letters} :
    object? raw = some v ↔ ∃ fields, v = .obj fields ∧
      Derives Json.maxDepth (Reply.extract raw) (.element (.obj fields)) := by
  rw [object?]
  constructor
  · intro h
    cases hread : Json.readWithin Json.maxDepth (Reply.extract raw) with
    | error e =>
      rw [hread] at h
      cases h
    | ok w =>
      rw [hread] at h
      cases w with
      | obj fields => exact ⟨fields, (Option.some.inj h).symm, Json.readWithin_eq_ok_iff.1 hread⟩
      | _ => cases h
  · rintro ⟨fields, rfl, h⟩
    rw [Json.readWithin_eq_ok_iff.2 h]
    rfl

/-- A reply is read as the object in it, or it asks for a review. -/
theorem parseFrom_cases (names : Nat → String) (taken : Nat) (raw : Letters) :
    (∃ fields, object? raw = some (.obj fields) ∧
        parseFrom names taken raw = ofObject names taken raw (.obj fields)) ∨
      object? raw = none ∧ parseFrom names taken raw = (unparsed raw, taken) := by
  rw [parseFrom]
  cases hobject : object? raw with
  | none => exact .inr ⟨rfl, rfl⟩
  | some v =>
    obtain ⟨fields, rfl, -⟩ := object?_eq_some_iff.1 hobject
    exact .inl ⟨fields, rfl, rfl⟩

/-- **A reply is understood exactly when the document in it is an object of the grammar.** Then the
suggestion is made of that object. The suggestion of any other reply is always the same one, apart
from the reply that it carries. -/
theorem understood_iff_object (names : Nat → String) (taken : Nat) (raw : Letters) :
    let document := Reply.extract raw
    let outcome := parseFrom names taken raw
    (NestedWithin 400 document →
      (outcome.1.degraded = false ↔
        ∃ levels fields, Derives levels document (.element (.obj fields))) ∧
      ∀ levels fields, Derives levels document (.element (.obj fields)) →
        outcome = ofObject names taken raw (.obj fields)) ∧
    (outcome.1.degraded = true →
      outcome =
        ({ summary := "AI response (unparsed)"
           workflow := .obj []
           rawText := raw
           notes := some ["Unable to parse the model response. Please review the rawText payload."]
           actions := []
           degraded := true
           traceId := none }, taken)) := by
  intro document outcome
  have hread : NestedWithin 400 document → ∀ levels fields,
      Derives levels document (.element (.obj fields)) →
        outcome = ofObject names taken raw (.obj fields) := by
    intro hnested levels fields h
    -- The reader allows more levels than the text has.
    have hdepth : Derives Json.maxDepth document (.element (.obj fields)) :=
      Json.readWithin_eq_ok_iff.1 ((hnested levels _ h).readWithin (by decide))
    have hobject := object?_eq_some_iff.2 ⟨fields, rfl, hdepth⟩
    show parseFrom names taken raw = _
    rw [parseFrom, hobject]
  refine ⟨fun hnested => ⟨⟨fun hunderstood => ?_, ?_⟩, hread hnested⟩, fun hdegraded => ?_⟩
  · rcases parseFrom_cases names taken raw with ⟨fields, hobject, -⟩ | ⟨-, hunparsed⟩
    · obtain ⟨_, hfields, h⟩ := object?_eq_some_iff.1 hobject
      obtain rfl := Json.obj.inj hfields
      exact ⟨_, _, h⟩
    · have hfalse : (unparsed raw, taken).1.degraded = false := hunparsed ▸ hunderstood
      cases hfalse
  · rintro ⟨levels, fields, h⟩
    rw [hread hnested levels fields h]
    rfl
  · rcases parseFrom_cases names taken raw with ⟨fields, -, hparse⟩ | ⟨-, hunparsed⟩
    · have htrue : (ofObject names taken raw (.obj fields)).1.degraded = true := hparse ▸ hdegraded
      cases htrue
    · exact hunparsed

set_option maxRecDepth 2000 in
/-- An object with a repeated name, an escaped pair behind which a first half stands alone, and
blanks in a line of prose, and a reply without an object. -/
theorem understood_iff_object_in_prose :
    let raw : Letters :=
      "Here: \x7b\"notes\": 1,\t\"summary\" : \"\\ud83d\\ude00\\ud83d\", \"notes\": [-7]\x7d."
    let refusal : Letters := "I cannot do that."
    let names : Nat → String := fun _ => "name"
    NestedWithin 400 (Reply.extract raw) ∧
      (∃ levels fields, Derives levels (Reply.extract raw) (.element (.obj fields))) ∧
      parseFrom names 0 raw = ofObject names 0 raw
        (.obj [("notes", .arr [.int (-7)]), ("summary", .str [.char '😀', .half 0x3d])]) ∧
      (parseFrom names 0 refusal).1.degraded = true ∧
      (parseFrom names 0 refusal).1.notes =
        some [Letters.ofString
          "Unable to parse the model response. Please review the rawText payload."] := by
  intro raw refusal names
  have hfound : Reply.extract raw = Letters.ofString
      "\x7b\"notes\": 1,\t\"summary\" : \"\\ud83d\\ude00\\ud83d\", \"notes\": [-7]\x7d" := by
    decide
  have hread : Json.readWithin 400 (Reply.extract raw)
      = .ok (.obj [("notes", .arr [.int (-7)]), ("summary", .str [.char '😀', .half 0x3d])]) := by
    rw [hfound]
    rfl
  have hnested := Json.Grammar.nestedWithin_of_readWithin hread
  have hderives := Json.readWithin_eq_ok_iff.1 hread
  obtain ⟨hunderstood, hobject⟩ := (understood_iff_object names 0 raw).1 hnested
  have hdegraded : (parseFrom names 0 refusal).1.degraded = true := by
    have hwhole : Reply.extract refusal = refusal := by decide
    have hmalformed : Json.readWithin Json.maxDepth refusal = .error .malformed := rfl
    rw [parseFrom, object?, hwhole, hmalformed]
    rfl
  have hrefused := (understood_iff_object names 0 refusal).2 hdegraded
  refine ⟨hnested, hunderstood.1 ?_, hobject 400 _ hderives, hdegraded, ?_⟩
  · rw [hobject 400 _ hderives]
    rfl
  · rw [hrefused]

end Suggestion

end FlowDraft
