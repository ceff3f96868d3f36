import FlowDraft.Label.Profile
import Mathlib.Data.List.Basic

/-!
# `FlowDraft.Proofs.Label.Stored`: profiles that are stored and read back

Reading passes over empty labels and empty triggers, so `Storable` says that a profile has none.
Such a profile is read back as it was stored (`ofJson?_toJson`). The tables of keywords have no
empty labels, so every profile that `classify` gives is one (`storable_classify`), and so is every
profile that is read from an object (`storable_of_ofJson?`), whatever the object holds.
-/

set_option autoImplicit false

namespace FlowDraft

/-- The code points of a text. -/
def Text.codes (s : String) : List Nat :=
  s.toList.map Char.toNat

/-- Texts are in order when their code points are. -/
theorem Text.codes_lt_of_lt {a b : String} (h : a < b) : codes a < codes b := by
  have hmap : ∀ {cs ds : List Char}, List.Lex (· < ·) cs ds →
      List.Lex (· < ·) (cs.map Char.toNat) (ds.map Char.toNat) := by
    intro cs ds hlex
    induction hlex with
    | nil => exact .nil
    | rel hlt => exact .rel hlt
    | cons _ ih => exact .cons ih
  exact hmap h

theorem Json.nonEmptyText?_eq_some_iff {v : Json} {s : String} :
    v.nonEmptyText? = some s ↔ s ≠ "" ∧ v = .str s := by
  cases v with
  | str t =>
    show (some t).filter _ = some s ↔ _
    rw [Option.filter_eq_some_iff]
    constructor
    · rintro ⟨ht, hne⟩
      obtain rfl := Option.some.inj ht
      exact ⟨by simpa using hne, rfl⟩
    · rintro ⟨hne, ht⟩
      obtain rfl := Json.str.inj ht
      exact ⟨rfl, by simpa using hne⟩
  | _ => simp [nonEmptyText?, text?]

namespace Profile

/-- None of the labels is empty, nor is the trigger. -/
structure Storable (p : Profile) : Prop where
  industries : "" ∉ p.industries.toList
  domains : "" ∉ p.domains.toList
  channels : "" ∉ p.channels.toList
  trigger : p.trigger ≠ some ""

/-- Labels that are not empty are read back from the list of them. -/
theorem labelsOf_ofTexts {s : LabelSet} (h : "" ∉ s.toList) :
    labelsOf (.ofTexts s.toList) = s := by
  have hread : ∀ label ∈ s.toList, (Json.str label).nonEmptyText? = some label := by
    intro label hlabel
    have hne : label ≠ "" := fun hempty => h (hempty ▸ hlabel)
    show (some label).filter _ = some label
    simp [Option.filter, hne]
  have hall : (s.toList.map Json.str).filterMap Json.nonEmptyText? = s.toList := by
    rw [List.filterMap_map]
    exact (List.filterMap_congr hread).trans List.filterMap_some
  show LabelSet.ofList ((s.toList.map Json.str).filterMap Json.nonEmptyText?) = s
  rw [hall]
  exact LabelSet.ext_mem fun label => LabelSet.mem_ofList

/-- What is read from a stored profile, field by field. -/
theorem ofJson?_toJson_eq (p : Profile) :
    ofJson? p.toJson = some {
      industries := labelsOf (.ofTexts p.industries.toList)
      domains := labelsOf (.ofTexts p.domains.toList)
      channels := labelsOf (.ofTexts p.channels.toList)
      trigger := p.trigger? } := by
  rw [toJson]
  -- The trigger is the one field that may be missing.
  cases htrigger : p.trigger? with
  | none => rfl
  | some t =>
    have htext : (Json.str t).nonEmptyText? = some t := by
      obtain ⟨-, hne⟩ := Option.filter_eq_some_iff.1 htrigger
      exact Option.filter_eq_some_iff.2 ⟨rfl, hne⟩
    exact congrArg (fun trigger => some (Profile.mk _ _ _ trigger)) htext

/-- A stored profile is read back as it was. -/
theorem ofJson?_toJson {p : Profile} (h : p.Storable) : ofJson? p.toJson = some p := by
  have htrigger : p.trigger? = p.trigger := by
    rw [trigger?]
    cases ht : p.trigger with
    | none => rfl
    | some t =>
      have hne : t ≠ "" := fun hempty => h.trigger (hempty ▸ ht)
      simp [Option.filter, hne]
  rw [ofJson?_toJson_eq, labelsOf_ofTexts h.industries, labelsOf_ofTexts h.domains,
    labelsOf_ofTexts h.channels, htrigger]

/-! ### What is read from an object -/

/-- The labels that are read are the texts of a list, without the empty one. -/
theorem mem_labelsOf {v : Json} {label : String} :
    label ∈ (labelsOf v).toList ↔ label ≠ "" ∧ ∃ items, v = .arr items ∧ .str label ∈ items := by
  rw [labelsOf, LabelSet.mem_ofList, List.mem_filterMap]
  simp only [Json.nonEmptyText?_eq_some_iff]
  cases v with
  | arr items =>
    constructor
    · rintro ⟨item, hitem, hne, rfl⟩
      exact ⟨hne, items, rfl, hitem⟩
    · rintro ⟨hne, items', hitems, hlabel⟩
      cases hitems
      exact ⟨_, hlabel, hne, rfl⟩
  | _ => simp [Json.items?]

theorem labelsOf_hasNoEmpty (v : Json) : "" ∉ (labelsOf v).toList :=
  fun h => (mem_labelsOf.1 h).1 rfl

/-- A profile that is read can be stored again. -/
theorem storable_of_ofJson? {v : Json} {p : Profile} (h : ofJson? v = some p) : p.Storable := by
  cases v with
  | obj fields =>
    obtain rfl := Option.some.inj h
    refine ⟨labelsOf_hasNoEmpty _, labelsOf_hasNoEmpty _, labelsOf_hasNoEmpty _, fun htrigger => ?_⟩
    exact (Json.nonEmptyText?_eq_some_iff.1 htrigger).1 rfl
  | _ => cases h

/-- What is stored under the names of the three categories. -/
theorem field_toJson (p : Profile) :
    p.toJson.field "industries" = .ofTexts p.industries.toList ∧
      p.toJson.field "domains" = .ofTexts p.domains.toList ∧
      p.toJson.field "channels" = .ofTexts p.channels.toList := by
  rw [toJson]
  cases p.trigger? <;> exact ⟨rfl, rfl, rfl⟩

/-- A list holds the texts of a value without the empty one, each once and in the order of their
code points. -/
structure ListsLabels (v : Json) (labels : List String) : Prop where
  rising : labels.Pairwise fun a b => Text.codes a < Text.codes b
  mem_iff : ∀ label, label ∈ labels ↔ label ≠ "" ∧ ∃ items, v = .arr items ∧ .str label ∈ items

theorem listsLabels_labelsOf (v : Json) : ListsLabels v (labelsOf v).toList :=
  ⟨(labelsOf v).increasing.imp Text.codes_lt_of_lt, fun _ => mem_labelsOf⟩

/-- **Profiles that are stored.** A profile without empty labels and without an empty trigger is
read back as it was stored. From any object such a profile is read: its categories are the texts of
the lists there, and its trigger is a text. Of other values nothing is taken. It is stored as three
lists in rising order, and reading them and storing them once more changes nothing. -/
theorem storage_is_lossless :
    (∀ p : Profile, p.Storable → ofJson? p.toJson = some p) ∧
      ∀ fields : Fields, ∃ p, ofJson? (.obj fields) = some p ∧ p.Storable ∧
        (∀ category ∈ ["industries", "domains", "channels"], ∃ labels,
          p.toJson.field category = .ofTexts labels ∧
            ListsLabels ((Json.obj fields).field category) labels) ∧
        (∀ t, p.trigger = some t ↔ t ≠ "" ∧ (Json.obj fields).field "trigger" = .str t) ∧
        ofJson? p.toJson = some p ∧ (ofJson? p.toJson).map toJson = some p.toJson := by
  refine ⟨fun p hp => ofJson?_toJson hp, fun fields => ?_⟩
  obtain ⟨p, hread⟩ : ∃ p, ofJson? (.obj fields) = some p := ⟨_, rfl⟩
  have hstorable := storable_of_ofJson? hread
  have hback := ofJson?_toJson hstorable
  obtain ⟨hindustries, hdomains, hchannels⟩ := field_toJson p
  refine ⟨p, hread, hstorable, ?_, ?_, hback, by rw [hback, Option.map_some]⟩
  · obtain rfl := Option.some.inj hread
    simp only [List.forall_mem_cons, List.not_mem_nil, false_imp_iff, implies_true, and_true]
    exact ⟨⟨_, hindustries, listsLabels_labelsOf _⟩, ⟨_, hdomains, listsLabels_labelsOf _⟩,
      ⟨_, hchannels, listsLabels_labelsOf _⟩⟩
  · obtain rfl := Option.some.inj hread
    exact fun t => Json.nonEmptyText?_eq_some_iff

/-- A profile with labels of two scripts and a trigger that no table has, and an object with little
that can be read: a text where a list should be, items that are doubled, empty or no texts, and an
empty trigger. -/
theorem storage_is_lossless_of_odd_labels :
    let p : Profile := ⟨.ofList ["日本", "Éa", " "], .empty, .ofList ["x"], some "\u0130"⟩
    let fields : Fields :=
      [("industries", .str "retail"), ("domains", .arr [.str "b", .int 1, .str "", .str "a", .str "b"]),
        ("trigger", .str ""), ("note", .null)]
    p.Storable ∧ ofJson? p.toJson = some p ∧
      ∃ q, ofJson? (.obj fields) = some q ∧ q.trigger = none ∧
        q.toJson.field "domains" = .ofTexts ["a", "b"] ∧ ofJson? q.toJson = some q := by
  intro p fields
  have hp : p.Storable := by constructor <;> decide
  obtain ⟨hback, hread⟩ := storage_is_lossless
  obtain ⟨q, hq, -, -, -, hagain, -⟩ := hread fields
  refine ⟨hp, hback p hp, q, hq, ?_, ?_, hagain⟩
  · obtain rfl := Option.some.inj hq
    decide
  · obtain rfl := Option.some.inj hq
    rfl

end Profile

namespace Label

/-- The labels of a text are labels of the table. -/
theorem mem_of_mem_matching {table : KeywordTable} {lowered : List Char} {label : String}
    (h : label ∈ (matching table lowered).toList) : label ∈ table.map (·.1) := by
  obtain ⟨row, hrow, rfl⟩ := List.mem_map.1 (LabelSet.mem_ofList.1 h)
  exact List.mem_map_of_mem (List.mem_filter.1 hrow).1

theorem mem_of_firstMatching? {table : KeywordTable} {lowered : List Char} {label : String}
    (h : firstMatching? table lowered = some label) : label ∈ table.map (·.1) := by
  obtain ⟨row, hrow, rfl⟩ := Option.map_eq_some_iff.1 h
  exact List.mem_map_of_mem (List.mem_of_find?_eq_some hrow)

end Label

open Label

/-- The profile of a text has no empty labels. -/
theorem storable_classify (text : String) : (classify text).Storable where
  industries h := absurd (mem_of_mem_matching h) (by decide)
  domains h := absurd (mem_of_mem_matching h) (by decide)
  channels h := absurd (mem_of_mem_matching h) (by decide)
  trigger h := absurd (mem_of_firstMatching? h) (by decide)

end FlowDraft
