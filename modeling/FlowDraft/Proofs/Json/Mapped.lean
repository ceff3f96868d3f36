import FlowDraft.Json.Levels
import FlowDraft.Json.Reader

/-!
# `FlowDraft.Proofs.Json.Mapped`: documents with other texts

`Json.map` puts other texts in the place of the texts of a document and keeps everything else: the
levels of a document (`levels_map`), and the order of its fields (`keys_mapFields`). A document
whose texts are strings is got back from the same document with `Letters` as its texts
(`map_shown_map_ofString`), and that is how strings are read (`read_of_readWithin`).
-/

set_option autoImplicit false

namespace FlowDraft.Json

section
variable {σ τ : Type} (f : σ → τ)

theorem keys_mapFields (fields : Fields σ) :
    Fields.keys (mapFields f fields) = (Fields.keys fields).map f := by
  induction fields with
  | nil => rfl
  | cons field rest ih =>
    obtain ⟨k, v⟩ := field
    exact congrArg (f k :: ·) ih

mutual

/-- Other texts leave the levels of a document as they are. -/
theorem levels_map (v : Json σ) : levels (map f v) = levels v := by
  cases v with
  | arr items => exact itemLevels_mapItems items
  | obj fields => exact fieldLevels_mapFields fields
  | _ => rfl

theorem itemLevels_mapItems (items : List (Json σ)) :
    itemLevels (mapItems f items) = itemLevels items := by
  cases items with
  | nil => rfl
  | cons v vs => rw [mapItems, itemLevels, itemLevels, levels_map v, itemLevels_mapItems vs]

theorem fieldLevels_mapFields (fields : List (σ × Json σ)) :
    fieldLevels (mapFields f fields) = fieldLevels fields := by
  cases fields with
  | nil => rfl
  | cons field rest =>
    obtain ⟨k, v⟩ := field
    rw [mapFields, fieldLevels, fieldLevels, levels_map v, fieldLevels_mapFields rest]

end

end

section
variable {σ τ : Type} {f : σ → τ} {g : τ → σ}

mutual

/-- Texts that are taken back give the document back. -/
theorem map_map_of_leftInverse (h : ∀ s, g (f s) = s) (v : Json σ) : map g (map f v) = v := by
  cases v with
  | str s => exact congrArg str (h s)
  | arr items => exact congrArg arr (mapItems_mapItems_of_leftInverse h items)
  | obj fields => exact congrArg obj (mapFields_mapFields_of_leftInverse h fields)
  | _ => rfl

theorem mapItems_mapItems_of_leftInverse (h : ∀ s, g (f s) = s) (items : List (Json σ)) :
    mapItems g (mapItems f items) = items := by
  cases items with
  | nil => rfl
  | cons v vs =>
    rw [mapItems, mapItems, map_map_of_leftInverse h v, mapItems_mapItems_of_leftInverse h vs]

theorem mapFields_mapFields_of_leftInverse (h : ∀ s, g (f s) = s) (fields : List (σ × Json σ)) :
    mapFields g (mapFields f fields) = fields := by
  cases fields with
  | nil => rfl
  | cons field rest =>
    obtain ⟨k, v⟩ := field
    rw [mapFields, mapFields, h k, map_map_of_leftInverse h v,
      mapFields_mapFields_of_leftInverse h rest]

end

end

/-- A document is got back from the letters of its texts. -/
theorem map_shown_map_ofString (v : Json) : map Letters.shown (map Letters.ofString v) = v :=
  map_map_of_leftInverse Letters.shown_ofString v

/-- A string denotes a document if its letters denote the letters of the document. -/
theorem read_of_readWithin {s : String} {v : Json}
    (h : readWithin maxDepth s = .ok (v.map Letters.ofString)) : read s = .ok v := by
  rw [read, h]
  exact congrArg Except.ok (map_shown_map_ofString v)

end FlowDraft.Json
