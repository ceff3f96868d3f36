import FlowDraft.Proofs.Json.RoundTrip

/-!
# `FlowDraft.Proofs.Json.Texts`: the texts of a document

`Json.texts` lists the texts of a document, the names of its fields included. Reading adds none: a
text of the document that tokens make up is a text of one of them (`texts_ofTokens`).
-/

set_option autoImplicit false

namespace FlowDraft.Json

section
variable {τ : Type}

theorem itemTexts_eq (items : List (Json τ)) : itemTexts items = items.flatMap texts := by
  induction items with
  | nil => rfl
  | cons v vs ih => rw [itemTexts, ih, List.flatMap_cons]

/-- A field that is put brings its name and its texts. -/
theorem mem_fieldTexts_put [DecidableEq τ] {s name : τ} {value : Json τ} {fields : Fields τ}
    (h : s ∈ fieldTexts (Fields.put name value fields)) :
    s = name ∨ s ∈ texts value ∨ s ∈ fieldTexts fields := by
  induction fields with
  | nil => simpa [Fields.put, fieldTexts] using h
  | cons f rest ih =>
    obtain ⟨k, v⟩ := f
    rw [Fields.put] at h
    split at h
    · simp only [fieldTexts, List.mem_cons, List.mem_append] at h ⊢
      rcases h with h | h | h
      · exact .inr (.inr (.inl h))
      · exact .inr (.inl h)
      · exact .inr (.inr (.inr (.inr h)))
    · simp only [fieldTexts, List.mem_cons, List.mem_append] at h ⊢
      rcases h with h | h | h
      · exact .inr (.inr (.inl h))
      · exact .inr (.inr (.inr (.inl h)))
      · rcases ih h with h | h | h
        · exact .inl h
        · exact .inr (.inl h)
        · exact .inr (.inr (.inr (.inr h)))

section
variable {σ : Type} (f : σ → τ)

mutual

/-- The texts of a document with other texts. -/
theorem texts_map (v : Json σ) : texts (map f v) = (texts v).map f := by
  cases v with
  | arr items => exact itemTexts_mapItems items
  | obj fields => exact fieldTexts_mapFields fields
  | _ => rfl

theorem itemTexts_mapItems (items : List (Json σ)) :
    itemTexts (mapItems f items) = (itemTexts items).map f := by
  cases items with
  | nil => rfl
  | cons v vs =>
    rw [mapItems, itemTexts, itemTexts, texts_map v, itemTexts_mapItems vs, List.map_append]

theorem fieldTexts_mapFields (fields : List (σ × Json σ)) :
    fieldTexts (mapFields f fields) = (fieldTexts fields).map f := by
  cases fields with
  | nil => rfl
  | cons field rest =>
    obtain ⟨k, v⟩ := field
    rw [mapFields, fieldTexts, fieldTexts, texts_map v, fieldTexts_mapFields rest, List.map_cons,
      List.map_append]

end

end

end

/-! ### Reading -/

/-- The texts of a token. -/
def Token.texts : Token → List Letters
  | .text s => [s]
  | .value v => v.texts
  | _ => []

/-- The texts of what was read around a value. -/
def Frame.texts : Frame → List Letters
  | .list items => itemTexts items
  | .object fields name => name :: fieldTexts fields

namespace Reading

/-- The texts of what was read. -/
def texts : Reading → List Letters
  | .atValue stack | .atFirstItem stack | .atFirstName stack => stack.flatMap Frame.texts
  | .behindItem items stack => itemTexts items ++ stack.flatMap Frame.texts
  | .atName fields stack | .behindField fields stack =>
    fieldTexts fields ++ stack.flatMap Frame.texts
  | .atColon fields name stack => name :: (fieldTexts fields ++ stack.flatMap Frame.texts)
  | .done v => v.texts

/-- A value that takes its place brings its texts. -/
theorem texts_place (v : Json Letters) (stack : List Frame) :
    (place v stack).texts ⊆ v.texts ++ stack.flatMap Frame.texts := by
  intro s hs
  cases stack with
  | nil => simpa [place, texts] using hs
  | cons frame stack =>
    cases frame with
    | list items => simpa [place, texts, Frame.texts, itemTexts] using hs
    | object fields name =>
      simp only [place, texts, List.mem_append] at hs
      simp only [List.flatMap_cons, Frame.texts, List.mem_append, List.mem_cons]
      rcases hs with hs | hs
      · rcases mem_fieldTexts_put hs with hs | hs | hs
        · exact .inr (.inl (.inl hs))
        · exact .inl hs
        · exact .inr (.inl (.inr hs))
      · exact .inr (.inr hs)

/-- A token where a value is due adds no text but its own. -/
theorem texts_start {limit : Nat} {stack : List Frame} {t : Token} {q : Reading}
    (h : start limit stack t = .ok q) : q.texts ⊆ t.texts ++ stack.flatMap Frame.texts := by
  have hnest : ∀ opened, nest limit stack opened = .ok q →
      opened.texts = stack.flatMap Frame.texts → q.texts ⊆ stack.flatMap Frame.texts := by
    intro opened hnest htexts
    rw [nest] at hnest
    split at hnest
    · cases hnest
      rw [htexts]
      exact List.Subset.refl _
    · cases hnest
  cases t with
  | text s =>
    cases h
    exact texts_place (.str s) stack
  | value v =>
    cases h
    exact texts_place v stack
  | mark m =>
    cases m with
    | openList => exact hnest _ h rfl
    | openObject => exact hnest _ h rfl
    | _ => cases h
  | oversized n => cases h
  | broken => cases h

/-- A token adds no text but its own. -/
theorem texts_step {limit : Nat} {r q : Reading} {t : Token} (h : step limit r t = .ok q) :
    q.texts ⊆ t.texts ++ r.texts := by
  -- A token that closes a list or an object puts it in its place; others only move the place.
  cases r with
  | atValue stack => exact texts_start h
  | atFirstItem stack =>
    by_cases ht : t = .mark .closeList
    · subst ht
      cases h
      exact texts_place (.arr []) stack
    · have hstart : start limit (.list [] :: stack) t = .ok q := (step_atFirstItem ht).symm.trans h
      have htexts := texts_start hstart
      exact htexts
  | behindItem items stack =>
    cases t with
    | mark m =>
      cases m with
      | comma =>
        cases h
        exact List.Subset.refl _
      | closeList =>
        cases h
        intro s hs
        have hplace := texts_place (.arr items.reverse) stack hs
        simpa [Json.texts, texts, itemTexts_eq, Token.texts] using hplace
      | _ => cases h
    | _ => cases h
  | atFirstName stack =>
    cases t with
    | mark m =>
      cases m with
      | closeObject =>
        cases h
        exact texts_place (.obj []) stack
      | _ => cases h
    | text s =>
      cases h
      exact List.Subset.refl _
    | _ => cases h
  | atName fields stack =>
    cases t with
    | text s =>
      cases h
      exact List.Subset.refl _
    | _ => cases h
  | atColon fields name stack =>
    cases t with
    | mark m =>
      cases m with
      | colon =>
        cases h
        exact List.Subset.refl _
      | _ => cases h
    | _ => cases h
  | behindField fields stack =>
    cases t with
    | mark m =>
      cases m with
      | comma =>
        cases h
        exact List.Subset.refl _
      | closeObject =>
        cases h
        exact texts_place (.obj fields) stack
      | _ => cases h
    | _ => cases h
  | done v => cases h

/-- Tokens add no texts but their own. -/
theorem texts_foldlM {limit : Nat} {r q : Reading} {tokens : List Token}
    (h : tokens.foldlM (step limit) r = .ok q) :
    q.texts ⊆ tokens.flatMap Token.texts ++ r.texts := by
  induction tokens generalizing r with
  | nil =>
    cases h
    exact List.Subset.refl _
  | cons t ts ih =>
    cases hstep : step limit r t with
    | error e =>
      rw [List.foldlM_cons, hstep] at h
      cases h
    | ok r' =>
      rw [foldlM_cons_ok hstep] at h
      intro s hs
      have hts := ih h hs
      rw [List.flatMap_cons, List.append_assoc]
      rcases List.mem_append.1 hts with hts | hr
      · exact List.mem_append_right _ (List.mem_append_left _ hts)
      · rcases List.mem_append.1 (texts_step hstep hr) with ht | hr
        · exact List.mem_append_left _ ht
        · exact List.mem_append_right _ (List.mem_append_right _ hr)

end Reading

/-- A text of the document that tokens make up is a text of one of them. -/
theorem texts_ofTokens {limit : Nat} {tokens : List Token} {v : Json Letters}
    (h : ofTokens limit tokens = .ok v) : v.texts ⊆ tokens.flatMap Token.texts := by
  rw [ofTokens] at h
  cases hread : tokens.foldlM (Reading.step limit) (.atValue []) with
  | error e =>
    rw [hread] at h
    cases h
  | ok q =>
    rw [hread] at h
    cases q with
    | done w =>
      cases h
      have htexts := Reading.texts_foldlM hread
      rw [Reading.texts, List.flatMap_nil, List.append_nil] at htexts
      exact htexts
    | _ => cases h

end FlowDraft.Json
