import FlowDraft.Json.Basic

/-!
# `FlowDraft.Json.Finite`: documents without infinite numbers

Documents that are sent to others hold finite numbers only. `Json.toFinite` puts null in place of
every number that is not finite.

* `isFinite_toFinite`: what `toFinite` gives holds finite numbers only.
-/

set_option autoImplicit false

namespace FlowDraft.Json

section
variable {τ : Type}

mutual

/-- Every number in the document is finite. -/
def isFinite : Json τ → Bool
  | .float x => x.isFinite
  | .arr items => areFinite items
  | .obj fields => holdFinite fields
  | _ => true

/-- Every number in the items is finite. -/
def areFinite : List (Json τ) → Bool
  | [] => true
  | v :: vs => isFinite v && areFinite vs

/-- Every number in the fields is finite. -/
def holdFinite : List (τ × Json τ) → Bool
  | [] => true
  | (_, v) :: fs => isFinite v && holdFinite fs

end

mutual

/-- The document with null in place of every number that is not finite. -/
def toFinite : Json τ → Json τ
  | .float x => if x.isFinite then .float x else .null
  | .arr items => .arr (itemsToFinite items)
  | .obj fields => .obj (fieldsToFinite fields)
  | v => v

/-- The items with null in place of every number that is not finite. -/
def itemsToFinite : List (Json τ) → List (Json τ)
  | [] => []
  | v :: vs => toFinite v :: itemsToFinite vs

/-- The fields with null in place of every number that is not finite. -/
def fieldsToFinite : List (τ × Json τ) → List (τ × Json τ)
  | [] => []
  | (k, v) :: fs => (k, toFinite v) :: fieldsToFinite fs

end

mutual

/-- What `toFinite` gives holds finite numbers only. -/
theorem isFinite_toFinite (v : Json τ) : isFinite (toFinite v) = true := by
  cases v with
  | float x =>
    simp only [toFinite]
    split
    · next h => simpa [isFinite] using h
    · rfl
  | arr items => simpa [toFinite, isFinite] using areFinite_itemsToFinite items
  | obj fields => simpa [toFinite, isFinite] using holdFinite_fieldsToFinite fields
  | null => rfl
  | bool b => rfl
  | int n => rfl
  | str s => rfl

theorem areFinite_itemsToFinite (vs : List (Json τ)) : areFinite (itemsToFinite vs) = true := by
  cases vs with
  | nil => rfl
  | cons v vs => simp [itemsToFinite, areFinite, isFinite_toFinite v, areFinite_itemsToFinite vs]

theorem holdFinite_fieldsToFinite (fs : List (τ × Json τ)) :
    holdFinite (fieldsToFinite fs) = true := by
  cases fs with
  | nil => rfl
  | cons f fs =>
    obtain ⟨k, v⟩ := f
    simp [fieldsToFinite, holdFinite, isFinite_toFinite v, holdFinite_fieldsToFinite fs]

end

end

end FlowDraft.Json
