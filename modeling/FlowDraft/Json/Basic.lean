/-!
# `FlowDraft.Json.Basic`: documents

A document is null, a truth value, a whole number of any size, a binary64 number, a text, a list
or an object. The fields of an object stand in a fixed order. Whole numbers and binary64 numbers
are kept apart. The texts of a document are strings, or `Letters` where they may hold halves of
pairs; `Json.map` takes the one for the other. `Json.texts` lists the texts of a document.

* `Fields.get?_put`: a field that was put is the one that is found.
* `Fields.keys_put_of_mem`, `Fields.keys_put_of_not_mem`: putting a field keeps the place of its
  name, and a new name goes to the end.
-/

set_option autoImplicit false

namespace FlowDraft

/-- A document with texts of a type. -/
inductive Json (τ : Type := String) where
  | null
  | bool (b : Bool)
  | int (n : Int)
  | float (x : Float)
  | str (s : τ)
  | arr (items : List (Json τ))
  | obj (fields : List (τ × Json τ))
deriving Inhabited, Repr

/-- The fields of an object, in order. -/
abbrev Fields (τ : Type := String) := List (τ × Json τ)

section
variable {τ : Type}

namespace Fields

/-- The names of the fields, in order. -/
def keys (fields : Fields τ) : List τ :=
  fields.map (·.1)

section
variable [DecidableEq τ]

/-- The value of the first field of that name. -/
def get? (fields : Fields τ) (name : τ) : Option (Json τ) :=
  List.lookup name fields

/-- The field is given a new value in its place, or put at the end if there is none of that
name. -/
def put (name : τ) (value : Json τ) : Fields τ → Fields τ
  | [] => [(name, value)]
  | (k, v) :: rest => if k = name then (k, value) :: rest else (k, v) :: put name value rest

/-- The fields without those of that name. -/
def erase (name : τ) (fields : Fields τ) : Fields τ :=
  fields.filter fun (k, _) => !(k == name)

theorem get?_put (fields : Fields τ) (name : τ) (value : Json τ) :
    get? (put name value fields) name = some value := by
  induction fields with
  | nil => simp [put, get?]
  | cons f rest ih =>
    obtain ⟨k, v⟩ := f
    by_cases h : k = name
    · simp [put, get?, h]
    · have h' : (name == k) = false := by simp [Ne.symm h]
      simpa [put, get?, h, List.lookup_cons, h'] using ih

theorem keys_put_of_mem {fields : Fields τ} {name : τ} (value : Json τ)
    (h : name ∈ keys fields) : keys (put name value fields) = keys fields := by
  induction fields with
  | nil => simp [keys] at h
  | cons f rest ih =>
    obtain ⟨k, v⟩ := f
    by_cases hk : k = name
    · simp [put, keys, hk]
    · have : name ∈ keys rest := by
        simp only [keys, List.map_cons, List.mem_cons] at h
        exact h.resolve_left (Ne.symm hk)
      simpa [put, keys, hk] using ih this

theorem keys_put_of_not_mem {fields : Fields τ} {name : τ} (value : Json τ)
    (h : name ∉ keys fields) : keys (put name value fields) = keys fields ++ [name] := by
  induction fields with
  | nil => simp [put, keys]
  | cons f rest ih =>
    obtain ⟨k, v⟩ := f
    simp only [keys, List.map_cons, List.mem_cons, not_or] at h
    simpa [put, keys, Ne.symm h.1] using ih h.2

end

end Fields

namespace Json

section
variable [DecidableEq τ]

/-- The value of a field, for an object that has it. -/
def field? (v : Json τ) (name : τ) : Option (Json τ) :=
  match v with
  | .obj fields => Fields.get? fields name
  | _ => none

/-- The value of a field. A missing field counts as null. -/
def field (v : Json τ) (name : τ) : Json τ :=
  (v.field? name).getD .null

end

/-- The text of a value that is one. -/
def text? : Json τ → Option τ
  | .str s => some s
  | _ => none

/-- The items of a list. -/
def items? : Json τ → Option (List (Json τ))
  | .arr items => some items
  | _ => none

/-- The fields of an object. -/
def fields? : Json τ → Option (Fields τ)
  | .obj fields => some fields
  | _ => none

/-- The object, if the value is one. -/
def object? : Json τ → Option (Json τ)
  | .obj fields => some (.obj fields)
  | _ => none

/-- The whole number of a value that is one. A truth value is none. -/
def int? : Json τ → Option Int
  | .int n => some n
  | _ => none

/-- A text, or null for none. -/
def ofText? : Option τ → Json τ
  | some s => .str s
  | none => .null

/-- A list of texts. -/
def ofTexts (texts : List τ) : Json τ :=
  .arr (texts.map .str)

/-! ### Texts -/

mutual

/-- The texts of a document, the names of its fields included. -/
def texts : Json τ → List τ
  | .str s => [s]
  | .arr items => itemTexts items
  | .obj fields => fieldTexts fields
  | _ => []

/-- The texts of items. -/
def itemTexts : List (Json τ) → List τ
  | [] => []
  | v :: vs => texts v ++ itemTexts vs

/-- The texts of fields. -/
def fieldTexts : List (τ × Json τ) → List τ
  | [] => []
  | (k, v) :: fs => k :: (texts v ++ fieldTexts fs)

end

section
variable {σ : Type}

mutual

/-- The document with other texts in the place of its texts. -/
def map (f : σ → τ) : Json σ → Json τ
  | .null => .null
  | .bool b => .bool b
  | .int n => .int n
  | .float x => .float x
  | .str s => .str (f s)
  | .arr items => .arr (mapItems f items)
  | .obj fields => .obj (mapFields f fields)

/-- The items with other texts. -/
def mapItems (f : σ → τ) : List (Json σ) → List (Json τ)
  | [] => []
  | v :: vs => map f v :: mapItems f vs

/-- The fields with other texts. -/
def mapFields (f : σ → τ) : List (σ × Json σ) → List (τ × Json τ)
  | [] => []
  | (k, v) :: fs => (f k, map f v) :: mapFields f fs

end

end

end Json

end

/-! ### Documents with strings as texts -/

namespace Json

/-- Null, false, zero, the empty text, the empty list and the empty object are void. -/
def isVoid : Json → Bool
  | .null => true
  | .bool b => !b
  | .int n => n == 0
  | .float x => x == 0.0
  | .str s => s.isEmpty
  | .arr items => items.isEmpty
  | .obj fields => fields.isEmpty

/-- A value that is not void. -/
def nonVoid? (v : Json) : Option Json :=
  if v.isVoid then none else some v

/-- The text of a value that is one and not empty. -/
def nonEmptyText? (v : Json) : Option String :=
  v.text?.filter fun s => !s.isEmpty

end Json

end FlowDraft
