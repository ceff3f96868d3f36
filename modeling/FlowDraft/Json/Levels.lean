import FlowDraft.Json.Basic

/-!
# `FlowDraft.Json.Levels`: how deep documents go

A value in a list or in an object lies one level below it. `Json.levels` counts the levels below a
document.
-/

set_option autoImplicit false

namespace FlowDraft.Json

section
variable {τ : Type}

mutual

/-- The number of levels below a document. -/
def levels : Json τ → Nat
  | .arr items => itemLevels items
  | .obj fields => fieldLevels fields
  | _ => 0

/-- The number of levels that items make up, their own included. -/
def itemLevels : List (Json τ) → Nat
  | [] => 0
  | v :: vs => max (levels v + 1) (itemLevels vs)

/-- The number of levels that fields make up, their own included. -/
def fieldLevels : List (τ × Json τ) → Nat
  | [] => 0
  | (_, v) :: fs => max (levels v + 1) (fieldLevels fs)

end

end

end FlowDraft.Json
