/-!
# `FlowDraft.Slice`: parts of a list by signed positions

A position below zero counts from the end of the list. `Slice.before` is the part before a
position and `Slice.after` the part from it on.
-/

set_option autoImplicit false

namespace FlowDraft.Slice

/-- The distance of a signed position from the start of a list of `size` items, at least zero. -/
def offset (size : Nat) (position : Int) : Nat :=
  if position < 0 then (size + position).toNat else position.toNat

/-- The items before a position. -/
def before {α : Type} (position : Int) (xs : List α) : List α :=
  xs.take (offset xs.length position)

/-- The items from a position on. -/
def after {α : Type} (position : Int) (xs : List α) : List α :=
  xs.drop (offset xs.length position)

theorem offset_ofNat (size k : Nat) : offset size k = k := by
  have h : ¬(k : Int) < 0 := by omega
  simp [offset, h]

theorem before_ofNat {α : Type} (k : Nat) (xs : List α) : before k xs = xs.take k := by
  rw [before, offset_ofNat]

end FlowDraft.Slice
