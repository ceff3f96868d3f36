/-!
# `FlowDraft.Sorting.Place`: finding places in a list

A place is sought in a list whose items are on this side of it at first and beyond it from some
item on. `placeBetween` halves a stretch of the list. `placeNear` begins at an item that may be
near, and goes away from it in strides that double. What comes out for a list with items beyond the
place and on this side of it mixed is one of several places, and which one it is, is fixed by the
order in which items are looked at.
-/

set_option autoImplicit false

namespace FlowDraft.Sorting

/-- The item at an index is beyond the place. There is none behind the end of the list. -/
def isBeyondAt {α : Type} (beyond : α → Bool) (xs : List α) (index : Nat) : Bool :=
  (xs[index]?).any beyond

/-- The place from `low` to `high`, found by halving. -/
def placeBetween {α : Type} (beyond : α → Bool) (xs : List α) (low high : Nat) : Nat :=
  if h : low < high then
    let middle := low + (high - low) / 2
    if isBeyondAt beyond xs middle then placeBetween beyond xs low middle
    else placeBetween beyond xs (middle + 1) high
  else low
termination_by high - low

/-- The last distance that still was too short and the first one that was not, or the limit. Each
stride is as long as all before it, and one longer. -/
def strides (tooShort : Nat → Bool) (limit near far : Nat) : Nat × Nat :=
  if h : far < limit then
    if tooShort far then strides tooShort limit far (2 * far + 1) else (near, far)
  else (near, min far limit)
termination_by limit - far

/-- The place, sought from the item at the index `hint` on. -/
def placeNear {α : Type} (beyond : α → Bool) (xs : List α) (hint : Nat) : Nat :=
  if isBeyondAt beyond xs hint then
    let (near, far) := strides (fun d => isBeyondAt beyond xs (hint - d)) (hint + 1) 0 1
    placeBetween beyond xs (hint + 1 - far) (hint - near)
  else
    let (near, far) := strides (fun d => !isBeyondAt beyond xs (hint + d)) (xs.length - hint) 0 1
    placeBetween beyond xs (hint + near + 1) (hint + far)

end FlowDraft.Sorting
