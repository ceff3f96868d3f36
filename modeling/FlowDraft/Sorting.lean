import FlowDraft.Sorting.Runs

/-!
# `FlowDraft.Sorting`: sorting by keys

Items are sorted by a key, and items with equal keys keep their order. That says which order comes
out as long as keys are comparable. Binary64 numbers have a value that is comparable with nothing,
not even with itself. With such keys the order is the one that sorting by runs leaves.

* `sortRising_perm`, `sortFalling_perm`: sorting loses and invents nothing, whatever the keys are.
-/

set_option autoImplicit false

namespace FlowDraft

namespace Sorting

/-- Every key is comparable with itself. -/
def comparable {κ : Type} (le : κ → κ → Bool) (keys : List κ) : Bool :=
  keys.all fun k => le k k

/-- One key is smaller than another one. -/
def smaller {κ : Type} (le : κ → κ → Bool) (a b : κ) : Bool :=
  le a b && !le b a

/-- Items with their keys. -/
def keyed {α κ : Type} (key : α → κ) (xs : List α) : List (κ × α) :=
  xs.map fun x => (key x, x)

theorem map_snd_keyed {α κ : Type} (key : α → κ) (xs : List α) :
    (keyed key xs).map (·.2) = xs := by
  induction xs with
  | nil => rfl
  | cons x xs ih => simpa [keyed] using ih

end Sorting

open Sorting in
/-- The items in rising order of their keys. Items with equal keys keep their order. -/
def sortRising {α κ : Type} (le : κ → κ → Bool) (key : α → κ) (xs : List α) : List α :=
  let pairs := keyed key xs
  (if comparable le (xs.map key) then pairs.mergeSort fun a b => le a.1 b.1
    else byRuns (fun a b => smaller le a.1 b.1) pairs).map (·.2)

open Sorting in
/-- The items in falling order of their keys. Items with equal keys keep their order. -/
def sortFalling {α κ : Type} (le : κ → κ → Bool) (key : α → κ) (xs : List α) : List α :=
  let pairs := keyed key xs
  (if comparable le (xs.map key) then pairs.mergeSort fun a b => le b.1 a.1
    else (byRuns (fun a b => smaller le a.1 b.1) pairs.reverse).reverse).map (·.2)

/-- Sorting loses and invents nothing. -/
theorem sortRising_perm {α κ : Type} (le : κ → κ → Bool) (key : α → κ) (xs : List α) :
    (sortRising le key xs).Perm xs := by
  have h : ∀ ys : List (κ × α), ys.Perm (Sorting.keyed key xs) → (ys.map (·.2)).Perm xs :=
    fun ys hys => Sorting.map_snd_keyed key xs ▸ hys.map _
  apply h
  split
  · exact List.mergeSort_perm _ _
  · exact Sorting.byRuns_perm _ _

/-- Sorting loses and invents nothing. -/
theorem sortFalling_perm {α κ : Type} (le : κ → κ → Bool) (key : α → κ) (xs : List α) :
    (sortFalling le key xs).Perm xs := by
  have h : ∀ ys : List (κ × α), ys.Perm (Sorting.keyed key xs) → (ys.map (·.2)).Perm xs :=
    fun ys hys => Sorting.map_snd_keyed key xs ▸ hys.map _
  apply h
  split
  · exact List.mergeSort_perm _ _
  · exact (List.reverse_perm _).trans ((Sorting.byRuns_perm _ _).trans (List.reverse_perm _))

end FlowDraft
