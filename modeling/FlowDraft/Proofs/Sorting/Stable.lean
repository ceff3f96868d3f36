import FlowDraft.Sorting
import Mathlib.Data.List.FinRange
import Mathlib.Data.List.Nodup

/-!
# `FlowDraft.Proofs.Sorting.Stable`: which order comes out

Keys are compared by `le`, which is transitive and holds one way or the other between any two keys
that are comparable with themselves. As long as all keys of a list are, `sortFalling` is a merge
sort, and what comes out is told by the places that the items had in the list:
`sortFalling_eq_map_get` gives every place exactly once, in an order in which keys never rise, and
places of equal keys go up. There is only one such order (`eq_of_pairwise_precedes`). A list in such
an order is left as it is (`sortFalling_of_pairwise`), so sorting twice changes nothing more.

The first `k` items that come out are told by their places as well: `TopPlaces` says that nothing
that was left out should have gone before them.
-/

set_option autoImplicit false

namespace FlowDraft

namespace Sorting

/-- Of two places in a list, `i` goes before `j` in falling order: its key is not the smaller one,
and where the keys are equal it is the earlier place. -/
def Precedes {α κ : Type} (le : κ → κ → Bool) (key : α → κ) (xs : List α)
    (i j : Fin xs.length) : Prop :=
  le (key xs[j]) (key xs[i]) = true ∧ (le (key xs[i]) (key xs[j]) = true → i < j)

instance {α κ : Type} (le : κ → κ → Bool) (key : α → κ) (xs : List α) (i j : Fin xs.length) :
    Decidable (Precedes le key xs i j) :=
  inferInstanceAs (Decidable (_ ∧ (_ → _)))

/-- The places of the `k` items that go first in falling order, or of all items if there are not so
many: every place at most once, in order, and no place that is left out should have gone before one
that is kept. -/
structure TopPlaces {α κ : Type} (le : κ → κ → Bool) (key : α → κ) (xs : List α) (k : Nat)
    (places : List (Fin xs.length)) : Prop where
  nodup : places.Nodup
  length : places.length = min k xs.length
  ordered : places.Pairwise (Precedes le key xs)
  best : ∀ i ∈ places, ∀ j, j ∉ places → Precedes le key xs i j

/-- Sorting the places of a list by a comparison keeps the order of places that are equal in it. -/
theorem pairwise_mergeSort_finRange (n : Nat) (r : Fin n → Fin n → Bool)
    (htrans : ∀ a b c, r a b = true → r b c = true → r a c = true)
    (htotal : ∀ a b, (r a b || r b a) = true) :
    ((List.finRange n).mergeSort r).Pairwise fun i j =>
      r i j = true ∧ (r j i = true → i < j) := by
  have hnumbered : ∀ p ∈ (List.finRange n).zipIdx.mergeSort (List.zipIdxLE r), p.2 = p.1.val := by
    intro p hp
    have hget := List.mem_zipIdx_iff_getElem?.1 (List.mem_mergeSort.1 hp)
    obtain ⟨hlt, hget⟩ := List.getElem?_eq_some_iff.1 hget
    rw [← hget, List.getElem_finRange]
    rfl
  have hsorted := List.pairwise_mergeSort (List.zipIdxLE_trans htrans) (List.zipIdxLE_total htotal)
    (List.finRange n).zipIdx
  have hnodup : ((List.finRange n).mergeSort r).Nodup :=
    (List.mergeSort_perm _ _).nodup_iff.2 (List.nodup_finRange n)
  -- The numbered places are sorted by place where `r` holds both ways.
  have hweak : ((List.finRange n).mergeSort r).Pairwise fun i j =>
      r i j = true ∧ (r j i = true → i ≤ j) := by
    rw [← List.mergeSort_zipIdx, List.pairwise_map]
    refine hsorted.imp_of_mem fun {p q} hp hq h => ?_
    have hpn := hnumbered p hp
    have hqn := hnumbered q hq
    rw [List.zipIdxLE] at h
    split at h
    · next hpq =>
      refine ⟨hpq, fun hqp => ?_⟩
      rw [if_pos hqp, decide_eq_true_eq, hpn, hqn] at h
      exact h
    · exact absurd h Bool.false_ne_true
  exact hweak.imp₂ (fun i j h hne => ⟨h.1, fun hji => lt_of_le_of_ne (h.2 hji) hne⟩) hnodup

/-- As many places as there are, each of them taken once, are all places. -/
theorem perm_finRange {n : Nat} {places : List (Fin n)} (hnodup : places.Nodup)
    (hlength : n ≤ places.length) : places.Perm (List.finRange n) := by
  have hsub : places.Subperm (List.finRange n) :=
    List.subperm_of_subset hnodup fun i _ => List.mem_finRange i
  exact hsub.perm_of_length_le (by simpa using hlength)

/-- Items at as many places as a list has, each place taken once, are all its items. -/
theorem perm_map_get {α : Type} {xs : List α} {places : List (Fin xs.length)}
    (hnodup : places.Nodup) (hlength : xs.length ≤ places.length) :
    (places.map xs.get).Perm xs := by
  simpa using (perm_finRange hnodup hlength).map xs.get

/-- There is only one such order of the same places. -/
theorem eq_of_pairwise_precedes {α κ : Type} {le : κ → κ → Bool} {key : α → κ} {xs : List α}
    {places others : List (Fin xs.length)} (hperm : places.Perm others)
    (h : places.Pairwise (Precedes le key xs)) (h' : others.Pairwise (Precedes le key xs)) :
    places = others := by
  refine hperm.eq_of_pairwise (fun i j _ _ hij hji => ?_) h h'
  -- Of two places, each would be the earlier one.
  exact absurd (hij.2 hji.1) (hji.2 hij.1).asymm

/-- What is a permutation of mapped items comes from a permutation of the items. -/
theorem exists_perm_of_perm_map {α β : Type} {f : β → α} {l : List β} {ys : List α}
    (h : ys.Perm (l.map f)) : ∃ l' : List β, l'.Perm l ∧ ys = l'.map f := by
  induction ys generalizing l with
  | nil => exact ⟨[], by simpa using h.nil_eq.symm, rfl⟩
  | cons y ys ih =>
    obtain ⟨b, hb, rfl⟩ := List.mem_map.1 (h.subset List.mem_cons_self)
    obtain ⟨before, after, rfl⟩ := List.append_of_mem hb
    have hrest : ys.Perm ((before ++ after).map f) := by
      rw [List.map_append, List.map_cons] at h
      rw [List.map_append]
      exact (h.trans List.perm_middle).cons_inv
    obtain ⟨l', hl', rfl⟩ := ih hrest
    exact ⟨b :: l', (hl'.cons b).trans List.perm_middle.symm, rfl⟩

end Sorting

open Sorting

section
variable {α κ : Type} {le : κ → κ → Bool} (key : α → κ) {xs : List α}
  (htrans : ∀ a b c, le a b = true → le b c = true → le a c = true)
  (htotal : ∀ a b, le a a = true → le b b = true → (le a b || le b a) = true)
  (hself : ∀ x ∈ xs, le (key x) (key x) = true)

include hself in
theorem comparable_map : comparable le (xs.map key) = true :=
  List.all_eq_true.2 fun k hk => by
    obtain ⟨x, hx, rfl⟩ := List.mem_map.1 hk
    exact hself x hx

include hself in
/-- With keys that are comparable, sorting is a merge sort by the keys. -/
theorem sortFalling_eq_mergeSort :
    sortFalling le key xs = xs.mergeSort fun a b => le (key b) (key a) := by
  rw [sortFalling, if_pos (comparable_map key hself),
    List.map_mergeSort (s := fun a b => le (key b) (key a)) (f := Prod.snd), map_snd_keyed]
  intro a ha b hb
  obtain ⟨x, -, rfl⟩ := List.mem_map.1 ha
  obtain ⟨y, -, rfl⟩ := List.mem_map.1 hb
  rfl

include htrans htotal hself in
/-- What comes out, told by places: every place once, in an order in which keys never rise, and
places of equal keys go up. -/
theorem sortFalling_eq_map_get :
    ∃ places : List (Fin xs.length), places.Perm (List.finRange xs.length) ∧
      sortFalling le key xs = places.map xs.get ∧ places.Pairwise (Precedes le key xs) := by
  let r (i j : Fin xs.length) : Bool := le (key xs[j]) (key xs[i])
  have hplace : ∀ i : Fin xs.length, le (key xs[i]) (key xs[i]) = true :=
    fun i => hself _ (List.getElem_mem i.isLt)
  refine ⟨(List.finRange xs.length).mergeSort r, List.mergeSort_perm _ _, ?_, ?_⟩
  · have hmap := List.map_mergeSort (r := r) (s := fun a b => le (key b) (key a)) (f := xs.get)
      (l := List.finRange xs.length) fun _ _ _ _ => rfl
    rw [sortFalling_eq_mergeSort key hself, hmap, List.map_get_finRange]
  · exact pairwise_mergeSort_finRange xs.length r (fun a b c hab hbc => htrans _ _ _ hbc hab)
      fun a b => htotal _ _ (hplace b) (hplace a)

include htrans htotal hself in
/-- The first items that come out stand at the places that go first. -/
theorem take_sortFalling (k : Nat) :
    ∃ places, TopPlaces le key xs k places ∧
      (sortFalling le key xs).take k = places.map xs.get := by
  obtain ⟨places, hperm, hsort, hordered⟩ := sortFalling_eq_map_get key htrans htotal hself
  have hlength : places.length = xs.length := hperm.length_eq.trans List.length_finRange
  refine ⟨places.take k, ⟨?_, ?_, hordered.take, ?_⟩, ?_⟩
  · exact (hperm.nodup_iff.2 (List.nodup_finRange _)).sublist (List.take_sublist _ _)
  · rw [List.length_take, hlength]
  · intro i hi j hj
    -- A place that is not among the first `k` comes after all of them.
    have hmem : j ∈ places.drop k := by
      have hall : j ∈ places := hperm.mem_iff.2 (List.mem_finRange j)
      rw [← List.take_append_drop k places] at hall
      exact (List.mem_append.1 hall).resolve_left hj
    rw [← List.take_append_drop k places] at hordered
    exact (List.pairwise_append.1 hordered).2.2 i hi j hmem
  · rw [hsort, List.map_take]

include hself in
/-- A list whose keys never rise is left as it is. -/
theorem sortFalling_of_pairwise (h : xs.Pairwise fun a b => le (key b) (key a) = true) :
    sortFalling le key xs = xs := by
  rw [sortFalling_eq_mergeSort key hself]
  exact List.mergeSort_of_pairwise h

include hself in
/-- Rising order is falling order for the opposite comparison. -/
theorem sortRising_eq_sortFalling :
    sortRising le key xs = sortFalling (fun a b => le b a) key xs := by
  have hopposite : comparable (fun a b => le b a) (xs.map key) = true := comparable_map key hself
  rw [sortRising, sortFalling, if_pos (comparable_map key hself), if_pos hopposite]

end

/-- Items that come from others by a map are sorted as those are. -/
theorem sortFalling_map {α β κ : Type} {le : κ → κ → Bool} (key : α → κ) (f : β → α) {xs : List β}
    (hself : ∀ x ∈ xs, le (key (f x)) (key (f x)) = true) :
    sortFalling le key (xs.map f) = (sortFalling le (key ∘ f) xs).map f := by
  have hmapped : ∀ y ∈ xs.map f, le (key y) (key y) = true := fun y hy => by
    obtain ⟨x, hx, rfl⟩ := List.mem_map.1 hy
    exact hself x hx
  rw [sortFalling_eq_mergeSort key hmapped, sortFalling_eq_mergeSort (key ∘ f) hself]
  exact (List.map_mergeSort (f := f) fun _ _ _ _ => rfl).symm

end FlowDraft
