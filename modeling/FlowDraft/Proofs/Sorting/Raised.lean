import FlowDraft.Proofs.Sorting.Stable

/-!
# `FlowDraft.Proofs.Sorting.Raised`: one key becomes larger

The item at one place of a list is replaced by one whose key is not smaller. Of any two other places
the same one goes first as before (`GoesBefore.of_set`), and a place that went behind the changed
one does not get before it (`GoesBefore.not_set`). So the changed place moves forward or stays, and
the others keep their order among each other, whatever keys are equal. `TopPlaces.raised` is the
main statement.

With another item the list is another list, and its places are of another type. So places are
compared by their numbers.
-/

set_option autoImplicit false

namespace FlowDraft.Sorting

/-! ### Rows that differ by where one thing stands -/

section
variable {ι : Type} [DecidableEq ι] {row row' : List ι} {i : ι}

/-- A row taken apart at something that stands in it once. -/
theorem exists_split (hnodup : row.Nodup) (hmem : i ∈ row) :
    ∃ before behind, row = before ++ i :: behind ∧ row.erase i = before ++ behind ∧
      row.idxOf i = before.length := by
  obtain ⟨before, behind, rfl⟩ := List.append_of_mem hmem
  -- An earlier copy would be the one that `erase` and `idxOf` find.
  have hbefore : i ∉ before := fun hi =>
    (List.nodup_append.1 hnodup).2.2 i hi i List.mem_cons_self rfl
  refine ⟨before, behind, rfl, ?_, ?_⟩
  · rw [List.erase_append_right _ hbefore, List.erase_cons_head]
  · rw [List.idxOf_append_of_notMem hbefore, List.idxOf_cons_self, Nat.add_zero]

/-- Two rows agree but for where `i` stands. It stands no later in the second one if nothing that
goes behind it in the first row goes before it in the second. -/
theorem idxOf_le_of_erase_eq {R R' : ι → ι → Prop} (hnodup : row.Nodup) (hnodup' : row'.Nodup)
    (hmem : i ∈ row) (hmem' : i ∈ row') (h : row.Pairwise R) (h' : row'.Pairwise R')
    (hback : ∀ j, R i j → ¬ R' j i) (herase : row'.erase i = row.erase i) :
    row'.idxOf i ≤ row.idxOf i := by
  obtain ⟨before, behind, rfl, hrest, hplace⟩ := exists_split hnodup hmem
  obtain ⟨before', behind', rfl, hrest', hplace'⟩ := exists_split hnodup' hmem'
  rw [hrest, hrest'] at herase
  rw [hplace, hplace']
  rcases List.append_eq_append_iff.1 herase with ⟨between, rfl, -⟩ | ⟨between, rfl, rfl⟩
  · rw [List.length_append]
    exact Nat.le_add_right _ _
  · cases between with
    | nil => rw [List.append_nil]
    | cons j between =>
      -- What comes first in between stands behind `i` in the first row and before it in the second.
      have hij : R i j := (List.pairwise_cons.1 (List.pairwise_append.1 h).2.1).1 j List.mem_cons_self
      have hji : R' j i := (List.pairwise_append.1 h').2.2 j
        (List.mem_append_right _ List.mem_cons_self) i List.mem_cons_self
      exact absurd hji (hback j hij)

end

/-! ### Places that go before others -/

section
variable {α κ : Type} {le : κ → κ → Bool} {key : α → κ} {xs : List α}

/-- Of two places in a list, `i` goes before `j` in falling order, said of the numbers of places. -/
def GoesBefore (le : κ → κ → Bool) (key : α → κ) (xs : List α) (i j : Nat) : Prop :=
  ∃ a b, xs[i]? = some a ∧ xs[j]? = some b ∧
    le (key b) (key a) = true ∧ (le (key a) (key b) = true → i < j)

theorem Precedes.goesBefore {i j : Fin xs.length} (h : Precedes le key xs i j) :
    GoesBefore le key xs i j :=
  ⟨xs[i], xs[j], List.getElem?_eq_getElem i.isLt, List.getElem?_eq_getElem j.isLt, h⟩

/-- Of two places only one goes before the other. -/
theorem GoesBefore.asymm {i j : Nat} (h : GoesBefore le key xs i j) :
    ¬ GoesBefore le key xs j i := by
  obtain ⟨a, b, ha, hb, hba, hij⟩ := h
  rintro ⟨b', a', hb', ha', hab, hji⟩
  obtain rfl : a = a' := Option.some.inj (ha.symm.trans ha')
  obtain rfl : b = b' := Option.some.inj (hb.symm.trans hb')
  exact (hij hab).asymm (hji hba)

/-- Another item at one place leaves the order of the other places as it is. -/
theorem GoesBefore.of_set {i j k : Nat} {new : α} (hj : i ≠ j) (hk : i ≠ k)
    (h : GoesBefore le key (xs.set i new) j k) : GoesBefore le key xs j k := by
  obtain ⟨a, b, ha, hb, hgoes⟩ := h
  rw [List.getElem?_set_ne hj] at ha
  rw [List.getElem?_set_ne hk] at hb
  exact ⟨a, b, ha, hb, hgoes⟩

/-- What goes behind a place does not get before it when the key of the place becomes larger. -/
theorem GoesBefore.not_set (htrans : ∀ a b c, le a b = true → le b c = true → le a c = true)
    {i j : Nat} {old new : α} (hold : xs[i]? = some old) (hle : le (key old) (key new) = true)
    (h : GoesBefore le key xs i j) : ¬ GoesBefore le key (xs.set i new) j i := by
  have hne : i ≠ j := by
    rintro rfl
    exact h.asymm h
  have hi : i < xs.length := (List.getElem?_eq_some_iff.1 hold).1
  obtain ⟨a, b, ha, hb, hba, hij⟩ := h
  rintro ⟨b', a', hb', ha', hab, hji⟩
  rw [List.getElem?_set_ne hne] at hb'
  rw [List.getElem?_set_self hi] at ha'
  obtain rfl : old = a := Option.some.inj (hold.symm.trans ha)
  obtain rfl : b = b' := Option.some.inj (hb.symm.trans hb')
  obtain rfl : new = a' := Option.some.inj ha'
  -- All three keys are equal then, and each place would be the earlier one.
  exact (hij (htrans _ _ _ hle hab)).asymm (hji (htrans _ _ _ hba hle))

/-! ### All places in order -/

/-- The order of all places holds the number of each place once. -/
theorem TopPlaces.perm_range {places : List (Fin xs.length)}
    (h : TopPlaces le key xs xs.length places) :
    (places.map Fin.val).Perm (List.range xs.length) := by
  rw [← List.map_coe_finRange_eq_range]
  exact (perm_finRange h.nodup (by rw [h.length, Nat.min_self])).map _

theorem TopPlaces.pairwise_numbers {k : Nat} {places : List (Fin xs.length)}
    (h : TopPlaces le key xs k places) :
    (places.map Fin.val).Pairwise (GoesBefore le key xs) :=
  List.pairwise_map.2 (h.ordered.imp Precedes.goesBefore)

/-- A place whose key becomes larger comes no later in falling order, and the other places keep
their order. -/
theorem TopPlaces.raised (htrans : ∀ a b c, le a b = true → le b c = true → le a c = true)
    {i : Nat} {old new : α} (hold : xs[i]? = some old) (hle : le (key old) (key new) = true)
    {places : List (Fin xs.length)} {places' : List (Fin (xs.set i new).length)}
    (h : TopPlaces le key xs xs.length places)
    (h' : TopPlaces le key (xs.set i new) (xs.set i new).length places') :
    (places'.map Fin.val).idxOf i ≤ (places.map Fin.val).idxOf i ∧
      (places'.map Fin.val).erase i = (places.map Fin.val).erase i := by
  have hrange := h.perm_range
  have hrange' := h'.perm_range.trans (show List.Perm _ (List.range xs.length) by
    rw [List.length_set])
  have hnodup := hrange.nodup_iff.2 List.nodup_range
  have hnodup' := hrange'.nodup_iff.2 List.nodup_range
  have hi : i ∈ List.range xs.length :=
    List.mem_range.2 (List.getElem?_eq_some_iff.1 hold).1
  -- Without the changed place, both rows are the one order of the other places.
  have hothers : ((places.map Fin.val).erase i).Pairwise (GoesBefore le key xs) :=
    h.pairwise_numbers.sublist List.erase_sublist
  have hothers' : ((places'.map Fin.val).erase i).Pairwise (GoesBefore le key xs) :=
    (h'.pairwise_numbers.sublist List.erase_sublist).imp_of_mem fun {j k} hj hk hgoes =>
      hgoes.of_set (hnodup'.mem_erase_iff.1 hj).1.symm (hnodup'.mem_erase_iff.1 hk).1.symm
  have herase : (places'.map Fin.val).erase i = (places.map Fin.val).erase i :=
    ((hrange'.trans hrange.symm).erase i).eq_of_pairwise
      (fun j k _ _ hjk hkj => absurd hkj hjk.asymm) hothers' hothers
  exact ⟨idxOf_le_of_erase_eq hnodup hnodup' (hrange.mem_iff.2 hi) (hrange'.mem_iff.2 hi)
    h.pairwise_numbers h'.pairwise_numbers (fun j => GoesBefore.not_set htrans hold hle) herase,
    herase⟩

end

end FlowDraft.Sorting
