import FlowDraft.Trace.Metrics
import Mathlib.Algebra.Ring.Int.Defs
import Mathlib.Data.List.Nodup

/-!
# `FlowDraft.Proofs.Trace.Retention`: a store as the end of a history

A store keeps the end of the list of all traces that were made: `evict_append` says that traces
which were put out earlier are no matter, so a store can be compared with the whole history.
`get?_of_history` says how long a trace of the history is found under its name, and
`counts_ofRecords` says which figures are counts and sums over the traces that are kept.
-/

set_option autoImplicit false

namespace FlowDraft.Trace

namespace Store

/-- What was put out before is put out of the longer list as well. -/
theorem evict_append (capacity : Nat) (records added : List Record) :
    evict capacity (evict capacity records ++ added) = evict capacity (records ++ added) := by
  have hdrop : evict capacity records ++ added
      = (records ++ added).drop (records.length - capacity) := by
    rw [evict, List.drop_append_of_le_length (Nat.sub_le _ _)]
  rw [hdrop, evict, evict, List.drop_drop, List.length_drop, List.length_append]
  congr 1
  omega

/-- A store that has room keeps a new trace, and gives it the next name. -/
theorem add_of_nonneg (names : Nat → String) {s : Store} (make : String → Record)
    (h : 0 ≤ s.capacity) :
    s.add names make
      = ({ s with
            records := evict s.capacity.toNat (s.records ++ [make (names s.named)])
            named := s.named + 1 }, some (make (names s.named))) := by
  rw [add, if_neg (by omega)]

/-- Among traces of different names, each is the one that is found under its name. -/
theorem find?_id_eq_some {records : List Record} {r : Record}
    (hids : (records.map (·.id)).Nodup) (hr : r ∈ records) :
    (records.find? fun r' => r'.id == r.id) = some r := by
  induction records with
  | nil => exact absurd hr List.not_mem_nil
  | cons r' records ih =>
    rw [List.map_cons, List.nodup_cons] at hids
    rcases List.mem_cons.1 hr with rfl | hr
    · exact List.find?_cons_of_pos (beq_self_eq_true _)
    · have hne : r'.id ≠ r.id := fun h => hids.1 (h ▸ List.mem_map_of_mem hr)
      rw [List.find?_cons_of_neg (by simpa using hne)]
      exact ih hids.2 hr

/-- A trace of the history is found under its name until as many were made after it as the store
has room for, and from then on nothing is found. -/
theorem get?_of_history {s : Store} {capacity i : Nat} {made : List Record} {r : Record}
    (hrecords : s.records = evict capacity made) (hids : (made.map (·.id)).Nodup)
    (hr : made[i]? = some r) :
    s.get? r.id = if made.length - (i + 1) < capacity then some r else none := by
  have hi : i < made.length := (List.getElem?_eq_some_iff.1 hr).1
  rw [get?, hrecords, evict]
  split
  next hkept =>
    have hmem : r ∈ made.drop (made.length - capacity) := by
      rw [List.mem_iff_getElem?]
      refine ⟨i - (made.length - capacity), ?_⟩
      rw [List.getElem?_drop, ← hr]
      congr 1
      omega
    refine find?_id_eq_some ?_ hmem
    rw [List.map_drop]
    exact hids.sublist (List.drop_sublist _ _)
  next hgone =>
    rw [List.find?_eq_none]
    intro r' hr' hid
    obtain ⟨j, hj⟩ := List.mem_iff_getElem?.1 hr'
    rw [List.getElem?_drop] at hj
    have hlength : made.length - capacity + j < made.length := (List.getElem?_eq_some_iff.1 hj).1
    -- What is kept stands behind `r` in the history, so it has another name.
    refine List.nodup_iff_getElem?_ne_getElem?.1 hids i (made.length - capacity + j) (by omega)
      (by rwa [List.length_map]) ?_
    rw [List.getElem?_map, List.getElem?_map, hj, hr, Option.map_some, Option.map_some,
      eq_of_beq hid]

end Store

namespace Metrics

theorem foldl_add_eq_sum (f : Record → Int) (records : List Record) (total : Int) :
    records.foldl (fun total r => total + f r) total = total + (records.map f).sum := by
  induction records generalizing total with
  | nil => simp
  | cons r records ih => rw [List.foldl_cons, ih, List.map_cons, List.sum_cons, add_assoc]

/-- The figures that count traces and sum up tokens. -/
theorem counts_ofRecords (records : List Record) :
    (ofRecords records).requests = records.length ∧
      (ofRecords records).degraded = (records.filter (·.degraded)).length ∧
      (ofRecords records).inputTokens = (records.map (·.inputTokens)).sum ∧
      (ofRecords records).outputTokens = (records.map (·.outputTokens)).sum := by
  refine ⟨rfl, List.countP_eq_length_filter, ?_, ?_⟩
  · exact (foldl_add_eq_sum _ records 0).trans (zero_add _)
  · exact (foldl_add_eq_sum _ records 0).trans (zero_add _)

end Metrics

end FlowDraft.Trace
