import FlowDraft.Proofs.Trace.Retention
import Mathlib.Data.Int.Order.Basic

/-!
# `FlowDraft.Proofs.Trace.Recent`: the latest traces up to a limit

A store that traces were put into one after another holds the end of the list of all of them:
`records_add` says it of one trace, `records_addAll` of any number of them.

`Store.recent` is asked for the latest traces with a limit. A limit above zero is kept to
(`recent_of_pos`). Zero and the limits below it are not: then the limit is a number of traces that
are left out at the front, and the others come out (`recent_of_nonpos`). `recent_eq_latest_iff` and
`length_recent_le_iff` say exactly when the limit is kept to.
-/

set_option autoImplicit false

namespace FlowDraft.Trace.Store

/-! ### What is kept of all traces -/

/-- The store with new traces, put in one after another. -/
def addAll (names : Nat → String) (s : Store) (makes : List (String → Record)) : Store :=
  makes.foldl (fun s make => (s.add names make).1) s

/-- New traces with the names that they get in a store without earlier ones. -/
def made (names : Nat → String) (makes : List (String → Record)) : List Record :=
  makes.mapIdx fun i make => make (names i)

section
variable (names : Nat → String)

/-- A new trace is put behind the others, and the latest ones that fit are kept. A store of negative
capacity keeps none, as one without capacity. -/
theorem records_add (s : Store) (make : String → Record) :
    (s.add names make).1.records
        = evict s.capacity.toNat (s.records ++ [make (names s.named)]) ∧
      (s.add names make).1.capacity = s.capacity ∧
      (s.add names make).1.named = s.named + 1 := by
  rw [add]
  split
  next hcapacity =>
    have hnone : s.capacity.toNat = 0 := by omega
    simp [hnone, evict]
  · exact ⟨rfl, rfl, rfl⟩

/-- A store that holds the end of a list of traces holds the end of the longer list after more of
them. -/
theorem records_addAll {s : Store} {earlier : List Record} (makes : List (String → Record))
    (h : s.records = evict s.capacity.toNat earlier) :
    (addAll names s makes).records = evict s.capacity.toNat
      (earlier ++ makes.mapIdx fun i make => make (names (s.named + i))) := by
  -- With each trace the list of all of them grows, and what was put out of it earlier stays out.
  induction makes generalizing s earlier with
  | nil => simpa [addAll] using h
  | cons make makes ih =>
    obtain ⟨hrecords, hcapacity, hnamed⟩ := records_add names s make
    have hnext : (s.add names make).1.records
        = evict (s.add names make).1.capacity.toNat (earlier ++ [make (names s.named)]) := by
      rw [hrecords, hcapacity, h, evict_append]
    rw [addAll, List.foldl_cons, ← addAll, ih hnext, hcapacity, hnamed, List.mapIdx_cons,
      List.append_assoc, List.singleton_append]
    simp only [Nat.add_zero, Nat.add_right_comm, Nat.add_assoc]

/-- What is kept of all traces that were put into an empty store. -/
theorem records_addAll_empty (capacity : Int) (makes : List (String → Record)) :
    (addAll names { capacity } makes).records
      = (made names makes).drop ((made names makes).length - capacity.toNat) := by
  have hempty : ({ capacity } : Store).records = evict capacity.toNat [] := List.drop_nil.symm
  have h := records_addAll names makes hempty
  simp only [List.nil_append, Nat.zero_add] at h
  exact h

end

/-! ### The latest ones -/

section
variable (s : Store) {limit : Int}

/-- A limit above zero is kept to. -/
theorem recent_of_pos (h : 0 < limit) :
    s.recent limit = s.records.drop (s.records.length - limit.toNat) := by
  rw [recent, Slice.after, Slice.offset, if_pos (by omega)]
  congr 1
  omega

/-- A limit that is not above zero leaves out so many traces at the front. -/
theorem recent_of_nonpos (h : limit ≤ 0) : s.recent limit = s.records.drop (-limit).toNat := by
  rw [recent, Slice.after, Slice.offset, if_neg (by omega)]

/-- As many traces come out as the limit says exactly when it is above zero, or leaves out all of
them. -/
theorem recent_eq_latest_iff :
    s.recent limit = s.records.drop (s.records.length - min (max 0 limit).toNat s.records.length) ↔
      0 < limit ∨ (s.records.length : Int) ≤ -limit := by
  rcases lt_or_ge 0 limit with hpos | hnonpos
  · rw [recent_of_pos s hpos]
    have hdrop : s.records.length - limit.toNat
        = s.records.length - min (max 0 limit).toNat s.records.length := by omega
    simp [hdrop, hpos]
  · have hnone : min (max 0 limit).toNat s.records.length = 0 := by omega
    rw [recent_of_nonpos s hnonpos, hnone, Nat.sub_zero, List.drop_length, List.drop_eq_nil_iff]
    omega

/-- A limit of at least zero is kept to exactly when it is above zero, or there are no traces. -/
theorem length_recent_le_iff (h : 0 ≤ limit) :
    ((s.recent limit).length : Int) ≤ limit ↔ 0 < limit ∨ s.records = [] := by
  rcases Int.lt_or_eq_of_le h with hpos | rfl
  · rw [recent_of_pos s hpos, List.length_drop]
    omega
  · rw [recent_of_nonpos s (Int.le_refl 0), ← List.length_eq_zero_iff]
    simp

end

end FlowDraft.Trace.Store
