import FlowDraft.Proofs.Binary64.Order
import FlowDraft.Proofs.Sorting.Stable
import FlowDraft.Trace.Metrics

/-!
# `FlowDraft.Proofs.Trace.HighLatency`: how many requests stay within the high latency

The high latency of a store is the latency at a position of the rising list. `le_countP_of_pairwise`
and `countP_lt_of_pairwise` say of any rising list how many items stay within the one at a position,
and how many stay below it.

The position is ninety-five in a hundred, rounded down. So fewer than ninety-five in a hundred
requests may stay within the high latency, and `highLatency_metrics` says when that happens: when
the number of requests is neither one nor a multiple of twenty, and the next slower request does not
happen to take just as long.
-/

set_option autoImplicit false

namespace FlowDraft.Trace

open Binary64

/-! ### Positions of a rising list -/

section
variable {rising : List Float} (hsorted : rising.Pairwise (· ≤ ·)) {p : Nat}
  (hp : p < rising.length)
include hsorted

/-- The items up to a position stay within the item at it. -/
theorem le_countP_of_pairwise (hself : rising[p] ≤ rising[p]) :
    p + 1 ≤ rising.countP (· ≤ rising[p]) := by
  have hall : (rising.take (p + 1)).countP (· ≤ rising[p]) = (rising.take (p + 1)).length := by
    rw [List.countP_eq_length]
    intro x hx
    obtain ⟨i, hi, rfl⟩ := List.mem_take_iff_getElem.1 hx
    rcases Nat.lt_or_ge i p with hlt | hge
    · exact decide_eq_true (List.pairwise_iff_getElem.1 hsorted i p _ hp hlt)
    · obtain rfl : i = p := by omega
      exact decide_eq_true hself
  have hle := (List.take_sublist (p + 1) rising).countP_le (p := (· ≤ rising[p]))
  rw [hall, List.length_take] at hle
  omega

/-- Only items before a position stay below the item at it. -/
theorem countP_lt_of_pairwise (hself : rising[p] ≤ rising[p]) :
    rising.countP (· < rising[p]) < p + 1 := by
  have hnone : (rising.drop p).countP (· < rising[p]) = 0 := by
    rw [List.countP_eq_zero]
    intro x hx
    obtain ⟨i, hi, rfl⟩ := List.mem_drop_iff_getElem.1 hx
    have hle : rising[p] ≤ rising[p + i] := by
      rcases Nat.eq_zero_or_pos i with rfl | hpos
      · exact hself
      · exact List.pairwise_iff_getElem.1 hsorted p (p + i) hp _ (by omega)
    simpa using not_lt_of_le hle
  have hsplit : rising.countP (· < rising[p])
      = (rising.take p).countP (· < rising[p]) + (rising.drop p).countP (· < rising[p]) := by
    rw [← List.countP_append, List.take_append_drop]
  have hle := (rising.take p).countP_le_length (p := (· < rising[p]))
  rw [List.length_take] at hle
  omega

end

/-! ### The high latency of a store -/

namespace Metrics

/-- Latencies that are numbers come out in rising order. -/
theorem pairwise_sortRising {latencies : List Float}
    (h : ∀ x ∈ latencies, x.isNaN = false) :
    (sortRising latencyLe id latencies).Pairwise (· ≤ ·) := by
  have hself : ∀ x ∈ latencies, latencyLe x x = true := fun x hx => floatLe_self (h x hx)
  -- Rising order is falling order for the opposite comparison.
  obtain ⟨places, -, hsort, hordered⟩ := @sortFalling_eq_map_get _ _ (fun a b => latencyLe b a) id
    latencies (fun a b c hba hcb => floatLe_trans c b a hcb hba)
    (fun a b ha hb => floatLe_total b a hb ha) hself
  rw [sortRising_eq_sortFalling id hself, hsort]
  exact List.pairwise_map.2 (hordered.imp fun h => of_decide_eq_true h.1)

/-- The position of the high latency is one before ninety-five in a hundred. -/
theorem highPosition_eq {count : Nat} (h : 0 < count) :
    highPosition count + 1 = max 1 (95 * count / 100) ∧ highPosition count < count := by
  rw [highPosition]
  omega

end Metrics

open Metrics

/-- A trace that took so long. -/
def timed (latency : Float) (id : String) : Record :=
  { (default : Record) with id, latency }

/-- The high latency of a store whose traces took longer and longer. -/
theorem highLatency_of_rising {s : Store} (latencies : List Float)
    (hlatencies : s.records.map (·.latency) = latencies)
    (hnumbers : ∀ x ∈ latencies, latencyLe x x = true)
    (h : latencies.Pairwise (latencyLe · · = true)) :
    s.metrics.highLatency = (high? latencies).getD 0.0 := by
  have hsorted : sortFalling (fun a b => latencyLe b a) id latencies = latencies :=
    sortFalling_of_pairwise id hnumbers h
  show (high? (sortRising latencyLe id (s.records.map (·.latency)))).getD 0.0 = _
  rw [hlatencies, sortRising_eq_sortFalling id hnumbers, hsorted]

/-- **The high latency is the one that ninety-five in a hundred requests, rounded down, stay
within.** It is the latency of a trace that is kept. If latencies are numbers, at least so many
requests stay within it, and fewer stay below it. So ninety-five in a hundred requests stay within
it exactly when the number of requests is one or a multiple of twenty, or the next slower request
takes just as long. -/
theorem highLatency_metrics (s : Store) (hkept : s.records ≠ []) :
    let total := s.records.length
    let high := s.metrics.highLatency
    let within := s.records.countP fun r => r.latency ≤ high
    let rank := max 1 (95 * total / 100)
    (∃ r ∈ s.records, r.latency = high) ∧
    ((∀ r ∈ s.records, r.latency.isNaN = false) →
      rank ≤ within ∧ s.records.countP (fun r => r.latency < high) < rank ∧
      (95 * total ≤ 100 * within ↔ total % 20 = 0 ∨ total = 1 ∨ rank < within)) := by
  intro total high within rank
  let latencies := s.records.map (·.latency)
  let rising := sortRising latencyLe id latencies
  have hperm : rising.Perm latencies := sortRising_perm _ _ _
  have hlength : rising.length = total := hperm.length_eq.trans (List.length_map _)
  have htotal : 0 < total := List.length_pos_iff.2 hkept
  obtain ⟨hrank, hposition⟩ := highPosition_eq htotal
  have hp : highPosition total < rising.length := hlength ▸ hposition
  have hhigh : high = rising[highPosition total] := by
    show (high? rising).getD 0.0 = _
    rw [high?, hlength, List.getElem?_eq_getElem hp, Option.getD_some]
  refine ⟨?_, fun hnumbers => ?_⟩
  · have hmem : high ∈ latencies := hhigh ▸ hperm.subset (List.getElem_mem hp)
    obtain ⟨r, hr, hlatency⟩ := List.mem_map.1 hmem
    exact ⟨r, hr, hlatency⟩
  · have hnumbers : ∀ x ∈ latencies, x.isNaN = false := fun x hx => by
      obtain ⟨r, hr, rfl⟩ := List.mem_map.1 hx
      exact hnumbers r hr
    have hsorted := pairwise_sortRising hnumbers
    have hself := le_self_iff.2 (hnumbers _ (hperm.subset (List.getElem_mem hp)))
    -- Counting traces by their latencies is counting in the rising list.
    have hcount : ∀ keep : Float → Bool,
        s.records.countP (fun r => keep r.latency) = rising.countP keep := fun keep => by
      rw [hperm.countP_eq, List.countP_map]
      rfl
    have hwithin : rank ≤ within := by
      have h := le_countP_of_pairwise hsorted hp hself
      rw [hrank, ← hhigh, ← hcount fun x => decide (x ≤ high)] at h
      exact h
    have hbelow : s.records.countP (fun r => r.latency < high) < rank := by
      have h := countP_lt_of_pairwise hsorted hp hself
      rw [hrank, ← hhigh, ← hcount fun x => decide (x < high)] at h
      exact h
    refine ⟨hwithin, hbelow, ?_⟩
    have hrank : rank = max 1 (95 * total / 100) := rfl
    omega

/-- With two slow requests of the same latency, all stay within it, though the rank is two of
three. -/
theorem highLatency_metrics_with_tie :
    let s : Store := { records := [timed 1.0 "a", timed 2.0 "b", timed 2.0 "c"] }
    s.records ≠ [] ∧ s.metrics.highLatency = 2.0 ∧
      95 * s.records.length
        ≤ 100 * s.records.countP fun r => r.latency ≤ s.metrics.highLatency := by
  intro s
  have hhigh : s.metrics.highLatency = 2.0 :=
    highLatency_of_rising [1.0, 2.0, 2.0] rfl (by decide) (by decide)
  have hkept : s.records ≠ [] := List.cons_ne_nil _ _
  obtain ⟨-, hcounts⟩ := highLatency_metrics s hkept
  obtain ⟨-, -, hiff⟩ := hcounts (by decide)
  refine ⟨hkept, hhigh, hiff.2 (.inr (.inr ?_))⟩
  rw [hhigh]
  decide

/-- Of two requests, only one stays within the high latency, which is the shorter of the two. -/
theorem highLatency_of_two_requests :
    let names := fun n : Nat => toString n
    let s := ((({} : Store).add names (timed 1.0)).1.add names (timed 2.0)).1
    s.records.length = 2 ∧ s.metrics.highLatency = 1.0 ∧
      ¬ 95 * s.records.length
        ≤ 100 * s.records.countP fun r => r.latency ≤ s.metrics.highLatency := by
  intro names s
  have hlatencies : s.records.map (·.latency) = [1.0, 2.0] := by
    simp [s, Store.add, Store.evict, timed]
  have hhigh : s.metrics.highLatency = 1.0 :=
    highLatency_of_rising [1.0, 2.0] hlatencies (by decide) (by decide)
  have hlength : s.records.length = 2 := by simpa using congrArg List.length hlatencies
  have hwithin : s.records.countP (fun r => r.latency ≤ (1.0 : Float)) = 1 := by
    rw [show (fun r : Record => decide (r.latency ≤ (1.0 : Float)))
      = (fun x => decide (x ≤ (1.0 : Float))) ∘ (·.latency) from rfl, ← List.countP_map, hlatencies]
    decide
  rw [hhigh, hlength, hwithin]
  exact ⟨rfl, rfl, by decide⟩

end FlowDraft.Trace
