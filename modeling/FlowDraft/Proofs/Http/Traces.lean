import FlowDraft.Http.Site
import FlowDraft.Proofs.Trace.Recent

/-!
# `FlowDraft.Proofs.Http.Traces`: the latest traces that a site shows

A site that is asked for its latest traces shows what the store gives with the limit that it is
asked for (`length_traces_le_iff`). `recent_of_made` is the main statement: what a store gives after
any traces were put into it, for any limit, and what that means for the traces that are shown.
-/

set_option autoImplicit false

namespace FlowDraft.Http

open Trace

/-- The traces that are shown are as many as the limit says at most, if it is above zero, or if
there are none. -/
theorem length_traces_le_iff (desk : Desk) {limit : Int} (h : 0 ≤ limit) :
    (((desk.traces.recent limit).map Record.toJson).length : Int) ≤ limit ↔
      0 < limit ∨ desk.traces.records = [] := by
  rw [List.length_map]
  exact desk.traces.length_recent_le_iff h

/-- **The latest traces are as many as the limit says, if it is above zero.** Traces are put into an
empty store one after another, and it holds the end of the list of all of them. Asked for the latest
ones with a limit above zero, it gives so many, or all if there are not so many. With a limit of
zero it gives all, and with a limit below zero all but so many at the front. So it gives what the
limit says exactly if the limit is above zero, or if all that are kept are left out. A site that
serves from the store shows an item for each trace that it gives: no limit above zero is exceeded,
and a limit of zero is as soon as there is a trace. -/
theorem recent_of_made (names : Nat → String) (capacity limit : Int)
    (makes : List (String → Record)) :
    let store := Store.addAll names { capacity } makes
    let made := Store.made names makes
    let kept := store.records
    let latest := kept.drop (kept.length - min (max 0 limit).toNat kept.length)
    kept = made.drop (made.length - capacity.toNat) ∧
    (0 < limit → store.recent limit = latest) ∧
    (limit ≤ 0 → store.recent limit = kept.drop (-limit).toNat) ∧
    (store.recent limit = latest ↔ 0 < limit ∨ (kept.length : Int) ≤ -limit) ∧
    ∀ desk : Desk, desk.traces = store →
      ∃ items, items = (store.recent limit).map Record.toJson ∧
        Site.traces desk limit = .obj [("items", .arr items)] ∧
        (0 ≤ limit → ((items.length : Int) ≤ limit ↔ 0 < limit ∨ kept = [])) := by
  intro store made kept latest
  refine ⟨Store.records_addAll_empty names capacity makes,
    fun hpos => (Store.recent_eq_latest_iff store).2 (.inl hpos), Store.recent_of_nonpos store,
    Store.recent_eq_latest_iff store, ?_⟩
  intro desk hdesk
  have hlength := @length_traces_le_iff desk limit
  rw [hdesk] at hlength
  refine ⟨_, rfl, ?_, hlength⟩
  rw [Site.traces, hdesk]

/-- A trace of which only the name is known. -/
def traceNamed (id : String) : Record :=
  { (default : Record) with id }

/-- Of three traces, the last two are shown with a limit of two. -/
theorem recent_of_made_two_of_three :
    let store := Store.addAll toString {} [traceNamed, traceNamed, traceNamed]
    store.recent 2 = [traceNamed "1", traceNamed "2"] ∧
    ∃ items, Site.traces { traces := store } 2 = .obj [("items", .arr items)] ∧
      items.length ≤ 2 := by
  intro store
  obtain ⟨hkept, hpos, -, -, hshown⟩ :=
    recent_of_made toString 1000 2 [traceNamed, traceNamed, traceNamed]
  constructor
  · rw [hpos (by decide), hkept]
    rfl
  · obtain ⟨items, -, hitems, hlength⟩ := hshown { traces := store } rfl
    exact ⟨items, hitems, Int.ofNat_le.1 ((hlength (by decide)).2 (.inl (by decide)))⟩

/-- Of two traces, both are shown with a limit of zero. -/
theorem recent_of_two_for_none :
    let store := Store.addAll toString {} [traceNamed, traceNamed]
    let kept := store.records
    store.recent 0 ≠ kept.drop (kept.length - min (max 0 (0 : Int)).toNat kept.length) ∧
    ∃ items, Site.traces { traces := store } 0 = .obj [("items", .arr items)] ∧
      items.length = 2 := by
  intro store kept
  have hkept : kept = [traceNamed "0", traceNamed "1"] := by
    exact (Store.records_addAll_empty toString 1000 [traceNamed, traceNamed]).trans rfl
  have hrecent : store.recent 0 = [traceNamed "0", traceNamed "1"] := by
    rw [Store.recent_of_nonpos store (Int.le_refl 0)]
    exact hkept
  refine ⟨?_, _, rfl, ?_⟩
  · rw [hrecent, hkept]
    exact List.cons_ne_nil _ _
  · rw [List.length_map, hrecent]
    rfl

end FlowDraft.Http
