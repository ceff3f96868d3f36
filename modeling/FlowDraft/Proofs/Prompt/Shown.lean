import FlowDraft.Prompt.Request
import FlowDraft.Proofs.Text.Part
import FlowDraft.Proofs.Text.Tokens

/-!
# `FlowDraft.Proofs.Prompt.Shown`: the references stand in the prompt

The text that a request is sent as holds the number and the title of every reference that goes with
it (`title_in_compose`). Its parts stand apart by blank lines, so its size in tokens is the sum of
theirs (`tokenCount_compose`).
-/

set_option autoImplicit false

namespace FlowDraft

namespace Prompt

open Text

/-- The number and the title of a reference. -/
def heading (number : Nat) (e : Example) : String :=
  "Example " ++ toString number ++ ": " ++ e.title

/-- A section starts with its heading. -/
theorem heading_in_referenceText (number : Nat) (e : Example) :
    HasPart (referenceText number e) (heading number e) :=
  .of_mem List.mem_cons_self

/-- Sections are numbered in the order of the references. -/
theorem referenceTexts_eq_mapIdx (number : Nat) (examples : List Example) :
    referenceTexts number examples = examples.mapIdx fun i => referenceText (number + i) := by
  induction examples generalizing number with
  | nil => rfl
  | cons e examples ih =>
    rw [referenceTexts, ih, List.mapIdx_cons]
    simp only [Nat.add_zero, Nat.add_assoc, Nat.add_comm 1]

theorem referenceText_mem {examples : List Example} {i : Nat} {e : Example}
    (h : examples[i]? = some e) (number : Nat) :
    referenceText (number + i) e ∈ referenceTexts number examples := by
  refine List.mem_of_getElem? (i := i) ?_
  rw [referenceTexts_eq_mapIdx, List.getElem?_mapIdx, h]
  rfl

/-- The heading of every reference, numbered from one, stands in the prompt. -/
theorem title_in_compose (request : String) (existing : Option Workflow.Snapshot)
    {examples : List Example} {i : Nat} {e : Example} (h : examples[i]? = some e) :
    HasPart (compose request existing examples) (heading (i + 1) e) := by
  have hfound : HasPart (references examples) (heading (i + 1) e) := by
    rw [Nat.add_comm]
    exact (HasPart.of_mem (referenceText_mem h 1)).trans (heading_in_referenceText (1 + i) e)
  have hheading : heading (i + 1) e ≠ "" :=
    HasPart.ne_empty (show HasPart (heading (i + 1) e) "Example " from
      ⟨"", toString (i + 1) ++ ": " ++ e.title, by simp [heading, String.append_assoc]⟩) (by decide)
  have hne : references examples ≠ "" := hfound.ne_empty hheading
  have hpart : referencesPart (references examples)
      ∈ [requestPart request] ++ existing.toList.map editingPart ++
        (if (references examples).isEmpty then [] else [referencesPart (references examples)]) := by
    rw [if_neg (by simpa using hne)]
    exact List.mem_append_right _ (List.mem_singleton_self _)
  exact ((HasPart.of_mem hpart).trans (.of_suffix _ _)).trans hfound

/-- The tokens of what a request is sent as are those of the request, of the workflow that is being
edited and of the references. -/
theorem tokenCount_compose (request : String) (existing : Option Workflow.Snapshot)
    (examples : List Example) :
    tokenCount (compose request existing examples)
      = tokenCount (requestPart request)
        + (existing.elim 0 fun s => tokenCount (editingPart s))
        + (if (references examples).isEmpty then 0
            else tokenCount (referencesPart (references examples))) := by
  have hbreak : isBlankText "\n\n" = true := by decide +kernel
  rw [compose, tokenCount_intercalate (by decide) hbreak, List.map_append, List.map_append,
    List.sum_append, List.sum_append]
  congr 1
  · cases existing <;> simp
  · split <;> simp

end Prompt

end FlowDraft
