import FlowDraft.Text.Search

/-!
# `FlowDraft.Proofs.Text.Cut`: where a text is cut

`Text.cutAt` cuts a text at the first place where a mark stands. A text is cut exactly when the
mark stands in it (`cutAt_eq_none_iff`), and never behind a place where it stands
(`cutAt_of_append`). What has no mark in it stays before the cut: characters that the mark does not
start with (`cutAt_append_of_not_mem`), and a text up to a character that is not part of the mark
(`cutAt_append_of_not_infix`).
-/

set_option autoImplicit false

namespace FlowDraft.Text

/-! ### Marks without a character -/

section
variable {α : Type}

/-- A mark that a character is not part of ends before it. -/
theorem prefix_of_prefix_append_cons {mark a b : List α} {c : α} (hc : c ∉ mark)
    (h : mark <+: a ++ c :: b) : mark <+: a := by
  induction mark generalizing a with
  | nil => exact List.nil_prefix
  | cons d mark ih =>
    rw [List.mem_cons, not_or] at hc
    cases a with
    | nil => exact absurd (List.cons_prefix_cons.1 h).1.symm hc.1
    | cons e a =>
      obtain ⟨rfl, hrest⟩ := List.cons_prefix_cons.1 h
      exact List.cons_prefix_cons.2 ⟨rfl, ih hc.2 hrest⟩

/-- A mark that a character is not part of stands before it or behind it. -/
theorem infix_append_cons {mark a b : List α} {c : α} (hc : c ∉ mark)
    (h : mark <:+: a ++ c :: b) : mark <:+: a ∨ mark <:+: b := by
  induction a with
  | nil =>
    rcases List.infix_cons_iff.1 h with h | h
    · exact .inl (prefix_of_prefix_append_cons hc h).isInfix
    · exact .inr h
  | cons d a ih =>
    rcases List.infix_cons_iff.1 h with h | h
    · exact .inl (prefix_of_prefix_append_cons hc h).isInfix
    · exact (ih h).imp_left fun h => List.infix_cons h

end

section
variable {α : Type} [BEq α] [LawfulBEq α]

/-! ### The first place where a mark stands -/

/-- Where a mark stands, the text is cut there or before. -/
theorem cutAt_of_append (mark a b : List α) :
    ∃ before after, cutAt mark (a ++ mark ++ b) = some (before, after) ∧ b <:+ after := by
  induction a with
  | nil =>
    rw [List.nil_append]
    cases htext : mark ++ b with
    | nil =>
      obtain ⟨rfl, rfl⟩ := List.append_eq_nil_iff.1 htext
      exact ⟨[], [], rfl, List.suffix_rfl⟩
    | cons c cs =>
      have hstart : mark.isPrefixOf (c :: cs) = true :=
        List.isPrefixOf_iff_prefix.2 ⟨b, htext⟩
      exact ⟨[], b, by rw [cutAt, if_pos hstart, ← htext, List.drop_left], List.suffix_rfl⟩
  | cons c a ih =>
    obtain ⟨before, after, hcut, hsuffix⟩ := ih
    by_cases hstart : mark.isPrefixOf (c :: (a ++ mark ++ b)) = true
    · refine ⟨[], (c :: (a ++ mark ++ b)).drop mark.length, by
        rw [List.cons_append, List.cons_append, cutAt, if_pos hstart], ?_⟩
      have hlength : mark.length ≤ (c :: a ++ mark).length := by
        rw [List.length_append]
        omega
      show b <:+ ((c :: a ++ mark) ++ b).drop mark.length
      rw [List.drop_append_of_le_length hlength]
      exact List.suffix_append _ _
    · refine ⟨c :: before, after, ?_, hsuffix⟩
      rw [List.cons_append, List.cons_append, cutAt, if_neg hstart, hcut]
      rfl

/-- A text is cut exactly when the mark stands in it. -/
theorem cutAt_eq_none_iff {mark text : List α} : cutAt mark text = none ↔ ¬ mark <:+: text := by
  constructor
  · rintro hnone ⟨a, b, rfl⟩
    obtain ⟨before, after, hcut, -⟩ := cutAt_of_append mark a b
    rw [hnone] at hcut
    cases hcut
  · intro hmark
    cases hcut : cutAt mark text with
    | none => rfl
    | some parts =>
      obtain ⟨before, after⟩ := parts
      exact absurd ⟨before, after, (cutAt_eq_some hcut).symm⟩ hmark

/-- A character before which no mark starts stays before the cut. -/
theorem cutAt_cons_of_not_prefix {mark : List α} {c : α} {cs : List α}
    (h : ¬ mark <+: c :: cs) :
    cutAt mark (c :: cs) = (cutAt mark cs).map fun (before, after) => (c :: before, after) := by
  rw [cutAt, if_neg (fun hstart => h (List.isPrefixOf_iff_prefix.1 hstart))]

/-- A mark at the start of a text is cut off. -/
theorem cutAt_append_self {mark : List α} (h : mark ≠ []) (cs : List α) :
    cutAt mark (mark ++ cs) = some ([], cs) := by
  cases htext : mark ++ cs with
  | nil => exact absurd (List.append_eq_nil_iff.1 htext).1 h
  | cons d ds =>
    rw [cutAt, if_pos (List.isPrefixOf_iff_prefix.2 ⟨cs, htext⟩), ← htext, List.drop_left]

/-- A text without the mark, up to a character that is not part of it, stays before the cut. -/
theorem cutAt_append_of_not_infix {mark before : List α} {c : α} (hne : mark ≠ [])
    (hc : c ∉ mark) (h : ¬ mark <:+: before) (cs : List α) :
    cutAt mark (before ++ c :: (mark ++ cs)) = some (before ++ [c], cs) := by
  induction before with
  | nil =>
    have hstart : ¬ mark <+: [] ++ c :: (mark ++ cs) := fun hp =>
      h (prefix_of_prefix_append_cons hc hp).isInfix
    rw [List.nil_append, cutAt_cons_of_not_prefix hstart, cutAt_append_self hne]
    rfl
  | cons d before ih =>
    have hstart : ¬ mark <+: d :: (before ++ c :: (mark ++ cs)) := fun hp =>
      h (prefix_of_prefix_append_cons (a := d :: before) hc hp).isInfix
    rw [List.cons_append, cutAt_cons_of_not_prefix hstart, ih fun hi => h (List.infix_cons hi)]
    rfl

/-- Characters that the mark does not start with stay before the cut. -/
theorem cutAt_append_of_not_mem {c : α} {mark before : List α} (h : c ∉ before)
    (cs : List α) : cutAt (c :: mark) (before ++ (c :: mark ++ cs)) = some (before, cs) := by
  induction before with
  | nil => exact cutAt_append_self (List.cons_ne_nil c mark) cs
  | cons d before ih =>
    rw [List.mem_cons, not_or] at h
    have hstart : ¬ c :: mark <+: d :: (before ++ (c :: mark ++ cs)) := fun hp =>
      h.1 (List.cons_prefix_cons.1 hp).1
    rw [List.cons_append, cutAt_cons_of_not_prefix hstart, ih h.2]
    rfl

end

end FlowDraft.Text
