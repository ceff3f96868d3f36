import FlowDraft.Text.Blank
import Mathlib.Data.List.TakeWhile

/-!
# `FlowDraft.Proofs.Text.Trimmed`: what a text is trimmed to

Where characters of a class are followed by none, `takeWhile` and `dropWhile` stop between them. So
a text is trimmed to what has nothing of a class, such as white space, at either end and stands in
it between nothing else (`trimBy_eq_iff`).
-/

set_option autoImplicit false

namespace FlowDraft.Text

/-! ### Where a class of characters ends -/

section
variable {α : Type} {p : α → Bool} {front rest : List α}

theorem any_head?_dropWhile (cs : List α) : (cs.dropWhile p).head?.any p = false := by
  have hhead := List.head?_dropWhile_not p cs
  cases hdrop : (cs.dropWhile p).head? with
  | none => rfl
  | some c => simpa [hdrop] using hhead

theorem takeWhile_append_of_head? (hfront : ∀ c ∈ front, p c = true)
    (hrest : rest.head?.any p = false) : (front ++ rest).takeWhile p = front := by
  have hstop : rest.takeWhile p = [] := by
    cases rest with
    | nil => rfl
    | cons c rest => exact List.takeWhile_cons_of_neg (by simpa using hrest)
  rw [List.takeWhile_append_of_pos hfront, hstop, List.append_nil]

theorem dropWhile_append_of_head? (hfront : ∀ c ∈ front, p c = true)
    (hrest : rest.head?.any p = false) : (front ++ rest).dropWhile p = rest := by
  rw [List.dropWhile_append_of_pos hfront]
  cases rest with
  | nil => rfl
  | cons c rest => exact List.dropWhile_cons_of_neg (by simpa using hrest)

end

/-! ### Trimmed texts -/

section
variable {α : Type} (p : α → Bool)

/-- A text has nothing of a class at either end. -/
structure IsTrimmed (cs : List α) : Prop where
  start : cs.head?.any p = false
  stop : cs.getLast?.any p = false

instance (cs : List α) : Decidable (IsTrimmed p cs) :=
  decidable_of_iff (cs.head?.any p = false ∧ cs.getLast?.any p = false)
    ⟨fun h => ⟨h.1, h.2⟩, fun h => ⟨h.start, h.stop⟩⟩

theorem isTrimmed_trimBy (cs : List α) : IsTrimmed p (trimBy p cs) where
  start := by
    rw [← dropWhile_trimBy]
    exact any_head?_dropWhile _
  stop := by
    rw [trimBy, List.getLast?_reverse]
    exact any_head?_dropWhile _

/-- What is dropped before a trimmed text, and what is dropped behind it. -/
theorem exists_eq_append_trimBy (cs : List α) :
    ∃ before behind, cs = before ++ trimBy p cs ++ behind ∧
      (∀ c ∈ before, p c = true) ∧ ∀ c ∈ behind, p c = true := by
  have hstart := List.takeWhile_append_dropWhile (p := p) (l := cs)
  have hend := List.takeWhile_append_dropWhile (p := p) (l := (cs.dropWhile p).reverse)
  have hreverse := congrArg List.reverse hend
  rw [List.reverse_append, List.reverse_reverse] at hreverse
  refine ⟨cs.takeWhile p, ((cs.dropWhile p).reverse.takeWhile p).reverse, ?_,
    fun c hc => List.mem_takeWhile_imp hc,
    fun c hc => List.mem_takeWhile_imp (List.mem_reverse.1 hc)⟩
  rw [trimBy, List.append_assoc, hreverse, hstart]

variable {p}

/-- What is of the class around a trimmed text is dropped, and nothing else is. -/
theorem trimBy_append {before cs behind : List α} (h : IsTrimmed p cs)
    (hbefore : ∀ c ∈ before, p c = true) (hbehind : ∀ c ∈ behind, p c = true) :
    trimBy p (before ++ cs ++ behind) = cs := by
  cases cs with
  | nil =>
    rw [trimBy_eq_nil_iff]
    simp_all
  | cons c cs =>
    have hstart : (before ++ (c :: cs ++ behind)).dropWhile p = c :: cs ++ behind :=
      dropWhile_append_of_head? hbefore h.start
    have hstop : (c :: cs).reverse.head?.any p = false := by
      rw [List.head?_reverse]
      exact h.stop
    rw [List.append_assoc, trimBy, hstart, List.reverse_append,
      dropWhile_append_of_head? (by simpa using hbehind) hstop, List.reverse_reverse]

/-- A text is trimmed to what has nothing of the class at its ends and nothing else around it. -/
theorem trimBy_eq_iff {cs trimmed : List α} :
    trimBy p cs = trimmed ↔ IsTrimmed p trimmed ∧ ∃ before behind,
      cs = before ++ trimmed ++ behind ∧
        (∀ c ∈ before, p c = true) ∧ ∀ c ∈ behind, p c = true := by
  constructor
  · rintro rfl
    exact ⟨isTrimmed_trimBy p cs, exists_eq_append_trimBy p cs⟩
  · rintro ⟨htrimmed, before, behind, rfl, hbefore, hbehind⟩
    exact trimBy_append htrimmed hbefore hbehind

end

/-- Trimming makes no text blank that was not blank before. -/
theorem isBlankText_trim (s : String) : isBlankText (trim s) = isBlankText s := by
  rw [Bool.eq_iff_iff, ← trim_eq_empty_iff, trim_trim, trim_eq_empty_iff]

end FlowDraft.Text
