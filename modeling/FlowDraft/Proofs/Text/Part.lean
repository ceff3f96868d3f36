/-!
# `FlowDraft.Proofs.Text.Part`: parts of a text

A text has another one as a part if that stands somewhere in it. Texts that are put together with a
separator are parts of the whole (`HasPart.of_mem`). The characters of a part are an infix of those
of the text (`HasPart.toList_isInfix`).
-/

set_option autoImplicit false

namespace FlowDraft

/-- A text has another one as a part. -/
def Text.HasPart (text part : String) : Prop :=
  ∃ before after, text = before ++ part ++ after

namespace Text

theorem HasPart.of_prefix (part rest : String) : HasPart (part ++ rest) part :=
  ⟨"", rest, by rw [String.empty_append]⟩

theorem HasPart.of_suffix (front part : String) : HasPart (front ++ part) part :=
  ⟨front, "", by rw [String.append_empty]⟩

theorem HasPart.trans {text part inner : String} (h : HasPart text part)
    (h' : HasPart part inner) : HasPart text inner := by
  obtain ⟨before, after, rfl⟩ := h
  obtain ⟨before', after', rfl⟩ := h'
  exact ⟨before ++ before', after' ++ after, by simp only [String.append_assoc]⟩

/-- A text with a part that is not empty is not empty. -/
theorem HasPart.ne_empty {text part : String} (h : HasPart text part) (hpart : part ≠ "") :
    text ≠ "" := by
  rintro rfl
  obtain ⟨before, after, h⟩ := h
  rw [eq_comm, String.append_eq_empty_iff, String.append_eq_empty_iff] at h
  exact hpart h.1.2

/-- Texts that are put together are parts of the whole. -/
theorem HasPart.of_mem {separator part : String} {parts : List String} (h : part ∈ parts) :
    HasPart (separator.intercalate parts) part := by
  induction parts with
  | nil => exact absurd h List.not_mem_nil
  | cons first parts ih =>
    cases parts with
    | nil =>
      rw [List.mem_singleton.1 h, String.intercalate_singleton]
      exact ⟨"", "", by simp⟩
    | cons second parts =>
      rw [String.intercalate_cons_cons]
      rcases List.mem_cons.1 h with rfl | h
      · rw [String.append_assoc]
        exact of_prefix _ _
      · exact (of_suffix _ _).trans (ih h)

theorem HasPart.toList_isInfix {text part : String} (h : HasPart text part) :
    part.toList <:+: text.toList := by
  obtain ⟨before, after, rfl⟩ := h
  exact ⟨before.toList, after.toList, by simp⟩

end Text

end FlowDraft
