import FlowDraft.Text.Blank
import Mathlib.Tactic.SplitIfs

/-!
# `FlowDraft.Proofs.Text.Words`: what the words of a text are

A text is spaced out as some words if it is these words, one after the other, with at least one
character of white space between two of them and any number around them (`Spaced`). Its words are
the only ones that it is spaced out as (`words_eq_iff`), so how much white space there is, and of
which kind, does not matter to them.
-/

set_option autoImplicit false

namespace FlowDraft.Text

/-- A word has letters, and none of them is white space. -/
def IsWord (word : List Char) : Prop :=
  word ≠ [] ∧ ∀ c ∈ word, isBlank c = false

/-- The text is these words, separated and surrounded by white space. -/
inductive Spaced : List (List Char) → List Char → Prop where
  | nil : Spaced [] []
  | blank {c : Char} {ws : List (List Char)} {cs : List Char} (hc : isBlank c = true)
      (h : Spaced ws cs) : Spaced ws (c :: cs)
  | last {word : List Char} (hword : IsWord word) : Spaced [word] word
  | word {word : List Char} {c : Char} {ws : List (List Char)} {cs : List Char}
      (hword : IsWord word) (hc : isBlank c = true) (h : Spaced ws cs) :
      Spaced (word :: ws) (word ++ c :: cs)

/-- The letters of a word are collected, the last one first. -/
theorem wordsAfter_append {word : List Char} (hword : ∀ c ∈ word, isBlank c = false)
    (letters rest : List Char) :
    wordsAfter letters (word ++ rest) = wordsAfter (word.reverse ++ letters) rest := by
  induction word generalizing letters with
  | nil => rfl
  | cons c word ih =>
    rw [List.forall_mem_cons] at hword
    rw [List.cons_append, wordsAfter, if_neg (by simp [hword.1]), ih hword.2, List.reverse_cons,
      List.append_assoc]
    rfl

theorem words_blank {c : Char} (hc : isBlank c = true) (cs : List Char) :
    words (c :: cs) = words cs := by
  rw [words, wordsAfter, if_pos hc]
  rfl

theorem words_of_isWord {word : List Char} (hword : IsWord word) : words word = [word] := by
  have h := wordsAfter_append hword.2 [] []
  rw [List.append_nil, List.append_nil] at h
  rw [words, h, wordsAfter, if_neg (by simpa using hword.1), List.reverse_reverse]

theorem words_append {word : List Char} (hword : IsWord word) {c : Char} (hc : isBlank c = true)
    (cs : List Char) : words (word ++ c :: cs) = word :: words cs := by
  rw [words, wordsAfter_append hword.2, List.append_nil, wordsAfter, if_pos hc,
    if_neg (by simpa using hword.1), List.reverse_reverse, words]

theorem words_of_spaced {ws : List (List Char)} {cs : List Char} (h : Spaced ws cs) :
    words cs = ws := by
  induction h with
  | nil => rfl
  | blank hc _ ih => rw [words_blank hc, ih]
  | last hword => exact words_of_isWord hword
  | word hword hc _ ih => rw [words_append hword hc, ih]

theorem isWord_reverse {letters : List Char} (hne : ¬ letters.isEmpty)
    (hletters : ∀ c ∈ letters, isBlank c = false) : IsWord letters.reverse :=
  ⟨by simpa using hne, fun c hc => hletters c (List.mem_reverse.1 hc)⟩

/-- The letters of the open word belong to the text that is still read. -/
theorem spaced_wordsAfter {letters : List Char} (hletters : ∀ c ∈ letters, isBlank c = false)
    (cs : List Char) : Spaced (wordsAfter letters cs) (letters.reverse ++ cs) := by
  -- On the rest of the text, for whatever letters the open word has by then.
  induction cs generalizing letters with
  | nil =>
    rw [wordsAfter, List.append_nil]
    split_ifs with hempty
    · rw [List.isEmpty_iff.1 hempty]
      exact .nil
    · exact .last (isWord_reverse hempty hletters)
  | cons c cs ih =>
    rw [wordsAfter]
    split_ifs with hc hempty
    · rw [List.isEmpty_iff.1 hempty]
      exact .blank hc (ih (by simp))
    · exact .word (isWord_reverse hempty hletters) hc (ih (by simp))
    · have hletters' : ∀ d ∈ c :: letters, isBlank d = false := by
        rw [List.forall_mem_cons]
        exact ⟨by simpa using hc, hletters⟩
      have h := ih hletters'
      rw [List.reverse_cons, List.append_assoc] at h
      exact h

/-- The words of a text are those, and only those, that it is spaced out as. -/
theorem words_eq_iff {cs : List Char} {ws : List (List Char)} : words cs = ws ↔ Spaced ws cs := by
  constructor
  · rintro rfl
    exact spaced_wordsAfter (by simp) cs
  · exact words_of_spaced

end FlowDraft.Text
