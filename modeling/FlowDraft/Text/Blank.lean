import FlowDraft.Text.Span

/-!
# `FlowDraft.Text.Blank`: white space, trimming and words

One notion of white space serves the whole library. A text is trimmed of it at both ends, is
blank when it holds nothing else, and falls into words at it.

* `trim_trim`: trimming twice changes nothing more.
* `trim_eq_empty_iff`: a text trims to nothing exactly when it is blank.
-/

set_option autoImplicit false

namespace FlowDraft.Text

/-- The spans of white space. The zero-width space U+200B and the byte order mark U+FEFF are not
among them. -/
def blankSpans : List Span :=
  [(0x09, 0x0D), (0x1C, 0x20), (0x85, 0x85), (0xA0, 0xA0), (0x1680, 0x1680), (0x2000, 0x200A),
   (0x2028, 0x2029), (0x202F, 0x202F), (0x205F, 0x205F), (0x3000, 0x3000)]

/-- A white space character. -/
def isBlank (c : Char) : Bool :=
  Span.cover blankSpans c

/-- The text without what is of a class at its start and at its end. -/
def trimBy {α : Type} (p : α → Bool) (cs : List α) : List α :=
  ((cs.dropWhile p).reverse.dropWhile p).reverse

/-- The text without the white space around it. -/
def trimChars (cs : List Char) : List Char :=
  trimBy isBlank cs

/-- The text without the white space around it. -/
def trim (s : String) : String :=
  String.ofList (trimChars s.toList)

/-- A blank text holds only white space, or nothing at all. -/
def isBlankText (s : String) : Bool :=
  s.toList.all isBlank

/-- The words of `cs` after the letters `word` (last one first) of a word that is still open. -/
def wordsAfter (word : List Char) : List Char → List (List Char)
  | [] => if word.isEmpty then [] else [word.reverse]
  | c :: cs =>
    if isBlank c then
      if word.isEmpty then wordsAfter [] cs else word.reverse :: wordsAfter [] cs
    else wordsAfter (c :: word) cs

/-- The maximal runs without white space, in order. -/
def words (cs : List Char) : List (List Char) :=
  wordsAfter [] cs

/-! ### Laws -/

section
variable {α : Type} (p : α → Bool)

theorem dropWhile_eq_nil_iff {p : α → Bool} {l : List α} : l.dropWhile p = [] ↔ l.all p = true := by
  induction l with
  | nil => simp
  | cons a l ih => by_cases h : p a <;> simp_all

theorem dropWhile_dropWhile (l : List α) : (l.dropWhile p).dropWhile p = l.dropWhile p := by
  induction l with
  | nil => rfl
  | cons a l ih => by_cases h : p a <;> simp_all

/-- What starts with nothing of the class still does so after its end is trimmed. -/
theorem dropWhile_trimBy (cs : List α) : (trimBy p cs).dropWhile p = trimBy p cs := by
  rcases h : cs.dropWhile p with _ | ⟨c, r⟩
  · rw [trimBy, h]
    rfl
  · have hc : p c = false := by
      have h' := dropWhile_dropWhile p cs
      rw [h] at h'
      cases hb : p c with
      | false => rfl
      | true =>
        have hl := congrArg List.length h'
        have := (List.dropWhile_sublist p (l := r)).length_le
        simp only [List.dropWhile_cons, hb, if_true, List.length_cons] at hl
        omega
    have hsplit : trimBy p cs = c :: (trimBy p cs).tail := by
      simp only [trimBy, h, List.reverse_cons]
      rw [List.dropWhile_append]
      split
      · simp [hc]
      · simp
    rw [hsplit, List.dropWhile_cons, hc]
    simp

theorem trimBy_trimBy (cs : List α) : trimBy p (trimBy p cs) = trimBy p cs := by
  have h2 : (trimBy p cs).reverse.dropWhile p = (trimBy p cs).reverse := by
    simp [trimBy, dropWhile_dropWhile]
  rw [trimBy, dropWhile_trimBy, h2, List.reverse_reverse]

theorem trimBy_eq_nil_iff {p : α → Bool} {cs : List α} : trimBy p cs = [] ↔ cs.all p = true := by
  constructor
  · intro h
    have h2 : (cs.dropWhile p).reverse.dropWhile p = [] := by simpa [trimBy] using h
    rw [dropWhile_eq_nil_iff, List.all_reverse] at h2
    rw [← dropWhile_eq_nil_iff] at h2
    rw [← dropWhile_eq_nil_iff, ← dropWhile_dropWhile]
    exact h2
  · intro h
    simp [trimBy, dropWhile_eq_nil_iff.2 h]

end

theorem trimChars_eq_nil_iff {cs : List Char} : trimChars cs = [] ↔ cs.all isBlank = true :=
  trimBy_eq_nil_iff

/-- Trimming twice changes nothing more. -/
theorem trim_trim (s : String) : trim (trim s) = trim s := by
  simp [trim, trimChars, trimBy_trimBy]

/-- A text trims to nothing exactly when it is blank. -/
theorem trim_eq_empty_iff {s : String} : trim s = "" ↔ isBlankText s = true := by
  rw [trim, String.ofList_eq_empty_iff, trimChars_eq_nil_iff, isBlankText]

end FlowDraft.Text
