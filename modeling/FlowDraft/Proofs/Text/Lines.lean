import Mathlib.Algebra.GroupWithZero.Nat

/-!
# `FlowDraft.Proofs.Text.Lines`: the lines of a text

A text falls into lines at its line feeds, and `length_lines` says into how many. Texts that are put
together with line feeds between them keep their lines (`lines_intercalate`). So a part without line
feeds makes up one line of the whole, and any other part more than one.

`startsLines` follows the characters of a text and looks at those that a line starts with
(`head?_of_mem_lines`).

`textBehindLast?` is what stands behind the last line of a kind. `textBehindLast?_intercalate` finds
it where no later part has such a line.
-/

set_option autoImplicit false

namespace FlowDraft.Text

/-- The lines of a text. -/
def lines (s : String) : List String :=
  (s.toList.splitOn '\n').map String.ofList

/-- The number of line feeds in a text. -/
def lineFeeds (s : String) : Nat :=
  s.toList.count '\n'

/-! ### Line feeds -/

theorem lineFeeds_eq_zero_iff {s : String} : lineFeeds s = 0 ↔ '\n' ∉ s.toList :=
  List.count_eq_zero

@[simp]
theorem lineFeeds_append (s t : String) : lineFeeds (s ++ t) = lineFeeds s + lineFeeds t := by
  rw [lineFeeds, String.toList_append, List.count_append]
  rfl

/-- A text has one line more than line feeds. -/
theorem length_lines (s : String) : (lines s).length = lineFeeds s + 1 := by
  rw [lines, List.length_map, lineFeeds]
  induction s.toList with
  | nil => rfl
  | cons c cs ih =>
    rw [List.splitOn_cons_eq_if_modifyHead, List.count_cons]
    split
    · rw [List.length_cons, ih]
    · rw [List.length_modifyHead, ih]

/-! ### Lines of a whole -/

theorem lines_of_not_mem {s : String} (h : '\n' ∉ s.toList) : lines s = [s] := by
  rw [lines, List.splitOn_eq_singleton h, List.map_singleton, String.ofList_toList]

/-- A line feed ends a line. -/
theorem lines_append (s t : String) : lines (s ++ "\n" ++ t) = lines s ++ lines t := by
  have hsplit : (s ++ "\n" ++ t).toList = s.toList ++ '\n' :: t.toList := by simp
  rw [lines, hsplit, List.splitOn_append_cons_self, List.map_append]
  rfl

/-- Texts with line feeds between them keep their lines. -/
theorem lines_intercalate {parts : List String} (h : parts ≠ []) :
    lines ("\n".intercalate parts) = parts.flatMap lines := by
  induction parts with
  | nil => exact absurd rfl h
  | cons first parts ih =>
    cases parts with
    | nil => simp
    | cons second parts =>
      rw [String.intercalate_cons_cons, lines_append, ih (List.cons_ne_nil second parts)]
      rfl

/-- The lines of a text make it up again. -/
theorem intercalate_lines (s : String) : "\n".intercalate (lines s) = s := by
  rw [← String.toList_inj, String.toList_intercalate, lines, List.map_map]
  show ['\n'].intercalate ((s.toList.splitOn '\n').map fun line => (String.ofList line).toList) = _
  simp only [String.toList_ofList, List.map_id', List.intercalate_splitOn]

/-- Every part makes up a line, and every line feed in a part one more. -/
theorem length_lines_intercalate {parts : List String} (h : parts ≠ []) :
    (lines ("\n".intercalate parts)).length = parts.length + (parts.map lineFeeds).sum := by
  rw [lines_intercalate h, List.length_flatMap]
  clear h
  induction parts with
  | nil => rfl
  | cons part parts ih =>
    rw [List.map_cons, List.sum_cons, List.map_cons, List.sum_cons, List.length_cons, ih,
      length_lines]
    omega

/-- Parts without line feeds are the lines. -/
theorem lines_intercalate_of_not_mem {parts : List String} (hne : parts ≠ [])
    (h : ∀ part ∈ parts, '\n' ∉ part.toList) : lines ("\n".intercalate parts) = parts := by
  rw [lines_intercalate hne]
  clear hne
  induction parts with
  | nil => rfl
  | cons part parts ih =>
    rw [List.forall_mem_cons] at h
    rw [List.flatMap_cons, lines_of_not_mem h.1, ih h.2, List.singleton_append]

/-! ### How lines start -/

/-- Every line that starts in the characters starts with one for which `p` holds. One starts at the
beginning if `atStart` says so, and one behind every line feed. -/
def startsLines (p : Char → Bool) : (atStart : Bool) → List Char → Bool
  | atStart, [] => !atStart
  | atStart, c :: cs => (!atStart || p c) && startsLines p (c == '\n') cs

section
variable {p : Char → Bool}

theorem startsLines_append {atStart : Bool} {cs ds : List Char}
    (hcs : startsLines p atStart cs = true) (hds : startsLines p false ds = true) :
    startsLines p atStart (cs ++ ds) = true := by
  induction cs generalizing atStart with
  | nil =>
    obtain rfl : atStart = false := by simpa [startsLines] using hcs
    exact hds
  | cons c cs ih =>
    rw [startsLines, Bool.and_eq_true] at hcs
    rw [List.cons_append, startsLines, hcs.1, ih hcs.2]
    rfl

/-- No line starts where there is no line feed. -/
theorem startsLines_of_not_mem {cs : List Char} (h : '\n' ∉ cs) :
    startsLines p false cs = true := by
  induction cs with
  | nil => rfl
  | cons c cs ih =>
    rw [List.mem_cons, not_or] at h
    rw [startsLines, beq_false_of_ne (Ne.symm h.1), ih h.2]
    rfl

/-- The character that a piece between line feeds starts with. The first piece starts a line only
if one starts at the beginning. -/
theorem startsLines_splitOn (hp : p '\n' = false) {atStart : Bool} {cs : List Char}
    (h : startsLines p atStart cs = true) :
    ∃ first rest, cs.splitOn '\n' = first :: rest ∧
      (atStart = true → first.head?.any p = true) ∧ ∀ piece ∈ rest, piece.head?.any p = true := by
  induction cs generalizing atStart with
  | nil =>
    obtain rfl : atStart = false := by simpa [startsLines] using h
    exact ⟨[], [], rfl, nofun, List.forall_mem_nil _⟩
  | cons c cs ih =>
    rw [startsLines, Bool.and_eq_true] at h
    obtain ⟨first, rest, hsplit, hfirst, hrest⟩ := ih h.2
    rw [List.splitOn_cons_eq_if_modifyHead, hsplit]
    -- A line feed ends an empty first piece. Any other character goes to the front of the first.
    by_cases hc : c = '\n'
    · obtain rfl : atStart = false := by simpa [hc, hp] using h.1
      refine ⟨[], first :: rest, if_pos (by simpa using hc), nofun, ?_⟩
      exact List.forall_mem_cons.2 ⟨hfirst (by simpa using hc), hrest⟩
    · refine ⟨c :: first, rest, if_neg (by simpa using hc), fun hstart => ?_, hrest⟩
      simpa [hstart] using h.1

/-- Every line of a text starts with a character for which `p` holds. -/
theorem head?_of_mem_lines (hp : p '\n' = false) {s : String}
    (h : startsLines p true s.toList = true) {line : String} (hline : line ∈ lines s) :
    line.toList.head?.any p = true := by
  obtain ⟨first, rest, hsplit, hfirst, hrest⟩ := startsLines_splitOn hp h
  obtain ⟨piece, hpiece, rfl⟩ := List.mem_map.1 hline
  rw [String.toList_ofList]
  rw [hsplit, List.mem_cons] at hpiece
  rcases hpiece with rfl | hpiece
  · exact hfirst rfl
  · exact hrest piece hpiece

end

/-! ### Behind a line -/

/-- The lines behind the last one that is `mark`. -/
def behindLast? (mark : String) : List String → Option (List String)
  | [] => none
  | line :: rest => (behindLast? mark rest).or (if line = mark then some rest else none)

/-- The text behind the last line that is `mark`. -/
def textBehindLast? (mark s : String) : Option String :=
  (behindLast? mark (lines s)).map "\n".intercalate

theorem behindLast?_eq_none {mark : String} {rest : List String} (h : mark ∉ rest) :
    behindLast? mark rest = none := by
  induction rest with
  | nil => rfl
  | cons line rest ih =>
    rw [List.mem_cons, not_or] at h
    rw [behindLast?, ih h.2, if_neg (Ne.symm h.1)]
    rfl

/-- The last line that is the mark is the one behind which there is none. -/
theorem behindLast?_append {mark : String} {rest : List String} (h : mark ∉ rest)
    (before : List String) : behindLast? mark (before ++ mark :: rest) = some rest := by
  induction before with
  | nil =>
    rw [List.nil_append, behindLast?, behindLast?_eq_none h, if_pos rfl]
    rfl
  | cons line before ih =>
    rw [List.cons_append, behindLast?, ih]
    rfl

/-- The last part stands behind the last mark, if it has no such line itself. -/
theorem textBehindLast?_intercalate {mark last : String} (hmark : '\n' ∉ mark.toList)
    (hlast : mark ∉ lines last) (before : List String) :
    textBehindLast? mark ("\n".intercalate (before ++ [mark, last])) = some last := by
  have hlines : lines ("\n".intercalate (before ++ [mark, last]))
      = before.flatMap lines ++ mark :: lines last := by
    rw [lines_intercalate (by simp), List.flatMap_append, List.flatMap_cons, lines_of_not_mem hmark]
    simp
  rw [textBehindLast?, hlines, behindLast?_append hlast, Option.map_some, intercalate_lines]

end FlowDraft.Text
