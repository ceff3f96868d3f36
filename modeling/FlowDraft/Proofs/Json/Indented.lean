import FlowDraft.Proofs.Json.Characters
import FlowDraft.Proofs.Json.Scan
import FlowDraft.Proofs.Text.Lines

/-!
# `FlowDraft.Proofs.Json.Indented`: documents over many lines

In an indented document every line but the first starts with spaces or with a closing bracket, as
the line feeds in its texts are escaped (`startsLines_render`). So no line of an object starts with
a letter, whatever its texts are (`head?_of_mem_lines_write`).
-/

set_option autoImplicit false

namespace FlowDraft.Json

open Text (startsLines startsLines_append startsLines_of_not_mem lines)
open Token (isBare renderText_congr)

/-- The characters that the lines of an indented object start with. -/
def isLineStart (c : Char) : Bool :=
  ['\x7b', '\x7d', ']', ' '].contains c

/-! ### Characters that start no lines -/

theorem startsLines_of_bare {cs : List Char} (h : ∀ c ∈ cs, isBare c = true) :
    startsLines isLineStart false cs = true :=
  startsLines_of_not_mem (lineFeed_not_mem_of_bare h)

theorem startsLines_renderText (s : Letters) :
    startsLines isLineStart false ((renderText .indented s).map Letter.shown) = true := by
  have hcompact : renderText .indented s = render .compact 0 (.str s) := renderText_congr rfl s
  rw [hcompact]
  refine startsLines_of_not_mem fun hmem => ?_
  exact lineFeed_not_mem_render rfl 0 (.str s) ((Letters.mem_map_shown_iff (by decide)).1 hmem)

/-- A character that is no line feed starts no line. -/
theorem startsLines_cons {c : Char} (hc : c ≠ '\n') {cs : List Char}
    (h : startsLines isLineStart false cs = true) :
    startsLines isLineStart false (c :: cs) = true := by
  have hmem : '\n' ∉ [c] := by simpa using Ne.symm hc
  exact startsLines_append (startsLines_of_not_mem hmem) h

/-! ### Characters that start lines -/

/-- Behind a line break stand the spaces of the level. -/
theorem startsLines_lineBreak (level : Nat) :
    startsLines isLineStart false (Style.indented.lineBreak (level + 1)) = true := by
  have hspaces : startsLines isLineStart false (List.replicate (2 * level + 1) ' ') = true :=
    startsLines_of_not_mem fun hmem => absurd (List.eq_of_mem_replicate hmem) (by decide)
  exact hspaces

theorem startsLines_separator (level : Nat) :
    startsLines isLineStart false (Style.indented.separator (level + 1)) = true :=
  startsLines_cons (by decide) (startsLines_lineBreak level)

/-- Behind the last line break of a list or an object stand spaces, or its closing bracket. -/
theorem startsLines_close (level : Nat) {c : Char} (hc : isLineStart c = true) :
    startsLines isLineStart false (Style.indented.lineBreak level ++ [c]) = true := by
  have hfeed : c ≠ '\n' := by
    rintro rfl
    exact absurd hc (by decide)
  cases level with
  | zero =>
    show startsLines isLineStart true [c] = true
    simp [startsLines, hc, hfeed]
  | succ level =>
    exact startsLines_append (startsLines_lineBreak level)
      (startsLines_of_not_mem (by simpa using Ne.symm hfeed))

/-! ### Documents -/

mutual

/-- The lines that start in an indented document start with spaces or closing brackets. -/
theorem startsLines_render (level : Nat) (v : Json Letters) :
    startsLines isLineStart false ((render .indented level v).map Letter.shown) = true := by
  have hbare : ∀ cs : List Char, (∀ c ∈ cs, isBare c = true) →
      startsLines isLineStart false ((Letters.ofChars cs).map Letter.shown) = true := by
    intro cs h
    rw [Letters.map_shown_ofChars]
    exact startsLines_of_bare h
  cases v with
  | null => exact hbare _ (List.all_eq_true.1 (by decide))
  | bool b => cases b <;> exact hbare _ (List.all_eq_true.1 (by decide))
  | int n => exact hbare _ (Token.isBare_of_mem_decimalInt n)
  | float x =>
    exact hbare _ (Decimal.Layout.isBareWord_render Decimal.Layout.hasBareWords_json x).bare
  | str s => exact startsLines_renderText s
  | arr items =>
    have hitems := startsLines_renderItems level items
    cases items with
    | nil => rfl
    | cons v vs =>
      simp only [render, List.map_cons, List.map_append, Letters.map_shown_ofChars]
      exact startsLines_cons (by decide) (startsLines_append
        (startsLines_append (startsLines_lineBreak level) hitems) (startsLines_close level rfl))
  | obj fields =>
    have hfields := startsLines_renderFields level fields
    cases fields with
    | nil => rfl
    | cons f fs =>
      simp only [render, List.map_cons, List.map_append, Letters.map_shown_ofChars]
      exact startsLines_cons (by decide) (startsLines_append
        (startsLines_append (startsLines_lineBreak level) hfields) (startsLines_close level rfl))

theorem startsLines_renderItems (level : Nat) (items : List (Json Letters)) :
    startsLines isLineStart false ((renderItems .indented (level + 1) items).map Letter.shown)
      = true := by
  cases items with
  | nil => rfl
  | cons v vs =>
    have hv := startsLines_render (level + 1) v
    have hvs := startsLines_renderItems level vs
    cases vs with
    | nil => exact hv
    | cons w ws =>
      rw [renderItems, List.map_append, List.map_append, Letters.map_shown_ofChars]
      · exact startsLines_append hv (startsLines_append (startsLines_separator level) hvs)
      · exact List.cons_ne_nil w ws

theorem startsLines_renderFields (level : Nat) (fields : List (Letters × Json Letters)) :
    startsLines isLineStart false ((renderFields .indented (level + 1) fields).map Letter.shown)
      = true := by
  cases fields with
  | nil => rfl
  | cons f fs =>
    obtain ⟨k, v⟩ := f
    have hv := startsLines_render (level + 1) v
    have hfs := startsLines_renderFields level fs
    have hfield : startsLines isLineStart false
        ((renderText .indented k ++ (.char ':' :: .char ' ' :: render .indented (level + 1) v)).map
          Letter.shown) = true := by
      rw [List.map_append]
      exact startsLines_append (startsLines_renderText k)
        (startsLines_cons (by decide) (startsLines_cons (by decide) hv))
    cases fs with
    | nil => exact hfield
    | cons f fs =>
      have hrest : startsLines isLineStart false ((Letters.ofChars (Style.indented.separator
          (level + 1)) ++ renderFields .indented (level + 1) (f :: fs)).map Letter.shown) = true := by
        rw [List.map_append, Letters.map_shown_ofChars]
        exact startsLines_append (startsLines_separator level) hfs
      rw [renderFields, List.map_append]
      · exact startsLines_append hfield hrest
      · exact List.cons_ne_nil f fs

end

/-- Every line of an indented object starts with a bracket or with spaces. -/
theorem head?_of_mem_lines_write {fields : Fields} {line : String}
    (h : line ∈ lines (write .indented (.obj fields))) :
    line.toList.head?.any isLineStart = true := by
  refine Text.head?_of_mem_lines (by decide) ?_ h
  rw [write, String.toList_ofList]
  have hstarts := startsLines_render 0 (.obj (mapFields Letters.ofString fields))
  obtain ⟨cs, hcs⟩ : ∃ cs, render .indented 0 (.obj (mapFields Letters.ofString fields))
      = .char '\x7b' :: cs := by
    cases fields <;> exact ⟨_, rfl⟩
  show startsLines isLineStart true
    ((render .indented 0 (.obj (mapFields Letters.ofString fields))).map Letter.shown) = true
  rw [hcs] at hstarts ⊢
  exact hstarts

end FlowDraft.Json
