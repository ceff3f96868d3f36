import FlowDraft.Json.Display
import FlowDraft.Proofs.Json.Characters
import FlowDraft.Proofs.Text.Lines
import FlowDraft.Text.Blank

/-!
# `FlowDraft.Proofs.Json.Displayed`: values inside running text

A text inside running text stands for itself, so it may break a line and it may be blank. Any other
value is a literal, which does neither: the texts in it are quoted, with their line feeds escaped
(`lineFeed_not_mem_literal`), and its first character is no white space (`exists_literal_eq_cons`).
-/

set_option autoImplicit false

namespace FlowDraft

/-- No line feed stands in a quoted text. -/
theorem Text.Quoted.lineFeed_not_mem_encode (cs : List Char) : '\n' ∉ encode cs := by
  have hmark : '\n' ≠ mark cs := by
    rw [mark]
    split <;> decide
  have hhex : ∀ width n, '\n' ∉ hex width n := fun width n =>
    Json.lineFeed_not_mem_of_bare (Json.isBare_hex width n)
  have hescape : ∀ c, '\n' ∉ escape (mark cs) c := by
    -- The line feed itself is one of the three with short escapes, so it is not shown as it is.
    intro c
    rw [escape]
    split
    · next h =>
      rw [Bool.or_eq_true, beq_iff_eq, beq_iff_eq] at h
      have hc : '\n' ≠ c := by
        rcases h with rfl | rfl
        · exact hmark
        · decide
      simp [hc]
    split
    · decide
    split
    · decide
    split
    · decide
    split
    · next hfeed _ _ =>
      rw [beq_iff_eq] at hfeed
      simpa using Ne.symm hfeed
    · rw [escapeCode]
      repeat' split
      all_goals simp [hhex]
  rw [encode]
  simp only [List.mem_cons, List.mem_append, List.mem_flatMap, List.not_mem_nil, or_false, not_or]
  exact ⟨hmark, fun ⟨c, _, hc⟩ => hescape c hc, hmark⟩

namespace Json

open Decimal (Layout)
open Token (isBare)

/-! ### Literals -/

mutual

/-- No line feed stands in a literal. -/
theorem lineFeed_not_mem_literal (v : Json) : '\n' ∉ literal v := by
  cases v with
  | null => simp [literal]
  | bool b => cases b <;> simp [literal]
  | int n => exact lineFeed_not_mem_of_bare (Token.isBare_of_mem_decimalInt n)
  | float x =>
    exact lineFeed_not_mem_of_bare (Layout.isBareWord_render Layout.hasBareWords_plain x).bare
  | str s => exact Text.Quoted.lineFeed_not_mem_encode s.toList
  | arr items => simp [literal, lineFeed_not_mem_literalItems items]
  | obj fields => simp [literal, lineFeed_not_mem_literalFields fields]

theorem lineFeed_not_mem_literalItems (items : List Json) : '\n' ∉ literalItems items := by
  cases items with
  | nil => exact List.not_mem_nil
  | cons v vs =>
    have hv := lineFeed_not_mem_literal v
    have hvs := lineFeed_not_mem_literalItems vs
    cases vs with
    | nil => exact hv
    | cons w ws =>
      show '\n' ∉ literal v ++ ',' :: ' ' :: literalItems (w :: ws)
      simp [hv, hvs]

theorem lineFeed_not_mem_literalFields (fields : List (String × Json)) :
    '\n' ∉ literalFields fields := by
  cases fields with
  | nil => exact List.not_mem_nil
  | cons f fs =>
    obtain ⟨k, v⟩ := f
    have hk := Text.Quoted.lineFeed_not_mem_encode k.toList
    have hv := lineFeed_not_mem_literal v
    have hfs := lineFeed_not_mem_literalFields fs
    cases fs with
    | nil =>
      show '\n' ∉ Text.Quoted.encode k.toList ++ ':' :: ' ' :: literal v
      simp [hk, hv]
    | cons f fs =>
      show '\n' ∉ Text.Quoted.encode k.toList ++ ':' :: ' ' :: literal v ++
        ',' :: ' ' :: literalFields (f :: fs)
      simp [hk, hv, hfs]

end

/-- No character of a bare word is white space. -/
theorem not_isBlank_of_isBare {c : Char} (h : isBare c = true) : Text.isBlank c = false := by
  have halphanum : c.isAlphanum = (decide ('A'.val ≤ c.val ∧ c.val ≤ 'Z'.val) ||
      (decide ('a'.val ≤ c.val) && decide (c.val ≤ 'z'.val)) ||
      (decide ('0'.val ≤ c.val) && decide (c.val ≤ '9'.val))) := rfl
  -- The codes of bare characters lie between two spans of white space.
  have hbare : 0x2B ≤ c.toNat ∧ c.toNat ≤ 0x7A := by
    have hval : c.toNat = c.val.toNat := rfl
    simp only [isBare, halphanum, Bool.or_eq_true, Bool.and_eq_true, decide_eq_true_eq,
      beq_iff_eq, UInt32.le_iff_toNat_le] at h
    rcases h with (((h | h) | rfl) | rfl) | rfl
    · simp at h
      omega
    · simp at h
      omega
    all_goals decide
  rw [← Bool.not_eq_true]
  simp [Text.isBlank, Text.Span.cover, Text.blankSpans, Text.Span.holds]
  omega

/-- A literal starts with a character that is no white space, unless it is that of a text. -/
theorem exists_literal_eq_cons {v : Json} (h : v.text? = none) :
    ∃ c cs, literal v = c :: cs ∧ Text.isBlank c = false := by
  have hword : ∀ cs : List Char, Decimal.IsBareWord cs →
      ∃ c ds, cs = c :: ds ∧ Text.isBlank c = false := by
    intro cs hcs
    obtain ⟨c, ds, rfl⟩ := List.exists_cons_of_ne_nil hcs.ne_nil
    exact ⟨c, ds, rfl, not_isBlank_of_isBare (hcs.bare c List.mem_cons_self)⟩
  cases v with
  | null => exact ⟨_, _, rfl, by decide⟩
  | bool b => cases b <;> exact ⟨_, _, rfl, by decide⟩
  | int n => exact hword _ ⟨Text.decimalInt_ne_nil n, Token.isBare_of_mem_decimalInt n⟩
  | float x => exact hword _ (Layout.isBareWord_render Layout.hasBareWords_plain x)
  | str s => cases h
  | arr items => exact ⟨_, _, rfl, by decide⟩
  | obj fields => exact ⟨_, _, rfl, by decide⟩

/-! ### Values in running text -/

theorem display_of_text?_eq_none {v : Json} (h : v.text? = none) :
    v.display = String.ofList (literal v) := by
  cases v with
  | str s => cases h
  | _ => rfl

/-- A value breaks a line only if it is a text that does. -/
theorem lineFeeds_display (v : Json) :
    Text.lineFeeds v.display = (v.text?.map Text.lineFeeds).getD 0 := by
  cases htext : v.text? with
  | none =>
    rw [display_of_text?_eq_none htext]
    refine Text.lineFeeds_eq_zero_iff.2 ?_
    rw [String.toList_ofList]
    exact lineFeed_not_mem_literal v
  | some s =>
    cases v with
    | str t =>
      obtain rfl := Option.some.inj htext
      rfl
    | _ => cases htext

/-- A value is blank only if it is a text that is. -/
theorem isBlankText_display (v : Json) :
    Text.isBlankText v.display = v.text?.any Text.isBlankText := by
  cases htext : v.text? with
  | none =>
    obtain ⟨c, cs, hliteral, hc⟩ := exists_literal_eq_cons htext
    rw [display_of_text?_eq_none htext, hliteral, Text.isBlankText, String.toList_ofList,
      List.all_cons, hc]
    rfl
  | some s =>
    cases v with
    | str t =>
      obtain rfl := Option.some.inj htext
      rfl
    | _ => cases htext

/-- Only the empty text is shown as nothing. -/
theorem display_ne_empty {v : Json} (h : v.isVoid = false) : v.display ≠ "" := by
  cases htext : v.text? with
  | none =>
    intro hempty
    have hblank := isBlankText_display v
    rw [hempty, htext] at hblank
    cases hblank
  | some s =>
    cases v with
    | str t =>
      have ht : t ≠ "" := by simpa [isVoid] using h
      exact ht
    | _ => cases htext

end Json

end FlowDraft
