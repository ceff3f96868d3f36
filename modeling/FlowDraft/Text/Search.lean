/-!
# `FlowDraft.Text.Search`: finding and cutting

`occursIn` looks for a text inside another one, `cutAt` cuts a text at the first place where a
mark stands, and `pieces` cuts it at every separator character.

* `occursIn_iff`: `occursIn` decides whether one text is an infix of the other.
* `cutAt_eq_some`: what a cut returns, put together again, is the text that was cut.
* `intercalate_pieces`: the pieces of a text, put together again, are the text.
-/

set_option autoImplicit false

namespace FlowDraft.Text

/-- `pattern` stands somewhere in the text. -/
def occursIn (pattern : List Char) : List Char → Bool
  | [] => pattern.isEmpty
  | c :: cs => pattern.isPrefixOf (c :: cs) || occursIn pattern cs

/-- `pattern` stands somewhere in `text`. -/
def contains (text pattern : String) : Bool :=
  occursIn pattern.toList text.toList

/-- The text before and after the first place where `mark` stands, if it stands anywhere. -/
def cutAt {α : Type} [BEq α] (mark : List α) : List α → Option (List α × List α)
  | [] => if mark.isEmpty then some ([], []) else none
  | c :: cs =>
    if mark.isPrefixOf (c :: cs) then some ([], (c :: cs).drop mark.length)
    else (cutAt mark cs).map fun (before, after) => (c :: before, after)

/-- The pieces of a text between the separators `sep`, one more than there are separators. -/
def pieces (sep : Char) : List Char → List (List Char)
  | [] => [[]]
  | c :: cs =>
    if c == sep then [] :: pieces sep cs
    else
      match pieces sep cs with
      | [] => [[c]]
      | p :: ps => (c :: p) :: ps

/-! ### Laws -/

/-- `occursIn` decides whether one text is an infix of the other. -/
theorem occursIn_iff {pattern text : List Char} :
    occursIn pattern text = true ↔ pattern <:+: text := by
  induction text with
  | nil => simp [occursIn, List.infix_nil]
  | cons c cs ih => simp [occursIn, List.infix_cons_iff, ih]

/-- What a cut returns, put together again, is the text that was cut. -/
theorem cutAt_eq_some {α : Type} [BEq α] [LawfulBEq α] {mark text before after : List α}
    (h : cutAt mark text = some (before, after)) : text = before ++ mark ++ after := by
  induction text generalizing before with
  | nil =>
    simp only [cutAt] at h
    split at h
    · simp_all
    · simp at h
  | cons c cs ih =>
    simp only [cutAt] at h
    split at h
    · next hm =>
      obtain ⟨t, ht⟩ := List.isPrefixOf_iff_prefix.1 hm
      simp only [Option.some.injEq, Prod.mk.injEq] at h
      rw [← ht, ← h.1, ← h.2, ← ht]
      simp
    · simp only [Option.map_eq_some_iff, Prod.mk.injEq, Prod.exists] at h
      obtain ⟨b, a, hb, rfl, rfl⟩ := h
      simp [ih hb]

/-- A text has at least one piece. -/
theorem pieces_ne_nil (sep : Char) (cs : List Char) : pieces sep cs ≠ [] := by
  cases cs with
  | nil => simp [pieces]
  | cons c cs =>
    simp only [pieces]
    split
    · simp
    · split <;> simp

/-- The pieces of a text, put together again, are the text. -/
theorem intercalate_pieces (sep : Char) (cs : List Char) :
    [sep].intercalate (pieces sep cs) = cs := by
  induction cs with
  | nil => rfl
  | cons c cs ih =>
    obtain ⟨p, ps, hp⟩ := List.exists_cons_of_ne_nil (pieces_ne_nil sep cs)
    rw [hp] at ih
    by_cases h : c = sep
    · simp [pieces, h, hp, List.intercalate_cons_cons, ih]
    · cases ps with
      | nil => simp_all [pieces]
      | cons q qs => simp_all [pieces, List.intercalate_cons_cons]

end FlowDraft.Text
