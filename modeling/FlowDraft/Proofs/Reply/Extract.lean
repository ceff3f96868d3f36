import FlowDraft.Proofs.Text.Cut
import FlowDraft.Proofs.Text.Trimmed
import FlowDraft.Reply.Extract
import Mathlib.Data.List.TakeWhile

/-!
# `FlowDraft.Proofs.Reply.Extract`: where the document in a reply is found

A fenced block is found exactly when there is one (`fenced?_eq_none_iff`), and what is found stands
behind a fence (`fenced?_of_holdsBlock`). It is the first block: `fenced?_block` finds a text
between fences, whatever stands behind them. A reply without a block is searched for braces, and
`braced?_object` finds an object between characters that are no braces.
-/

set_option autoImplicit false

namespace FlowDraft

open Letter (char)

namespace Reply

/-! ### Blocks -/

/-- A fenced block stands in the text: a fence, and another one somewhere behind it. -/
def HoldsBlock (cs : Letters) : Prop :=
  ∃ a b c, cs = a ++ fence ++ (b ++ fence ++ c)

theorem fenced?_of_cuts {cs before opened block rest : Letters}
    (hopened : Text.cutAt fence cs = some (before, opened))
    (hclosed : Text.cutAt fence opened = some (block, rest)) :
    fenced? cs = some (Letters.trim (block.dropWhile isTag)) := by
  rw [fenced?, hopened]
  show (Text.cutAt fence opened).bind _ = _
  rw [hclosed]
  rfl

/-- What is found in a block stands behind a fence, with nothing but a tag and white space
between. -/
theorem fenced?_of_holdsBlock {cs : Letters} (h : HoldsBlock cs) :
    ∃ before skipped text after, fenced? cs = some text ∧
      cs = before ++ fence ++ (skipped ++ text) ++ after ∧
      ∀ c ∈ skipped, isTag c = true ∨ Letter.isBlank c = true := by
  obtain ⟨a, b, c, rfl⟩ := h
  -- The first fence is found no later than behind `a`, and the next one no later than behind `b`.
  obtain ⟨before, opened, hopened, hsuffix⟩ := Text.cutAt_of_append fence a (b ++ fence ++ c)
  obtain ⟨d, rfl⟩ := hsuffix
  obtain ⟨block, rest, hclosed, -⟩ := Text.cutAt_of_append fence (d ++ b) c
  rw [List.append_assoc d b fence, List.append_assoc d (b ++ fence) c] at hclosed
  obtain ⟨blanks, after, hsplit, hblanks, -⟩ :=
    Text.exists_eq_append_trimBy Letter.isBlank (block.dropWhile isTag)
  have htrim : block.dropWhile isTag = blanks ++ Letters.trim (block.dropWhile isTag) ++ after :=
    hsplit
  refine ⟨before, block.takeWhile isTag ++ blanks, _, after ++ (fence ++ rest),
    fenced?_of_cuts hopened hclosed, ?_, ?_⟩
  · have hblock : block.takeWhile isTag ++
        (blanks ++ Letters.trim (block.dropWhile isTag) ++ after) = block := by
      rw [← htrim, List.takeWhile_append_dropWhile]
    calc a ++ fence ++ (b ++ fence ++ c)
        = before ++ fence ++ (d ++ (b ++ fence ++ c)) := Text.cutAt_eq_some hopened
      _ = before ++ fence ++ (block ++ fence ++ rest) := by rw [Text.cutAt_eq_some hclosed]
      _ = before ++ fence ++ (block.takeWhile isTag ++
            (blanks ++ Letters.trim (block.dropWhile isTag) ++ after) ++ fence ++ rest) := by
        rw [hblock]
      _ = _ := by simp only [List.append_assoc]
  · intro c hc
    rcases List.mem_append.1 hc with hc | hc
    · exact .inl (List.mem_takeWhile_imp hc)
    · exact .inr (hblanks c hc)

/-- A fenced block is found exactly when there is one. -/
theorem fenced?_eq_none_iff {cs : Letters} : fenced? cs = none ↔ ¬ HoldsBlock cs := by
  constructor
  · intro hnone hblock
    obtain ⟨before, skipped, text, after, hfound, -⟩ := fenced?_of_holdsBlock hblock
    rw [hnone] at hfound
    cases hfound
  · intro h
    cases hopened : Text.cutAt fence cs with
    | none => rw [fenced?, hopened]; rfl
    | some parts =>
      obtain ⟨before, opened⟩ := parts
      cases hclosed : Text.cutAt fence opened with
      | none => rw [fenced?, hopened]; simp [hclosed]
      | some parts =>
        obtain ⟨block, rest⟩ := parts
        have hcs := Text.cutAt_eq_some hopened
        rw [Text.cutAt_eq_some hclosed] at hcs
        exact absurd ⟨before, block, rest, hcs⟩ h

/-! ### Where a document is found -/

/-- White space around an object is trimmed. -/
theorem trim_object (m : Letters) :
    Letters.trim (char '\n' :: char '\x7b' :: (m ++ [char '\x7d']) ++ [char '\n'])
      = char '\x7b' :: (m ++ [char '\x7d']) := by
  have hbreak : Text.isBlank '\n' = true := by decide
  have hopen : Text.isBlank '\x7b' = false := by decide
  have hclose : Text.isBlank '\x7d' = false := by decide
  simp [Letters.trim, Text.trimBy, hbreak, hopen, hclose]

/-- A text on lines of its own between fences is found, whatever stands behind the block. -/
theorem fenced?_block {p tag text : Letters} (hp : char '\x60' ∉ p)
    (htag : ∀ c ∈ tag, isTag c = true) (htext : ¬ fence <:+: text) (s : Letters) :
    fenced? (p ++ (fence ++ (tag ++ char '\n' :: text ++ char '\n' :: (fence ++ s))))
      = some (Letters.trim (char '\n' :: text ++ [char '\n'])) := by
  have hbreak : char '\n' ∉ fence := by decide
  -- A fence in the block would lie in the tag or in the text, since it has no line break.
  have hbare : ¬ fence <:+: tag := fun hfence => by
    have hmem := htag (char '\x60') (hfence.subset List.mem_cons_self)
    exact absurd hmem (by decide)
  have hblock : ¬ fence <:+: tag ++ char '\n' :: text := fun hfence =>
    (Text.infix_append_cons hbreak hfence).elim hbare htext
  have hopened : Text.cutAt fence
      (p ++ (fence ++ (tag ++ char '\n' :: text ++ char '\n' :: (fence ++ s))))
        = some (p, tag ++ char '\n' :: text ++ char '\n' :: (fence ++ s)) :=
    Text.cutAt_append_of_not_mem hp _
  have hclosed : Text.cutAt fence (tag ++ char '\n' :: text ++ char '\n' :: (fence ++ s))
      = some (tag ++ char '\n' :: text ++ [char '\n'], s) :=
    Text.cutAt_append_of_not_infix (List.cons_ne_nil _ _) hbreak hblock s
  have hskip : (tag ++ char '\n' :: text ++ [char '\n']).dropWhile isTag
      = char '\n' :: text ++ [char '\n'] := by
    rw [List.append_assoc, List.dropWhile_append_of_pos htag]
    rfl
  rw [fenced?_of_cuts hopened hclosed, hskip]

/-- An object between letters without braces is found. -/
theorem braced?_object {p s : Letters} (m : Letters) (hp : char '\x7b' ∉ p)
    (hs : char '\x7d' ∉ s) :
    braced? (p ++ (char '\x7b' :: (m ++ [char '\x7d']) ++ s))
      = some (char '\x7b' :: (m ++ [char '\x7d'])) := by
  have hopen : (p ++ (char '\x7b' :: (m ++ [char '\x7d']) ++ s)).dropWhile (· != char '\x7b')
      = char '\x7b' :: (m ++ [char '\x7d']) ++ s := by
    rw [List.dropWhile_append_of_pos]
    · rfl
    · intro c hc
      rw [bne_iff_ne]
      rintro rfl
      exact hp hc
  have hclose : (char '\x7b' :: (m ++ [char '\x7d']) ++ s).reverse.dropWhile (· != char '\x7d')
      = (char '\x7b' :: (m ++ [char '\x7d'])).reverse := by
    rw [List.reverse_append, List.dropWhile_append_of_pos]
    · simp
    · intro c hc
      rw [bne_iff_ne]
      rintro rfl
      exact hs (List.mem_reverse.1 hc)
  rw [braced?, hopen]
  show throughLastBrace? (char '\x7b' :: (m ++ [char '\x7d']) ++ s) = _
  rw [throughLastBrace?, hclose]
  simp

end Reply

end FlowDraft
