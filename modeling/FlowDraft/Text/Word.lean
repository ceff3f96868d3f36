import FlowDraft.Text.Letter
import FlowDraft.Text.WordTable

/-!
# `FlowDraft.Text.Word`: word characters and the size of a text in tokens

A token is a maximal run of word characters or a single character that is neither a word
character nor white space. `tokenCount` counts them without building them: a character adds one
when it is a mark of its own or when it opens a word.

`tokenCount` is `estimate_token_count`.
-/

set_option autoImplicit false

namespace FlowDraft

namespace Text

/-- A letter, a number or the low line. ASCII is answered without the table. -/
def isWord (c : Char) : Bool :=
  if c.toNat < 0x80 then c.isAlphanum || c == '_' else Span.cover wordSpans c

/-- The tokens that `cs` adds after a character that was a word character when `inWord` says so. -/
def tokensAfter (inWord : Bool) : List Char → Nat
  | [] => 0
  | c :: cs =>
    if isWord c then (if inWord then 0 else 1) + tokensAfter true cs
    else (if isBlank c then 0 else 1) + tokensAfter false cs

/-- The number of tokens of a text. -/
def tokenCount (s : String) : Nat :=
  tokensAfter false s.toList

end Text

/-- The number of tokens of a text that may hold halves of pairs. A half is a token of its own, like
the character that is shown for it. -/
def Letters.tokenCount (s : Letters) : Nat :=
  Text.tokenCount s.shown

end FlowDraft
