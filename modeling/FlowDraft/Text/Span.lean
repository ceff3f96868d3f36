/-!
# `FlowDraft.Text.Span`: classes of characters as spans of code points

A class of characters is a list of inclusive spans. `Span.cover` asks whether one of them holds
a character.
-/

set_option autoImplicit false

namespace FlowDraft.Text

/-- The first and the last code point of a span. -/
abbrev Span := Nat × Nat

namespace Span

/-- A character lies in a span when its code point is between the two ends. -/
def holds (s : Span) (c : Char) : Bool :=
  s.1 ≤ c.toNat && c.toNat ≤ s.2

/-- Some span holds the character. -/
def cover (spans : List Span) (c : Char) : Bool :=
  spans.any (·.holds c)

end Span

end FlowDraft.Text
