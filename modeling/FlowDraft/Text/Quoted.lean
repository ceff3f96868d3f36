import FlowDraft.Text.Digit
import FlowDraft.Text.PrintableTable

/-!
# `FlowDraft.Text.Quoted`: a text between quotes

A quoted text stands between single quotes, or between double quotes when it holds a single quote
and no double one. The quote and the backslash are escaped by a backslash, tab and line breaks by
a letter, and other characters that cannot be shown by their code point.
-/

set_option autoImplicit false

namespace FlowDraft.Text.Quoted

/-- The quote that a text is put between. -/
def mark (cs : List Char) : Char :=
  if cs.contains '\x27' && !cs.contains '\x22' then '\x22' else '\x27'

/-- A character that a quoted text shows as it is. ASCII is answered without the table. -/
def isPrintable (c : Char) : Bool :=
  if c.toNat < 0x80 then 0x20 ≤ c.toNat && c.toNat < 0x7F else Span.cover printableSpans c

/-- The escape of a character by its code point, in two, four or eight digits. -/
def escapeCode (c : Char) : List Char :=
  if c.toNat < 0x100 then '\\' :: 'x' :: hex 2 c.toNat
  else if c.toNat < 0x10000 then '\\' :: 'u' :: hex 4 c.toNat
  else '\\' :: 'U' :: hex 8 c.toNat

/-- One character as it stands between the quotes `q`. -/
def escape (q c : Char) : List Char :=
  if c == q || c == '\\' then ['\\', c]
  else if c == '\t' then ['\\', 't']
  else if c == '\n' then ['\\', 'n']
  else if c == '\r' then ['\\', 'r']
  else if isPrintable c then [c]
  else escapeCode c

/-- A text between quotes. -/
def encode (cs : List Char) : List Char :=
  let q := mark cs
  q :: (cs.flatMap (escape q) ++ [q])

end FlowDraft.Text.Quoted

namespace FlowDraft.Text

/-- A text between quotes. -/
def quoted (s : String) : String :=
  String.ofList (Quoted.encode s.toList)

end FlowDraft.Text
