import FlowDraft.Text.CaseTable

/-!
# `FlowDraft.Text.Lower`: small letters

Every capital has one small letter, with two exceptions. The dotted capital I becomes `i` with a
combining dot, and the capital sigma has a form of its own at the end of a word. Where a word
ends is read off the neighbours of the sigma: characters such as the apostrophe are passed over,
and the nearest other one counts if it has a case.
-/

set_option autoImplicit false

namespace FlowDraft.Text

/-- A run of capitals holds a code point. -/
def CaseRun.holds (r : CaseRun) (n : Nat) : Bool :=
  r.first ≤ n && n ≤ r.last && (n - r.first) % r.step == 0

/-- The small letter of a capital that has one wherever it stands. -/
def lowerChar (c : Char) : Char :=
  if c.toNat < 0x80 then c.toLower
  else
    match caseRuns.find? (·.holds c.toNat) with
    | some r => Char.ofNat (c.toNat + r.shift).toNat
    | none => c

/-- The nearest character that is not passed over has a case. -/
def startsCased (cs : List Char) : Bool :=
  match cs.dropWhile (Span.cover ignorableSpans) with
  | [] => false
  | c :: _ => Span.cover casedSpans c

/-- The small letters of one character between the text `left` of it (last character first) and
the text `right` of it. -/
def lowerBetween (left : List Char) (c : Char) (right : List Char) : List Char :=
  if c == '\u0130' then ['i', '\u0307']
  else if c == '\u03A3' then
    if startsCased left && !startsCased right then ['\u03C2'] else ['\u03C3']
  else [lowerChar c]

/-- The small letters of `cs` after the text `left` (last character first). -/
def lowerAfter (left : List Char) : List Char → List Char
  | [] => []
  | c :: cs => lowerBetween left c cs ++ lowerAfter (c :: left) cs

/-- The text in small letters. -/
def lowerChars (cs : List Char) : List Char :=
  lowerAfter [] cs

/-- The text in small letters. -/
def lower (s : String) : String :=
  String.ofList (lowerChars s.toList)

end FlowDraft.Text
