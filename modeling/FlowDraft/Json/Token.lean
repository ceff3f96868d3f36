import FlowDraft.Decimal.Numeral
import FlowDraft.Json.Basic
import FlowDraft.Text.Letter

/-!
# `FlowDraft.Json.Token`: the tokens of a document

A document is written as marks, texts between double quotes and bare words, with blanks between
them. `Token.scan` reads a text one character at a time. It never fails: what is no token gives the
token `broken`, and nothing is read behind a character that cannot stand where it stands.

A bare word is the longest run of letters, digits, signs and points. What it means, if anything,
is decided by `Token.ofWord`.

The halves of a pair that are given by two escapes make up one character. A half that stands in the
text itself, or is given by an escape without the other one beside it, is a letter of its own.
-/

set_option autoImplicit false

namespace FlowDraft.Json

/-- A mark of the document format. -/
inductive Mark where
  | openList
  | closeList
  | openObject
  | closeObject
  | comma
  | colon
deriving Repr, DecidableEq

/-- A token of the document format. -/
inductive Token where
  | mark (m : Mark)
  /-- A text. It may also name a field. -/
  | text (s : Letters)
  /-- A number, a truth value or null. -/
  | value (v : Json Letters)
  /-- A whole number with more digits than are read, and how many it has. -/
  | oversized (digits : Nat)
  /-- No token. -/
  | broken
deriving Repr

namespace Mark

/-- The mark that a character is. -/
def ofChar? (c : Char) : Option Mark :=
  if c == '[' then some .openList
  else if c == ']' then some .closeList
  else if c == '\x7b' then some .openObject
  else if c == '\x7d' then some .closeObject
  else if c == ',' then some .comma
  else if c == ':' then some .colon
  else none

end Mark

namespace Token

/-- The blanks of the document format: space, tab and the two line breaks. -/
def isGap (c : Char) : Bool :=
  c == ' ' || c == '\t' || c == '\n' || c == '\r'

/-- The characters that bare words are made of. -/
def isBare (c : Char) : Bool :=
  c.isAlphanum || c == '-' || c == '+' || c == '.'

/-- The values that have a name. -/
def names : List (List Char × Json Letters) :=
  [("null".toList, .null), ("true".toList, .bool true), ("false".toList, .bool false),
   ("NaN".toList, .float (0.0 / 0.0)), ("Infinity".toList, .float (1.0 / 0.0)),
   ("-Infinity".toList, .float (-1.0 / 0.0))]

/-- The number that a numeral denotes. A numeral without point and exponent is a whole number. -/
def ofNumeral (n : Decimal.Numeral) : Token :=
  if n.isWhole then .value (.int n.toInt) else .value (.float n.toFloat)

/-- The meaning of a bare word: a named value or a number. A word that starts with an oversized
whole number is told apart from other broken words. -/
def ofWord (word : List Char) : Token :=
  match List.lookup word names with
  | some v => .value v
  | none =>
    match Decimal.Numeral.scan? word with
    | none => .broken
    | some (n, rest) =>
      -- The length of a whole number is found out before what follows it.
      if n.isWhole && Decimal.maxDigits < n.whole.length then .oversized n.whole.length
      else if rest.isEmpty then ofNumeral n
      else .broken

/-! ### Reading -/

/-- The first half of a pair. -/
def isHigh (n : Nat) : Bool := 0xD800 ≤ n && n < 0xDC00

/-- The second half of a pair. -/
def isLow (n : Nat) : Bool := 0xDC00 ≤ n && n < 0xE000

/-- A letter of a text while the text is read. The code of an escape is kept apart, because two
codes may join to a pair. -/
inductive CodeUnit where
  | letter (l : Letter)
  | code (n : Nat)
deriving Repr

namespace CodeUnit

/-- The letter that is read, if nothing joins it. -/
def toLetter : CodeUnit → Letter
  | letter l => l
  | code n => .ofCode n

/-- The character that two halves make up. -/
def pair? : CodeUnit → CodeUnit → Option CodeUnit
  | code high, code low =>
    if isHigh high && isLow low then
      some (.letter (.char (.ofNat (0x10000 + (high - 0xD800) * 0x400 + (low - 0xDC00)))))
    else none
  | _, _ => none

end CodeUnit

/-- Where the reader stands. What was read of a word or a text is kept last one first. -/
inductive Place where
  /-- Between tokens. -/
  | gap
  /-- In a bare word. -/
  | word (letters : List Char)
  /-- In a text. -/
  | text (letters : List CodeUnit)
  /-- Behind a backslash in a text. -/
  | escape (letters : List CodeUnit)
  /-- In the code of an escape: how many digits are missing, and the number so far. -/
  | code (letters : List CodeUnit) (missing : Nat) (n : Nat)
  /-- Behind a token that is none. -/
  | stop
deriving Repr

/-- The character of an escape that is one letter. -/
def escaped? (c : Char) : Option Char :=
  if c == '"' || c == '\\' || c == '/' then some c
  else if c == 'b' then some '\x08'
  else if c == 'f' then some '\x0c'
  else if c == 'n' then some '\n'
  else if c == 'r' then some '\r'
  else if c == 't' then some '\t'
  else none

/-- One more letter. The second half of a pair joins the first one. -/
def pushLetter (unit : CodeUnit) : List CodeUnit → List CodeUnit
  | [] => [unit]
  | last :: letters =>
    match last.pair? unit with
    | some pair => pair :: letters
    | none => unit :: last :: letters

/-- The text of letters that were kept last one first. -/
def textOf (letters : List CodeUnit) : Letters :=
  letters.reverse.map CodeUnit.toLetter

/-- What the reader has read, last token first, and where it stands. -/
structure Scan where
  tokens : List Token
  place : Place

namespace Scan

/-- Nothing read yet. -/
def start : Scan := ⟨[], .gap⟩

/-- The scan with one token more, between tokens again. -/
def emit (s : Scan) (t : Token) : Scan := ⟨t :: s.tokens, .gap⟩

/-- The scan with a token that is none at its end. -/
def fail (s : Scan) : Scan := ⟨.broken :: s.tokens, .stop⟩

/-- The scan at another place. -/
def goto (s : Scan) (p : Place) : Scan := ⟨s.tokens, p⟩

/-- One character between tokens. -/
def atGap (s : Scan) (c : Char) : Scan :=
  if isGap c then s.goto .gap
  else if c == '"' then s.goto (.text [])
  else if isBare c then s.goto (.word [c])
  else
    match Mark.ofChar? c with
    | some m => s.emit (.mark m)
    | none => s.fail

/-- The end of a bare word. -/
def endWord (s : Scan) (letters : List Char) : Scan :=
  s.emit (ofWord letters.reverse)

/-- One character in a text. A control character must be escaped. -/
def inText (s : Scan) (letters : List CodeUnit) (c : Char) : Scan :=
  if c == '"' then s.emit (.text (textOf letters))
  else if c == '\\' then s.goto (.escape letters)
  else if c.toNat < 0x20 then s.fail
  else s.goto (.text (.letter (.char c) :: letters))

/-- The character behind a backslash in a text. -/
def inEscape (s : Scan) (letters : List CodeUnit) (c : Char) : Scan :=
  if c == 'u' then s.goto (.code letters 4 0)
  else
    match escaped? c with
    | some e => s.goto (.text (.letter (.char e) :: letters))
    | none => s.fail

/-- One digit of the code of an escape. -/
def inCode (s : Scan) (letters : List CodeUnit) (missing n : Nat) (c : Char) : Scan :=
  match Text.hexValue? c with
  | none => s.fail
  | some d =>
    if missing ≤ 1 then s.goto (.text (pushLetter (.code (16 * n + d)) letters))
    else s.goto (.code letters (missing - 1) (16 * n + d))

/-- One character read. -/
def stepChar (s : Scan) (c : Char) : Scan :=
  match s.place with
  | .gap => s.atGap c
  | .word letters => if isBare c then s.goto (.word (c :: letters)) else (s.endWord letters).atGap c
  | .text letters => s.inText letters c
  | .escape letters => s.inEscape letters c
  | .code letters missing n => s.inCode letters missing n c
  | .stop => s

/-- A half of a pair read. It stands for itself in a text and may stand nowhere else. -/
def stepHalf (s : Scan) (n : Fin 0x800) : Scan :=
  match s.place with
  | .text letters => s.goto (.text (.letter (.half n) :: letters))
  | .word letters => (s.endWord letters).fail
  | .stop => s
  | _ => s.fail

/-- One letter read. -/
def step (s : Scan) : Letter → Scan
  | .char c => s.stepChar c
  | .half n => s.stepHalf n

/-- The tokens read when the text is at its end. A text that is still open is broken. -/
def finish (s : Scan) : List Token :=
  match s.place with
  | .gap | .stop => s.tokens.reverse
  | .word letters => (s.endWord letters).tokens.reverse
  | _ => s.fail.tokens.reverse

end Scan

/-- The tokens of a text. -/
def scan (cs : Letters) : List Token :=
  (cs.foldl Scan.step Scan.start).finish

/-- Characters are read one by one. -/
theorem foldl_step_ofChars (cs : List Char) (s : Scan) :
    (Letters.ofChars cs).foldl Scan.step s = cs.foldl Scan.stepChar s :=
  List.foldl_map

end Token

end FlowDraft.Json
