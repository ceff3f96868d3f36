import FlowDraft.Decimal.Layout
import FlowDraft.Json.Basic
import FlowDraft.Text.Letter

/-!
# `FlowDraft.Json.Writer`: writing documents

A document is written with its fields in order. A `Style` says which characters of a text are
escaped and whether items stand on lines of their own.

* `Style.compact`: one line, every letter as it is but quotes, backslashes and controls.
* `Style.ascii7`: one line of printable ASCII.
* `Style.indented`: a line for each item, two spaces for each level.

`render` writes documents whose texts are `Letters`, `dump` and `write` those whose texts are
strings.
-/

set_option autoImplicit false

namespace FlowDraft.Json

open Letter (char)
open Letters (ofChars)

/-- How documents are written. -/
structure Style where
  /-- Characters beyond ASCII and the delete character are escaped too. -/
  ascii : Bool
  /-- The spaces for each level, when items stand on lines of their own. -/
  indent : Option Nat

namespace Style

/-- One line, with every printable character as it is. -/
def compact : Style := ⟨false, none⟩

/-- One line of printable ASCII. -/
def ascii7 : Style := ⟨true, none⟩

/-- A line for each item, two spaces for each level. -/
def indented : Style := ⟨false, some 2⟩

/-- What stands between a bracket and the items inside it at a level. -/
def lineBreak (style : Style) (level : Nat) : List Char :=
  match style.indent with
  | none => []
  | some width => '\n' :: List.replicate (width * level) ' '

/-- What stands between two items at a level. -/
def separator (style : Style) (level : Nat) : List Char :=
  match style.indent with
  | none => [',', ' ']
  | some _ => ',' :: style.lineBreak level

end Style

/-- The escape of a code below 0x10000. -/
def escapeUnit (n : Nat) : List Char :=
  '\\' :: 'u' :: Text.hex 4 n

/-- The escape of a character by its code. Characters beyond the first plane take two halves. -/
def escapeCode (c : Char) : List Char :=
  if c.toNat < 0x10000 then escapeUnit c.toNat
  else
    let n := c.toNat - 0x10000
    escapeUnit (0xD800 + n / 0x400) ++ escapeUnit (0xDC00 + n % 0x400)

/-- One character as it stands in a text. -/
def escapeChar (style : Style) (c : Char) : List Char :=
  if c == '"' then ['\\', '"']
  else if c == '\\' then ['\\', '\\']
  else if c == '\n' then ['\\', 'n']
  else if c == '\r' then ['\\', 'r']
  else if c == '\t' then ['\\', 't']
  else if c == '\x08' then ['\\', 'b']
  else if c == '\x0c' then ['\\', 'f']
  else if c.toNat < 0x20 then escapeCode c
  else if style.ascii && 0x7E < c.toNat then escapeCode c
  else [c]

/-- One letter as it stands in a text. -/
def escape (style : Style) : Letter → Letters
  | .char c => ofChars (escapeChar style c)
  | .half n => if style.ascii then ofChars (escapeUnit (0xD800 + n)) else [.half n]

/-- A text between double quotes. -/
def renderText (style : Style) (s : Letters) : Letters :=
  char '"' :: (s.flatMap (escape style) ++ [char '"'])

mutual

/-- A value that stands at a level. -/
def render (style : Style) (level : Nat) : Json Letters → Letters
  | .null => "null"
  | .bool true => "true"
  | .bool false => "false"
  | .int n => ofChars (Text.decimalInt n)
  | .float x => ofChars (Decimal.Layout.json.render x)
  | .str s => renderText style s
  | .arr [] => ['[', ']']
  | .arr (v :: vs) =>
    char '[' :: (ofChars (style.lineBreak (level + 1)) ++
      renderItems style (level + 1) (v :: vs) ++ (ofChars (style.lineBreak level) ++ [char ']']))
  | .obj [] => ['\x7b', '\x7d']
  | .obj (f :: fs) =>
    char '\x7b' :: (ofChars (style.lineBreak (level + 1)) ++
      renderFields style (level + 1) (f :: fs) ++ (ofChars (style.lineBreak level) ++ [char '\x7d']))

/-- Items with separators between them. -/
def renderItems (style : Style) (level : Nat) : List (Json Letters) → Letters
  | [] => []
  | [v] => render style level v
  | v :: vs =>
    render style level v ++ (ofChars (style.separator level) ++ renderItems style level vs)

/-- Fields with separators between them. -/
def renderFields (style : Style) (level : Nat) : List (Letters × Json Letters) → Letters
  | [] => []
  | [(k, v)] => renderText style k ++ (char ':' :: char ' ' :: render style level v)
  | (k, v) :: fs =>
    renderText style k ++ (char ':' :: char ' ' :: render style level v) ++
      (ofChars (style.separator level) ++ renderFields style level fs)

end

/-- The characters of a document whose texts are strings. -/
def dump (style : Style) (v : Json) : List Char :=
  (render style 0 (v.map Letters.ofString)).map Letter.shown

/-- A document whose texts are strings, as text. -/
def write (style : Style) (v : Json) : String :=
  String.ofList (dump style v)

end FlowDraft.Json
