import FlowDraft.Json.Reader

/-!
# `FlowDraft.Json.Position`: where a text stops being a document

A text that is malformed is so from some position on. That is where the first token starts that
cannot stand where it stands, or the end of the text when something is still open. Inside a token
that is none, the position is told more exactly: it is behind the longest value at its start, at a
control character, or at an escape that is none. A text that is not closed is reported at its
opening quote.
-/

set_option autoImplicit false

namespace FlowDraft.Json

namespace Token

/-- A token starts at the character that is read at a place. -/
def startsAt (p : Place) (c : Char) : Bool :=
  match p with
  | .gap => !isGap c
  | .word _ => !isBare c && !isGap c
  | _ => false

/-- The positions at which tokens start, from a position and a scan on. -/
def startsFrom (position : Nat) (s : Scan) : List Char → List Nat
  | [] => []
  | c :: cs =>
    let rest := startsFrom (position + 1) (s.stepChar c) cs
    if startsAt s.place c then position :: rest else rest

/-- The positions at which the tokens of a text start. -/
def starts (cs : List Char) : List Nat :=
  startsFrom 0 .start cs

/-- The length of the longest value at the start of a bare word. -/
def valueLength (word : List Char) : Nat :=
  match names.find? fun entry => entry.1.isPrefixOf word with
  | some (name, _) => name.length
  | none =>
    match Decimal.Numeral.scan? word with
    | some (_, rest) => word.length - rest.length
    | none => 0

/-- How far behind its opening quote a text is broken, from an offset and a place on. Zero stands
for a text that is not closed. The code of an escape counts as broken at the end of everything,
even with all its digits. -/
def breakFrom (offset : Nat) (p : Place) : List Char → Nat
  | [] =>
    match p with
    | .code _ missing _ => offset + missing - 5
    | _ => 0
  | c :: cs =>
    match p, ((Scan.mk [] p).stepChar c).place with
    -- A control character is reported where it stands, an escape at its backslash, and the code of
    -- an escape at the letter in front of its digits.
    | .text _, .stop => offset
    | .escape _, .stop => offset - 1
    | .code _ missing _, .stop => offset + missing - 5
    | .code .., .text letters =>
      if cs.isEmpty then offset - 4 else breakFrom (offset + 1) (.text letters) cs
    | _, next => breakFrom (offset + 1) next cs

/-- How far behind its start a token is broken. The characters are those from its start on. -/
def breakOffset (cs : List Char) : Nat :=
  if cs.head? = some '"' then breakFrom 0 .gap cs
  else valueLength (cs.takeWhile isBare)

end Token

namespace Reading

/-- The number of tokens that can be read, and what the reader has behind them. -/
def advance (limit : Nat) (r : Reading) : List Token → Nat × Reading
  | [] => (0, r)
  | t :: ts =>
    match step limit r t with
    | .error _ => (0, r)
    | .ok r' =>
      let (count, last) := advance limit r' ts
      (count + 1, last)

/-- A token of a kind can be read next: a text when the broken one is one, and else a value. -/
def expects (limit : Nat) (r : Reading) (cs : List Char) : Bool :=
  let sample : Token := if cs.head? = some '"' then .text [] else .value .null
  (step limit r sample).toBool

end Reading

/-- The position at which a malformed text stops being a document. -/
def breakPosition (text : String) : Nat :=
  let cs := text.toList
  let tokens := Token.scan text
  let (count, r) := Reading.advance maxDepth (.atValue []) tokens
  match (Token.starts cs)[count]?, tokens[count]? with
  | some start, some .broken =>
    if r.expects maxDepth (cs.drop start) then start + Token.breakOffset (cs.drop start)
    else start
  | some start, _ => start
  | none, _ => cs.length

end FlowDraft.Json
