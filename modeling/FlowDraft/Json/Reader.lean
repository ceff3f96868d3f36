import FlowDraft.Json.Token

/-!
# `FlowDraft.Json.Reader`: reading documents

A document is read from its tokens by a machine with a stack. Each list or object that is still
open has one frame on the stack, which holds what was read of it. A field that comes twice keeps
its first place and takes its last value.

A text that cannot be read has one of three causes: it is malformed, a whole number in it has too
many digits, or it is nested too deeply. The first cause in reading order is reported.

`readWithin` keeps every letter of a text, the halves of pairs included. `read` is for documents
that are kept as strings: it shows the replacement character for a half.
-/

set_option autoImplicit false

namespace FlowDraft.Json

/-- Why a text is not read. -/
inductive ReadError where
  | malformed
  | oversized (digits : Nat)
  | tooDeep
deriving Repr, DecidableEq

/-- What was read of a list or an object around the value that comes next. -/
inductive Frame where
  /-- The items before the value, last one first. -/
  | list (items : List (Json Letters))
  /-- The fields before the value, and the name that it belongs to. -/
  | object (fields : Fields Letters) (name : Letters)

/-- What the reader has and what may come next. -/
inductive Reading where
  /-- A value. -/
  | atValue (stack : List Frame)
  /-- The first item of a list, or the end of the list. -/
  | atFirstItem (stack : List Frame)
  /-- A comma or the end of a list. -/
  | behindItem (items : List (Json Letters)) (stack : List Frame)
  /-- The first name in an object, or the end of the object. -/
  | atFirstName (stack : List Frame)
  /-- A name. -/
  | atName (fields : Fields Letters) (stack : List Frame)
  /-- A colon behind a name. -/
  | atColon (fields : Fields Letters) (name : Letters) (stack : List Frame)
  /-- A comma or the end of an object. -/
  | behindField (fields : Fields Letters) (stack : List Frame)
  /-- Nothing more. -/
  | done (v : Json Letters)

namespace Reading

/-- A complete value takes its place in the innermost list or object. -/
def place (v : Json Letters) : List Frame → Reading
  | [] => .done v
  | .list items :: stack => .behindItem (v :: items) stack
  | .object fields name :: stack => .behindField (Fields.put name v fields) stack

/-- A list or an object opens, unless `limit` of them are open already. -/
def nest (limit : Nat) (stack : List Frame) (opened : Reading) : Except ReadError Reading :=
  if stack.length < limit then .ok opened else .error .tooDeep

/-- A token where a value is due. -/
def start (limit : Nat) (stack : List Frame) : Token → Except ReadError Reading
  | .text s => .ok (place (.str s) stack)
  | .value v => .ok (place v stack)
  | .mark .openList => nest limit stack (.atFirstItem stack)
  | .mark .openObject => nest limit stack (.atFirstName stack)
  | .oversized n => .error (.oversized n)
  | _ => .error .malformed

/-- One token read. -/
def step (limit : Nat) : Reading → Token → Except ReadError Reading
  | .atValue stack, t => start limit stack t
  | .atFirstItem stack, .mark .closeList => .ok (place (.arr []) stack)
  | .atFirstItem stack, t => start limit (.list [] :: stack) t
  | .behindItem items stack, .mark .comma => .ok (.atValue (.list items :: stack))
  | .behindItem items stack, .mark .closeList => .ok (place (.arr items.reverse) stack)
  | .atFirstName stack, .mark .closeObject => .ok (place (.obj []) stack)
  | .atFirstName stack, .text s => .ok (.atColon [] s stack)
  | .atName fields stack, .text s => .ok (.atColon fields s stack)
  | .atColon fields name stack, .mark .colon => .ok (.atValue (.object fields name :: stack))
  | .behindField fields stack, .mark .comma => .ok (.atName fields stack)
  | .behindField fields stack, .mark .closeObject => .ok (place (.obj fields) stack)
  | _, _ => .error .malformed

/-- The document, if it is complete. -/
def finish : Reading → Except ReadError (Json Letters)
  | .done v => .ok v
  | _ => .error .malformed

end Reading

/-- The document that tokens make up, with at most `limit` lists and objects inside each other. -/
def ofTokens (limit : Nat) (tokens : List Token) : Except ReadError (Json Letters) :=
  tokens.foldlM (Reading.step limit) (.atValue []) >>= Reading.finish

/-- The document that a text denotes, with at most `limit` lists and objects inside each other. -/
def readWithin (limit : Nat) (cs : Letters) : Except ReadError (Json Letters) :=
  ofTokens limit (Token.scan cs)

/-- The most lists and objects inside each other. This is the number of calls that may be open at
the same time, and each level takes one. A document is read while some are open already, so the
depth that is really read is less, by a number that depends on who asks. What is proved of a text
that is read is proved for any depth, or for texts of at most 400 levels. -/
def maxDepth : Nat := 1000

/-- The document that a string denotes, with strings as its texts. A half of a pair in one of them is
shown as the replacement character. -/
def read (s : String) : Except ReadError Json :=
  (readWithin maxDepth s).map (Json.map Letters.shown)

end FlowDraft.Json
