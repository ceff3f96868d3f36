/-!
# `FlowDraft.Text.Bytes`: texts as bytes

A text that arrives as bytes is in one of three forms. UTF-8 is the usual one. `Bytes.guess` tells
the forms apart by the zero bytes among the first four, for a text that begins with two ASCII
characters. `Bytes.repair` reads UTF-8 that may be damaged: every longest piece that begins a
character but does not end one is read as the replacement character.
-/

set_option autoImplicit false

namespace FlowDraft.Text.Bytes

/-- The bytes of a text in UTF-8. -/
def ofChars (cs : List Char) : List UInt8 :=
  cs.flatMap String.utf8EncodeChar

/-! ### Damaged UTF-8 -/

/-- A character that has begun: how many bytes are to follow, between what bounds the next one
lies, and the number that the bytes so far stand for. -/
structure Begun where
  more : Nat
  low : Nat
  high : Nat
  value : Nat
deriving Repr, DecidableEq

/-- What stands in place of damaged pieces. -/
def replacement : Char := '\uFFFD'

/-- What a first byte of a character begins. The bounds of the second byte leave out numbers that
need fewer bytes, the surrogates, and numbers beyond the last character. -/
def begun? (b : Nat) : Option Begun :=
  if 0xC2 ≤ b && b ≤ 0xDF then some ⟨1, 0x80, 0xBF, b - 0xC0⟩
  else if b = 0xE0 then some ⟨2, 0xA0, 0xBF, 0⟩
  else if b = 0xED then some ⟨2, 0x80, 0x9F, 0xD⟩
  else if 0xE1 ≤ b && b ≤ 0xEF then some ⟨2, 0x80, 0xBF, b - 0xE0⟩
  else if b = 0xF0 then some ⟨3, 0x90, 0xBF, 0⟩
  else if 0xF1 ≤ b && b ≤ 0xF3 then some ⟨3, 0x80, 0xBF, b - 0xF0⟩
  else if b = 0xF4 then some ⟨3, 0x80, 0x8F, 4⟩
  else none

/-- What is read when a byte comes where a character may begin. -/
def start (b : Nat) : List Char × Option Begun :=
  if b < 0x80 then ([Char.ofNat b], none)
  else
    match begun? b with
    | some begun => ([], some begun)
    | none => ([replacement], none)

/-- What is read when a byte comes. -/
def feed : Option Begun → Nat → List Char × Option Begun
  | none, b => start b
  | some begun, b =>
    if begun.low ≤ b && b ≤ begun.high then
      let value := 64 * begun.value + (b - 0x80)
      if begun.more ≤ 1 then ([Char.ofNat value], none)
      else ([], some ⟨begun.more - 1, 0x80, 0xBF, value⟩)
    else
      let (read, next) := start b
      (replacement :: read, next)

/-- The text that bytes stand for, behind what has begun. -/
def repairAfter : Option Begun → List UInt8 → List Char
  | none, [] => []
  | some _, [] => [replacement]
  | begun, b :: bs =>
    let (read, next) := feed begun b.toNat
    read ++ repairAfter next bs

/-- The text that bytes in UTF-8 stand for, perhaps with damaged pieces. -/
def repair (bs : List UInt8) : List Char :=
  repairAfter none bs

/-! ### Telling the forms apart -/

/-- The form of a text in bytes. The flag says whether the most significant byte comes first. -/
inductive Form where
  | utf8
  | utf16 (bigFirst : Bool)
  | utf32 (bigFirst : Bool)
deriving Repr, DecidableEq

/-- The form that bytes seem to have. -/
def guess : List UInt8 → Form
  | [a, b] => if a = 0 then .utf16 true else if b = 0 then .utf16 false else .utf8
  | a :: b :: c :: d :: _ =>
    if a = 0 then (if b = 0 then .utf32 true else .utf16 true)
    else if b = 0 then (if c = 0 && d = 0 then .utf32 false else .utf16 false)
    else .utf8
  | _ => .utf8

/-- The number that two bytes stand for. -/
def pair (bigFirst : Bool) (a b : UInt8) : Nat :=
  if bigFirst then 256 * a.toNat + b.toNat else 256 * b.toNat + a.toNat

/-- The units of two bytes, if no byte is left over. -/
def units16? (bigFirst : Bool) : List UInt8 → Option (List Nat)
  | [] => some []
  | [_] => none
  | a :: b :: rest => (units16? bigFirst rest).map (pair bigFirst a b :: ·)

/-- The units of four bytes, if no byte is left over. -/
def units32? (bigFirst : Bool) : List UInt8 → Option (List Nat)
  | [] => some []
  | a :: b :: c :: d :: rest =>
    let unit := if bigFirst then 65536 * pair true a b + pair true c d
      else 65536 * pair false c d + pair false a b
    (units32? bigFirst rest).map (unit :: ·)
  | _ => none

/-- The character of that number. -/
def char? (n : Nat) : Option Char :=
  if n.isValidChar then some (Char.ofNat n) else none

/-- The first half of a pair that stands for one character. -/
def isHigh (unit : Nat) : Bool := 0xD800 ≤ unit && unit ≤ 0xDBFF

/-- The second half of a pair that stands for one character. -/
def isLow (unit : Nat) : Bool := 0xDC00 ≤ unit && unit ≤ 0xDFFF

/-- The characters that units of two bytes stand for. A half without its other half stands for
none. -/
def joinPairs : List Nat → Option (List Char)
  | [] => some []
  | [unit] => (char? unit).map ([·])
  | high :: low :: rest =>
    if isHigh high && isLow low then
      (joinPairs rest).map (Char.ofNat (0x10000 + 1024 * (high - 0xD800) + (low - 0xDC00)) :: ·)
    else
      (char? high).bind fun c => (joinPairs (low :: rest)).map (c :: ·)

/-- The text that bytes of a form stand for, if all of them stand for something. -/
def decode? : Form → List UInt8 → Option (List Char)
  | .utf8, bs => (String.fromUTF8? ⟨bs.toArray⟩).map String.toList
  | .utf16 bigFirst, bs => (units16? bigFirst bs).bind joinPairs
  | .utf32 bigFirst, bs => (units32? bigFirst bs).bind fun units => units.mapM char?

end FlowDraft.Text.Bytes
