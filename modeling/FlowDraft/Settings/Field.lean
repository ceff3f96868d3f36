import FlowDraft.Decimal.Binary
import FlowDraft.Json.Basic
import FlowDraft.Settings.WholeText

/-!
# `FlowDraft.Settings.Field`: checking the fields of settings

Settings come as documents. Each field has a kind and perhaps bounds. A field that is missing takes
its default; one that is there must fit. All fields are checked, and the problems are reported
together, in the order of the fields.

Numbers are taken in good faith: a binary64 number without a fraction fits a whole-number field,
truth values count as zero and one, and a text that denotes a number counts as that number.

The fields are those of `ModelConfig`, `VectorStoreConfig` and `RetrievalConfig`.
-/

set_option autoImplicit false

namespace FlowDraft.Settings

/-- The problems of a document, each with the name of its field. -/
abbrev Problems := List (String × Problem)

/-- A value, or the problems that stand against it. -/
abbrev Checked (α : Type) := Except Problems α

namespace Checked

/-- A value without problems. -/
def pure {α : Type} (x : α) : Checked α := .ok x

/-- A function and its argument, checked side by side. -/
def apply {α β : Type} : Checked (α → β) → Checked α → Checked β
  | .ok f, .ok x => .ok (f x)
  | .ok _, .error e => .error e
  | .error e, .ok _ => .error e
  | .error d, .error e => .error (d ++ e)

/-- A field of a document: the default when it is missing, and else what `check` makes of it. -/
def field {α : Type} (v : Json) (name : String) (default : α) (check : Json → Except Problem α) :
    Checked α :=
  match v.field? name with
  | none => .ok default
  | some w => (check w).mapError fun problem => [(name, problem)]

end Checked

/-! ### Kinds of fields -/

/-- A text. -/
def text : Json → Except Problem String
  | .str s => .ok s
  | _ => .error .notText

/-- A text, or null for none. -/
def text? : Json → Except Problem (Option String)
  | .null => .ok none
  | v => (text v).map some

/-- The whole number that a binary64 number is. One without a fraction that does not fit into 64
bits is too large. -/
def wholeOfFloat (x : Float) : Except Problem Int :=
  if x.isNaN || x.isInf then .error .notFinite
  else
    match Decimal.Binary.ofFloat x with
    | .finite negative units power =>
      let scale := 1 <<< (-power).toNat
      let whole : Nat := (units <<< power.toNat) / scale
      if units % scale ≠ 0 then .error .hasFraction
      else if 1 <<< 63 ≤ whole then .error .oversizedWhole
      else .ok (if negative then -whole else whole)
    | _ => .error .notFinite

/-- The number that a text denotes. Low lines between its characters are passed over, but then no
white space may stand around it. -/
def numberOfText (s : String) : Except Problem Float :=
  let trimmed := Decimal.Entered.trimMargin s.toList
  match (Decimal.Entered.ofPlain? trimmed).or (Decimal.Entered.ofPlain? (ungrouped s.toList)) with
  | some x => .ok x
  | none => .error .unreadableNumber

/-- A whole number. -/
def whole : Json → Except Problem Int
  | .int n => .ok n
  | .bool b => .ok (if b then 1 else 0)
  | .float x => wholeOfFloat x
  | .str s => WholeText.read s
  | _ => .error .notWhole

/-- A number. -/
def number : Json → Except Problem Float
  | .float x => .ok x
  | .int n =>
    let x := Float.ofInt n
    if x.isInf then .error .notNumber else .ok x
  | .bool b => .ok (if b then 1.0 else 0.0)
  | .str s => numberOfText s
  | _ => .error .notNumber

/-! ### Bounds -/

/-- A whole number that is at least one. -/
abbrev Positive := { n : Nat // 1 ≤ n }

/-- A literal other than zero is a positive number. -/
instance (n : Nat) : OfNat Positive (n + 1) := ⟨⟨n + 1, Nat.succ_pos n⟩⟩

/-- A whole number as a positive one. -/
def atLeastOne (n : Int) : Except Problem Positive :=
  if h : 1 ≤ n then .ok ⟨n.toNat, by omega⟩ else .error .tooSmall

/-- A whole number that is at least one. -/
def positive (v : Json) : Except Problem Positive :=
  whole v >>= atLeastOne

/-- A number that is at least zero. The value that is no number is not. -/
def atLeastZero (x : Float) : Except Problem Float :=
  if 0.0 ≤ x then .ok x else .error .tooSmall

/-- A number that is at least zero. -/
def nonNegative (v : Json) : Except Problem Float :=
  number v >>= atLeastZero

/-- A number from zero to two. -/
def upToTwo (v : Json) : Except Problem Float := do
  let x ← number v
  if x ≤ 2.0 then atLeastZero x else .error .tooLarge

end FlowDraft.Settings
