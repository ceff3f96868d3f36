import FlowDraft.Text.Blank

/-!
# `FlowDraft.Text.Letter`: texts with halves of pairs in them

Code points beyond the first plane are written in pairs where a code has sixteen bits: two halves
from U+D800 on make up one character. A document may name a half without the other one, and the text
that is read from it holds the half as it is. It is no character, and no bytes stand for it, but it
is one letter of the text, and texts with different halves are different texts.

So the letters of such a text are characters and halves. `Letters` are the texts of replies and of
what is read from them; a text without halves is a `String`, and `Letters.ofString` takes the one
for the other.

* `Letters.ofString_injective`: different strings are different texts.
* `Letters.shown_ofString`: a text without halves is shown as it is.
-/

set_option autoImplicit false

namespace FlowDraft

/-- A letter of a text. -/
inductive Letter where
  | char (c : Char)
  /-- The half of a pair with the code 0xD800 + `n`. -/
  | half (n : Fin 0x800)
deriving DecidableEq, Repr

instance : Coe Char Letter := ⟨.char⟩

/-- A text, as its letters. -/
abbrev Letters := List Letter

namespace Letter

/-- The letter is a character of a class. -/
def isOf (p : Char → Bool) : Letter → Bool
  | char c => p c
  | half _ => false

/-- A white space character. -/
def isBlank : Letter → Bool :=
  isOf Text.isBlank

/-- The code of a letter. -/
def code : Letter → Nat
  | char c => c.toNat
  | half n => 0xD800 + n

/-- The letter of a code. -/
def ofCode (n : Nat) : Letter :=
  if h : 0xD800 ≤ n ∧ n < 0xE000 then .half ⟨n - 0xD800, by omega⟩ else .char (Char.ofNat n)

/-- The character that is shown for a letter. The replacement character stands for a half. -/
def shown : Letter → Char
  | char c => c
  | half _ => '\uFFFD'

@[simp] theorem isOf_char (p : Char → Bool) (c : Char) : isOf p (.char c) = p c := rfl

@[simp] theorem isBlank_char (c : Char) : isBlank (.char c) = Text.isBlank c := rfl

@[simp] theorem shown_char (c : Char) : shown (.char c) = c := rfl

/-- A character has no code of a half. -/
@[simp] theorem ofCode_toNat (c : Char) : ofCode c.toNat = .char c := by
  have hvalid : c.toNat < 0xD800 ∨ 0xDFFF < c.toNat ∧ c.toNat < 0x110000 := c.valid
  rw [ofCode, dif_neg (by omega), Char.ofNat_toNat]

end Letter

namespace Letters

/-- The text of characters. -/
def ofChars (cs : List Char) : Letters :=
  cs.map .char

/-- The text of a string. -/
def ofString (s : String) : Letters :=
  ofChars s.toList

instance : Coe String Letters := ⟨ofString⟩

/-- The string that is shown for a text. -/
def shown (s : Letters) : String :=
  String.ofList (s.map Letter.shown)

/-- The text without the white space around it. -/
def trim (s : Letters) : Letters :=
  Text.trimBy Letter.isBlank s

/-- A blank text holds only white space, or nothing at all. -/
def isBlank (s : Letters) : Bool :=
  s.all Letter.isBlank

/-- The text has no half without the other one. -/
def isWhole (s : Letters) : Bool :=
  s.all (Letter.isOf fun _ => true)

/-! ### Laws -/

@[simp] theorem ofChars_nil : ofChars [] = [] := rfl

@[simp] theorem ofChars_cons (c : Char) (cs : List Char) :
    ofChars (c :: cs) = .char c :: ofChars cs :=
  rfl

@[simp] theorem ofChars_append (cs ds : List Char) :
    ofChars (cs ++ ds) = ofChars cs ++ ofChars ds :=
  List.map_append

theorem mem_ofChars_iff {c : Char} {cs : List Char} : .char c ∈ ofChars cs ↔ c ∈ cs := by
  simp [ofChars]

theorem ofChars_injective {cs ds : List Char} (h : ofChars cs = ofChars ds) : cs = ds :=
  (List.map_inj_right fun _ _ => Letter.char.inj).1 h

/-- Different strings are different texts. -/
theorem ofString_injective {s t : String} (h : ofString s = ofString t) : s = t :=
  String.toList_injective (ofChars_injective h)

@[simp] theorem ofString_inj {s t : String} : ofString s = ofString t ↔ s = t :=
  ⟨ofString_injective, congrArg ofString⟩

@[simp] theorem map_shown_ofChars (cs : List Char) : (ofChars cs).map Letter.shown = cs := by
  simp [ofChars, Function.comp_def]

/-- Only halves are shown as another character. -/
theorem mem_map_shown_iff {c : Char} (hc : c ≠ '\uFFFD') {s : Letters} :
    c ∈ s.map Letter.shown ↔ .char c ∈ s := by
  constructor
  · intro h
    obtain ⟨l, hl, hshown⟩ := List.mem_map.1 h
    cases l with
    | char d => exact hshown ▸ hl
    | half n => exact absurd hshown.symm hc
  · exact List.mem_map_of_mem (f := Letter.shown)

/-- A text without halves is shown as it is. -/
@[simp] theorem shown_ofString (s : String) : shown (ofString s) = s := by
  rw [shown, ofString, map_shown_ofChars, String.ofList_toList]

@[simp] theorem isWhole_ofString (s : String) : isWhole (ofString s) = true := by
  simp [isWhole, ofString, ofChars]

/-- A text without halves is what is shown for it. -/
theorem ofString_shown {s : Letters} (h : isWhole s = true) : ofString (shown s) = s := by
  have hletter : ∀ l ∈ s, (Letter.char ∘ Letter.shown) l = id l := by
    intro l hl
    cases l with
    | char c => rfl
    | half n => exact absurd (List.all_eq_true.1 h _ hl) Bool.false_ne_true
  rw [ofString, shown, String.toList_ofList, ofChars, List.map_map, List.map_congr_left hletter,
    List.map_id]

end Letters

end FlowDraft
