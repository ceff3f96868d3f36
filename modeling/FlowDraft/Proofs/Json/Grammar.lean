import FlowDraft.Json.Reader
import Mathlib.Data.List.Induction
import Mathlib.Data.List.Nodup

/-!
# `FlowDraft.Proofs.Json.Grammar`: the grammar of documents

`Derives` is the grammar of documents as a relation between letters and what they denote, without
regard to how they are read. It has a rule for each way in which a value, a value with blanks around
it, the items of a list and the members of an object are written. The number in it bounds how many
lists and objects may stand inside each other. The rules are those of the common document format,
with two additions: there are names for the numbers that are not finite, and a whole number has a
greatest number of digits.

A name may come twice in an object. `LastWins` says what that means, and `lastWins_iff` that putting
the members into an object one after the other comes to the same.
-/

set_option autoImplicit false

namespace FlowDraft

/-! ### Members of an object -/

namespace Fields

variable {τ : Type} [DecidableEq τ]

/-- The object has the names of the members, each of them once and where it comes first, with the
value that comes last. -/
structure LastWins (members fields : Fields τ) : Prop where
  keys_eq : keys fields = (keys members).eraseDups
  get?_eq : ∀ name, get? fields name = get? members.reverse name

/-- The members, put into an object one after the other. -/
def collect (members : Fields τ) : Fields τ :=
  members.foldl (fun fields member => put member.1 member.2 fields) []

theorem collect_concat (members : Fields τ) (name : τ) (value : Json τ) :
    collect (members ++ [(name, value)]) = put name value (collect members) := by
  rw [collect, List.foldl_append]
  rfl

theorem get?_put_of_ne (fields : Fields τ) {name other : τ} (value : Json τ) (h : other ≠ name) :
    get? (put name value fields) other = get? fields other := by
  induction fields with
  | nil => simp [put, get?, h]
  | cons f rest ih =>
    obtain ⟨k, v⟩ := f
    simp only [get?] at ih
    rw [put]
    split
    · next hk =>
      have hk : (other == k) = false := by simpa [hk] using h
      simp [get?, List.lookup_cons, hk]
    · simp [get?, List.lookup_cons, ih]

/-- Objects without repeated names are told apart by what is found in them and in which order. -/
theorem eq_of_get?_eq {fields fields' : Fields τ} (hkeys : keys fields = keys fields')
    (hnodup : (keys fields).Nodup) (hget : ∀ name, get? fields name = get? fields' name) :
    fields = fields' := by
  induction fields generalizing fields' with
  | nil => exact (List.map_eq_nil_iff.1 hkeys.symm).symm
  | cons f rest ih =>
    cases fields' with
    | nil => cases hkeys
    | cons f' rest' =>
      obtain ⟨k, v⟩ := f
      obtain ⟨k', v'⟩ := f'
      obtain ⟨rfl, hrest⟩ : k = k' ∧ keys rest = keys rest' := List.cons.inj hkeys
      rw [keys, List.map_cons, List.nodup_cons] at hnodup
      have hv : v = v' := by simpa [get?] using hget k
      have hget' : ∀ name, get? rest name = get? rest' name := by
        intro name
        by_cases hname : name = k
        · -- The first name is not found behind the first field, on neither side.
          have hnone : ∀ other : Fields τ, k ∉ keys other → get? other k = none := by
            intro other hother
            rw [get?, List.lookup_eq_none_iff]
            intro field hfield
            rw [bne_iff_ne]
            rintro rfl
            exact hother (List.mem_map_of_mem hfield)
          rw [hname, hnone rest hnodup.1, hnone rest' (hrest ▸ hnodup.1)]
        · have h := hget name
          have hne : (name == k) = false := by simpa using hname
          simpa [get?, List.lookup_cons, hne] using h
      rw [hv, ih hrest hnodup.2 hget']

/-- A new name goes to the end, and a name that is there keeps its place. -/
theorem keys_put (fields : Fields τ) (name : τ) (value : Json τ) :
    keys (put name value fields)
      = if name ∈ keys fields then keys fields else keys fields ++ [name] := by
  split
  · next h => exact keys_put_of_mem value h
  · next h => exact keys_put_of_not_mem value h

theorem nodup_keys_put {fields : Fields τ} (h : (keys fields).Nodup) (name : τ) (value : Json τ) :
    (keys (put name value fields)).Nodup := by
  rw [keys_put]
  split
  · exact h
  · next hname =>
    rw [← List.concat_eq_append]
    exact h.concat hname

theorem nodup_keys_collect (members : Fields τ) : (keys (collect members)).Nodup := by
  induction members using List.reverseRecOn with
  | nil => exact List.nodup_nil
  | append_singleton members member ih =>
    rw [collect_concat]
    exact nodup_keys_put ih _ _

/-- Members that are put into an object one after the other have their last values. -/
theorem lastWins_collect (members : Fields τ) : LastWins members (collect members) := by
  induction members using List.reverseRecOn with
  | nil => exact ⟨rfl, fun name => rfl⟩
  | append_singleton members member ih =>
    obtain ⟨k, v⟩ := member
    rw [collect_concat]
    constructor
    · have hkeys : keys (members ++ [(k, v)]) = keys members ++ [k] := List.map_append
      rw [keys_put, ih.keys_eq, hkeys, List.eraseDups_append]
      by_cases hk : k ∈ keys members
      · simp [hk, List.removeAll]
      · simp [hk, List.removeAll, List.eraseDups_cons]
    · intro name
      rw [List.reverse_append]
      by_cases hname : name = k
      · rw [hname, get?_put]
        simp [get?]
      · have hne : (name == k) = false := by simpa using hname
        rw [get?_put_of_ne _ _ hname, ih.get?_eq]
        simp [get?, List.lookup_cons, hne]

/-- There is one object in which the last values win. -/
theorem lastWins_iff {members fields : Fields τ} :
    LastWins members fields ↔ fields = collect members := by
  constructor
  · intro h
    have hcollect := lastWins_collect members
    refine eq_of_get?_eq (h.keys_eq.trans hcollect.keys_eq.symm) ?_
      fun name => (h.get?_eq name).trans (hcollect.get?_eq name).symm
    rw [h.keys_eq, ← hcollect.keys_eq]
    exact nodup_keys_collect members
  · rintro rfl
    exact lastWins_collect members

end Fields

open Letter (char)
open Json.Token (CodeUnit)

namespace Json.Grammar

/-! ### Numbers -/

/-- At least one digit. -/
def Digits (ds : List Char) : Prop :=
  ds ≠ [] ∧ ∀ d ∈ ds, d.isDigit = true

/-- The whole part of a number: a zero, or digits that do not start with one. -/
inductive Whole : List Char → Prop where
  | zero : Whole ['0']
  | digits {d : Char} {ds : List Char} (h : Digits (d :: ds)) (hd : d ≠ '0') : Whole (d :: ds)

/-- The part of a number behind a point, if there is one. -/
inductive Fraction : List Char → Option (List Char) → Prop where
  | none : Fraction [] none
  | some {ds : List Char} (h : Digits ds) : Fraction ('.' :: ds) (some ds)

/-- The sign of an exponent, true for a minus. -/
inductive Sign : List Char → Bool → Prop where
  | none : Sign [] false
  | plus : Sign ['+'] false
  | minus : Sign ['-'] true

/-- The exponent of a number, if there is one. -/
inductive Exponent : List Char → Option (Bool × List Char) → Prop where
  | none : Exponent [] none
  | some {e : Char} {sign ds : List Char} {negative : Bool} (he : e = 'e' ∨ e = 'E')
      (hsign : Sign sign negative) (h : Digits ds) :
      Exponent (e :: (sign ++ ds)) (some (negative, ds))

/-- A number without its sign. -/
inductive Magnitude (negative : Bool) : List Char → Decimal.Numeral → Prop where
  | mk {whole point power : List Char} {fraction : Option (List Char)}
      {exponent : Option (Bool × List Char)} (hwhole : Whole whole) (hpoint : Fraction point fraction)
      (hpower : Exponent power exponent) :
      Magnitude negative (whole ++ (point ++ power)) ⟨negative, whole, fraction, exponent⟩

/-- A number. There is no sign but the minus. -/
inductive Number : List Char → Decimal.Numeral → Prop where
  | positive {word : List Char} {n : Decimal.Numeral} (h : Magnitude false word n) : Number word n
  | negative {word : List Char} {n : Decimal.Numeral} (h : Magnitude true word n) :
      Number ('-' :: word) n

/-- The values that are written as one word. -/
inductive Literal : List Char → Json Letters → Prop where
  | null : Literal "null".toList .null
  | truth : Literal "true".toList (.bool true)
  | falsity : Literal "false".toList (.bool false)
  | nan : Literal "NaN".toList (.float (0.0 / 0.0))
  | infinity : Literal "Infinity".toList (.float (1.0 / 0.0))
  | negInfinity : Literal "-Infinity".toList (.float (-1.0 / 0.0))
  | int {word : List Char} {n : Decimal.Numeral} (h : Number word n) (hwhole : n.isWhole = true)
      (hdigits : n.whole.length ≤ Decimal.maxDigits) : Literal word (.int n.toInt)
  | float {word : List Char} {n : Decimal.Numeral} (h : Number word n) (hwhole : n.isWhole = false) :
      Literal word (.float n.toFloat)

/-! ### Texts -/

/-- A hexadecimal digit, in small or capital letters. -/
def HexDigit (c : Char) (d : Nat) : Prop :=
  "0123456789abcdef".toList[d]? = some c ∨ "0123456789ABCDEF".toList[d]? = some c

/-- The number that hexadecimal digits denote. -/
inductive Hex : List Char → Nat → Prop where
  | nil : Hex [] 0
  | concat {cs : List Char} {n d : Nat} {c : Char} (h : Hex cs n) (hc : HexDigit c d) :
      Hex (cs ++ [c]) (16 * n + d)

/-- The letters that may stand behind a backslash, and the characters that they denote. -/
def escapes : List (Char × Char) :=
  [('"', '"'), ('\\', '\\'), ('/', '/'), ('b', '\x08'), ('f', '\x0c'), ('n', '\n'), ('r', '\r'),
   ('t', '\t')]

/-- What stands between the quotes of a text, and its code units. A quote, a backslash and a control
character must be escaped. -/
inductive Units : Letters → List CodeUnit → Prop where
  | nil : Units [] []
  | plain {cs : Letters} {units : List CodeUnit} {l : Letter} (h : Units cs units)
      (hquote : l ≠ char '"') (hslash : l ≠ char '\\') (hcontrol : 0x20 ≤ l.code) :
      Units (cs ++ [l]) (units ++ [.letter l])
  | escaped {cs : Letters} {units : List CodeUnit} {c e : Char} (h : Units cs units)
      (he : (c, e) ∈ escapes) : Units (cs ++ [char '\\', char c]) (units ++ [.letter (char e)])
  | code {cs : Letters} {code : List Char} {units : List CodeUnit} {n : Nat} (h : Units cs units)
      (hcode : Hex code n) (hlength : code.length = 4) :
      Units (cs ++ char '\\' :: char 'u' :: Letters.ofChars code) (units ++ [.code n])

/-- The code units with the two halves of a pair made into one. -/
def joinHalves : List CodeUnit → List CodeUnit
  | first :: second :: units =>
    match first.pair? second with
    | some pair => pair :: joinHalves units
    | none => first :: joinHalves (second :: units)
  | units => units

/-- A text between its quotes. A half that is left alone is a letter of it. -/
inductive Text : Letters → Letters → Prop where
  | mk {cs : Letters} {units : List CodeUnit} (h : Units cs units) :
      Text (char '"' :: (cs ++ [char '"'])) ((joinHalves units).map CodeUnit.toLetter)

/-! ### Documents -/

/-- The blanks that may stand around a part of a document: space, tab and the two line breaks. -/
def Blank (cs : Letters) : Prop :=
  ∀ l ∈ cs, l = char ' ' ∨ l = char '\t' ∨ l = char '\n' ∨ l = char '\r'

/-- A part of a document, and what it denotes. -/
inductive Part where
  /-- A value. -/
  | value (v : Json Letters)
  /-- A value with blanks around it. -/
  | element (v : Json Letters)
  /-- The items of a list, at least one. -/
  | items (vs : List (Json Letters))
  /-- The members of an object, at least one. A name may come twice. -/
  | members (ms : Fields Letters)

/-- The letters are those of the part, with at most that many lists and objects inside each
other. -/
inductive Derives : Nat → Letters → Part → Prop where
  | literal {n : Nat} {cs : List Char} {v : Json Letters} (h : Literal cs v) :
      Derives n (Letters.ofChars cs) (.value v)
  | text {n : Nat} {cs s : Letters} (h : Text cs s) : Derives n cs (.value (.str s))
  | emptyList {n : Nat} {cs : Letters} (h : Blank cs) :
      Derives (n + 1) (char '[' :: (cs ++ [char ']'])) (.value (.arr []))
  | list {n : Nat} {cs : Letters} {vs : List (Json Letters)} (h : Derives n cs (.items vs)) :
      Derives (n + 1) (char '[' :: (cs ++ [char ']'])) (.value (.arr vs))
  | emptyObject {n : Nat} {cs : Letters} (h : Blank cs) :
      Derives (n + 1) (char '\x7b' :: (cs ++ [char '\x7d'])) (.value (.obj []))
  | object {n : Nat} {cs : Letters} {ms fields : Fields Letters} (h : Derives n cs (.members ms))
      (hfields : Fields.LastWins ms fields) :
      Derives (n + 1) (char '\x7b' :: (cs ++ [char '\x7d'])) (.value (.obj fields))
  | element {n : Nat} {before cs after : Letters} {v : Json Letters} (hbefore : Blank before)
      (h : Derives n cs (.value v)) (hafter : Blank after) :
      Derives n (before ++ cs ++ after) (.element v)
  | item {n : Nat} {cs : Letters} {v : Json Letters} (h : Derives n cs (.element v)) :
      Derives n cs (.items [v])
  | items {n : Nat} {cs ds : Letters} {vs : List (Json Letters)} {v : Json Letters}
      (h : Derives n cs (.items vs)) (hv : Derives n ds (.element v)) :
      Derives n (cs ++ char ',' :: ds) (.items (vs ++ [v]))
  | member {n : Nat} {before name between cs k : Letters} {v : Json Letters}
      (hbefore : Blank before) (hname : Text name k) (hbetween : Blank between)
      (h : Derives n cs (.element v)) :
      Derives n (before ++ name ++ between ++ char ':' :: cs) (.members [(k, v)])
  | members {n : Nat} {cs ds : Letters} {ms : Fields Letters} {m : Letters × Json Letters}
      (h : Derives n cs (.members ms)) (hm : Derives n ds (.members [m])) :
      Derives n (cs ++ char ',' :: ds) (.members (ms ++ [m]))

theorem blank_nil : Blank [] := fun _ hc => absurd hc List.not_mem_nil

theorem Blank.append {cs ds : Letters} (h : Blank cs) (h' : Blank ds) : Blank (cs ++ ds) :=
  List.forall_mem_append.2 ⟨h, h'⟩

end Json.Grammar

end FlowDraft
