import FlowDraft.Json.Finite
import FlowDraft.Proofs.Json.Parsing
import Mathlib.Algebra.Group.Nat.Defs

/-!
# `FlowDraft.Proofs.Json.Inside`: what holds everywhere in a document

`Inside u v` says that the value `u` is `v` or lies in it, and `Throughout P v` that `P` holds of
every such value. Some `P` do not mind how objects are put together (`Lenient`): those keep holding
when fields are put and erased, and in what is made of the parts of a document.

Two such properties matter for what replies are turned into. A document that was read is `Readable`
throughout (`Derives.readable`), and without binary64 numbers it can be written and read again
(`isPlain_of_throughout`). A document without infinite numbers is sent to others as it is
(`toFinite_of_throughout`).
-/

set_option autoImplicit false

namespace FlowDraft

section
variable {τ : Type} [DecidableEq τ]

theorem Fields.mem_put {fields : Fields τ} {name : τ} {value : Json τ} {field : τ × Json τ}
    (h : field ∈ put name value fields) : field.2 = value ∨ field ∈ fields := by
  induction fields with
  | nil => exact .inl (by rw [List.mem_singleton.1 h])
  | cons f rest ih =>
    obtain ⟨k, v⟩ := f
    rw [put] at h
    split at h
    · rcases List.mem_cons.1 h with rfl | h
      · exact .inl rfl
      · exact .inr (List.mem_cons_of_mem _ h)
    · rcases List.mem_cons.1 h with rfl | h
      · exact .inr List.mem_cons_self
      · exact (ih h).imp id (List.mem_cons_of_mem _)

/-- The values in an object come from its members. -/
theorem Fields.exists_of_mem_collect {ms : Fields τ} {field : τ × Json τ}
    (h : field ∈ collect ms) : ∃ m ∈ ms, m.2 = field.2 := by
  induction ms using List.reverseRecOn with
  | nil => exact absurd h List.not_mem_nil
  | append_singleton ms m ih =>
    obtain ⟨k, v⟩ := m
    rw [collect_concat] at h
    rcases mem_put h with hnew | hold
    · exact ⟨(k, v), List.mem_append_right ms List.mem_cons_self, hnew.symm⟩
    · obtain ⟨m, hm, hvalue⟩ := ih hold
      exact ⟨m, List.mem_append_left _ hm, hvalue⟩

end

namespace Json

section
variable {τ : Type}

/-- The value `u` is `v`, or lies in it. -/
inductive Inside (u : Json τ) : Json τ → Prop where
  | self : Inside u u
  | item {v : Json τ} {items : List (Json τ)} (h : Inside u v) (hv : v ∈ items) : Inside u (.arr items)
  | field {k : τ} {v : Json τ} {fields : Fields τ} (h : Inside u v) (hv : (k, v) ∈ fields) :
      Inside u (.obj fields)

theorem field_eq_null_or_mem [DecidableEq τ] (fields : Fields τ) (name : τ) :
    (obj fields).field name = .null ∨ (name, (obj fields).field name) ∈ fields := by
  show (Fields.get? fields name).getD .null = .null ∨
    (name, (Fields.get? fields name).getD .null) ∈ fields
  cases hget : Fields.get? fields name with
  | none => exact .inl rfl
  | some value =>
    obtain ⟨first, rest, rfl, -⟩ := List.lookup_eq_some_iff.1 hget
    exact .inr (List.mem_append_right _ List.mem_cons_self)

/-- The property holds of the value and of all that lies in it. -/
def Throughout (P : Json τ → Prop) (v : Json τ) : Prop :=
  ∀ u, Inside u v → P u

section
variable {P : Json τ → Prop}

theorem throughout_arr_iff {items : List (Json τ)} :
    Throughout P (.arr items) ↔ P (.arr items) ∧ ∀ v ∈ items, Throughout P v := by
  constructor
  · intro h
    exact ⟨h _ .self, fun v hv u hu => h u (hu.item hv)⟩
  · rintro ⟨hself, hitems⟩ u hu
    cases hu with
    | self => exact hself
    | item hu hv => exact hitems _ hv u hu

theorem throughout_obj_iff {fields : Fields τ} :
    Throughout P (.obj fields) ↔ P (.obj fields) ∧ ∀ field ∈ fields, Throughout P field.2 := by
  constructor
  · intro h
    exact ⟨h _ .self, fun field hfield u hu => h u (hu.field hfield)⟩
  · rintro ⟨hself, hfields⟩ u hu
    cases hu with
    | self => exact hself
    | field hu hv => exact hfields _ hv u hu

/-- Nothing lies in a value that is no list and no object. -/
theorem throughout_of_bare {v : Json τ} (h : P v) (harr : v.items? = none) (hobj : v.fields? = none) :
    Throughout P v := by
  intro u hu
  cases hu with
  | self => exact h
  | item hu hv => cases harr
  | field hu hv => cases hobj

/-! ### Properties that do not mind how objects are put together -/

/-- The property holds of every text, truth value and list, of null and of small numbers. It holds
of an object that repeats no name, and goes on to hold when a field is put or erased. -/
structure Lenient [DecidableEq τ] (P : Json τ → Prop) : Prop where
  null : P .null
  bool : ∀ b, P (.bool b)
  int : ∀ n : Int, n.natAbs < 10 → P (.int n)
  str : ∀ s, P (.str s)
  arr : ∀ items, P (.arr items)
  obj : ∀ fields, (Fields.keys fields).Nodup → P (.obj fields)
  put : ∀ fields name value, P (.obj fields) → P (.obj (Fields.put name value fields))
  erase : ∀ fields name, P (.obj fields) → P (.obj (Fields.erase name fields))

namespace Lenient
variable [DecidableEq τ] (hP : Lenient P)
include hP

theorem throughout_str (s : τ) : Throughout P (.str s) :=
  throughout_of_bare (hP.str s) rfl rfl

theorem throughout_arr {items : List (Json τ)} (h : ∀ v ∈ items, Throughout P v) :
    Throughout P (.arr items) :=
  throughout_arr_iff.2 ⟨hP.arr items, h⟩

theorem throughout_obj {fields : Fields τ} (hkeys : (Fields.keys fields).Nodup)
    (h : ∀ field ∈ fields, Throughout P field.2) : Throughout P (.obj fields) :=
  throughout_obj_iff.2 ⟨hP.obj fields hkeys, h⟩

theorem throughout_put {fields : Fields τ} {name : τ} {value : Json τ}
    (h : Throughout P (.obj fields)) (hvalue : Throughout P value) :
    Throughout P (.obj (Fields.put name value fields)) := by
  rw [throughout_obj_iff] at h ⊢
  refine ⟨hP.put fields name value h.1, ?_⟩
  intro field hfield
  rcases Fields.mem_put hfield with hnew | hold
  · rw [hnew]
    exact hvalue
  · exact h.2 field hold

theorem throughout_erase {fields : Fields τ} {name : τ} (h : Throughout P (.obj fields)) :
    Throughout P (.obj (Fields.erase name fields)) := by
  rw [throughout_obj_iff] at h ⊢
  exact ⟨hP.erase fields name h.1, fun field hfield => h.2 field (List.mem_of_mem_filter hfield)⟩

/-- A field that is missing counts as null. -/
theorem throughout_field {v : Json τ} (h : Throughout P v) (name : τ) :
    Throughout P (v.field name) := by
  have hnull : Throughout P .null := throughout_of_bare hP.null rfl rfl
  cases v with
  | obj fields =>
    rcases field_eq_null_or_mem fields name with hmissing | hmem
    · rw [hmissing]
      exact hnull
    · exact (throughout_obj_iff.1 h).2 _ hmem
  | _ => exact hnull

end Lenient

end

/-! ### Documents that were read -/

variable [DecidableEq τ]

/-- A whole number with no more digits than are read, an object without repeated names, or another
value. -/
def Readable : Json τ → Prop
  | .int n => (Text.decimal n.natAbs).length ≤ Decimal.maxDigits
  | .obj fields => (Fields.keys fields).Nodup
  | _ => True

theorem lenient_readable : Lenient (@Readable τ) where
  null := trivial
  bool _ := trivial
  int n hn := by
    show (Text.decimal n.natAbs).length ≤ Decimal.maxDigits
    rw [Text.decimal, Nat.length_toDigits_le_iff (by decide) (by decide)]
    exact Nat.lt_of_lt_of_le hn (Nat.le_self_pow (by decide) 10)
  str _ := trivial
  arr _ := trivial
  obj _ h := h
  put fields name value h := Fields.nodup_keys_put h name value
  erase fields name h := h.sublist (List.filter_sublist.map _)

end

/-- Digits denote a number below the power of ten that they have room for. -/
theorem ofDecimal_lt {ds : List Char} (h : ∀ d ∈ ds, d.isDigit = true) :
    Text.ofDecimal ds < 10 ^ ds.length := by
  induction ds using List.reverseRecOn with
  | nil => decide
  | append_singleton ds d ih =>
    rw [List.forall_mem_append, List.forall_mem_singleton] at h
    have hds := ih h.1
    have hlast : d.toNat - '0'.toNat < 10 := by
      have hd := h.2
      simp only [Char.isDigit, Bool.and_eq_true, decide_eq_true_eq] at hd
      have hnine : d.toNat ≤ 57 := hd.2
      show d.toNat - 48 < 10
      omega
    have hconcat : Text.ofDecimal (ds ++ [d])
        = 10 * Text.ofDecimal ds + (d.toNat - '0'.toNat) := by
      rw [Text.ofDecimal, Nat.ofDigitChars, List.foldl_append]
      rfl
    rw [hconcat, List.length_append, List.length_singleton, Nat.pow_succ]
    omega

namespace Grammar

theorem Number.isDigit_whole {word : List Char} {n : Decimal.Numeral} (h : Number word n) :
    ∀ d ∈ n.whole, d.isDigit = true := by
  have hmagnitude : ∀ {negative : Bool} {word : List Char} {n : Decimal.Numeral},
      Magnitude negative word n → ∀ d ∈ n.whole, d.isDigit = true := by
    rintro negative word n ⟨hwhole, -, -⟩
    cases hwhole with
    | zero =>
      intro d hd
      rw [List.mem_singleton.1 hd]
      rfl
    | digits h hd => exact h.2
  cases h with
  | positive h => exact hmagnitude h
  | negative h => exact hmagnitude h

theorem Literal.readable {word : List Char} {v : Json Letters} (h : Literal word v) :
    Throughout Readable v := by
  cases h with
  | @int word n h hwhole hdigits =>
    have habs : n.toInt.natAbs = Text.ofDecimal n.whole := by
      rw [Decimal.Numeral.toInt]
      split <;> simp
    refine throughout_of_bare ?_ rfl rfl
    show (Text.decimal n.toInt.natAbs).length ≤ Decimal.maxDigits
    rw [habs, Text.decimal, Nat.length_toDigits_le_iff (by decide) (by decide)]
    exact Nat.lt_of_lt_of_le (ofDecimal_lt h.isDigit_whole)
      (Nat.pow_le_pow_right (by decide) hdigits)
  | _ => exact throughout_of_bare trivial rfl rfl

/-- The property holds throughout the values of the part. -/
def Part.Throughout (P : Json Letters → Prop) : Part → Prop
  | .value v | .element v => Json.Throughout P v
  | .items vs => ∀ v ∈ vs, Json.Throughout P v
  | .members ms => ∀ m ∈ ms, Json.Throughout P m.2

/-- What the grammar has as a document is readable throughout. -/
theorem Derives.readable {n : Nat} {cs : Letters} {p : Part} (h : Derives n cs p) :
    p.Throughout Readable := by
  induction h with
  | literal h => exact h.readable
  | text h => exact lenient_readable.throughout_str _
  | emptyList h => exact lenient_readable.throughout_arr fun v hv => absurd hv List.not_mem_nil
  | list h ih => exact lenient_readable.throughout_arr ih
  | emptyObject h =>
    exact lenient_readable.throughout_obj List.nodup_nil fun v hv => absurd hv List.not_mem_nil
  | @object n cs ms fields h hfields ih =>
    obtain rfl := Fields.lastWins_iff.1 hfields
    -- The value of a repeated name is that of one of its members.
    refine lenient_readable.throughout_obj (Fields.nodup_keys_collect ms) ?_
    intro field hfield
    obtain ⟨m, hm, hvalue⟩ := Fields.exists_of_mem_collect hfield
    rw [← hvalue]
    exact ih m hm
  | element hbefore h hafter ih => exact ih
  | item h ih => exact List.forall_mem_singleton.2 ih
  | items h hv ih ihv =>
    exact List.forall_mem_append.2 ⟨ih, List.forall_mem_singleton.2 ihv⟩
  | member hbefore hname hbetween h ih => exact List.forall_mem_singleton.2 ih
  | members h hm ih ihm => exact List.forall_mem_append.2 ⟨ih, ihm⟩

end Grammar

section
variable {τ : Type} [DecidableEq τ]

mutual

/-- A readable document without binary64 numbers can be written and read again. -/
theorem isPlain_of_throughout (v : Json τ) (h : Throughout Readable v)
    (hfloat : ∀ x, ¬ Inside (.float x) v) : isPlain v = true := by
  cases v with
  | float x => exact absurd .self (hfloat x)
  | int n => exact decide_eq_true (h _ .self)
  | arr items =>
    exact arePlain_of_throughout items (throughout_arr_iff.1 h).2
      fun v hv x hx => hfloat x (hx.item hv)
  | obj fields =>
    rw [isPlain, Bool.and_eq_true]
    exact ⟨decide_eq_true (h _ .self), holdPlain_of_throughout fields (throughout_obj_iff.1 h).2
      fun field hfield x hx => hfloat x (hx.field hfield)⟩
  | null => rfl
  | bool b => rfl
  | str s => rfl

theorem arePlain_of_throughout (items : List (Json τ)) (h : ∀ v ∈ items, Throughout Readable v)
    (hfloat : ∀ v ∈ items, ∀ x, ¬ Inside (.float x) v) : arePlain items = true := by
  cases items with
  | nil => rfl
  | cons v vs =>
    rw [List.forall_mem_cons] at h hfloat
    rw [arePlain, Bool.and_eq_true]
    exact ⟨isPlain_of_throughout v h.1 hfloat.1, arePlain_of_throughout vs h.2 hfloat.2⟩

theorem holdPlain_of_throughout (fields : List (τ × Json τ))
    (h : ∀ field ∈ fields, Throughout Readable field.2)
    (hfloat : ∀ field ∈ fields, ∀ x, ¬ Inside (.float x) field.2) : holdPlain fields = true := by
  cases fields with
  | nil => rfl
  | cons f fs =>
    obtain ⟨k, v⟩ := f
    rw [List.forall_mem_cons] at h hfloat
    rw [holdPlain, Bool.and_eq_true]
    exact ⟨isPlain_of_throughout v h.1 hfloat.1, holdPlain_of_throughout fs h.2 hfloat.2⟩

end

/-- What lies in a plain document is plain. -/
theorem isPlain_of_inside {u v : Json τ} (h : Inside u v) (hv : isPlain v = true) :
    isPlain u = true := by
  have hitems : ∀ items : List (Json τ), arePlain items = true → ∀ w ∈ items, isPlain w = true := by
    intro items hitems
    induction items with
    | nil => exact fun w hw => absurd hw List.not_mem_nil
    | cons w ws ih =>
      rw [arePlain, Bool.and_eq_true] at hitems
      exact List.forall_mem_cons.2 ⟨hitems.1, ih hitems.2⟩
  have hfields : ∀ fields : Fields τ, holdPlain fields = true →
      ∀ field ∈ fields, isPlain field.2 = true := by
    intro fields hfields
    induction fields with
    | nil => exact fun field hfield => absurd hfield List.not_mem_nil
    | cons field fields ih =>
      rw [holdPlain, Bool.and_eq_true] at hfields
      exact List.forall_mem_cons.2 ⟨hfields.1, ih hfields.2⟩
  -- The induction goes up from `u`, so what is known of `v` is handed down at each level.
  induction h with
  | self => exact hv
  | item h hmem ih => exact ih (hitems _ (by rwa [isPlain] at hv) _ hmem)
  | field h hmem ih =>
    rw [isPlain, Bool.and_eq_true] at hv
    exact ih (hfields _ hv.2 _ hmem)

end

/-! ### Documents that are sent to others -/

section
variable {τ : Type}

/-- A finite number, or another value. -/
def Sendable : Json τ → Prop
  | .float x => x.isFinite = true
  | _ => True

theorem lenient_sendable [DecidableEq τ] : Lenient (@Sendable τ) where
  null := trivial
  bool _ := trivial
  int _ _ := trivial
  str _ := trivial
  arr _ := trivial
  obj _ _ := trivial
  put _ _ _ _ := trivial
  erase _ _ _ := trivial

theorem throughout_sendable_iff {v : Json τ} :
    Throughout Sendable v ↔ ∀ x, Inside (.float x) v → x.isFinite = true := by
  constructor
  · exact fun h x hx => h _ hx
  · intro h u hu
    cases u with
    | float x => exact h x hu
    | _ => trivial

mutual

/-- A document without infinite numbers is sent as it is. -/
theorem toFinite_of_throughout (v : Json τ) (h : Throughout Sendable v) : toFinite v = v := by
  cases v with
  | float x => exact if_pos (h _ .self)
  | arr items =>
    rw [toFinite, itemsToFinite_of_throughout items (throughout_arr_iff.1 h).2]
  | obj fields =>
    rw [toFinite, fieldsToFinite_of_throughout fields (throughout_obj_iff.1 h).2]
  | null => rfl
  | bool b => rfl
  | int n => rfl
  | str s => rfl

theorem itemsToFinite_of_throughout (items : List (Json τ)) (h : ∀ v ∈ items, Throughout Sendable v) :
    itemsToFinite items = items := by
  cases items with
  | nil => rfl
  | cons v vs =>
    rw [List.forall_mem_cons] at h
    rw [itemsToFinite, toFinite_of_throughout v h.1, itemsToFinite_of_throughout vs h.2]

theorem fieldsToFinite_of_throughout (fields : List (τ × Json τ))
    (h : ∀ field ∈ fields, Throughout Sendable field.2) : fieldsToFinite fields = fields := by
  cases fields with
  | nil => rfl
  | cons f fs =>
    obtain ⟨k, v⟩ := f
    rw [List.forall_mem_cons] at h
    rw [fieldsToFinite, toFinite_of_throughout v h.1, fieldsToFinite_of_throughout fs h.2]

end

end

end Json

end FlowDraft
