import FlowDraft.Proofs.Json.Grammar
import FlowDraft.Proofs.Json.Word

/-!
# `FlowDraft.Proofs.Json.Numbers`: words as the grammar has them

The scanner takes the longest numeral off a word, and the grammar says which words are numbers. The
two agree when nothing is left of the word (`Grammar.scan?_eq_some_nil_iff`). So do they on what a
bare word means (`Grammar.ofWord_eq_value_iff`): the names of values are no numbers, because each of
them has a letter that no number has.
-/

set_option autoImplicit false

namespace FlowDraft.Json.Grammar

open Decimal (Numeral)

/-! ### Numbers -/

/-- Digits are taken up to the first character that is none. -/
theorem digits_append {ds rest : List Char} (h : ∀ d ∈ ds, d.isDigit = true)
    (hrest : ∀ c ∈ rest.head?, c.isDigit = false) : Numeral.digits (ds ++ rest) = (ds, rest) := by
  have hstop : rest.takeWhile Char.isDigit = [] ∧ rest.dropWhile Char.isDigit = rest := by
    cases rest with
    | nil => exact ⟨rfl, rfl⟩
    | cons c rest =>
      have hc : c.isDigit = false := hrest c rfl
      simp [hc]
  rw [Numeral.digits, List.takeWhile_append_of_pos h, List.dropWhile_append_of_pos h, hstop.1,
    hstop.2, List.append_nil]

theorem exists_of_digits {cs ds rest : List Char} (h : Numeral.digits cs = (ds, rest)) :
    cs = ds ++ rest ∧ ∀ d ∈ ds, d.isDigit = true := by
  obtain ⟨rfl, rfl⟩ := Prod.mk.inj h
  exact ⟨List.takeWhile_append_dropWhile.symm, fun d hd => List.mem_takeWhile_imp hd⟩

theorem Whole.scan {whole rest : List Char} (h : Whole whole)
    (hrest : ∀ c ∈ rest.head?, c.isDigit = false) :
    Numeral.scanWhole? (whole ++ rest) = some (whole, rest) := by
  cases h with
  | zero => rfl
  | digits h hd =>
    have hfirst := h.2 _ List.mem_cons_self
    rw [List.cons_append, Numeral.scanWhole?, if_neg (by simpa using hd), if_pos hfirst,
      ← List.cons_append, digits_append h.2 hrest]

theorem Fraction.scan {point rest : List Char} {fraction : Option (List Char)}
    (h : Fraction point fraction) (hrest : ∀ c ∈ rest.head?, c.isDigit = false ∧ c ≠ '.') :
    Numeral.scanFraction (point ++ rest) = (fraction, rest) := by
  cases h with
  | none =>
    cases rest with
    | nil => rfl
    | cons c rest =>
      have hpoint : ¬ (c == '.') = true := by simpa using (hrest c rfl).2
      rw [List.nil_append, Numeral.scanFraction]
      split
      · rfl
      · rw [if_neg hpoint]
  | some h =>
    rw [List.cons_append, Numeral.scanFraction, digits_append h.2 fun c hc => (hrest c hc).1]
    obtain ⟨d, ds, rfl⟩ := List.exists_cons_of_ne_nil h.1
    rfl

theorem Sign.scan {sign ds : List Char} {negative : Bool} (h : Sign sign negative)
    (hds : Digits ds) : Numeral.scanSign (sign ++ ds) = (negative, ds) := by
  cases h with
  | none =>
    obtain ⟨d, ds, rfl⟩ := List.exists_cons_of_ne_nil hds.1
    have hdigit := hds.2 d List.mem_cons_self
    have hminus : ¬ (d == '-') = true := by
      rw [beq_iff_eq]
      rintro rfl
      exact absurd hdigit (by decide)
    have hplus : ¬ (d == '+') = true := by
      rw [beq_iff_eq]
      rintro rfl
      exact absurd hdigit (by decide)
    rw [List.nil_append, Numeral.scanSign, if_neg hminus, if_neg hplus]
  | plus => rfl
  | minus => rfl

theorem Exponent.scan {power : List Char} {exponent : Option (Bool × List Char)}
    (h : Exponent power exponent) : Numeral.scanExponent power = (exponent, []) := by
  cases h with
  | none => rfl
  | some he hsign h =>
    have hend : ∀ c ∈ ([] : List Char).head?, c.isDigit = false := by simp
    have hdigits := digits_append h.2 hend
    rw [List.append_nil] at hdigits
    obtain ⟨d, ds, rfl⟩ := List.exists_cons_of_ne_nil h.1
    rw [Numeral.scanExponent, hsign.scan h]
    simp [hdigits, he]

/-- An exponent starts with its letter. -/
theorem Exponent.head? {power : List Char} {exponent : Option (Bool × List Char)}
    (h : Exponent power exponent) : ∀ c ∈ power.head?, c.isDigit = false ∧ c ≠ '.' := by
  intro c hc
  cases h with
  | none => cases hc
  | some he hsign h =>
    cases hc
    rcases he with rfl | rfl <;> exact ⟨rfl, by decide⟩

theorem Magnitude.scan {negative : Bool} {word : List Char} {n : Numeral}
    (h : Magnitude negative word n) :
    ∃ whole rest fraction power exponent, Numeral.scanWhole? word = some (whole, rest) ∧
      Numeral.scanFraction rest = (fraction, power) ∧
      Numeral.scanExponent power = (exponent, []) ∧ n = ⟨negative, whole, fraction, exponent⟩ := by
  obtain ⟨hwhole, hpoint, hpower⟩ := h
  refine ⟨_, _, _, _, _, hwhole.scan ?_, hpoint.scan hpower.head?, hpower.scan, rfl⟩
  intro c hc
  cases hpoint with
  | none => exact (hpower.head? c hc).1
  | some h =>
    cases hc
    rfl

/-- A number is read as its numeral, to the end. -/
theorem Number.scan {word : List Char} {n : Numeral} (h : Number word n) :
    Numeral.scan? word = some (n, []) := by
  cases h with
  | positive h =>
    obtain ⟨whole, rest, fraction, power, exponent, hwhole, hfraction, hexponent, rfl⟩ := h.scan
    -- The whole part is no minus, so the word does not start with one.
    have hsign : ∀ r, word ≠ '-' :: r := by
      rintro r rfl
      cases hwhole
    rw [Numeral.scan?]
    · simp [hwhole, hfraction, hexponent]
    · exact hsign
  | negative h =>
    obtain ⟨whole, rest, fraction, power, exponent, hwhole, hfraction, hexponent, rfl⟩ := h.scan
    rw [Numeral.scan?]
    simp [hwhole, hfraction, hexponent]

theorem whole_of_scan {cs whole rest : List Char}
    (h : Numeral.scanWhole? cs = some (whole, rest)) : cs = whole ++ rest ∧ Whole whole := by
  cases cs with
  | nil => cases h
  | cons c cs =>
    rw [Numeral.scanWhole?] at h
    split at h
    · next hc =>
      cases h
      exact ⟨by rw [beq_iff_eq.1 hc]; rfl, .zero⟩
    split at h
    · next hzero hc =>
      obtain ⟨hcs, hdigits⟩ := exists_of_digits (Option.some.inj h)
      have hwhole : whole ≠ [] := by
        rintro rfl
        rw [Numeral.digits, List.takeWhile_cons_of_pos hc] at h
        cases h
      obtain ⟨d, ds, rfl⟩ := List.exists_cons_of_ne_nil hwhole
      obtain ⟨rfl, -⟩ := List.cons.inj hcs
      exact ⟨hcs, .digits ⟨hwhole, hdigits⟩ (by simpa using hzero)⟩
    · cases h

theorem fraction_of_scan {cs rest : List Char} {fraction : Option (List Char)}
    (h : Numeral.scanFraction cs = (fraction, rest)) :
    ∃ point, cs = point ++ rest ∧ Fraction point fraction := by
  cases cs with
  | nil =>
    cases h
    exact ⟨[], rfl, .none⟩
  | cons c cs =>
    rw [Numeral.scanFraction] at h
    split at h
    · cases h
      exact ⟨[], rfl, .none⟩
    · next ds after hne hdigits =>
      obtain ⟨rfl, hds⟩ := exists_of_digits hdigits
      split at h
      · next hc =>
        cases h
        have hempty : ds ≠ [] := by
          rintro rfl
          exact hne rfl
        exact ⟨'.' :: ds, by rw [beq_iff_eq.1 hc]; rfl, .some ⟨hempty, hds⟩⟩
      · cases h
        exact ⟨[], rfl, .none⟩

theorem sign_of_scan {cs rest : List Char} {negative : Bool}
    (h : Numeral.scanSign cs = (negative, rest)) :
    ∃ sign, cs = sign ++ rest ∧ Sign sign negative := by
  cases cs with
  | nil =>
    cases h
    exact ⟨[], rfl, .none⟩
  | cons c cs =>
    rw [Numeral.scanSign] at h
    split at h
    · next hc =>
      cases h
      exact ⟨['-'], by rw [beq_iff_eq.1 hc]; rfl, .minus⟩
    split at h
    · next hc =>
      cases h
      exact ⟨['+'], by rw [beq_iff_eq.1 hc]; rfl, .plus⟩
    · cases h
      exact ⟨[], rfl, .none⟩

theorem exponent_of_scan {cs rest : List Char} {exponent : Option (Bool × List Char)}
    (h : Numeral.scanExponent cs = (exponent, rest)) :
    ∃ power, cs = power ++ rest ∧ Exponent power exponent := by
  cases cs with
  | nil =>
    cases h
    exact ⟨[], rfl, .none⟩
  | cons c cs =>
    rw [Numeral.scanExponent] at h
    cases hscan : Numeral.scanSign cs with
    | mk negative body =>
      obtain ⟨sign, rfl, hsign⟩ := sign_of_scan hscan
      rw [hscan] at h
      dsimp only at h
      split at h
      · cases h
        exact ⟨[], rfl, .none⟩
      · next ds after hne hdigits =>
        obtain ⟨rfl, hds⟩ := exists_of_digits hdigits
        split at h
        · next hc =>
          cases h
          have hempty : ds ≠ [] := by
            rintro rfl
            exact hne rfl
          exact ⟨c :: (sign ++ ds), by simp, .some (by simpa using hc) hsign ⟨hempty, hds⟩⟩
        · cases h
          exact ⟨[], rfl, .none⟩

/-- What is read behind the sign of a number. -/
theorem magnitude_of_scan {negative : Bool} {cs : List Char} {n : Numeral}
    (h : ((Numeral.scanWhole? cs).map fun p =>
      let f := Numeral.scanFraction p.2
      let e := Numeral.scanExponent f.2
      ((⟨negative, p.1, f.1, e.1⟩ : Numeral), e.2)) = some (n, [])) : Magnitude negative cs n := by
  obtain ⟨⟨whole, afterWhole⟩, hwhole, hrest⟩ := Option.map_eq_some_iff.1 h
  obtain ⟨rfl, hdigits⟩ := whole_of_scan hwhole
  cases hfraction : Numeral.scanFraction afterWhole with
  | mk fraction afterFraction =>
    cases hexponent : Numeral.scanExponent afterFraction with
    | mk exponent rest =>
      obtain ⟨point, rfl, hpoint⟩ := fraction_of_scan hfraction
      obtain ⟨power, rfl, hpower⟩ := exponent_of_scan hexponent
      simp only [hfraction, hexponent] at hrest
      obtain ⟨rfl, rfl⟩ := Prod.mk.inj hrest
      rw [List.append_nil]
      exact .mk hdigits hpoint hpower

/-- What is read as a numeral, with nothing behind it, is a number. -/
theorem number_of_scan {word : List Char} {n : Numeral} (h : Numeral.scan? word = some (n, [])) :
    Number word n := by
  by_cases hminus : ∃ r, word = '-' :: r
  · obtain ⟨r, rfl⟩ := hminus
    rw [Numeral.scan?] at h
    exact .negative (magnitude_of_scan h)
  · rw [Numeral.scan?] at h
    · exact .positive (magnitude_of_scan h)
    · exact fun r hr => hminus ⟨r, hr⟩

theorem scan?_eq_some_nil_iff {word : List Char} {n : Numeral} :
    Numeral.scan? word = some (n, []) ↔ Number word n :=
  ⟨number_of_scan, Number.scan⟩

/-! ### Words -/

/-- The characters that numbers are made of. -/
def isNumeric (c : Char) : Bool :=
  c.isDigit || c == '-' || c == '+' || c == '.' || c == 'e' || c == 'E'

theorem Digits.isNumeric {ds : List Char} (h : Digits ds) : ∀ c ∈ ds, isNumeric c = true := by
  intro c hc
  simp [Grammar.isNumeric, h.2 c hc]

theorem Magnitude.isNumeric {negative : Bool} {word : List Char} {n : Numeral}
    (h : Magnitude negative word n) : ∀ c ∈ word, isNumeric c = true := by
  obtain ⟨hwhole, hpoint, hpower⟩ := h
  rw [List.forall_mem_append, List.forall_mem_append]
  refine ⟨?_, ?_, ?_⟩
  · cases hwhole with
    | zero => exact List.forall_mem_singleton.2 rfl
    | digits h hd => exact h.isNumeric
  · cases hpoint with
    | none => exact fun c hc => absurd hc List.not_mem_nil
    | some h => exact List.forall_mem_cons.2 ⟨rfl, h.isNumeric⟩
  · cases hpower with
    | none => exact fun c hc => absurd hc List.not_mem_nil
    | some he hsign h =>
      rw [List.forall_mem_cons, List.forall_mem_append]
      refine ⟨?_, ?_, h.isNumeric⟩
      · rcases he with rfl | rfl <;> rfl
      · cases hsign with
        | none => exact fun c hc => absurd hc List.not_mem_nil
        | plus => exact List.forall_mem_singleton.2 rfl
        | minus => exact List.forall_mem_singleton.2 rfl

theorem Number.isNumeric {word : List Char} {n : Numeral} (h : Number word n) :
    ∀ c ∈ word, isNumeric c = true := by
  cases h with
  | positive h => exact h.isNumeric
  | negative h => exact List.forall_mem_cons.2 ⟨rfl, h.isNumeric⟩

/-- The name of a value is no number. -/
theorem Number.lookup_names {word : List Char} {n : Numeral} (h : Number word n) :
    List.lookup word Token.names = none := by
  have hnames : (Token.names.all fun entry => entry.1.any fun c => !Grammar.isNumeric c) = true := by
    decide
  rw [List.lookup_eq_none_iff]
  intro entry hentry
  obtain ⟨c, hc, hletter⟩ := List.any_eq_true.1 (List.all_eq_true.1 hnames entry hentry)
  rw [bne_iff_ne]
  rintro rfl
  simp [h.isNumeric c hc] at hletter

theorem Number.ne_nil {word : List Char} {n : Numeral} (h : Number word n) : word ≠ [] := by
  rintro rfl
  cases h.scan

/-- A named value or a number is a bare word. -/
theorem Literal.isBare {word : List Char} {v : Json Letters} (h : Literal word v) :
    word ≠ [] ∧ ∀ c ∈ word, Token.isBare c = true := by
  have hnumber : ∀ {n : Numeral}, Number word n → word ≠ [] ∧ ∀ c ∈ word, Token.isBare c = true := by
    intro n hn
    refine ⟨hn.ne_nil, ?_⟩
    intro c hc
    have hnumeric := hn.isNumeric c hc
    simp only [isNumeric, Bool.or_eq_true, beq_iff_eq] at hnumeric
    rcases hnumeric with ((((hdigit | rfl) | rfl) | rfl) | rfl) | rfl
    · simp [Token.isBare, Char.isAlphanum, hdigit]
    · rfl
    · rfl
    · rfl
    · rfl
    · rfl
  cases h with
  | int h => exact hnumber h
  | float h => exact hnumber h
  | _ => exact ⟨by decide, List.all_eq_true.1 (by decide)⟩

/-- The name of a value is that value in the grammar. -/
theorem Literal.of_lookup {word : List Char} {v : Json Letters}
    (h : List.lookup word Token.names = some v) : Literal word v := by
  obtain ⟨before, after, hsplit, -⟩ := List.lookup_eq_some_iff.1 h
  have hmem : (word, v) ∈ Token.names := hsplit ▸ List.mem_append_right before List.mem_cons_self
  simp only [Token.names, List.mem_cons, Prod.mk.injEq, List.not_mem_nil, or_false] at hmem
  rcases hmem with ⟨rfl, rfl⟩ | ⟨rfl, rfl⟩ | ⟨rfl, rfl⟩ | ⟨rfl, rfl⟩ | ⟨rfl, rfl⟩ | ⟨rfl, rfl⟩
  · exact .null
  · exact .truth
  · exact .falsity
  · exact .nan
  · exact .infinity
  · exact .negInfinity

/-- A number is a value in the grammar, unless it is a whole one with too many digits. -/
theorem Literal.of_number {word : List Char} {n : Numeral} {v : Json Letters} (h : Number word n)
    (hdigits : n.isWhole = true → n.whole.length ≤ Decimal.maxDigits)
    (hv : Token.ofNumeral n = .value v) : Literal word v := by
  rw [Token.ofNumeral] at hv
  split at hv
  · next hwhole =>
    cases hv
    exact .int h hwhole (hdigits hwhole)
  · next hwhole =>
    cases hv
    exact .float h (by simpa using hwhole)

/-- A bare word means a value exactly when the grammar has it as that value. -/
theorem ofWord_eq_value_iff {word : List Char} {v : Json Letters} :
    Token.ofWord word = .value v ↔ Literal word v := by
  constructor
  · intro h
    rw [Token.ofWord] at h
    split at h
    · next w hlookup =>
      cases h
      exact .of_lookup hlookup
    split at h
    · cases h
    · next n rest hscan =>
      split at h
      · cases h
      split at h
      · next hdigits hrest =>
        rw [List.isEmpty_iff.1 hrest] at hscan
        refine .of_number (scan?_eq_some_nil_iff.1 hscan) (fun hwhole => ?_) h
        simpa [hwhole] using hdigits
      · cases h
  · intro h
    cases h with
    | int h hwhole hdigits =>
      have hfew : ¬ Decimal.maxDigits < _ := Nat.not_lt.2 hdigits
      simp [Token.ofWord, h.lookup_names, h.scan, hwhole, hfew, Token.ofNumeral]
    | float h hwhole => simp [Token.ofWord, h.lookup_names, h.scan, hwhole, Token.ofNumeral]
    | _ => rfl

end FlowDraft.Json.Grammar
