import FlowDraft.Decimal.Layout
import FlowDraft.Proofs.Json.Word

/-!
# `FlowDraft.Proofs.Decimal.Bare`: written numbers are bare words

A binary64 number is written with digits, signs, a point and the letter of an exponent, or as one of
the two words of its layout. So it is a bare word (`isBareWord_render`).
-/

set_option autoImplicit false

namespace FlowDraft.Decimal

open Json.Token (isBare)

/-- Characters that make up a bare word. There is at least one. -/
structure IsBareWord (cs : List Char) : Prop where
  ne_nil : cs ≠ []
  bare : ∀ c ∈ cs, isBare c = true

/-! ### Digits -/

theorem isBare_of_isDigit {c : Char} (h : c.isDigit = true) : isBare c = true := by
  simp [isBare, Char.isAlphanum, h]

theorem isBare_decimal (n : Nat) : ∀ c ∈ Text.decimal n, isBare c = true :=
  fun _ hc => isBare_of_isDigit (Text.isDigit_of_mem_decimal hc)

theorem isBare_zeros (n : Nat) : ∀ c ∈ List.replicate n '0', isBare c = true := by
  intro c hc
  rw [(List.mem_replicate.1 hc).2]
  rfl

section
variable {digits : List Char} (h : ∀ c ∈ digits, isBare c = true)
include h

theorem isBareWord_positional (lead : Int) : IsBareWord (positional digits lead) := by
  have htake : ∀ n, ∀ c ∈ digits.take n, isBare c = true := fun _ c hc =>
    h c (List.mem_of_mem_take hc)
  have hdrop : ∀ n, ∀ c ∈ digits.drop n, isBare c = true := fun _ c hc =>
    h c (List.mem_of_mem_drop hc)
  rw [positional]
  dsimp only
  split
  · refine ⟨List.cons_ne_nil _ _, ?_⟩
    simp only [List.forall_mem_cons, List.forall_mem_append]
    exact ⟨rfl, rfl, isBare_zeros _, h⟩
  · split
    · refine ⟨by simp, ?_⟩
      simp only [List.forall_mem_cons, List.forall_mem_append]
      exact ⟨⟨h, isBare_zeros _⟩, rfl, rfl, List.forall_mem_nil _⟩
    · refine ⟨by simp, ?_⟩
      simp only [List.forall_mem_cons, List.forall_mem_append]
      exact ⟨htake _, rfl, hdrop _⟩

theorem isBareWord_scientific (width : Nat) (lead : Int) :
    IsBareWord (scientific width digits lead) := by
  have htake : ∀ c ∈ digits.take 1, isBare c = true := fun c hc => h c (List.mem_of_mem_take hc)
  have hfraction : ∀ c ∈ (if digits.length ≤ 1 then [] else '.' :: digits.drop 1),
      isBare c = true := by
    split
    · exact List.forall_mem_nil _
    · exact List.forall_mem_cons.2 ⟨rfl, fun c hc => h c (List.mem_of_mem_drop hc)⟩
  have hsign : isBare (if lead < 0 then '-' else '+') = true := by
    split <;> rfl
  have hexponent : ∀ c ∈ padLeft width (Text.decimal lead.natAbs), isBare c = true :=
    List.forall_mem_append.2 ⟨isBare_zeros _, isBare_decimal _⟩
  refine ⟨by simp [scientific], ?_⟩
  simp only [scientific, List.forall_mem_append, List.forall_mem_cons]
  exact ⟨⟨htake, hfraction⟩, rfl, hsign, hexponent⟩

end

/-! ### Numbers -/

namespace Layout

theorem isBareWord_magnitude (l : Layout) (d : Scaled) : IsBareWord (l.magnitude d) := by
  rw [magnitude]
  split
  · exact isBareWord_positional (isBare_decimal _) _
  · exact isBareWord_scientific (isBare_decimal _) _ _

theorem isBareWord_signed {text : List Char} (h : IsBareWord text) (negative : Bool) :
    IsBareWord (signed negative text) := by
  cases negative with
  | false => exact h
  | true => exact ⟨List.cons_ne_nil _ _, List.forall_mem_cons.2 ⟨rfl, h.bare⟩⟩

/-- The words of the layout are bare words. -/
structure HasBareWords (l : Layout) : Prop where
  nan : IsBareWord l.nan.toList
  infinity : IsBareWord l.infinity.toList

theorem hasBareWords_plain : plain.HasBareWords where
  nan := ⟨by decide, List.all_eq_true.1 (by decide)⟩
  infinity := ⟨by decide, List.all_eq_true.1 (by decide)⟩

theorem hasBareWords_json : json.HasBareWords where
  nan := ⟨by decide, List.all_eq_true.1 (by decide)⟩
  infinity := ⟨by decide, List.all_eq_true.1 (by decide)⟩

/-- A number is written as a bare word. -/
theorem isBareWord_render {l : Layout} (h : l.HasBareWords) (x : Float) :
    IsBareWord (l.render x) := by
  rw [render]
  cases Binary.ofFloat x with
  | nan => exact h.nan
  | infinite negative => exact isBareWord_signed h.infinity negative
  | finite negative units power =>
    rw [binary]
    split
    · exact isBareWord_signed ⟨by decide, List.all_eq_true.1 (by decide)⟩ negative
    · exact isBareWord_signed (l.isBareWord_magnitude _) negative

end Layout

end FlowDraft.Decimal
