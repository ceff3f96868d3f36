import FlowDraft.Proofs.Json.Numbers
import FlowDraft.Proofs.Json.Scan

/-!
# `FlowDraft.Proofs.Json.Lexeme`: texts and tokens as the grammar has them

Inside a text the scanner keeps the letters that it has read last one first, and it joins the two
halves of a pair as it meets them. `reverse_joinHalves_concat` says that this comes to joining them
when the text is complete. So a text of the grammar is read as what it denotes (`Text.reads`), and
so is a word (`Literal.reads`).

For the other direction `Lexed` cuts characters into blanks and tokens as the grammar has them.
`Scanned` says how much of that is known at each place of the scanner; every character preserves it
(`scanned_step`), and at the end of a text it gives the tokens (`lexed_scan`).
-/

set_option autoImplicit false

namespace FlowDraft.Json.Grammar

open Letter (char)
open Token Token.Scan

/-! ### Letters -/

/-- The value of a hexadecimal digit is its place among the digits. -/
theorem hexValue?_eq_some_iff {c : Char} {d : Nat} : Text.hexValue? c = some d ↔ HexDigit c d := by
  constructor
  · -- Digits, small letters and capital letters stand in three rows of characters.
    have hrow : ∀ (first last : Char) (value : Nat), first ≤ c → c ≤ last →
        (∀ k ≤ last.toNat - first.toNat, HexDigit (Char.ofNat (first.toNat + k)) (k + value)) →
        HexDigit c (c.toNat - first.toNat + value) := by
      intro first last value hfirst hlast hdigits
      have hfirst : first.toNat ≤ c.toNat := hfirst
      have hlast : c.toNat ≤ last.toNat := hlast
      have hc := hdigits (c.toNat - first.toNat) (by omega)
      rwa [Nat.add_sub_cancel' hfirst, Char.ofNat_toNat] at hc
    have hdigits : ∀ k ≤ 9, HexDigit (Char.ofNat ('0'.toNat + k)) (k + 0) := by
      simp only [HexDigit]
      decide
    have hsmall : ∀ k ≤ 5, HexDigit (Char.ofNat ('a'.toNat + k)) (k + 10) := by
      simp only [HexDigit]
      decide
    have hcapital : ∀ k ≤ 5, HexDigit (Char.ofNat ('A'.toNat + k)) (k + 10) := by
      simp only [HexDigit]
      decide
    intro h
    rw [Text.hexValue?] at h
    split at h
    · next hc =>
      simp only [Char.isDigit, Bool.and_eq_true, decide_eq_true_eq] at hc
      obtain rfl := Option.some.inj h
      exact hrow '0' '9' 0 hc.1 hc.2 hdigits
    split at h
    · next hc =>
      simp only [Bool.and_eq_true, decide_eq_true_eq] at hc
      obtain rfl := Option.some.inj h
      exact hrow 'a' 'f' 10 hc.1 hc.2 hsmall
    split at h
    · next hc =>
      simp only [Bool.and_eq_true, decide_eq_true_eq] at hc
      obtain rfl := Option.some.inj h
      exact hrow 'A' 'F' 10 hc.1 hc.2 hcapital
    · cases h
  · have hsmall : ∀ k : Fin 16, Text.hexValue? ("0123456789abcdef".toList.get k) = some k.val := by
      decide
    have hcapital : ∀ k : Fin 16, Text.hexValue? ("0123456789ABCDEF".toList.get k) = some k.val := by
      decide
    rintro (h | h)
    · obtain ⟨hd, rfl⟩ := List.getElem?_eq_some_iff.1 h
      exact hsmall ⟨d, hd⟩
    · obtain ⟨hd, rfl⟩ := List.getElem?_eq_some_iff.1 h
      exact hcapital ⟨d, hd⟩

theorem escaped?_eq_some_iff {c e : Char} : escaped? c = some e ↔ (c, e) ∈ escapes := by
  constructor
  · intro h
    rw [escaped?] at h
    split at h
    · next hc =>
      cases h
      simp only [Bool.or_eq_true, beq_iff_eq] at hc
      rcases hc with (rfl | rfl) | rfl <;> decide
    iterate 5
      split at h
      · next hc =>
        cases h
        rw [beq_iff_eq.1 hc]
        decide
    cases h
  · intro h
    simp only [escapes, List.mem_cons, Prod.mk.injEq, List.not_mem_nil, or_false] at h
    rcases h with h | h | h | h | h | h | h | h <;>
      · obtain ⟨rfl, rfl⟩ := h
        rfl

theorem joinHalves_ne_nil {units : List CodeUnit} (h : units ≠ []) : joinHalves units ≠ [] := by
  unfold joinHalves
  split
  · split <;> exact List.cons_ne_nil _ _
  · exact h

/-- A pair is joined to nothing more. -/
theorem pair?_pair {first second pair : CodeUnit} (h : first.pair? second = some pair)
    (unit : CodeUnit) : pair.pair? unit = none := by
  match first, second, h with
  | .code high, .code low, h =>
    rw [CodeUnit.pair?] at h
    split at h
    · obtain rfl := Option.some.inj h
      rfl
    · cases h

/-- A letter that comes behind others meets the last one of them only. -/
theorem pushLetter_append_singleton {letters : List CodeUnit} {first unit : CodeUnit}
    (h : letters ≠ [] ∨ first.pair? unit = none) :
    pushLetter unit (letters ++ [first]) = pushLetter unit letters ++ [first] := by
  cases letters with
  | nil =>
    have hfirst : first.pair? unit = none := h.resolve_left fun h => h rfl
    simp [pushLetter, hfirst]
  | cons last rest =>
    simp only [pushLetter, List.cons_append]
    split <;> rfl

/-- Joining halves one letter at a time, last one first, is joining them all. -/
theorem reverse_joinHalves_concat (units : List CodeUnit) (unit : CodeUnit) :
    (joinHalves (units ++ [unit])).reverse = pushLetter unit (joinHalves units).reverse := by
  induction units using joinHalves.induct with
  | case1 first second units pair hpair ih =>
    simp only [List.cons_append, joinHalves, hpair, List.reverse_cons]
    rw [ih, pushLetter_append_singleton (.inr (pair?_pair hpair unit))]
  | case2 first second units hpair ih =>
    have hsplit : ∀ rest, joinHalves (first :: second :: rest)
        = first :: joinHalves (second :: rest) := by
      intro rest
      rw [joinHalves, hpair]
    have hne : (joinHalves (second :: units)).reverse ≠ [] := by
      simpa using joinHalves_ne_nil (List.cons_ne_nil second units)
    rw [List.cons_append, List.cons_append, hsplit, hsplit, List.reverse_cons, List.reverse_cons,
      ← List.cons_append, ih, pushLetter_append_singleton (.inl hne)]
  | case3 units hfew =>
    -- There is no pair among fewer than two letters.
    match units, hfew with
    | [], _ => rfl
    | [first], _ =>
      simp only [List.singleton_append, joinHalves, List.reverse_singleton, pushLetter]
      cases first.pair? unit <;> rfl
    | first :: second :: rest, hfew => exact absurd rfl (hfew first second rest)

/-- A letter that stands in a text is joined to nothing. -/
theorem pushLetter_letter (l : Letter) (letters : List CodeUnit) :
    pushLetter (.letter l) letters = .letter l :: letters := by
  match letters with
  | [] => rfl
  | .letter last :: rest => rfl
  | .code last :: rest => rfl

theorem textOf_reverse (letters : List CodeUnit) :
    textOf letters.reverse = letters.map CodeUnit.toLetter := by
  rw [textOf, List.reverse_reverse]

/-! ### From the grammar to tokens -/

/-- One digit of a code. -/
theorem step_code_of_hexDigit {c : Char} {d : Nat} (hc : HexDigit c d) (tokens : List Token)
    (letters : List CodeUnit) (missing n : Nat) :
    stepChar ⟨tokens, .code letters missing n⟩ c =
      if missing ≤ 1 then ⟨tokens, .text (pushLetter (.code (16 * n + d)) letters)⟩
      else ⟨tokens, .code letters (missing - 1) (16 * n + d)⟩ := by
  show inCode ⟨tokens, .code letters missing n⟩ letters missing n c = _
  rw [inCode, hexValue?_eq_some_iff.2 hc]
  rfl

/-- Digits of a code are read as the number that they denote so far. -/
theorem Hex.foldl {cs : List Char} {n : Nat} (h : Hex cs n) (hlength : cs.length < 4)
    (tokens : List Token) (letters : List CodeUnit) :
    cs.foldl stepChar ⟨tokens, .code letters 4 0⟩ = ⟨tokens, .code letters (4 - cs.length) n⟩ := by
  induction h with
  | nil => rfl
  | concat h hc ih =>
    rw [List.length_append, List.length_singleton] at hlength ⊢
    rw [List.foldl_concat, ih (by omega), step_code_of_hexDigit hc, if_neg (by omega), Nat.sub_sub]

/-- A letter in a text that is no quote, no backslash and no control character stands for itself. -/
theorem step_text_letter {l : Letter} (hquote : l ≠ char '"') (hslash : l ≠ char '\\')
    (hcontrol : 0x20 ≤ l.code) (tokens : List Token) (letters : List CodeUnit) :
    step ⟨tokens, .text letters⟩ l = ⟨tokens, .text (.letter l :: letters)⟩ := by
  cases l with
  | char c =>
    have hquote : c ≠ '"' := fun h => hquote (congrArg char h)
    have hslash : c ≠ '\\' := fun h => hslash (congrArg char h)
    have hno : ¬ c.toNat < 0x20 := Nat.not_lt.2 hcontrol
    simp [step, stepChar, inText, hquote, hslash, hno, goto]
  | half n => rfl

/-- The letters of a text are read as its code units, with halves joined. -/
theorem Units.foldl {cs : Letters} {units : List CodeUnit} (h : Units cs units)
    (tokens : List Token) :
    cs.foldl step ⟨tokens, .text []⟩ = ⟨tokens, .text (joinHalves units).reverse⟩ := by
  induction h with
  | nil => rfl
  | plain h hquote hslash hcontrol ih =>
    rw [List.foldl_concat, ih, reverse_joinHalves_concat, pushLetter_letter,
      step_text_letter hquote hslash hcontrol]
  | escaped h he ih =>
    have hcode : ∀ entry ∈ escapes, entry.1 ≠ 'u' := by decide
    rw [List.foldl_append, ih, reverse_joinHalves_concat, pushLetter_letter]
    show inEscape ⟨tokens, _⟩ _ _ = _
    simp [inEscape, hcode _ he, escaped?_eq_some_iff.2 he, goto]
  | code h hcode hlength ih =>
    cases hcode with
    | nil => cases hlength
    | concat hcode hc =>
      rw [List.length_append, List.length_singleton] at hlength
      rw [List.foldl_append, ih, reverse_joinHalves_concat]
      show List.foldl step ⟨tokens, .code _ 4 0⟩ _ = _
      rw [foldl_step_ofChars, List.foldl_concat, hcode.foldl (by omega), step_code_of_hexDigit hc,
        if_pos (by omega)]

/-- A text is read as what it denotes. -/
theorem Text.reads {cs s : Letters} (h : Text cs s) : Reads cs [.text s] := by
  obtain ⟨hletters⟩ := h
  intro tokens
  show settled (List.foldl step ⟨tokens, .text []⟩ _) = _
  rw [List.foldl_concat, hletters.foldl]
  show (⟨.text (textOf _) :: tokens, .gap⟩ : Scan) = _
  rw [textOf_reverse]
  rfl

/-- A word is read as the value that it means. -/
theorem Literal.reads {word : List Char} {v : Json Letters} (h : Literal word v) :
    Reads (Letters.ofChars word) [.value v] := by
  rw [← ofWord_eq_value_iff.2 h]
  exact reads_word h.isBare.1 h.isBare.2

/-! ### From tokens to the grammar -/

/-- How a mark is written. -/
def markChar : Mark → Char
  | .openList => '['
  | .closeList => ']'
  | .openObject => '\x7b'
  | .closeObject => '\x7d'
  | .comma => ','
  | .colon => ':'

theorem eq_markChar {c : Char} {m : Mark} (h : Mark.ofChar? c = some m) : c = markChar m := by
  rw [Mark.ofChar?] at h
  iterate 6
    split at h
    · next hc =>
      cases h
      exact beq_iff_eq.1 hc
  cases h

/-- The letters of a token. Nothing is said of tokens that end the reading. -/
inductive Lexeme : Letters → Token → Prop where
  | mark (m : Mark) : Lexeme [char (markChar m)] (.mark m)
  | text {cs s : Letters} (h : Text cs s) : Lexeme cs (.text s)
  | value {word : List Char} {v : Json Letters} (h : Literal word v) :
      Lexeme (Letters.ofChars word) (.value v)
  | oversized (word : Letters) (digits : Nat) : Lexeme word (.oversized digits)
  | broken (cs : Letters) : Lexeme cs .broken

/-- The letters are blanks and the tokens, which are given last one first. -/
inductive Lexed : Letters → List Token → Prop where
  | nil : Lexed [] []
  | blank {cs : Letters} {tokens : List Token} {l : Letter} (h : Lexed cs tokens)
      (hl : Blank [l]) : Lexed (cs ++ [l]) tokens
  | token {cs ds : Letters} {tokens : List Token} {t : Token} (h : Lexed cs tokens)
      (ht : Lexeme ds t) : Lexed (cs ++ ds) (t :: tokens)

/-- What is known of the letters that were read, at each place of the scanner. -/
inductive Scanned : Letters → Scan → Prop where
  | gap {cs : Letters} {tokens : List Token} (h : Lexed cs tokens) : Scanned cs ⟨tokens, .gap⟩
  | word {cs : Letters} {tokens : List Token} (h : Lexed cs tokens) (letters : List Char) :
      Scanned (cs ++ Letters.ofChars letters.reverse) ⟨tokens, .word letters⟩
  | text {cs body : Letters} {tokens : List Token} {units : List CodeUnit} (h : Lexed cs tokens)
      (hbody : Units body units) :
      Scanned (cs ++ char '"' :: body) ⟨tokens, .text (joinHalves units).reverse⟩
  | escape {cs body : Letters} {tokens : List Token} {units : List CodeUnit} (h : Lexed cs tokens)
      (hbody : Units body units) :
      Scanned (cs ++ char '"' :: (body ++ [char '\\']))
        ⟨tokens, .escape (joinHalves units).reverse⟩
  | code {cs body : Letters} {code : List Char} {tokens : List Token} {units : List CodeUnit}
      {missing n : Nat} (h : Lexed cs tokens) (hbody : Units body units) (hcode : Hex code n)
      (hlength : code.length + missing = 4) (hmissing : 0 < missing) :
      Scanned (cs ++ char '"' :: (body ++ char '\\' :: char 'u' :: Letters.ofChars code))
        ⟨tokens, .code (joinHalves units).reverse missing n⟩
  | stop {cs : Letters} {tokens : List Token} (h : Lexed cs tokens) (rest : Letters) :
      Scanned (cs ++ rest) ⟨.broken :: tokens, .stop⟩

theorem blank_of_isGap {c : Char} (h : isGap c = true) : Blank [char c] := by
  intro d hd
  rw [List.mem_singleton.1 hd]
  simpa [isGap, or_assoc] using h

theorem lexeme_ofWord (word : List Char) : Lexeme (Letters.ofChars word) (ofWord word) := by
  have hmeaning : (∃ v, ofWord word = .value v) ∨ (∃ n, ofWord word = .oversized n) ∨
      ofWord word = .broken := by
    rw [ofWord]
    split
    · exact .inl ⟨_, rfl⟩
    split
    · exact .inr (.inr rfl)
    split
    · exact .inr (.inl ⟨_, rfl⟩)
    split
    · rw [ofNumeral]
      split <;> exact .inl ⟨_, rfl⟩
    · exact .inr (.inr rfl)
  rcases hmeaning with ⟨v, h⟩ | ⟨n, h⟩ | h
  · rw [h]
    exact .value (ofWord_eq_value_iff.1 h)
  · rw [h]
    exact .oversized _ n
  · rw [h]
    exact .broken _

/-- A character between tokens. -/
theorem scanned_atGap {cs : Letters} {tokens : List Token} {place : Place}
    (h : Lexed cs tokens) (c : Char) : Scanned (cs ++ [char c]) (atGap ⟨tokens, place⟩ c) := by
  rw [atGap]
  split
  · next hc => exact .gap (h.blank (blank_of_isGap hc))
  split
  · next hc =>
    rw [beq_iff_eq.1 hc]
    exact .text h .nil
  split
  · exact .word h [c]
  split
  · next m hm =>
    rw [eq_markChar hm]
    exact .gap (h.token (.mark m))
  · exact .stop h [char c]

/-- One character keeps what is known. -/
theorem scanned_stepChar {cs : Letters} {s : Scan} (h : Scanned cs s) (c : Char) :
    Scanned (cs ++ [char c]) (s.stepChar c) := by
  cases h with
  | gap h => exact scanned_atGap h c
  | word h letters =>
    rw [stepChar]
    dsimp only
    split
    · have hscanned := Scanned.word h (c :: letters)
      rwa [List.reverse_cons, Letters.ofChars_append, ← List.append_assoc] at hscanned
    · -- The word ends, and the character is read as one between tokens.
      exact scanned_atGap (h.token (lexeme_ofWord _)) c
  | text h hbody =>
    show Scanned _ (inText _ _ c)
    rw [inText, List.append_assoc, List.cons_append]
    split
    · next hc =>
      rw [beq_iff_eq.1 hc]
      -- The letters so far are the text.
      rw [textOf_reverse]
      exact .gap (h.token (.text (.mk hbody)))
    split
    · next hc =>
      rw [beq_iff_eq.1 hc]
      exact .escape h hbody
    split
    · exact .stop h _
    · next hquote hslash hcontrol =>
      have hletters := hbody.plain (l := char c) (by simpa using hquote) (by simpa using hslash)
        (Nat.not_lt.1 hcontrol)
      have hscanned := Scanned.text h hletters
      rwa [reverse_joinHalves_concat, pushLetter_letter] at hscanned
  | escape h hbody =>
    show Scanned _ (inEscape _ _ c)
    rw [inEscape, List.append_assoc, List.cons_append, List.append_assoc]
    split
    · next hc =>
      rw [beq_iff_eq.1 hc]
      exact .code h hbody .nil rfl (by decide)
    split
    · next e he =>
      have hscanned := Scanned.text h (hbody.escaped (escaped?_eq_some_iff.1 he))
      rwa [reverse_joinHalves_concat, pushLetter_letter] at hscanned
    · exact .stop h _
  | @code cs body code tokens units missing n h hbody hcode hlength hmissing =>
    show Scanned _ (inCode _ _ _ _ c)
    rw [inCode, List.append_assoc, List.cons_append, List.append_assoc, List.cons_append,
      List.cons_append]
    split
    · exact .stop h _
    · next d hd =>
      have hcode := hcode.concat (hexValue?_eq_some_iff.1 hd)
      split
      · -- With the fourth digit the code is a letter, which may be half of a pair.
        have hscanned := Scanned.text h (hbody.code hcode (by simp; omega))
        rwa [reverse_joinHalves_concat, Letters.ofChars_append] at hscanned
      · have hlength : (code ++ [c]).length + (missing - 1) = 4 := by simp; omega
        have hscanned := Scanned.code h hbody hcode hlength (by omega)
        rwa [Letters.ofChars_append] at hscanned
  | stop h rest =>
    rw [List.append_assoc]
    exact .stop h (rest ++ [char c])

/-- So does a half of a pair, which stands in a text or where nothing is read any more. -/
theorem scanned_stepHalf {cs : Letters} {s : Scan} (h : Scanned cs s) (n : Fin 0x800) :
    Scanned (cs ++ [.half n]) (s.stepHalf n) := by
  cases h with
  | gap h => exact .stop h _
  | word h letters => exact .stop (h.token (lexeme_ofWord _)) _
  | text h hbody =>
    rw [List.append_assoc, List.cons_append]
    have hletters := hbody.plain (l := .half n) Letter.noConfusion Letter.noConfusion
      (Nat.le_add_right_of_le (by decide))
    have hscanned := Scanned.text h hletters
    rwa [reverse_joinHalves_concat, pushLetter_letter] at hscanned
  | escape h hbody =>
    rw [List.append_assoc]
    exact .stop h _
  | code h hbody hcode hlength hmissing =>
    rw [List.append_assoc]
    exact .stop h _
  | stop h rest =>
    rw [List.append_assoc]
    exact .stop h _

/-- One letter keeps what is known. -/
theorem scanned_step {cs : Letters} {s : Scan} (h : Scanned cs s) (l : Letter) :
    Scanned (cs ++ [l]) (s.step l) := by
  cases l with
  | char c => exact scanned_stepChar h c
  | half n => exact scanned_stepHalf h n

theorem scanned_foldl {before : Letters} {s : Scan} (h : Scanned before s) (cs : Letters) :
    Scanned (before ++ cs) (cs.foldl step s) := by
  induction cs generalizing before s with
  | nil => rwa [List.append_nil]
  | cons c cs ih =>
    rw [List.append_cons, List.foldl_cons]
    exact ih (scanned_step h c)

/-- The letters of a text are blanks and its tokens. -/
theorem lexed_scan (cs : Letters) : Lexed cs (scan cs).reverse := by
  have hscanned := scanned_foldl (.gap .nil) cs
  rw [List.nil_append] at hscanned
  rw [scan, start]
  generalize cs.foldl step ⟨[], .gap⟩ = s at hscanned
  cases hscanned with
  | gap h => simpa [finish] using h
  | word h letters => simpa [finish, endWord, emit] using h.token (lexeme_ofWord letters.reverse)
  | text h hbody => simpa [finish, fail] using h.token (.broken _)
  | escape h hbody => simpa [finish, fail] using h.token (.broken _)
  | code h hbody hcode hlength hmissing => simpa [finish, fail] using h.token (.broken _)
  | stop h rest => simpa [finish] using h.token (.broken rest)

end FlowDraft.Json.Grammar
