import FlowDraft.Json.Writer
import FlowDraft.Proofs.Json.Word

/-!
# `FlowDraft.Proofs.Json.Scan`: from letters to tokens

`Token.Reads cs ts` says that the letters `cs` are read as the tokens `ts`, whatever was read
before them. A bare word at the end of `cs` may still be open, because nothing but the next
letter ends it. So letters are put together where a letter stands that is in no bare word
(`Reads.append`), and `reads_word` and `reads_text` give the parts.
-/

set_option autoImplicit false

namespace FlowDraft

theorem Text.hexValue?_hexDigit {d : Nat} (h : d < 16) : hexValue? (hexDigit d) = some d := by
  have hall : ∀ d : Fin 16, hexValue? (hexDigit d.val) = some d.val := by decide
  exact hall ⟨d, h⟩

namespace Json.Token

open Scan

/-! ### Written characters -/

/-- Styles differ in a text only by the characters beyond ASCII. -/
theorem renderText_congr {style style' : Style} (h : style.ascii = style'.ascii) (s : Letters) :
    renderText style s = renderText style' s := by
  have hescape : escape style = escape style' := by
    funext l
    cases l <;> simp only [escape, escapeChar, h]
  rw [renderText, renderText, hescape]

/-- A digit of the code of an escape before the last one. -/
theorem step_code (tokens : List Token) (letters : List CodeUnit) (missing n : Nat) {d : Nat}
    (h : d < 16) :
    stepChar ⟨tokens, .code letters (missing + 2) n⟩ (Text.hexDigit d)
      = ⟨tokens, .code letters (missing + 1) (16 * n + d)⟩ := by
  simp [stepChar, inCode, Text.hexValue?_hexDigit h, goto]

/-- The last digit of the code of an escape. -/
theorem step_code_last (tokens : List Token) (letters : List CodeUnit) (n : Nat) {d : Nat}
    (h : d < 16) :
    stepChar ⟨tokens, .code letters 1 n⟩ (Text.hexDigit d)
      = ⟨tokens, .text (pushLetter (.code (16 * n + d)) letters)⟩ := by
  simp [stepChar, inCode, Text.hexValue?_hexDigit h, goto]

/-- What is no second half joins nothing. -/
theorem pushLetter_code_of_not_isLow {n : Nat} (h : isLow n = false) (letters : List CodeUnit) :
    pushLetter (.code n) letters = .code n :: letters := by
  match letters with
  | [] => rfl
  | .letter l :: rest => rfl
  | .code high :: rest => simp [pushLetter, CodeUnit.pair?, h]

/-- The escape of a control character is read as its code. -/
theorem foldl_escapeUnit {n : Nat} (h : n < 0x20) (tokens : List Token) (letters : List CodeUnit) :
    (escapeUnit n).foldl stepChar ⟨tokens, .text letters⟩
      = ⟨tokens, .text (.code n :: letters)⟩ := by
  have hmod : ∀ m : Nat, m % 16 < 16 := fun m => Nat.mod_lt m (by decide)
  have hvalue : 16 * (16 * (16 * (16 * 0 + n / 16 / 16 / 16 % 16) + n / 16 / 16 % 16) + n / 16 % 16)
      + n % 16 = n := by
    omega
  have hlow : isLow n = false := by
    simp only [isLow, Bool.and_eq_false_iff, decide_eq_false_iff_not]
    omega
  show ([Text.hexDigit (n / 16 / 16 / 16 % 16), Text.hexDigit (n / 16 / 16 % 16),
      Text.hexDigit (n / 16 % 16), Text.hexDigit (n % 16)]).foldl stepChar
        ⟨tokens, .code letters 4 0⟩ = _
  rw [List.foldl_cons, step_code tokens letters 2 0 (hmod _), List.foldl_cons,
    step_code tokens letters 1 _ (hmod _), List.foldl_cons, step_code tokens letters 0 _ (hmod _),
    List.foldl_cons, step_code_last tokens letters _ (hmod _), List.foldl_nil, hvalue,
    pushLetter_code_of_not_isLow hlow]

/-- A written character is read as that character. -/
theorem foldl_escapeChar (c : Char) (tokens : List Token) (letters : List CodeUnit) :
    ∃ unit : CodeUnit, unit.toLetter = .char c ∧
      (escapeChar .compact c).foldl stepChar ⟨tokens, .text letters⟩
        = ⟨tokens, .text (unit :: letters)⟩ := by
  rw [escapeChar]
  iterate 7
    split
    · next h => exact ⟨.letter (.char c), rfl, by rw [beq_iff_eq.1 h]; rfl⟩
  split
  · next h =>
    have hplane : c.toNat < 0x10000 := by omega
    rw [escapeCode, if_pos hplane]
    exact ⟨.code c.toNat, Letter.ofCode_toNat c, foldl_escapeUnit h tokens letters⟩
  · next hquote hslash _ _ _ _ _ hcontrol =>
    refine ⟨.letter (.char c), rfl, ?_⟩
    simp [Style.compact, stepChar, inText, hquote, hslash, hcontrol, goto]

/-- A written letter is read as that letter. -/
theorem foldl_escape (l : Letter) (tokens : List Token) (letters : List CodeUnit) :
    ∃ unit : CodeUnit, unit.toLetter = l ∧
      (escape .compact l).foldl step ⟨tokens, .text letters⟩ = ⟨tokens, .text (unit :: letters)⟩ := by
  cases l with
  | char c =>
    rw [escape, foldl_step_ofChars]
    exact foldl_escapeChar c tokens letters
  | half n => exact ⟨.letter (.half n), rfl, rfl⟩

/-- The letters of a written text are read as those letters, last one first. -/
theorem foldl_escapes (s : Letters) (tokens : List Token) (letters : List CodeUnit) :
    ∃ units : List CodeUnit, textOf units = textOf letters ++ s ∧
      (s.flatMap (escape .compact)).foldl step ⟨tokens, .text letters⟩ = ⟨tokens, .text units⟩ := by
  induction s generalizing letters with
  | nil => exact ⟨letters, (List.append_nil _).symm, rfl⟩
  | cons l s ih =>
    obtain ⟨unit, hunit, hfirst⟩ := foldl_escape l tokens letters
    obtain ⟨units, hunits, hrest⟩ := ih (unit :: letters)
    refine ⟨units, ?_, by rw [List.flatMap_cons, List.foldl_append, hfirst, hrest]⟩
    rw [hunits]
    simp [textOf, hunit]

/-! ### Tokens from letters -/

/-- The scan between tokens again, behind a bare word that is still open. -/
def settled (s : Scan) : Scan :=
  match s.place with
  | .word letters => s.endWord letters
  | _ => s

/-- From between two tokens, the letters are read as the tokens. A bare word at their end may still
be open. -/
def Reads (cs : Letters) (ts : List Token) : Prop :=
  ∀ tokens, settled (cs.foldl step ⟨tokens, .gap⟩) = ⟨ts.reverse ++ tokens, .gap⟩

/-- A letter that is in no bare word ends the one that is open. -/
theorem step_settled {s : Scan} {l : Letter} (hl : l.isOf isBare = false)
    (h : (settled s).place = .gap) : s.step l = (settled s).step l := by
  obtain ⟨tokens, place⟩ := s
  cases place with
  | word letters =>
    cases l with
    | char c =>
      show (if isBare c then _ else _) = _
      rw [show isBare c = false from hl]
      rfl
    | half n => rfl
  | _ => rfl

/-- At the end of a text the word that is open ends. -/
theorem finish_eq {s : Scan} (h : (settled s).place = .gap) :
    s.finish = (settled s).tokens.reverse := by
  obtain ⟨tokens, place⟩ := s
  cases place with
  | gap => rfl
  | word letters => rfl
  | text letters => cases h
  | escape letters => cases h
  | code letters missing n => cases h
  | stop => cases h

theorem Reads.nil : Reads [] [] := fun _ => rfl

/-- What is read behind a letter that is in no bare word does not depend on what is before. -/
theorem Reads.append {cs ds : Letters} {l : Letter} {ts us : List Token} (h : Reads cs ts)
    (hl : l.isOf isBare = false) (h' : Reads (l :: ds) us) : Reads (cs ++ l :: ds) (ts ++ us) := by
  intro tokens
  have hplace : (settled (cs.foldl step ⟨tokens, .gap⟩)).place = .gap := by rw [h tokens]
  rw [List.foldl_append, List.foldl_cons, step_settled hl hplace, h tokens, ← List.foldl_cons,
    h' (ts.reverse ++ tokens)]
  simp

/-- A mark is read as itself. -/
theorem Reads.cons_mark {l : Letter} {m : Mark} {cs : Letters} {ts : List Token}
    (hl : ∀ tokens, step ⟨tokens, .gap⟩ l = ⟨.mark m :: tokens, .gap⟩) (h : Reads cs ts) :
    Reads (l :: cs) (.mark m :: ts) := by
  intro tokens
  rw [List.foldl_cons, hl tokens, h (.mark m :: tokens)]
  simp

/-- A blank between tokens is passed over. -/
theorem Reads.cons_gap {b : Letter} {cs : Letters} {ts : List Token} (hb : b.isOf isGap = true)
    (h : Reads cs ts) : Reads (b :: cs) ts := by
  cases b with
  | char b =>
    intro tokens
    have hb : isGap b = true := hb
    have hstep : step ⟨tokens, .gap⟩ (.char b) = ⟨tokens, .gap⟩ := by
      simp [step, stepChar, atGap, hb, goto]
    rw [List.foldl_cons, hstep]
    exact h tokens
  | half n => cases hb

/-- So are several of them. -/
theorem Reads.gaps_append {bs cs : Letters} {ts : List Token}
    (hbs : ∀ b ∈ bs, b.isOf isGap = true) (h : Reads cs ts) : Reads (bs ++ cs) ts := by
  induction bs with
  | nil => exact h
  | cons b bs ih =>
    obtain ⟨hb, hbs⟩ := List.forall_mem_cons.1 hbs
    exact (ih hbs).cons_gap hb

/-- No blank is in a bare word. -/
theorem not_isBare_of_isGap {b : Char} (h : isGap b = true) : isBare b = false := by
  simp only [isGap, Bool.or_eq_true, beq_iff_eq] at h
  rcases h with ((rfl | rfl) | rfl) | rfl <;> rfl

/-- Blanks behind tokens are passed over too. They end a word that is open. -/
theorem Reads.append_gaps {cs bs : Letters} {ts : List Token} (h : Reads cs ts)
    (hbs : ∀ b ∈ bs, b.isOf isGap = true) : Reads (cs ++ bs) ts := by
  cases bs with
  | nil => rwa [List.append_nil]
  | cons b bs =>
    have hgaps : Reads (b :: bs) [] := by
      have happend := Reads.nil.gaps_append hbs
      rwa [List.append_nil] at happend
    have hbare : b.isOf isBare = false := by
      cases b with
      | char b => exact not_isBare_of_isGap (hbs (.char b) List.mem_cons_self)
      | half n => rfl
    have happend := h.append hbare hgaps
    rwa [List.append_nil] at happend

/-- A mark at the end of letters is read behind their tokens. -/
theorem Reads.concat_mark {cs : Letters} {l : Letter} {m : Mark} {ts : List Token}
    (h : Reads cs ts) (hbare : l.isOf isBare = false)
    (hl : ∀ tokens, step ⟨tokens, .gap⟩ l = ⟨.mark m :: tokens, .gap⟩) :
    Reads (cs ++ [l]) (ts ++ [.mark m]) :=
  h.append hbare (Reads.nil.cons_mark hl)

/-! ### Words and texts -/

/-- A character of bare words opens one between tokens. -/
theorem step_gap_bare {c : Char} (h : isBare c = true) (tokens : List Token) :
    stepChar ⟨tokens, .gap⟩ c = ⟨tokens, .word [c]⟩ := by
  have hgap : isGap c = false := by
    rw [← Bool.not_eq_true]
    intro hg
    rw [not_isBare_of_isGap hg] at h
    cases h
  have hquote : (c == '"') = false := by
    rw [beq_eq_false_iff_ne]
    rintro rfl
    exact absurd h (by decide)
  simp [stepChar, atGap, hgap, hquote, h, goto]

theorem foldl_word {cs : List Char} (h : ∀ c ∈ cs, isBare c = true) (tokens : List Token)
    (letters : List Char) :
    cs.foldl stepChar ⟨tokens, .word letters⟩ = ⟨tokens, .word (cs.reverse ++ letters)⟩ := by
  induction cs generalizing letters with
  | nil => rfl
  | cons c cs ih =>
    have hstep : stepChar ⟨tokens, .word letters⟩ c = ⟨tokens, .word (c :: letters)⟩ := by
      simp [stepChar, h c List.mem_cons_self, goto]
    rw [List.foldl_cons, hstep, ih (fun d hd => h d (List.mem_cons_of_mem _ hd))]
    simp

/-- A bare word is read as what it means. -/
theorem reads_word {word : List Char} (hne : word ≠ []) (h : ∀ c ∈ word, isBare c = true) :
    Reads (Letters.ofChars word) [ofWord word] := by
  obtain ⟨c, cs, rfl⟩ := List.exists_cons_of_ne_nil hne
  intro tokens
  rw [foldl_step_ofChars, List.foldl_cons, step_gap_bare (h c List.mem_cons_self),
    foldl_word fun d hd => h d (List.mem_cons_of_mem _ hd)]
  simp [settled, endWord, emit]

/-- A written text is read as the text, in every style that leaves characters beyond ASCII as they
are. -/
theorem reads_text {style : Style} (hstyle : style.ascii = false) (s : Letters) :
    Reads (renderText style s) [.text s] := by
  have hcompact : renderText style s = renderText .compact s := renderText_congr hstyle s
  intro tokens
  rw [hcompact]
  show settled ((s.flatMap (escape .compact) ++ [Letter.char '"']).foldl step ⟨tokens, .text []⟩) = _
  obtain ⟨units, htext, hfold⟩ := foldl_escapes s tokens []
  rw [List.foldl_append, hfold]
  show (⟨.text (textOf units) :: tokens, .gap⟩ : Scan) = _
  rw [htext]
  rfl

end Json.Token

end FlowDraft
