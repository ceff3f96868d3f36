import FlowDraft.Proofs.Json.Characters

/-!
# `FlowDraft.Proofs.Json.Crossing`: documents that start inside a text

A piece of a written document that starts inside one of its texts can be a document of its own. Then
the two are read crosswise: where the one has its texts, the other one has what stands between them,
because the quotes that end a text of the one start a text of the other. `Crossed` says so of two
scans, and every letter preserves it (`crossed_step`).

What stands between the texts of a document has no backticks. So the document that starts inside a
text has none in its texts (`clean_scan_of_backtick`), and it is not the document around it, in
whose text a backtick stands (`readWithin_ne_of_backtick`).
-/

set_option autoImplicit false

namespace FlowDraft.Json

open Letter (char)

namespace Token

open Scan

/-- Between tokens or in a bare word. -/
def Place.isOutside : Place → Bool
  | .gap | .word _ => true
  | _ => false

/-- No token has a backtick in its texts. -/
def Clean (tokens : List Token) : Prop :=
  ∀ s ∈ tokens.flatMap texts, char '\x60' ∉ s

/-- Of two scans, the second one is outside where the first one is in a text, and in a text where
the first one is outside. It has read no backtick in a text. -/
inductive Crossed : Scan → Scan → Prop where
  /-- The first scan stopped. Then nothing is said of the second one. -/
  | stopped {s t : Scan} (h : s.place = .stop) : Crossed s t
  /-- The second scan stopped. -/
  | broken {s t : Scan} (h : t.place = .stop) (clean : Clean t.tokens) : Crossed s t
  /-- The first scan is in a text. -/
  | outside {s t : Scan} (letters : List CodeUnit) (hs : s.place = .text letters)
      (ht : t.place.isOutside = true) (clean : Clean t.tokens) : Crossed s t
  /-- The second scan is in a text. -/
  | inside {s t : Scan} (letters : List CodeUnit) (hs : s.place.isOutside = true)
      (ht : t.place = .text letters) (clean : Clean t.tokens)
      (hletters : char '\x60' ∉ textOf letters) : Crossed s t

/-! ### One letter -/

theorem step_stop {s : Scan} (h : s.place = .stop) (l : Letter) : s.step l = s := by
  cases l with
  | char c => rw [step, stepChar, h]
  | half n => rw [step, stepHalf, h]

theorem foldl_stop {s : Scan} (h : s.place = .stop) (cs : Letters) :
    (cs.foldl step s).place = .stop := by
  induction cs with
  | nil => exact h
  | cons l cs ih => rw [List.foldl_cons, step_stop h, ih]

/-- A bare word means no text. -/
theorem texts_ofWord (word : List Char) : (ofWord word).texts = [] := by
  have hnames : ∀ entry ∈ names, entry.2.texts = [] := by
    simp [names, Json.texts]
  rw [ofWord]
  split
  · next v hv =>
    obtain ⟨before, after, hsplit, -⟩ := List.lookup_eq_some_iff.1 hv
    exact hnames (word, v) (hsplit ▸ List.mem_append_right before List.mem_cons_self)
  · split
    · rfl
    · split
      · rfl
      · split
        · rw [ofNumeral]
          split <;> rfl
        · rfl

theorem Clean.cons {t : Token} {tokens : List Token} (ht : ∀ s ∈ t.texts, char '\x60' ∉ s)
    (h : Clean tokens) : Clean (t :: tokens) := by
  rw [Clean, List.flatMap_cons, List.forall_mem_append]
  exact ⟨ht, h⟩

/-- The end of a bare word brings no text. -/
theorem clean_endWord {s : Scan} (h : Clean s.tokens) (letters : List Char) :
    Clean (s.endWord letters).tokens := by
  refine h.cons ?_
  rw [texts_ofWord]
  exact List.forall_mem_nil _

/-- A character between tokens brings no text. -/
theorem clean_atGap {s : Scan} (h : Clean s.tokens) (c : Char) : Clean (s.atGap c).tokens := by
  rw [atGap]
  split
  · exact h
  split
  · exact h
  split
  · exact h
  split
  · exact h.cons (List.forall_mem_nil _)
  · exact h.cons (List.forall_mem_nil _)

/-- A character other than a quote leads from between tokens to there or to a bare word, or it ends
the scan. -/
theorem place_atGap (s : Scan) {c : Char} (h : c ≠ '"') :
    (s.atGap c).place.isOutside = true ∨ (s.atGap c).place = .stop := by
  have hquote : (c == '"') = false := beq_eq_false_iff_ne.2 h
  rw [atGap]
  split
  · exact .inl rfl
  rw [hquote]
  split
  · next hfalse => cases hfalse
  split
  · exact .inl rfl
  split
  · exact .inl rfl
  · exact .inr rfl

/-- Outside texts a character goes on with a bare word, or it is read as between tokens. -/
theorem stepChar_outside {s : Scan} (h : s.place.isOutside = true) (c : Char) :
    (isBare c = true ∧ (s.stepChar c).place.isOutside = true ∧ (s.stepChar c).tokens = s.tokens) ∨
      ∃ t : Scan, s.stepChar c = t.atGap c ∧ (Clean s.tokens → Clean t.tokens) := by
  obtain ⟨tokens, place⟩ := s
  cases place with
  | gap => exact .inr ⟨⟨tokens, .gap⟩, rfl, id⟩
  | word letters =>
    cases hc : isBare c with
    | true =>
      refine .inl ⟨rfl, ?_⟩
      rw [stepChar]
      simp [hc, goto, Place.isOutside]
    | false =>
      refine .inr ⟨(⟨tokens, .word letters⟩ : Scan).endWord letters, ?_,
        fun h => clean_endWord h letters⟩
      rw [stepChar]
      simp [hc]
  | _ => cases h

/-- Outside texts a half of a pair ends the scan. -/
theorem stepHalf_outside {s : Scan} (h : s.place.isOutside = true) (n : Fin 0x800) :
    (s.stepHalf n).place = .stop ∧ (Clean s.tokens → Clean (s.stepHalf n).tokens) := by
  obtain ⟨tokens, place⟩ := s
  cases place with
  | gap => exact ⟨rfl, fun hclean => hclean.cons (List.forall_mem_nil _)⟩
  | word letters =>
    exact ⟨rfl, fun hclean => (clean_endWord hclean letters).cons (List.forall_mem_nil _)⟩
  | _ => cases h

/-- A letter outside texts brings no text. -/
theorem clean_step_outside {s : Scan} (h : s.place.isOutside = true) (l : Letter)
    (hclean : Clean s.tokens) : Clean (s.step l).tokens := by
  cases l with
  | char c =>
    show Clean (s.stepChar c).tokens
    rcases stepChar_outside h c with ⟨-, -, htokens⟩ | ⟨t, hstep, ht⟩
    · rw [htokens]
      exact hclean
    · rw [hstep]
      exact clean_atGap (ht hclean) c
  | half n => exact (stepHalf_outside h n).2 hclean

/-- A letter other than a quote stays outside texts, or it ends the scan. -/
theorem place_step_outside {s : Scan} (h : s.place.isOutside = true) {l : Letter}
    (hl : l ≠ char '"') : (s.step l).place.isOutside = true ∨ (s.step l).place = .stop := by
  cases l with
  | char c =>
    show (s.stepChar c).place.isOutside = true ∨ (s.stepChar c).place = .stop
    rcases stepChar_outside h c with ⟨-, hplace, -⟩ | ⟨t, hstep, -⟩
    · exact .inl hplace
    · rw [hstep]
      exact place_atGap t fun hc => hl (congrArg char hc)
  | half n => exact .inr (stepHalf_outside h n).1

/-- A quote outside texts starts one. -/
theorem place_step_quote {s : Scan} (h : s.place.isOutside = true) :
    (s.step (char '"')).place = .text [] := by
  show (s.stepChar '"').place = .text []
  rcases stepChar_outside h '"' with ⟨hbare, -⟩ | ⟨t, hstep, -⟩
  · cases hbare
  · rw [hstep]
    rfl

/-- A backslash or a backtick outside texts ends the scan. -/
theorem place_step_broken {s : Scan} (h : s.place.isOutside = true) {l : Letter}
    (hl : l = char '\\' ∨ l = char '\x60') : (s.step l).place = .stop := by
  have hbroken : ∀ c, c = '\\' ∨ c = '\x60' → (s.stepChar c).place = .stop := by
    intro c hc
    rcases stepChar_outside h c with ⟨hbare, -⟩ | ⟨t, hstep, -⟩
    · rcases hc with rfl | rfl <;> cases hbare
    · rw [hstep]
      rcases hc with rfl | rfl <;> rfl
  rcases hl with rfl | rfl
  · exact hbroken _ (.inl rfl)
  · exact hbroken _ (.inr rfl)

/-- A letter in a text is a letter of it, or it ends the scan, unless it is a quote or a
backslash. -/
theorem step_text {s : Scan} {letters : List CodeUnit} (h : s.place = .text letters) {l : Letter}
    (hquote : l ≠ char '"') (hslash : l ≠ char '\\') :
    s.step l = s.goto (.text (.letter l :: letters)) ∨ s.step l = s.fail := by
  cases l with
  | char c =>
    have hquote : (c == '"') = false := beq_eq_false_iff_ne.2 fun h => hquote (congrArg char h)
    have hslash : (c == '\\') = false := beq_eq_false_iff_ne.2 fun h => hslash (congrArg char h)
    rw [step, stepChar, h]
    show s.inText letters c = _ ∨ s.inText letters c = _
    rw [inText, hquote, hslash]
    by_cases hcontrol : c.toNat < 0x20
    · exact .inr (by simp [hcontrol])
    · exact .inl (by simp [hcontrol])
  | half n =>
    rw [step, stepHalf, h]
    exact .inl rfl

/-- A backtick is read in a text, or it ends the scan. -/
theorem step_backtick (s : Scan) :
    (∃ letters, (s.step (char '\x60')).place = .text letters) ∨
      (s.step (char '\x60')).place = .stop := by
  obtain ⟨tokens, place⟩ := s
  cases place with
  | gap => exact .inr rfl
  | word letters => exact .inr rfl
  | text letters => exact .inl ⟨_, rfl⟩
  | escape letters => exact .inr rfl
  | code letters missing n => exact .inr rfl
  | stop => exact .inr rfl

/-! ### Reading crosswise -/

theorem textOf_cons (l : Letter) (letters : List CodeUnit) :
    textOf (.letter l :: letters) = textOf letters ++ [l] := by
  simp [textOf, CodeUnit.toLetter]

/-- A letter of a text of the first scan, which the second one reads outside. -/
theorem crossed_step_outside {s t : Scan} {letters : List CodeUnit} (hs : s.place = .text letters)
    (ht : t.place.isOutside = true) (clean : Clean t.tokens) (l : Letter) :
    Crossed (s.step l) (t.step l) := by
  have hclean : Clean (t.step l).tokens := clean_step_outside ht l clean
  by_cases hquote : l = char '"'
  · -- The quote ends the text of the first scan and starts one of the second.
    subst hquote
    have hgap : (s.step (char '"')).place = .gap := by
      rw [step, stepChar, hs]
      rfl
    exact .inside [] (by rw [hgap]; rfl) (place_step_quote ht) hclean (by decide)
  · by_cases hslash : l = char '\\'
    · exact .broken (place_step_broken ht (.inl hslash)) hclean
    · rcases place_step_outside ht hquote with ht' | ht'
      · rcases step_text hs hquote hslash with hs' | hs'
        · exact .outside _ (by rw [hs']; rfl) ht' hclean
        · exact .stopped (by rw [hs']; rfl)
      · exact .broken ht' hclean

/-- A letter of a text of the second scan, which the first one reads outside. -/
theorem crossed_step_inside {s t : Scan} {letters : List CodeUnit} (hs : s.place.isOutside = true)
    (ht : t.place = .text letters) (clean : Clean t.tokens)
    (hletters : char '\x60' ∉ textOf letters) (l : Letter) :
    Crossed (s.step l) (t.step l) := by
  by_cases hquote : l = char '"'
  · -- The quote ends the text of the second scan, without a backtick, and starts one of the first.
    subst hquote
    have hemit : t.step (char '"') = t.emit (.text (textOf letters)) := by
      rw [step, stepChar, ht]
      rfl
    refine .outside [] (place_step_quote hs) (by rw [hemit]; rfl) ?_
    rw [hemit]
    exact clean.cons (by rw [texts, List.forall_mem_singleton]; exact hletters)
  · by_cases hbroken : l = char '\\' ∨ l = char '\x60'
    · exact .stopped (place_step_broken hs hbroken)
    · rw [not_or] at hbroken
      rcases place_step_outside hs hquote with hs' | hs'
      · rcases step_text ht hquote hbroken.1 with ht' | ht'
        · rw [ht']
          refine .inside _ hs' rfl clean ?_
          rw [textOf_cons, List.mem_append, List.mem_singleton, not_or]
          exact ⟨hletters, Ne.symm hbroken.2⟩
        · rw [ht']
          exact .broken rfl (clean.cons (List.forall_mem_nil _))
      · exact .stopped hs'

/-- A letter takes two scans that are crossed to two that are. -/
theorem crossed_step {s t : Scan} (h : Crossed s t) (l : Letter) : Crossed (s.step l) (t.step l) := by
  cases h with
  | stopped hs => exact .stopped (by rw [step_stop hs, hs])
  | broken ht clean => exact .broken (by rw [step_stop ht, ht]) (by rw [step_stop ht]; exact clean)
  | outside letters hs ht clean => exact crossed_step_outside hs ht clean l
  | inside letters hs ht clean hletters => exact crossed_step_inside hs ht clean hletters l

/-- Letters take two scans that are crossed to two that are. -/
theorem crossed_foldl {s t : Scan} (h : Crossed s t) (cs : Letters) :
    Crossed (cs.foldl step s) (cs.foldl step t) := by
  induction cs generalizing s t with
  | nil => exact h
  | cons l cs ih => exact ih (crossed_step h l)

/-- Letters without quotes and backslashes stay in a text, or they end the scan. -/
theorem foldl_text {s : Scan} {cs : Letters} (hcs : ∀ l ∈ cs, l ≠ char '"' ∧ l ≠ char '\\')
    (h : (∃ letters, s.place = .text letters) ∨ s.place = .stop) :
    (∃ letters, (cs.foldl step s).place = .text letters) ∨ (cs.foldl step s).place = .stop := by
  induction cs generalizing s with
  | nil => exact h
  | cons l cs ih =>
    rw [List.forall_mem_cons] at hcs
    refine ih hcs.2 ?_
    rcases h with ⟨letters, h⟩ | h
    · rcases step_text h hcs.1.1 hcs.1.2 with hstep | hstep
      · exact .inl ⟨_, by rw [hstep]; rfl⟩
      · exact .inr (by rw [hstep]; rfl)
    · exact .inr (by rw [step_stop h, h])

/-- The end of the letters brings no text. -/
theorem clean_finish {s : Scan} (h : Clean s.tokens) : Clean s.finish := by
  have hreverse : ∀ tokens : List Token, Clean tokens → Clean tokens.reverse := by
    intro tokens htokens x hx
    obtain ⟨t, ht, hx⟩ := List.mem_flatMap.1 hx
    exact htokens x (List.mem_flatMap.2 ⟨t, List.mem_reverse.1 ht, hx⟩)
  obtain ⟨tokens, place⟩ := s
  cases place with
  | gap => exact hreverse _ h
  | stop => exact hreverse _ h
  | word letters => exact hreverse _ (clean_endWord h letters)
  | text letters => exact hreverse _ (h.cons (List.forall_mem_nil _))
  | escape letters => exact hreverse _ (h.cons (List.forall_mem_nil _))
  | code letters missing n => exact hreverse _ (h.cons (List.forall_mem_nil _))

/-- **Behind a backtick in a written document, no document starts that has a backtick in its
texts.** There may be more letters between the backtick and the document, other than quotes and
backslashes, and any letters behind it. -/
theorem clean_scan_of_backtick {before skipped cs after : Letters}
    (hskipped : ∀ l ∈ skipped, l ≠ char '"' ∧ l ≠ char '\\')
    (h : ((before ++ char '\x60' :: (skipped ++ cs) ++ after).foldl step start).place ≠ .stop) :
    Clean (scan cs) := by
  rw [List.foldl_append, List.foldl_append, List.foldl_cons, List.foldl_append] at h
  have htext := foldl_text hskipped (step_backtick (before.foldl step start))
  have hcrossed :
      Crossed (skipped.foldl step ((before.foldl step start).step (char '\x60'))) start := by
    rcases htext with ⟨letters, htext⟩ | hstop
    · exact .outside letters htext rfl (List.forall_mem_nil _)
    · exact .stopped hstop
  rw [scan]
  refine clean_finish ?_
  cases crossed_foldl hcrossed cs with
  | stopped hstop => exact absurd (foldl_stop hstop after) h
  | broken _ clean => exact clean
  | outside _ _ _ clean => exact clean
  | inside _ _ _ clean _ => exact clean

end Token

/-- A document that stands behind a backtick in a written document is not that document itself. -/
theorem readWithin_ne_of_backtick {v : Json Letters} (hv : isPlain v = true) {level : Nat}
    {before skipped cs after : Letters} (hskipped : ∀ l ∈ skipped, l ≠ char '"' ∧ l ≠ char '\\')
    (hrender : render .compact level v = before ++ char '\x60' :: (skipped ++ cs) ++ after)
    (limit : Nat) : readWithin limit cs ≠ .ok v := by
  intro hread
  have hwritten : Token.Reads (render .compact level v) (tokens v) := reads_render rfl v hv level
  have hreads := hwritten []
  have hend : ((before ++ char '\x60' :: (skipped ++ cs) ++ after).foldl Token.Scan.step
      Token.Scan.start).place ≠ .stop := by
    rw [← hrender]
    intro hstop
    rw [Token.settled, ← Token.Scan.start, hstop] at hreads
    have hgap := congrArg Token.Scan.place hreads
    rw [hstop] at hgap
    cases hgap
  have hclean := Token.clean_scan_of_backtick hskipped hend
  have htexts := texts_ofTokens hread
  have hnot := backtick_not_mem_render .compact level fun s hs => hclean s (htexts hs)
  refine hnot ?_
  rw [hrender]
  simp

end FlowDraft.Json
