import FlowDraft.Proofs.Text.Trimmed
import FlowDraft.Text.Pattern
import FlowDraft.Text.Word
import Mathlib.Algebra.GroupWithZero.Nat
import Mathlib.Data.List.Nodup

/-!
# `FlowDraft.Proofs.Text.Tokens`: what the size of a text in tokens counts

`tokenCount` reads a text once and keeps one bit, whether the character before belongs to a word.
What it counts is told in three ways.

* `tokenPattern` describes a token: word characters, as many as can be, or a single mark. The count
  is the number of matches that are found one behind the other (`exists_finds_tokenPattern`).
* It is the number of maximal runs of word characters and of marks (`tokensAfter_eq_runs`), where
  `runsAfter` lists the runs with their places (`mem_runsAfter_iff`).
* The bit is all that one part of a text tells the next one (`tokensAfter_append`). So the counts of
  two texts add up, but for a word that goes across the border (`tokenCount_append`).

The last one is the way to the tokens of a text that is put together from parts
(`tokenCount_intercalate`). The half of a pair is a token of its own (`tokenCount_half`).
-/

set_option autoImplicit false

namespace FlowDraft.Text

/-! ### Classes of characters -/

/-- A mark is a token of its own: neither a word character nor white space. -/
def isMark (c : Char) : Bool :=
  !isWord c && !isBlank c

/-- The code points of white space. -/
def blankCodes : List Nat :=
  blankSpans.flatMap fun span => List.range' span.1 (span.2 + 1 - span.1)

theorem isWord_of_mem_blankCodes : ∀ code ∈ blankCodes, isWord (Char.ofNat code) = false := by
  decide +kernel

theorem toNat_mem_blankCodes {c : Char} (h : isBlank c = true) : c.toNat ∈ blankCodes := by
  obtain ⟨span, hspan, hholds⟩ := List.any_eq_true.1 h
  refine List.mem_flatMap.2 ⟨span, hspan, List.mem_range'_1.2 ?_⟩
  simp only [Span.holds, Bool.and_eq_true, decide_eq_true_eq] at hholds
  omega

theorem isWord_of_isBlank {c : Char} (h : isBlank c = true) : isWord c = false := by
  have hword := isWord_of_mem_blankCodes c.toNat (toNat_mem_blankCodes h)
  rwa [Char.ofNat_toNat] at hword

/-- No word character is white space. -/
theorem isBlank_of_isWord {c : Char} (h : isWord c = true) : isBlank c = false := by
  rw [← Bool.not_eq_true]
  intro hblank
  exact Bool.false_ne_true ((isWord_of_isBlank hblank).symm.trans h)

/-! ### One character more -/

section
variable {c : Char} {cs : List Char}

theorem tokensAfter_word (h : isWord c = true) (inWord : Bool) :
    tokensAfter inWord (c :: cs) = (if inWord then 0 else 1) + tokensAfter true cs := by
  rw [tokensAfter, if_pos h]

theorem tokensAfter_gap (h : isWord c = false) (inWord : Bool) :
    tokensAfter inWord (c :: cs) = (if isMark c then 1 else 0) + tokensAfter false cs := by
  rw [tokensAfter, if_neg (by simp [h]), isMark, h]
  cases isBlank c <;> rfl

end

/-- A word that is open goes on to its end. -/
theorem tokensAfter_true (cs : List Char) :
    tokensAfter true cs = tokensAfter false (cs.dropWhile isWord) := by
  induction cs with
  | nil => rfl
  | cons c cs ih =>
    cases hc : isWord c with
    | true =>
      rw [tokensAfter_word hc, List.dropWhile_cons_of_pos hc, ih]
      exact Nat.zero_add _
    | false =>
      rw [List.dropWhile_cons_of_neg (by simp [hc]), tokensAfter_gap hc, tokensAfter_gap hc]

/-! ### Matches of a pattern -/

/-- A token: word characters, as many as can be, or a mark. -/
def tokenPattern : Pattern Char :=
  ((Pattern.one isWord).andThen (.many isWord)).orElse (.one isMark)

section
variable {c : Char} (cs : List Char)

theorem search_tokenPattern_word (h : isWord c = true) :
    tokenPattern.search (c :: cs)
      = some ([], ⟨c :: cs.takeWhile isWord, none, cs.dropWhile isWord⟩) := by
  refine Pattern.search_of_head? ?_
  rw [tokenPattern, Pattern.ways, List.head?_append, Pattern.head?_ways_one_many h]
  rfl

theorem search_tokenPattern_mark (h : isMark c = true) :
    tokenPattern.search (c :: cs) = some ([], ⟨[c], none, cs⟩) := by
  have hword : isWord c = false := by
    rw [isMark, Bool.and_eq_true] at h
    simpa using h.1
  refine Pattern.search_of_head? ?_
  simp [tokenPattern, Pattern.ways, h, hword]

theorem ways_tokenPattern_blank (hword : isWord c = false) (hmark : isMark c = false) :
    tokenPattern.ways (c :: cs) = [] := by
  simp [tokenPattern, Pattern.ways, hword, hmark]

end

/-- The count is the number of matches, from the first one on and one behind the other. -/
theorem exists_finds_tokenPattern (cs : List Char) :
    ∃ found, tokenPattern.Finds cs found ∧ tokensAfter false cs = found.length := by
  -- A word is taken as a whole, so the induction is on the length of what is left.
  induction hlength : cs.length using Nat.strongRecOn generalizing cs with
  | ind n ih =>
    cases cs with
    | nil => exact ⟨[], .nothing rfl, rfl⟩
    | cons c cs =>
      rw [List.length_cons] at hlength
      cases hword : isWord c with
      | true =>
        -- The whole word is one match, and the count goes through it with the bit set.
        have hle := (List.dropWhile_sublist isWord (l := cs)).length_le
        obtain ⟨found, hfound, hcount⟩ := ih _ (by omega) (cs.dropWhile isWord) rfl
        refine ⟨_, .next (search_tokenPattern_word cs hword) (List.cons_ne_nil _ _) hfound, ?_⟩
        rw [tokensAfter_word hword, tokensAfter_true, hcount]
        exact Nat.add_comm _ _
      | false =>
        obtain ⟨found, hfound, hcount⟩ := ih _ (by omega) cs rfl
        rw [tokensAfter_gap hword, hcount]
        cases hmark : isMark c with
        | true =>
          refine ⟨_, .next (search_tokenPattern_mark cs hmark) (List.cons_ne_nil _ _) hfound, ?_⟩
          exact Nat.add_comm _ _
        | false =>
          refine ⟨found, hfound.cons (ways_tokenPattern_blank cs hword hmark), ?_⟩
          exact Nat.zero_add _

/-! ### Maximal runs -/

/-- A stretch of a text, with what stands before it and behind it. -/
structure Stretch where
  before : List Char
  inside : List Char
  after : List Char

namespace Stretch

/-- The stretch in a text with one more character in front. -/
def cons (c : Char) (s : Stretch) : Stretch :=
  { s with before := c :: s.before }

theorem cons_injective (c : Char) : Function.Injective (cons c) := by
  intro s t h
  cases s
  cases t
  simpa [cons] using h

end Stretch

/-- A maximal run of characters of a class in a text: some of them without a gap, and none directly
before or behind. -/
structure IsMaximalRun (p : Char → Bool) (cs : List Char) (s : Stretch) : Prop where
  whole : s.before ++ s.inside ++ s.after = cs
  ne_nil : s.inside ≠ []
  inside : ∀ c ∈ s.inside, p c = true
  before : s.before.getLast?.any p = false
  after : s.after.head?.any p = false

section
variable {p : Char → Bool} {c : Char} {cs : List Char}

/-- The run at the start of a text takes all characters that it can. -/
theorem isMaximalRun_start_iff {inside after : List Char} :
    IsMaximalRun p (c :: cs) ⟨[], inside, after⟩ ↔
      p c = true ∧ inside = c :: cs.takeWhile p ∧ after = cs.dropWhile p := by
  constructor
  · rintro ⟨hwhole, hne, hinside, -, hafter⟩
    obtain ⟨d, rest, rfl⟩ := List.exists_cons_of_ne_nil hne
    obtain ⟨rfl, rfl⟩ : d = c ∧ rest ++ after = cs := by simpa using hwhole
    rw [List.forall_mem_cons] at hinside
    exact ⟨hinside.1, by rw [takeWhile_append_of_head? hinside.2 hafter],
      (dropWhile_append_of_head? hinside.2 hafter).symm⟩
  · rintro ⟨hc, rfl, rfl⟩
    refine ⟨?_, List.cons_ne_nil _ _, ?_, rfl, any_head?_dropWhile cs⟩
    · simp
    · exact List.forall_mem_cons.2 ⟨hc, fun d hd => List.mem_takeWhile_imp hd⟩

/-- A run behind the first character is one without it, if it does not grow by it. -/
theorem isMaximalRun_cons_iff {d : Char} {before inside after : List Char} :
    IsMaximalRun p (c :: cs) ⟨d :: before, inside, after⟩ ↔
      d = c ∧ IsMaximalRun p cs ⟨before, inside, after⟩ ∧ (p c = true → before ≠ []) := by
  -- The last character before the run is a new one only if there was none.
  have hlast : (d :: before).getLast?.any p = false ↔
      before.getLast?.any p = false ∧ (p d = true → before ≠ []) := by
    cases before with
    | nil => simp
    | cons e before => simp
  constructor
  · rintro ⟨hwhole, hne, hinside, hbefore, hafter⟩
    obtain ⟨rfl, hrest⟩ := List.cons.inj hwhole
    obtain ⟨hbefore, hgrows⟩ := hlast.1 hbefore
    exact ⟨rfl, ⟨hrest, hne, hinside, hbefore, hafter⟩, hgrows⟩
  · rintro ⟨rfl, ⟨hwhole, hne, hinside, hbefore, hafter⟩, hgrows⟩
    exact ⟨congrArg (d :: ·) hwhole, hne, hinside, hlast.2 ⟨hbefore, hgrows⟩, hafter⟩

end

/-- The maximal runs of `cs` after a character that was of the class when `inRun` says so. A run
that goes on from that character is not among them. -/
def runsAfter (p : Char → Bool) : (inRun : Bool) → List Char → List Stretch
  | _, [] => []
  | inRun, c :: cs =>
    let later := (runsAfter p (p c) cs).map (Stretch.cons c)
    if p c && !inRun then ⟨[], c :: cs.takeWhile p, cs.dropWhile p⟩ :: later else later

section
variable {p : Char → Bool}

/-- The runs that are listed are the maximal ones, but for the one that is open. -/
theorem mem_runsAfter_iff {inRun : Bool} {cs : List Char} {s : Stretch} :
    s ∈ runsAfter p inRun cs ↔ IsMaximalRun p cs s ∧ (inRun = true → s.before ≠ []) := by
  induction cs generalizing inRun s with
  | nil =>
    refine ⟨fun h => absurd h List.not_mem_nil, fun h => ?_⟩
    have hnil : s.before ++ s.inside = [] := (List.append_eq_nil_iff.1 h.1.whole).1
    exact absurd (List.append_eq_nil_iff.1 hnil).2 h.1.ne_nil
  | cons c cs ih =>
    obtain ⟨before, inside, after⟩ := s
    let later := (runsAfter p (p c) cs).map (Stretch.cons c)
    let first : Stretch := ⟨[], c :: cs.takeWhile p, cs.dropWhile p⟩
    show _ ∈ (if p c && !inRun then first :: later else later) ↔ _
    -- A run either starts with the first character or stands behind it.
    cases before with
    | nil =>
      have hlater : ⟨[], inside, after⟩ ∉ later := by
        intro h
        obtain ⟨t, -, ht⟩ := List.mem_map.1 h
        cases ht
      rw [isMaximalRun_start_iff]
      cases p c <;> cases inRun <;> simp [hlater, first]
    | cons d before =>
      have hlater : ⟨d :: before, inside, after⟩ ∈ later ↔
          IsMaximalRun p (c :: cs) ⟨d :: before, inside, after⟩ := by
        rw [isMaximalRun_cons_iff, ← ih, List.mem_map]
        constructor
        · rintro ⟨t, ht, hcons⟩
          cases hcons
          exact ⟨rfl, ht⟩
        · rintro ⟨rfl, ht⟩
          exact ⟨_, ht, rfl⟩
      rw [← hlater]
      split <;> simp [first]

theorem nodup_runsAfter (inRun : Bool) (cs : List Char) : (runsAfter p inRun cs).Nodup := by
  induction cs generalizing inRun with
  | nil => exact List.nodup_nil
  | cons c cs ih =>
    have hlater := (ih (p c)).map (Stretch.cons_injective c)
    rw [runsAfter]
    split
    · -- The runs that come later have something before them.
      refine List.nodup_cons.2 ⟨?_, hlater⟩
      rw [List.mem_map]
      rintro ⟨s, -, hs⟩
      cases hs
    · exact hlater

end

/-- The count is the number of maximal runs of word characters and of marks. -/
theorem tokensAfter_eq_runs (inWord : Bool) (cs : List Char) :
    tokensAfter inWord cs = (runsAfter isWord inWord cs).length + cs.countP isMark := by
  induction cs generalizing inWord with
  | nil => rfl
  | cons c cs ih =>
    cases hword : isWord c with
    | true =>
      have hmark : isMark c = false := by simp [isMark, hword]
      rw [tokensAfter_word hword, ih, runsAfter, hword, List.countP_cons_of_neg (by simp [hmark])]
      cases inWord with
      | true => simp
      | false =>
        simp
        omega
    | false =>
      rw [tokensAfter_gap hword, ih, runsAfter, hword, List.countP_cons]
      simp
      omega

/-! ### Texts behind each other -/

/-- All that one text tells the next one is whether it ends inside a word. -/
theorem tokensAfter_append (inWord : Bool) (as bs : List Char) :
    tokensAfter inWord (as ++ bs)
      = tokensAfter inWord as + tokensAfter (as.getLast?.elim inWord isWord) bs := by
  -- Each character hands its own bit to the next one, so the statement is for either bit.
  induction as generalizing inWord with
  | nil => simp [tokensAfter]
  | cons c as ih =>
    have hlast : (c :: as).getLast?.elim inWord isWord = as.getLast?.elim (isWord c) isWord := by
      rw [List.getLast?_cons]
      cases as.getLast? <;> rfl
    rw [List.cons_append, hlast]
    cases hword : isWord c with
    | true => rw [tokensAfter_word hword, tokensAfter_word hword, ih, Nat.add_assoc]
    | false => rw [tokensAfter_gap hword, tokensAfter_gap hword, ih, Nat.add_assoc]

/-- An open word takes in the one that the text starts with. -/
theorem tokensAfter_false (cs : List Char) :
    tokensAfter false cs = tokensAfter true cs + (cs.head?.any isWord).toNat := by
  cases cs with
  | nil => rfl
  | cons c cs =>
    cases hword : isWord c with
    | true => simp [tokensAfter_word hword, hword, Nat.add_comm]
    | false => simp [tokensAfter_gap hword, hword]

/-- A word goes across the border between two texts. -/
def joins (a b : String) : Bool :=
  a.toList.getLast?.any isWord && b.toList.head?.any isWord

/-- The tokens of two texts add up, but a word across the border is counted once. -/
theorem tokenCount_append (a b : String) :
    tokenCount (a ++ b) + (joins a b).toNat = tokenCount a + tokenCount b := by
  have helim : a.toList.getLast?.elim false isWord = a.toList.getLast?.any isWord := by
    cases a.toList.getLast? <;> rfl
  rw [tokenCount, String.toList_append, tokensAfter_append, helim, joins, tokenCount, tokenCount,
    Nat.add_assoc]
  cases a.toList.getLast?.any isWord with
  | true => rw [Bool.true_and, tokensAfter_false b.toList]
  | false => rfl

/-- The half of a pair is a token of its own, whatever stands around it. -/
theorem tokenCount_half (s t : Letters) (n : Fin 0x800) :
    Letters.tokenCount (s ++ .half n :: t) = s.tokenCount + 1 + t.tokenCount := by
  have hword : isWord '\uFFFD' = false := by decide +kernel
  have hmark : isMark '\uFFFD' = true := by decide +kernel
  simp only [Letters.tokenCount, tokenCount, Letters.shown, String.toList_ofList, List.map_append,
    List.map_cons, Letter.shown]
  rw [tokensAfter_append, tokensAfter_gap hword, hmark, Nat.add_assoc]
  rfl

/-- White space ends a word and has no tokens of its own. -/
theorem tokensAfter_blanks {blanks : List Char} (hne : blanks ≠ [])
    (hblank : ∀ c ∈ blanks, isBlank c = true) (inWord : Bool) (cs : List Char) :
    tokensAfter inWord (blanks ++ cs) = tokensAfter false cs := by
  induction blanks generalizing inWord with
  | nil => exact absurd rfl hne
  | cons c blanks ih =>
    rw [List.forall_mem_cons] at hblank
    have hmark : isMark c = false := by simp [isMark, hblank.1]
    rw [List.cons_append, tokensAfter_gap (isWord_of_isBlank hblank.1), hmark]
    cases blanks with
    | nil => simp
    | cons d blanks => simpa using ih (List.cons_ne_nil d blanks) hblank.2 false

/-- The tokens of parts that are put together with white space between them are those of the
parts. -/
theorem tokenCount_intercalate {separator : String} (hne : separator ≠ "")
    (hblank : isBlankText separator = true) (parts : List String) :
    tokenCount (separator.intercalate parts) = (parts.map tokenCount).sum := by
  induction parts with
  | nil => rfl
  | cons first parts ih =>
    cases parts with
    | nil => simp
    | cons second parts =>
      have hne : separator.toList ≠ [] := by simpa using hne
      have hblank : ∀ c ∈ separator.toList, isBlank c = true := List.all_eq_true.1 hblank
      rw [List.map_cons, List.sum_cons, ← ih, String.intercalate_cons_cons, String.append_assoc,
        tokenCount, String.toList_append, String.toList_append, tokensAfter_append,
        tokensAfter_blanks hne hblank]
      rfl

/-- **Tokens add up.** The size of two texts behind each other is the sum of their sizes, less one
if the first one ends and the second one starts with a word character. The size of a text is the
number of the maximal runs of word characters in it and of its characters that are neither word
characters nor white space, no character being both of these. It is the number of the matches that
are found in the text from the left, each one as long as can be and behind the one before. -/
theorem tokenCount_adds_up (a b s : String) :
    (tokenCount (a ++ b) : ℤ) = tokenCount a + tokenCount b - (if joins a b then 1 else 0) ∧
      (∃ runs : List Stretch, runs.Nodup ∧
        (∀ run, run ∈ runs ↔ IsMaximalRun isWord s.toList run) ∧
        tokenCount s = runs.length + s.toList.countP isMark) ∧
      (∀ c, isWord c = true → isBlank c = false) ∧
      (∃ found, tokenPattern.Finds s.toList found) ∧
      ∀ found, tokenPattern.Finds s.toList found → tokenCount s = found.length := by
  obtain ⟨tokens, htokens, hcount⟩ := exists_finds_tokenPattern s.toList
  refine ⟨?append, ?runs, fun c => isBlank_of_isWord, ⟨tokens, htokens⟩, ?found⟩
  case append =>
    have happend := tokenCount_append a b
    cases hjoins : joins a b with
    | true =>
      rw [hjoins, Bool.toNat_true] at happend
      simp only [if_true]
      omega
    | false =>
      rw [hjoins, Bool.toNat_false] at happend
      simp only [Bool.false_eq_true, if_false]
      omega
  case runs =>
    refine ⟨runsAfter isWord false s.toList, nodup_runsAfter _ _, fun run => ?_,
      tokensAfter_eq_runs false s.toList⟩
    rw [mem_runsAfter_iff]
    simp
  case found =>
    intro found hfound
    rw [hfound.unique htokens]
    exact hcount

/-- A word across the border is one token, and the three marks in a row are three. -/
theorem tokenCount_adds_up_of_preview :
    joins "pre" "view it" = true ∧ (tokenCount ("pre" ++ "view it") : ℤ) = 1 + 2 - 1 ∧
      tokenPattern.Finds "a_1...".toList [['a', '_', '1'], ['.'], ['.'], ['.']] ∧
      tokenCount "a_1..." = 4 := by
  have hjoins : joins "pre" "view it" = true := by decide
  have hdots : tokenPattern.Finds ['.', '.', '.'] [['.'], ['.'], ['.']] := by
    have hdot (cs : List Char) := search_tokenPattern_mark (c := '.') cs (by decide)
    have hone : tokenPattern.Finds ['.'] [['.']] := .next (hdot []) (by simp) (.nothing rfl)
    exact .next (hdot _) (by simp) (.next (hdot _) (by simp) hone)
  have hfinds : tokenPattern.Finds "a_1...".toList [['a', '_', '1'], ['.'], ['.'], ['.']] :=
    .next (search_tokenPattern_word ['_', '1', '.', '.', '.'] (by decide)) (by simp) hdots
  obtain ⟨happend, -, -, -, hmatches⟩ := tokenCount_adds_up "pre" "view it" "a_1..."
  rw [hjoins] at happend
  exact ⟨hjoins, happend, hfinds, hmatches _ hfinds⟩

end FlowDraft.Text
