import FlowDraft.Proofs.Store.Scaled
import FlowDraft.Proofs.Text.Words

/-!
# `FlowDraft.Proofs.Store.Bag`: texts are embedded as bags of words

The sum at a place of the vector is the number of words that count positively there, less the
number of those that count negatively (`toList_sums`). So the order of the words and the white space
between them do not matter, and the vector is zero exactly when the words cancel each other out at
every place. This holds for every hash (`vector_of_bag`).

The sums are integers here. Where they are added up in binary64, word by word, they are the same
numbers for as many words as binary64 can count (`floatSums_eq`).
-/

set_option autoImplicit false

namespace FlowDraft.Store.Embedding

/-- How many words of a bag count at a place with a given sign. -/
def hits (hash : List Char → WordHash) (size place : ℕ) (negative : Bool)
    (bag : List (List Char)) : ℕ :=
  bag.countP fun word => (hash word).place % size == place && (hash word).negative == negative

/-- At every place, as many words count positively as negatively. -/
def Cancels (hash : List Char → WordHash) (size : ℕ) (bag : List (List Char)) : Prop :=
  ∀ place < size, hits hash size place false bag = hits hash size place true bag

instance (hash : List Char → WordHash) (size : ℕ) (bag : List (List Char)) :
    Decidable (Cancels hash size bag) :=
  inferInstanceAs (Decidable (∀ place < size, _))

/-- The words that count positively at a place, less those that count negatively. -/
def balance (hash : List Char → WordHash) (size : ℕ) (bag : List (List Char)) (place : ℕ) : ℤ :=
  hits hash size place false bag - hits hash size place true bag

section Sums

variable {hash : List Char → WordHash} {size : ℕ}

theorem size_foldl_addWord (bag : List (List Char)) (start : Array ℤ) :
    (bag.foldl (addWord hash size) start).size = start.size := by
  induction bag generalizing start with
  | nil => rfl
  | cons word bag ih => rw [List.foldl_cons, ih, addWord, Array.size_modify]

theorem size_sums (bag : List (List Char)) : (sums hash size bag).size = size := by
  rw [sums, size_foldl_addWord, Array.size_replicate]

theorem balance_cons_of_eq {word : List Char} {place : ℕ} (h : (hash word).place % size = place)
    (bag : List (List Char)) :
    balance hash size (word :: bag) place
      = (if (hash word).negative then -1 else 1) + balance hash size bag place := by
  simp only [balance, hits, List.countP_cons]
  cases hnegative : (hash word).negative <;> simp [h] <;> ring

theorem balance_cons_of_ne {word : List Char} {place : ℕ} (h : (hash word).place % size ≠ place)
    (bag : List (List Char)) :
    balance hash size (word :: bag) place = balance hash size bag place := by
  simp [balance, hits, h]

/-- Adding the words of a bag changes each sum by the balance of the words at its place. -/
theorem getElem?_foldl_addWord (bag : List (List Char)) (start : Array ℤ) (place : ℕ) :
    (bag.foldl (addWord hash size) start)[place]?
      = start[place]?.map (· + balance hash size bag place) := by
  induction bag generalizing start with
  | nil => simp [balance, hits]
  | cons word bag ih =>
    -- The first word belongs to the sums that the rest of the bag starts from.
    rw [List.foldl_cons, ih, addWord, Array.getElem?_modify]
    by_cases hplace : (hash word).place % size = place
    · rw [if_pos hplace, balance_cons_of_eq hplace, Option.map_map]
      congr 1
      funext s
      exact Int.add_assoc _ _ _
    · rw [if_neg hplace, balance_cons_of_ne hplace]

theorem toList_sums (bag : List (List Char)) :
    (sums hash size bag).toList = (List.range size).map (balance hash size bag) := by
  refine List.ext_getElem? fun place => ?_
  rw [Array.getElem?_toList, sums, getElem?_foldl_addWord]
  by_cases hplace : place < size
  · simp [hplace]
  · simp [hplace]

/-- The sums depend on how often each word is in the bag, and not on the order. -/
theorem sums_perm {bag bag' : List (List Char)} (h : bag.Perm bag') :
    sums hash size bag = sums hash size bag' := by
  apply Array.toList_inj.1
  rw [toList_sums, toList_sums]
  refine List.map_congr_left fun place _ => ?_
  rw [balance, balance, hits, hits, h.countP_eq, h.countP_eq]
  rfl

theorem sums_eq_zero_iff (bag : List (List Char)) :
    (∀ s ∈ (sums hash size bag).toList, s = 0) ↔ Cancels hash size bag := by
  rw [toList_sums, List.forall_mem_map]
  refine forall_congr' fun place => ?_
  rw [List.mem_range, balance]
  exact imp_congr_right fun _ => by omega

/-- A sum is at most the number of words. -/
theorem natAbs_le_of_mem_sums {bag : List (List Char)} {s : ℤ}
    (hs : s ∈ (sums hash size bag).toList) : s.natAbs ≤ bag.length := by
  rw [toList_sums] at hs
  obtain ⟨place, -, rfl⟩ := List.mem_map.1 hs
  have hpositive : hits hash size place false bag ≤ bag.length := List.countP_le_length
  have hnegative : hits hash size place true bag ≤ bag.length := List.countP_le_length
  rw [balance]
  omega

end Sums

/-! ### Sums in binary64 -/

/-- One word added to sums of binary64 numbers. -/
def addFloatWord (hash : List Char → WordHash) (size : ℕ) (sums : Array Float)
    (word : List Char) : Array Float :=
  let h := hash word
  sums.modify (h.place % size) (· + if h.negative then -1.0 else 1.0)

/-- The sums of the signs at each of `size` places, added up in binary64. -/
def floatSums (hash : List Char → WordHash) (size : ℕ) (bag : List (List Char)) : Array Float :=
  bag.foldl (addFloatWord hash size) (Array.replicate size 0.0)

section FloatSums

variable {hash : List Char → WordHash} {size : ℕ}

theorem addFloatWord_map {sums : Array ℤ} (h : ∀ s ∈ sums.toList, s.natAbs + 1 < 2 ^ 53)
    (word : List Char) :
    addFloatWord hash size (sums.map Float.ofInt) word
      = (addWord hash size sums word).map Float.ofInt := by
  have hsign : (if (hash word).negative then -1.0 else 1.0)
      = Float.ofInt (if (hash word).negative then -1 else 1) := by
    split_ifs <;> rfl
  refine Array.ext_getElem? fun place => ?_
  rw [addFloatWord, addWord, Array.getElem?_modify, Array.getElem?_map, Array.getElem?_map,
    Array.getElem?_modify, hsign]
  by_cases hplace : (hash word).place % size = place
  · rw [if_pos hplace, if_pos hplace]
    cases hs : sums[place]? with
    | none => rfl
    | some s =>
      have hbound := h s (List.mem_of_getElem? (Array.getElem?_toList.trans hs))
      refine congrArg some (Binary64.ofInt_add (by omega) ?_ ?_)
      · split_ifs <;> decide
      · split_ifs <;> omega
  · rw [if_neg hplace, if_neg hplace]

/-- As long as the words can be counted in binary64, the sums are the same. -/
theorem floatSums_eq {bag : List (List Char)} (h : bag.length < 2 ^ 53) :
    floatSums hash size bag = (sums hash size bag).map Float.ofInt := by
  -- From the end, as what is bounded are the sums of all words before the last one.
  induction bag using List.reverseRecOn with
  | nil =>
    rw [floatSums, sums, List.foldl_nil, List.foldl_nil, Array.map_replicate]
    rfl
  | append_singleton bag word ih =>
    rw [List.length_append, List.length_singleton] at h
    have ih : bag.foldl (addFloatWord hash size) (Array.replicate size 0.0) = _ := ih (by omega)
    have hbound : ∀ s ∈ (sums hash size bag).toList, s.natAbs + 1 < 2 ^ 53 := fun s hs => by
      have := natAbs_le_of_mem_sums hs
      omega
    rw [floatSums, List.foldl_concat, ih, addFloatWord_map hbound, sums, sums, List.foldl_concat]

end FloatSums

/-! ### Vectors -/

section Vectors

variable {hash : List Char → WordHash} {size : ℕ} {text : String}

theorem length_vector : (vector hash size text).length = size := by
  rw [vector, length_scale, List.length_map, Array.length_toList, size_sums]

/-- Texts with the same words, as often as each other, have the same vector. -/
theorem vector_eq_of_perm {text' : String} (h : (bag text').Perm (bag text)) :
    vector hash size text' = vector hash size text := by
  rw [vector, vector, sums_perm h]

theorem norm_beq_zero_iff_cancels (words : List (List Char)) :
    (norm ((sums hash size words).toList.map Float.ofInt) == 0.0) = true
      ↔ Cancels hash size words := by
  rw [norm_beq_zero_iff, sums_eq_zero_iff]

theorem vector_of_cancels (h : Cancels hash size (bag text)) :
    vector hash size text = List.replicate size 0.0 := by
  have hzero := (sums_eq_zero_iff _).2 h
  rw [vector, scale_of_zeros hzero]
  refine List.eq_replicate_iff.2 ⟨?_, fun x hx => ?_⟩
  · rw [List.length_map, Array.length_toList, size_sums]
  · obtain ⟨s, hs, rfl⟩ := List.mem_map.1 hx
    rw [hzero s hs]
    rfl

theorem vector_of_not_cancels (h : ¬ Cancels hash size (bag text)) :
    vector hash size text = (sums hash size (bag text)).toList.map fun s =>
      Float.ofInt s / norm ((sums hash size (bag text)).toList.map Float.ofInt) :=
  scale_of_nonzero (mt (sums_eq_zero_iff _).1 h)

/-- The squares of the sums are in the range of binary64 for every number of words that fits into a
memory. -/
theorem vector_beq_zero_iff {bits : ℕ} (h : (bag text).length ≤ 2 ^ bits) (hbits : bits ≤ 480) :
    (∀ x ∈ vector hash size text, (x == 0.0) = true) ↔ Cancels hash size (bag text) := by
  have hsums : ∀ s ∈ (sums hash size (bag text)).toList, s.natAbs.log2 ≤ bits := fun s hs => by
    rw [Nat.log2_eq_log_two]
    calc Nat.log 2 s.natAbs ≤ Nat.log 2 (2 ^ bits) :=
          Nat.log_mono_right ((natAbs_le_of_mem_sums hs).trans h)
      _ = bits := Nat.log_pow one_lt_two bits
  rw [vector, scale_beq_zero_iff hsums hbits, sums_eq_zero_iff]

end Vectors

/-- A text is embedded as a bag of words, for every hash of the words and every size but zero.

* The words are those of the text in small letters. Each of them is added at a place that the sums
  have, and the sum at a place is the number of words that count positively there, less the number
  of those that count negatively. Added up in binary64, word by word, the sums are the same numbers
  for as many words as binary64 can count.
* The vector has as many entries as there are places. A text that has the same words, as often and
  in any order, with any white space between them, has the same vector.
* The length of the vector of the sums is zero exactly when the words cancel out at every place.
  Then the vector is zero, and otherwise the sums are divided by their length, which is not zero.
* So the vector is zero exactly when the words cancel out. What the bound is for is that the squares
  of the sums stay in the range of binary64; every text that fits into a memory has fewer words. -/
theorem vector_of_bag (hash : List Char → WordHash) {size : ℕ} (hsize : 0 < size) (text : String) :
    embed size text = .ok (vector hashWord size text) ∧
    Text.Spaced (bag text) (Text.lowerChars text.toList) ∧
    (∀ before word after, bag text = before ++ word :: after →
      (hash word).place % size < (sums hash size before).size) ∧
    (sums hash size (bag text)).toList = (List.range size).map (fun place =>
      (hits hash size place false (bag text) : ℤ) - hits hash size place true (bag text)) ∧
    ((bag text).length < 2 ^ 53 →
      floatSums hash size (bag text) = (sums hash size (bag text)).map Float.ofInt) ∧
    (vector hash size text).length = size ∧
    (∀ text' words, Text.Spaced words (Text.lowerChars text'.toList) → words.Perm (bag text) →
      vector hash size text' = vector hash size text) ∧
    (let length := norm ((sums hash size (bag text)).toList.map Float.ofInt);
      ((length == 0.0) = true ↔ Cancels hash size (bag text)) ∧
      (Cancels hash size (bag text) → vector hash size text = List.replicate size 0.0) ∧
      (¬ Cancels hash size (bag text) →
        vector hash size text
          = (sums hash size (bag text)).toList.map (Float.ofInt · / length))) ∧
    ((bag text).length ≤ 2 ^ 480 →
      ((∀ x ∈ vector hash size text, (x == 0.0) = true) ↔ Cancels hash size (bag text))) := by
  -- All parts but two are lemmas of their own.
  refine ⟨if_pos (by omega), Text.words_eq_iff.1 rfl, ?inside, toList_sums _, floatSums_eq,
    length_vector, ?perm, ⟨norm_beq_zero_iff_cancels _, vector_of_cancels, vector_of_not_cancels⟩,
    fun h => vector_beq_zero_iff h le_rfl⟩
  case inside =>
    intro before word _ _
    rw [size_sums]
    exact Nat.mod_lt _ hsize
  case perm =>
    intro text' words hwords hperm
    obtain rfl := Text.words_eq_iff.2 hwords
    exact vector_eq_of_perm hperm

/-- A hash under which words of the same number of letters share a place, and one word counts
negatively. -/
def lengthHash (word : List Char) : WordHash :=
  ⟨word.length, word == ['b']⟩

/-- Four words that cancel each other out at the place that they share, in two texts, and three
words that do not. -/
theorem vector_of_bag_of_short_words :
    0 < 2 ∧ bag "B a\tA  b" = [['b'], ['a'], ['a'], ['b']] ∧
    vector lengthHash 2 "B a\tA  b" = [0.0, 0.0] ∧
    vector lengthHash 2 " a A\nb b" = [0.0, 0.0] ∧
    ¬ ∀ x ∈ vector lengthHash 2 "a b b", (x == 0.0) = true := by
  have hbag : bag "B a\tA  b" = [['b'], ['a'], ['a'], ['b']] := by decide +kernel
  have hbag' : bag " a A\nb b" = [['a'], ['a'], ['b'], ['b']] := by decide +kernel
  have hthree : bag "a b b" = [['a'], ['b'], ['b']] := by decide +kernel
  obtain ⟨-, -, -, -, -, -, hsame, ⟨-, hzero, -⟩, -⟩ :=
    vector_of_bag lengthHash (show 0 < 2 by decide) "B a\tA  b"
  obtain ⟨-, -, -, -, -, -, -, -, hnonzero⟩ :=
    vector_of_bag lengthHash (show 0 < 2 by decide) "a b b"
  have hvector := hzero (by rw [hbag]; decide)
  refine ⟨by decide, hbag, hvector, ?_, ?_⟩
  · refine (hsame _ _ (Text.words_eq_iff.1 hbag') ?_).trans hvector
    rw [hbag]
    decide
  · rw [hthree] at hnonzero
    rw [hnonzero (by decide +kernel)]
    decide

end FlowDraft.Store.Embedding
