import FlowDraft.Proofs.Reply.Extract
import FlowDraft.Proofs.Text.Index
import FlowDraft.Text.Pattern

/-!
# `FlowDraft.Proofs.Reply.Fence`: a fenced block as a pattern, and by two indices

A fenced block can be described by a pattern (`fencePattern`): a fence, perhaps a tag, white space,
perhaps a line feed, as little as can be up to a fence, and that fence. None of the characters of a
tag and no white space is part of a fence, so nothing has to be tried twice: the pattern matches at
the first fence if there is another one behind it, and nowhere else (`search_fencePattern`). What it
keeps is the block that `fenced?` trims. So the document in a reply is told by two indices, those of
the first fence and of the first fence behind it (`extract_by_index`).
-/

set_option autoImplicit false

namespace FlowDraft

open Letter (char isBlank)
open Letters (trim)
open Text (Pattern Match cutAt cutAt_cons_of_not_prefix)

/-! ### Cuts -/

namespace Text

variable {α : Type}

/-- What stands before a cut may be left out. -/
theorem cutAt_of_cutAt_append [BEq α] (front : List α) {mark cs before after : List α}
    (h : cutAt mark (front ++ cs) = some (front ++ before, after)) :
    cutAt mark cs = some (before, after) := by
  induction front with
  | nil => exact h
  | cons c front ih =>
    rw [List.cons_append, cutAt] at h
    split at h
    · simp at h
    · obtain ⟨⟨b, a⟩, hcut, hpair⟩ := Option.map_eq_some_iff.1 h
      cases hpair
      exact ih hcut

/-- Letters of a class that a letter does not belong to are dropped before it. -/
theorem dropWhile_append_cons {p : α → Bool} {c : α} (h : p c = false) (a b : List α) :
    (a ++ c :: b).dropWhile p = a.dropWhile p ++ c :: b := by
  induction a with
  | nil => simp [h]
  | cons d a ih => by_cases hd : p d = true <;> simp [hd, ih]

theorem takeWhile_append_cons {p : α → Bool} {c : α} (h : p c = false) (a b : List α) :
    (a ++ c :: b).takeWhile p = a.takeWhile p := by
  induction a with
  | nil => simp [h]
  | cons d a ih => by_cases hd : p d = true <;> simp [hd, ih]

end Text

namespace Reply

/-! ### The pattern -/

/-- As little as can be, which is kept, and a fence. -/
def closingPattern : Pattern Letter :=
  (Pattern.few fun _ => true).kept.andThen (.literal fence)

/-- A fenced block: a fence, perhaps a tag, white space, perhaps a line feed, and what is left up to
the fence that closes it. -/
def fencePattern : Pattern Letter :=
  (Pattern.literal fence).andThen
    ((((Pattern.one isTag).andThen (.many isTag)).optional).andThen
      ((Pattern.many isBlank).andThen
        (((Pattern.one (· == .char '\n')).optional).andThen closingPattern)))

/-! ### The first way -/

/-- The characters of a tag are taken first, if there are any. -/
theorem head?_ways_tag (cs : Letters) :
    (((Pattern.one isTag).andThen (.many isTag)).optional.ways cs).head?
      = some ⟨cs.takeWhile isTag, none, cs.dropWhile isTag⟩ := by
  rw [Pattern.optional, Pattern.ways, List.head?_append]
  cases cs with
  | nil => rfl
  | cons c cs =>
    by_cases hc : isTag c = true
    · rw [Pattern.head?_ways_one_many hc]
      simp [hc]
    · simp [Pattern.ways, hc]

/-- A line feed is left out where there is none. -/
theorem head?_ways_break {cs : Letters} (h : cs.head? ≠ some (.char '\n')) :
    ((Pattern.one (· == .char '\n')).optional.ways cs).head? = some ⟨[], none, cs⟩ := by
  cases cs with
  | nil => rfl
  | cons c cs =>
    have hc : (c == .char '\n') = false := by simpa using h
    simp [Pattern.optional, Pattern.ways, hc]

/-- A stretch that is kept, if a fence follows it. -/
def closed? (m : Match Letter) : Option (Match Letter) :=
  if fence.isPrefixOf m.rest then some ⟨m.taken ++ fence, some m.taken, m.rest.drop fence.length⟩
  else none

theorem closed?_cons (c : Letter) (m : Match Letter) :
    closed? (m.cons c)
      = (closed? m).map fun n => ⟨c :: n.taken, n.kept.map (c :: ·), n.rest⟩ := by
  rw [closed?, closed?]
  show (if fence.isPrefixOf m.rest then _ else _) = _
  split <;> rfl

/-- Of the stretches from the shortest one on, the first that a fence follows ends at the first
fence. -/
theorem findSome?_closed? (cs : Letters) :
    (Pattern.stretches (fun _ => true) cs).reverse.findSome? closed?
      = (cutAt fence cs).map fun (before, after) => ⟨before ++ fence, some before, after⟩ := by
  induction cs with
  | nil => rfl
  | cons c cs ih =>
    rw [Pattern.stretches, if_pos rfl, List.reverse_append, List.reverse_singleton,
      List.singleton_append, List.findSome?_cons, cutAt]
    by_cases hstart : fence.isPrefixOf (c :: cs) = true
    · rw [closed?, if_pos hstart, if_pos hstart]
      rfl
    · have hlater (ms : List (Match Letter)) : ms.findSome? (closed? ∘ Match.cons c)
          = (ms.findSome? closed?).map fun n => ⟨c :: n.taken, n.kept.map (c :: ·), n.rest⟩ := by
        rw [List.map_findSome?]
        exact congrArg (ms.findSome? ·) (funext (closed?_cons c))
      rw [closed?, if_neg hstart, if_neg hstart, ← List.map_reverse, List.findSome?_map, hlater, ih,
        Option.map_map, Option.map_map]
      rfl

/-- The text up to the first fence is kept. -/
theorem head?_ways_closing (cs : Letters) :
    (closingPattern.ways cs).head?
      = (cutAt fence cs).map fun (before, after) => ⟨before ++ fence, some before, after⟩ := by
  rw [← findSome?_closed?, closingPattern, Pattern.ways, Pattern.ways, Pattern.ways,
    List.head?_flatMap, List.findSome?_map]
  congr 1
  funext m
  rw [Function.comp, Pattern.ways_literal, closed?]
  split <;> rfl

section
variable {p : Letter → Bool} (hp : p (.char '\x60') = false)
include hp

theorem takeWhile_append_fence (block rest : Letters) :
    (block ++ fence ++ rest).takeWhile p = block.takeWhile p := by
  rw [List.append_assoc]
  exact Text.takeWhile_append_cons hp block _

theorem dropWhile_append_fence (block rest : Letters) :
    (block ++ fence ++ rest).dropWhile p = block.dropWhile p ++ fence ++ rest := by
  rw [List.append_assoc, List.append_assoc]
  exact Text.dropWhile_append_cons hp block _

end

/-- At a fence with another one behind it, the block between the two is taken, and all of it but the
tag and the white space at its start is kept. -/
theorem head?_ways_fencePattern {cs block rest : Letters} (hstart : fence <+: cs)
    (hclosed : cutAt fence (cs.drop fence.length) = some (block, rest)) :
    (fencePattern.ways cs).head?
      = some ⟨fence ++ block ++ fence, some ((block.dropWhile isTag).dropWhile isBlank), rest⟩ := by
  obtain ⟨opened, rfl⟩ := hstart
  rw [List.drop_left] at hclosed
  obtain rfl := Text.cutAt_eq_some hclosed
  have htag : isTag (.char '\x60') = false := by decide
  have hblank : isBlank (.char '\x60') = false := by decide
  -- The block is a tag, white space and what is kept.
  let tag := block.takeWhile isTag
  let untagged := block.dropWhile isTag
  let blanks := untagged.takeWhile isBlank
  let kept := untagged.dropWhile isBlank
  have hblock : tag ++ (blanks ++ kept) = block := by
    rw [show blanks ++ kept = untagged from List.takeWhile_append_dropWhile]
    exact List.takeWhile_append_dropWhile
  have hafter : (untagged ++ fence ++ rest).dropWhile isBlank = kept ++ fence ++ rest :=
    dropWhile_append_fence hblank untagged rest
  have hfence : ((Pattern.literal fence).ways (fence ++ (block ++ fence ++ rest))).head?
      = some ⟨fence, none, block ++ fence ++ rest⟩ := by
    rw [Pattern.ways_literal, if_pos (List.isPrefixOf_iff_prefix.2 (List.prefix_append _ _)),
      List.drop_left]
    rfl
  have htagged : (((Pattern.one isTag).andThen (.many isTag)).optional.ways
      (block ++ fence ++ rest)).head? = some ⟨tag, none, untagged ++ fence ++ rest⟩ := by
    rw [head?_ways_tag, takeWhile_append_fence htag, dropWhile_append_fence htag]
  have hblanks : ((Pattern.many isBlank).ways (untagged ++ fence ++ rest)).head?
      = some ⟨blanks, none, kept ++ fence ++ rest⟩ := by
    rw [Pattern.head?_ways_many, takeWhile_append_fence hblank, hafter]
  have hbreak : ((Pattern.one (· == .char '\n')).optional.ways (kept ++ fence ++ rest)).head?
      = some ⟨[], none, kept ++ fence ++ rest⟩ := by
    refine head?_ways_break fun hfeed => ?_
    have hhead := List.head?_dropWhile_not isBlank (untagged ++ fence ++ rest)
    rw [hafter, hfeed] at hhead
    exact absurd hhead (by decide)
  have hclosing : (closingPattern.ways (kept ++ fence ++ rest)).head?
      = some ⟨kept ++ fence, some kept, rest⟩ := by
    have hcut : cutAt fence (kept ++ fence ++ rest) = some (kept, rest) := by
      refine Text.cutAt_of_cutAt_append (tag ++ blanks) ?_
      have hfront : tag ++ blanks ++ kept = block := by rw [List.append_assoc, hblock]
      rw [← List.append_assoc, ← List.append_assoc, hfront, hclosed]
    rw [head?_ways_closing, hcut]
    rfl
  rw [fencePattern, Pattern.head?_ways_andThen hfence (Pattern.head?_ways_andThen htagged
    (Pattern.head?_ways_andThen hblanks (Pattern.head?_ways_andThen hbreak hclosing)))]
  have htaken : fence ++ (tag ++ (blanks ++ ([] ++ (kept ++ fence)))) = fence ++ block ++ fence := by
    rw [← hblock]
    simp only [List.append_assoc, List.nil_append]
  exact congrArg (fun taken => some (Match.mk taken (some kept) rest)) htaken

/-! ### No other match -/

/-- A match is a fence, a block and a fence. -/
theorem exists_of_mem_ways {cs : Letters} {m : Match Letter} (h : m ∈ fencePattern.ways cs) :
    ∃ block, m.taken = fence ++ block ++ fence := by
  obtain ⟨n, hn, o, ho, rfl⟩ := Pattern.mem_ways_andThen.1 h
  have hclosing : ∀ ds, ∀ k ∈ (Pattern.literal fence).ways ds, fence <:+ k.taken :=
    fun ds k hk => (Pattern.taken_of_mem_ways_literal hk).symm ▸ List.suffix_rfl
  obtain ⟨block, hblock⟩ := Pattern.suffix_taken_andThen (Pattern.suffix_taken_andThen
    (Pattern.suffix_taken_andThen (Pattern.suffix_taken_andThen hclosing))) _ o ho
  refine ⟨block, ?_⟩
  rw [List.append_assoc, hblock, ← Pattern.taken_of_mem_ways_literal hn]
  rfl

theorem prefix_of_mem_ways {cs : Letters} {m : Match Letter} (h : m ∈ fencePattern.ways cs) :
    fence <+: cs := by
  obtain ⟨block, hblock⟩ := exists_of_mem_ways h
  refine ⟨block ++ fence ++ m.rest, ?_⟩
  rw [← Pattern.taken_append_rest h, hblock]
  simp only [List.append_assoc]

theorem holdsBlock_of_search {cs before : Letters} {m : Match Letter}
    (h : fencePattern.search cs = some (before, m)) : HoldsBlock cs := by
  obtain ⟨hcs, hm⟩ := Pattern.search_eq_some h
  obtain ⟨block, hblock⟩ := exists_of_mem_ways hm
  refine ⟨before, block, m.rest, ?_⟩
  rw [hcs, hblock]
  simp only [List.append_assoc]

/-- The match of a block that was cut out. -/
def blockMatch (block rest : Letters) : Match Letter :=
  ⟨fence ++ block ++ fence, some ((block.dropWhile isTag).dropWhile isBlank), rest⟩

/-- **The pattern matches where the cuts are.** It is found at the first fence if there is another
one behind it, and takes the block up to there. -/
theorem search_fencePattern (cs : Letters) :
    fencePattern.search cs = (cutAt fence cs).bind fun (before, opened) =>
      (cutAt fence opened).map fun (block, rest) => (before, blockMatch block rest) := by
  induction cs with
  | nil => rfl
  | cons c cs ih =>
    by_cases hstart : fence <+: c :: cs
    · rw [cutAt, if_pos (List.isPrefixOf_iff_prefix.2 hstart), Option.bind_some]
      show _ = (cutAt fence ((c :: cs).drop fence.length)).map fun (block, rest) =>
        ([], blockMatch block rest)
      cases hclosed : cutAt fence ((c :: cs).drop fence.length) with
      | none =>
        -- A match further on would have a fence behind the first one.
        cases hsearch : fencePattern.search (c :: cs) with
        | none => rfl
        | some found =>
          have hnone : fenced? (c :: cs) = none := by
            rw [fenced?, cutAt, if_pos (List.isPrefixOf_iff_prefix.2 hstart)]
            show (cutAt fence ((c :: cs).drop fence.length)).bind _ = _
            rw [hclosed]
            rfl
          exact absurd (holdsBlock_of_search hsearch) (fenced?_eq_none_iff.1 hnone)
      | some parts =>
        obtain ⟨block, rest⟩ := parts
        exact Pattern.search_of_head? (head?_ways_fencePattern hstart hclosed)
    · have hnone : fencePattern.ways (c :: cs) = [] :=
        List.eq_nil_iff_forall_not_mem.2 fun m hm => hstart (prefix_of_mem_ways hm)
      rw [Pattern.search_cons hnone, ih, cutAt_cons_of_not_prefix hstart]
      cases cutAt fence cs with
      | none => rfl
      | some parts =>
        obtain ⟨before, opened⟩ := parts
        show Option.map _ ((cutAt fence opened).map _) = (cutAt fence opened).map _
        rw [Option.map_map]
        rfl

/-! ### Indices -/

open Text (IsFirst IsLast)

section
variable {cs : Letters}

theorem cutAt_fence_of_isFirst {i : Nat} (h : IsFirst fence cs 0 i) :
    cutAt fence cs = some (cs.take i, cs.drop (i + 3)) :=
  (Text.cutAt_eq_some_iff (List.cons_ne_nil _ _)).2 ⟨i, h, rfl, rfl⟩

/-- The block between the first two fences is cut out. -/
theorem cutAt_drop_of_isFirst {start j : Nat} (h : IsFirst fence cs start j) :
    cutAt fence (cs.drop start)
      = some ((cs.drop start).take (j - start), cs.drop (j + 3)) := by
  obtain ⟨k, rfl⟩ := Nat.exists_eq_add_of_le h.start_le
  rw [cutAt_fence_of_isFirst (Text.isFirst_drop_iff.2 h), List.drop_drop, Nat.add_sub_cancel_left,
    Nat.add_assoc]

theorem search_of_isFirst {i j : Nat} (hi : IsFirst fence cs 0 i) (hj : IsFirst fence cs (i + 3) j) :
    fencePattern.search cs = some (cs.take i,
      blockMatch ((cs.drop (i + 3)).take (j - (i + 3))) (cs.drop (j + 3))) := by
  rw [search_fencePattern, cutAt_fence_of_isFirst hi, Option.bind_some]
  show (cutAt fence (cs.drop (i + 3))).map _ = _
  rw [cutAt_drop_of_isFirst hj]
  rfl

/-- The pattern matches somewhere exactly if there is a fence and another one behind it. -/
theorem isSome_search_iff :
    (fencePattern.search cs).isSome = true ↔
      ∃ i j, IsFirst fence cs 0 i ∧ IsFirst fence cs (i + 3) j := by
  constructor
  · intro h
    obtain ⟨found, hfound⟩ := Option.isSome_iff_exists.1 h
    rw [search_fencePattern] at hfound
    obtain ⟨⟨before, opened⟩, hopened, hfound⟩ := Option.bind_eq_some_iff.1 hfound
    obtain ⟨⟨block, rest⟩, hclosed, -⟩ := Option.map_eq_some_iff.1 hfound
    obtain ⟨i, hi, -, rfl⟩ := (Text.cutAt_eq_some_iff (List.cons_ne_nil _ _)).1 hopened
    obtain ⟨k, hk, -⟩ := (Text.cutAt_eq_some_iff (List.cons_ne_nil _ _)).1 hclosed
    exact ⟨i, _, hi, Text.isFirst_drop_iff.1 hk⟩
  · rintro ⟨i, j, hi, hj⟩
    rw [search_of_isFirst hi hj]
    rfl

theorem trim_dropWhile (block : Letters) : trim (block.dropWhile isBlank) = trim block := by
  rw [trim, Text.trimBy, Text.dropWhile_dropWhile]
  rfl

/-- What is found in a block is what the pattern keeps, trimmed. -/
theorem fenced?_eq_search :
    fenced? cs = (fencePattern.search cs).map fun (_, m) => trim (m.kept.getD []) := by
  rw [search_fencePattern, fenced?]
  cases cutAt fence cs with
  | none => rfl
  | some parts =>
    obtain ⟨before, opened⟩ := parts
    show (cutAt fence opened).bind _ = Option.map _ ((cutAt fence opened).map _)
    cases cutAt fence opened with
    | none => rfl
    | some parts => exact congrArg some (trim_dropWhile _).symm

/-! ### Braces -/

/-- The stretch between the two braces is found. -/
theorem braced?_of_isFirst_isLast {a b : Nat} (ha : IsFirst [char '\x7b'] cs 0 a)
    (hb : IsLast [char '\x7d'] cs b) (hab : a < b) :
    braced? cs = some ((cs.drop a).take (b + 1 - a)) := by
  obtain ⟨p, q, rfl, hp, rfl⟩ := Text.isFirst_singleton_iff.1 ha
  obtain ⟨p', q', hsplit, hq, rfl⟩ := Text.isLast_singleton_iff.1 hb
  -- The closing brace stands in `q`, the text behind the opening one.
  obtain ⟨m, hm⟩ : ∃ m, q = m ++ char '\x7d' :: q' ∧ p' = p ++ char '\x7b' :: m := by
    rcases List.append_eq_append_iff.1 hsplit with ⟨r, hr, hrest⟩ | ⟨r, hr, hrest⟩
    · cases r with
      | nil => simp [hr] at hab
      | cons c m =>
        obtain ⟨rfl, rfl⟩ := List.cons.inj hrest
        exact ⟨m, rfl, hr⟩
    · rw [hr, List.length_append] at hab
      omega
  obtain ⟨rfl, rfl⟩ := hm
  have hcs : p ++ char '\x7b' :: (m ++ char '\x7d' :: q')
      = p ++ (char '\x7b' :: (m ++ [char '\x7d']) ++ q') := by simp
  rw [hcs, braced?_object m hp hq, List.drop_left, List.take_left' (by simp; omega)]

/-- No stretch ends at a closing brace where there is none. -/
theorem throughLastBrace?_of_not_mem {ds : Letters} (h : char '\x7d' ∉ ds) :
    throughLastBrace? ds = none := by
  have hall : ds.reverse.dropWhile (· != .char '\x7d') = [] := by
    rw [List.dropWhile_eq_nil_iff]
    intro c hc
    rw [bne_iff_ne]
    rintro rfl
    exact h (List.mem_reverse.1 hc)
  rw [throughLastBrace?, hall]

/-- Nothing is found without two braces in that order. -/
theorem braced?_of_not (h : ∀ a b, IsFirst [char '\x7b'] cs 0 a → IsLast [char '\x7d'] cs b → b ≤ a) :
    braced? cs = none := by
  rw [braced?]
  cases hopened : cs.dropWhile (· != .char '\x7b') with
  | nil => rfl
  | cons c q =>
    have hc : c = char '\x7b' := by
      have hhead := List.head?_dropWhile_not (· != .char '\x7b') cs
      rw [hopened] at hhead
      simpa using hhead
    subst hc
    have hbefore : char '\x7b' ∉ cs.takeWhile (· != .char '\x7b') := fun hmem =>
      absurd (List.mem_takeWhile_imp hmem) (by simp)
    have hcs : cs = cs.takeWhile (· != .char '\x7b') ++ char '\x7b' :: q := by
      rw [← hopened, List.takeWhile_append_dropWhile]
    have hfirst : IsFirst [char '\x7b'] cs 0 (cs.takeWhile (· != .char '\x7b')).length :=
      Text.isFirst_singleton_iff.2 ⟨_, q, hcs, hbefore, rfl⟩
    -- A closing brace behind the first opening one would make the last one come later than that.
    refine throughLastBrace?_of_not_mem fun hclose => ?_
    have hclose : char '\x7d' ∈ q.reverse := by simpa using hclose
    obtain ⟨after, m, hq, hafter⟩ := List.eq_append_cons_of_mem hclose
    have hq : q = m.reverse ++ char '\x7d' :: after.reverse := by
      rw [← List.reverse_reverse q, hq]
      simp
    have hlast : IsLast [char '\x7d'] cs
        (cs.takeWhile (· != .char '\x7b') ++ char '\x7b' :: m.reverse).length := by
      refine Text.isLast_singleton_iff.2 ⟨_, after.reverse, ?_, by simpa using hafter, rfl⟩
      rw [List.append_assoc, List.cons_append, ← hq, ← hcs]
    have hle := h _ _ hfirst hlast
    rw [List.length_append, List.length_cons] at hle
    omega

end

/-- **The document in a reply, by indices.** Let `i` be the first index of a fence and `j` the first
one of a fence behind it. The pattern of a fenced block matches somewhere exactly if both exist.
Then its leftmost match goes from the one fence to the other, and the document is the text between
them without its tag, trimmed; that is what the match keeps, trimmed. Otherwise the document goes
from the first opening brace to the last closing one if that comes later, and else it is the whole
text, trimmed. -/
theorem extract_by_index (s : Letters) :
    ((fencePattern.search s).isSome = true ↔
        ∃ i j, IsFirst fence s 0 i ∧ IsFirst fence s (i + 3) j) ∧
      (∀ i j, IsFirst fence s 0 i → IsFirst fence s (i + 3) j →
        let block := (s.drop (i + 3)).take (j - (i + 3))
        extract s = trim (block.dropWhile isTag) ∧
          ∃ kept, fencePattern.search s
              = some (s.take i, ⟨fence ++ block ++ fence, some kept, s.drop (j + 3)⟩) ∧
            extract s = trim kept) ∧
      ((∀ i j, IsFirst fence s 0 i → ¬ IsFirst fence s (i + 3) j) →
        (∀ a b, IsFirst [char '\x7b'] s 0 a → IsLast [char '\x7d'] s b → a < b →
            extract s = (s.drop a).take (b + 1 - a)) ∧
          ((∀ a b, IsFirst [char '\x7b'] s 0 a → IsLast [char '\x7d'] s b → b ≤ a) →
            extract s = trim s)) := by
  refine ⟨isSome_search_iff, fun i j hi hj => ?_, fun hnone => ?_⟩
  · have hsearch := search_of_isFirst hi hj
    have hfenced : extract s = trim
        ((((s.drop (i + 3)).take (j - (i + 3))).dropWhile isTag).dropWhile isBlank) := by
      rw [extract, fenced?_eq_search, hsearch]
      rfl
    exact ⟨hfenced.trans (trim_dropWhile _), _, hsearch, hfenced⟩
  · have hsearch : fencePattern.search s = none := by
      rw [← Option.not_isSome_iff_eq_none, isSome_search_iff]
      exact fun ⟨i, j, hi, hj⟩ => hnone i j hi hj
    have hbraced : extract s = (braced? s).getD (trim s) := by
      rw [extract, fenced?_eq_search, hsearch]
      rfl
    refine ⟨fun a b ha hb hab => ?_, fun hno => ?_⟩
    · rw [hbraced, braced?_of_isFirst_isLast ha hb hab, Option.getD_some]
    · rw [hbraced, braced?_of_not hno, Option.getD_none]

/-- A block behind four marks, of which the last one belongs to the block. -/
def fourMarks : Letters := Letters.ofString "\x60\x60\x60\x60\n\x7b\x7d\x60\x60\x60"

/-- A block that is not closed, with a closing brace of its own behind an object. -/
def openBlock : Letters := Letters.ofString "\x60\x60\x60 \x7ba\x7d \x7d"

theorem extract_by_index_of_odd_fences :
    IsFirst fence fourMarks 0 0 ∧ IsFirst fence fourMarks 3 7 ∧
      (fencePattern.search fourMarks).isSome = true ∧
      extract fourMarks = ("\x60\n\x7b\x7d" : Letters) ∧
      (fencePattern.search openBlock).isSome = false ∧
      IsFirst [char '\x7b'] openBlock 0 4 ∧ IsLast [char '\x7d'] openBlock 8 ∧
      extract openBlock = ("\x7ba\x7d \x7d" : Letters) := by
  have hmark : fence ≠ [] := List.cons_ne_nil _ _
  have hopened : cutAt fence fourMarks = some ([], ("\x60\n\x7b\x7d\x60\x60\x60" : Letters)) := rfl
  have hclosed : cutAt fence (fourMarks.drop 3) = some (("\x60\n\x7b\x7d" : Letters), []) := rfl
  have hi : IsFirst fence fourMarks 0 0 := (Text.isFirst_of_cutAt hmark hopened).1
  have hj : IsFirst fence fourMarks 3 7 :=
    Text.isFirst_drop_iff.1 (Text.isFirst_of_cutAt hmark hclosed).1
  have ha : IsFirst [char '\x7b'] openBlock 0 4 :=
    Text.isFirst_singleton_iff.2 ⟨("\x60\x60\x60 " : Letters), _, rfl, by decide, rfl⟩
  have hb : IsLast [char '\x7d'] openBlock 8 :=
    Text.isLast_singleton_iff.2 ⟨("\x60\x60\x60 \x7ba\x7d " : Letters), [], rfl, by decide, rfl⟩
  have hsearch : (fencePattern.search openBlock).isSome = false := by decide
  obtain ⟨hfound, hblock, -⟩ := extract_by_index fourMarks
  obtain ⟨hnone, -, hbraces⟩ := extract_by_index openBlock
  have hopen : ∀ i j, IsFirst fence openBlock 0 i →
      ¬ IsFirst fence openBlock (i + 3) j :=
    fun i j hi hj => Bool.false_ne_true (hsearch.symm.trans (hnone.2 ⟨i, j, hi, hj⟩))
  exact ⟨hi, hj, hfound.2 ⟨0, 7, hi, hj⟩, (hblock 0 7 hi hj).1.trans (by decide), hsearch, ha, hb,
    ((hbraces hopen).1 4 8 ha hb (by decide)).trans (by decide)⟩

end Reply

end FlowDraft
