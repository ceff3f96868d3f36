/-!
# `FlowDraft.Text.Pattern`: patterns that are matched by trying

A pattern is matched from the left. Where it leaves a choice, the choices are tried in order, and a
later one is tried only if what follows cannot be matched after the earlier ones. `Pattern.ways`
lists all ways to match the start of a text in the order in which they are tried, so the match is
the first of them. `Pattern.search` tries one place of a text after the other.

* `Pattern.taken_append_rest`: a match is the start of the text, and the rest follows it.
* `Pattern.head?_ways_andThen`: the first way through two patterns, if the first way through the first
  one can be continued.
* `Pattern.search_eq_some`: what is found stands behind the text that was passed over.
* `Pattern.Finds.unique`: there is one way only to search a text for one match behind the other.
-/

set_option autoImplicit false

namespace FlowDraft.Text

/-- A pattern for texts of letters of any kind. Only single letters are repeated. -/
inductive Pattern (α : Type) where
  /-- The empty text. -/
  | nothing
  /-- One character of a class. -/
  | one (p : α → Bool)
  /-- One pattern behind the other. -/
  | andThen (first second : Pattern α)
  /-- The first pattern, or else the second one. -/
  | orElse (first second : Pattern α)
  /-- Characters of a class, as many as can be. -/
  | many (p : α → Bool)
  /-- Characters of a class, as few as can be. -/
  | few (p : α → Bool)
  /-- A pattern whose text is kept. -/
  | kept (inner : Pattern α)

/-- A way to match the start of a text. -/
structure Match (α : Type) where
  /-- The start of the text. -/
  taken : List α
  /-- The text that was kept last. -/
  kept : Option (List α)
  /-- What follows. -/
  rest : List α
deriving DecidableEq

section
variable {α : Type}

namespace Match

/-- A match, and another one behind it. -/
def followedBy (m n : Match α) : Match α :=
  ⟨m.taken ++ n.taken, n.kept.or m.kept, n.rest⟩

/-- The text with one more character in front. -/
def cons (c : α) (m : Match α) : Match α :=
  { m with taken := c :: m.taken }

end Match

namespace Pattern

/-- The ways to take characters of a class, the longest one first. -/
def stretches (p : α → Bool) : List α → List (Match α)
  | [] => [⟨[], none, []⟩]
  | c :: cs =>
    if p c then (stretches p cs).map (Match.cons c) ++ [⟨[], none, c :: cs⟩]
    else [⟨[], none, c :: cs⟩]

/-- The ways to match the start of a text, in the order in which they are tried. -/
def ways : Pattern α → List α → List (Match α)
  | nothing, cs => [⟨[], none, cs⟩]
  | one _, [] => []
  | one p, c :: cs => if p c then [⟨[c], none, cs⟩] else []
  | andThen first second, cs =>
    (ways first cs).flatMap fun m => (ways second m.rest).map m.followedBy
  | orElse first second, cs => ways first cs ++ ways second cs
  | many p, cs => stretches p cs
  | few p, cs => (stretches p cs).reverse
  | kept inner, cs => (ways inner cs).map fun m => { m with kept := some m.taken }

/-- The first match at the first place where there is one, and the text before it. -/
def search (p : Pattern α) : List α → Option (List α × Match α)
  | [] => (p.ways []).head?.map fun m => ([], m)
  | c :: cs =>
    match (p.ways (c :: cs)).head? with
    | some m => some ([], m)
    | none => (search p cs).map fun (before, m) => (c :: before, m)

/-- What a pattern matches in a text: the first match, then the first one behind its end, and so on.
It is for patterns that take at least one character. -/
inductive Finds (p : Pattern α) : List α → List (List α) → Prop where
  | nothing {cs : List α} (h : p.search cs = none) : Finds p cs []
  | next {cs before : List α} {m : Match α} {found : List (List α)}
      (h : p.search cs = some (before, m)) (htaken : m.taken ≠ []) (hrest : Finds p m.rest found) :
      Finds p cs (m.taken :: found)

/-- A pattern for one text. -/
def literal [BEq α] (mark : List α) : Pattern α :=
  mark.foldr (fun c p => (one (· == c)).andThen p) nothing

/-- A pattern that may also be left out. -/
def optional (p : Pattern α) : Pattern α :=
  p.orElse nothing

/-! ### Laws -/

theorem taken_append_rest_stretches {p : α → Bool} {cs : List α} {m : Match α}
    (h : m ∈ stretches p cs) : m.taken ++ m.rest = cs := by
  induction cs generalizing m with
  | nil =>
    rw [stretches, List.mem_singleton] at h
    subst h
    rfl
  | cons c cs ih =>
    rw [stretches] at h
    split at h
    · rcases List.mem_append.1 h with h | h
      · obtain ⟨n, hn, rfl⟩ := List.mem_map.1 h
        exact congrArg (c :: ·) (ih hn)
      · rw [List.mem_singleton.1 h]
        rfl
    · rw [List.mem_singleton.1 h]
      rfl

/-- A match is the start of the text, and the rest follows it. -/
theorem taken_append_rest {p : Pattern α} {cs : List α} {m : Match α} (h : m ∈ p.ways cs) :
    m.taken ++ m.rest = cs := by
  induction p generalizing cs m with
  | nothing =>
    rw [ways, List.mem_singleton] at h
    subst h
    rfl
  | one p =>
    cases cs with
    | nil => exact absurd h List.not_mem_nil
    | cons c cs =>
      rw [ways] at h
      split at h
      · rw [List.mem_singleton.1 h]
        rfl
      · exact absurd h List.not_mem_nil
  | andThen first second ihfirst ihsecond =>
    obtain ⟨n, hn, h⟩ := List.mem_flatMap.1 h
    obtain ⟨o, ho, rfl⟩ := List.mem_map.1 h
    show n.taken ++ o.taken ++ o.rest = cs
    rw [List.append_assoc, ihsecond ho, ihfirst hn]
  | orElse first second ihfirst ihsecond =>
    exact (List.mem_append.1 h).elim ihfirst ihsecond
  | many p => exact taken_append_rest_stretches h
  | few p => exact taken_append_rest_stretches (List.mem_reverse.1 h)
  | kept inner ih =>
    obtain ⟨n, hn, rfl⟩ := List.mem_map.1 h
    exact ih (m := n) hn

/-- The first way through two patterns, if the first way through the first one can be continued. -/
theorem head?_ways_andThen {first second : Pattern α} {cs : List α} {m n : Match α}
    (hm : (first.ways cs).head? = some m) (hn : (second.ways m.rest).head? = some n) :
    ((first.andThen second).ways cs).head? = some (m.followedBy n) := by
  obtain ⟨ms, hms⟩ := List.head?_eq_some_iff.1 hm
  obtain ⟨ns, hns⟩ := List.head?_eq_some_iff.1 hn
  rw [ways, hms, List.flatMap_cons, hns]
  rfl

/-- As many characters of a class as can be are taken first. -/
theorem head?_ways_many (p : α → Bool) (cs : List α) :
    ((many p).ways cs).head? = some ⟨cs.takeWhile p, none, cs.dropWhile p⟩ := by
  rw [ways]
  induction cs with
  | nil => rfl
  | cons c cs ih =>
    rw [stretches]
    by_cases hc : p c = true
    · simp [hc, ih, Match.cons]
    · simp [hc]

/-- Where one character of a class stands, all that follow it are taken with it. -/
theorem head?_ways_one_many {p : α → Bool} {c : α} (hc : p c = true) (cs : List α) :
    (((one p).andThen (many p)).ways (c :: cs)).head?
      = some ⟨c :: cs.takeWhile p, none, cs.dropWhile p⟩ := by
  have hone : ((one p).ways (c :: cs)).head? = some ⟨[c], none, cs⟩ := by
    rw [ways, if_pos hc]
    rfl
  exact head?_ways_andThen hone (head?_ways_many p cs)

/-- A pattern for one text takes that text where it stands. -/
theorem ways_literal [BEq α] [LawfulBEq α] (mark cs : List α) :
    (literal mark).ways cs =
      if mark.isPrefixOf cs then [⟨mark, none, cs.drop mark.length⟩] else [] := by
  induction mark generalizing cs with
  | nil => simp [literal, ways]
  | cons c mark ih =>
    show (ways ((one (· == c)).andThen (literal mark)) cs) = _
    cases cs with
    | nil => rfl
    | cons d cs =>
      by_cases hd : d = c
      · subst hd
        simp only [ways, beq_self_eq_true, if_true, List.flatMap_cons, List.flatMap_nil,
          List.append_nil, ih, List.isPrefixOf_cons_cons, Bool.true_and, List.length_cons,
          List.drop_succ_cons]
        split <;> rfl
      · simp [ways, hd, Ne.symm hd]

theorem mem_ways_andThen {first second : Pattern α} {cs : List α} {m : Match α} :
    m ∈ (first.andThen second).ways cs ↔
      ∃ n ∈ first.ways cs, ∃ o ∈ second.ways n.rest, n.followedBy o = m := by
  rw [ways, List.mem_flatMap]
  simp only [List.mem_map]

theorem taken_of_mem_ways_literal [BEq α] [LawfulBEq α] {mark cs : List α} {m : Match α}
    (h : m ∈ (literal mark).ways cs) : m.taken = mark := by
  rw [ways_literal] at h
  split at h
  · rw [List.mem_singleton.1 h]
  · exact absurd h List.not_mem_nil

/-- Two patterns end as the second one does. -/
theorem suffix_taken_andThen {first second : Pattern α} {mark : List α}
    (h : ∀ cs, ∀ m ∈ second.ways cs, mark <:+ m.taken) :
    ∀ cs, ∀ m ∈ (first.andThen second).ways cs, mark <:+ m.taken := by
  intro cs m hm
  obtain ⟨n, -, o, ho, rfl⟩ := mem_ways_andThen.1 hm
  exact (h _ o ho).trans (List.suffix_append n.taken o.taken)

/-- What is found stands behind the text that was passed over. -/
theorem search_eq_some {p : Pattern α} {cs before : List α} {m : Match α}
    (h : p.search cs = some (before, m)) :
    cs = before ++ m.taken ++ m.rest ∧ m ∈ p.ways (m.taken ++ m.rest) := by
  have hhere : ∀ {ds : List α}, (p.ways ds).head? = some m →
      ds = [] ++ m.taken ++ m.rest ∧ m ∈ p.ways (m.taken ++ m.rest) := by
    intro ds hhead
    have hm : m ∈ p.ways ds := List.mem_of_head? hhead
    have hds := taken_append_rest hm
    exact ⟨hds.symm, hds.symm ▸ hm⟩
  induction cs generalizing before with
  | nil =>
    obtain ⟨n, hn, hpair⟩ := Option.map_eq_some_iff.1 h
    cases hpair
    exact hhere hn
  | cons c cs ih =>
    rw [search] at h
    split at h
    · next n hn =>
      cases h
      exact hhere hn
    · obtain ⟨⟨after, n⟩, hn, hpair⟩ := Option.map_eq_some_iff.1 h
      cases hpair
      obtain ⟨hcs, hways⟩ := ih hn
      exact ⟨congrArg (c :: ·) hcs, hways⟩

/-- Where a pattern cannot be matched, the search goes on. -/
theorem search_cons {p : Pattern α} {c : α} {cs : List α} (h : p.ways (c :: cs) = []) :
    p.search (c :: cs) = (p.search cs).map fun (before, m) => (c :: before, m) := by
  rw [search, h]
  rfl

/-- A match at the start of the text is found. -/
theorem search_of_head? {p : Pattern α} {cs : List α} {m : Match α} (h : (p.ways cs).head? = some m) :
    p.search cs = some ([], m) := by
  cases cs with
  | nil => rw [search, h]; rfl
  | cons c cs => rw [search, h]

/-- A character at which the pattern cannot be matched is passed over. -/
theorem Finds.cons {p : Pattern α} {c : α} {cs : List α} {found : List (List α)}
    (h : p.ways (c :: cs) = []) (hfound : Finds p cs found) : Finds p (c :: cs) found := by
  cases hfound with
  | nothing hnone =>
    refine .nothing ?_
    rw [search_cons h, hnone]
    rfl
  | @next _ before m _ hsome htaken hrest =>
    have hsearch : p.search (c :: cs) = some (c :: before, m) := by
      rw [search_cons h, hsome]
      rfl
    exact .next hsearch htaken hrest

/-- There is one way only to search a text for one match behind the other. -/
theorem Finds.unique {p : Pattern α} {cs : List α} {found found' : List (List α)}
    (h : Finds p cs found) (h' : Finds p cs found') : found = found' := by
  induction h generalizing found' with
  | nothing hnone =>
    cases h' with
    | nothing => rfl
    | next hsome => exact absurd (hnone.symm.trans hsome) nofun
  | next hsome _ _ ih =>
    cases h' with
    | nothing hnone => exact absurd (hnone.symm.trans hsome) nofun
    | next hsome' _ hrest' =>
      cases hsome.symm.trans hsome'
      rw [ih hrest']

end Pattern

end

end FlowDraft.Text
