/-!
# `FlowDraft.Label.Set`: sets of labels

A set of labels is the list of its members in increasing order of code points. The order is part
of the type, so equal sets are equal lists.

* `LabelSet.mem_ofList`: the members of a set are those of the list it was made from.
* `LabelSet.ext_mem`: sets with the same members are equal.

It is a set of texts such as those of `InferredMetadata`.
-/

set_option autoImplicit false

namespace FlowDraft

/-- A set of labels, in increasing order. -/
structure LabelSet where
  toList : List String
  increasing : toList.Pairwise (· < ·)
deriving DecidableEq

namespace LabelSet

/-- An increasing list with one more member. -/
def insertInto (label : String) : List String → List String
  | [] => [label]
  | x :: xs =>
    if label < x then label :: x :: xs
    else if label = x then x :: xs
    else x :: insertInto label xs

theorem mem_insertInto {label y : String} {xs : List String} :
    y ∈ insertInto label xs ↔ y = label ∨ y ∈ xs := by
  induction xs with
  | nil => simp [insertInto]
  | cons x xs ih =>
    simp only [insertInto]
    split
    · simp
    · split
      · next h => subst h; simp
      · simp only [List.mem_cons, ih]
        constructor
        · rintro (h | h | h)
          · exact .inr (.inl h)
          · exact .inl h
          · exact .inr (.inr h)
        · rintro (h | h | h)
          · exact .inr (.inl h)
          · exact .inl h
          · exact .inr (.inr h)

theorem increasing_insertInto {label : String} {xs : List String} (h : xs.Pairwise (· < ·)) :
    (insertInto label xs).Pairwise (· < ·) := by
  induction xs with
  | nil => simp [insertInto]
  | cons x xs ih =>
    rw [List.pairwise_cons] at h
    simp only [insertInto]
    split
    · next hlt =>
      refine List.pairwise_cons.2 ⟨?_, List.pairwise_cons.2 h⟩
      intro y hy
      rcases List.mem_cons.1 hy with rfl | hy
      · exact hlt
      · exact String.lt_trans hlt (h.1 y hy)
    · split
      · exact List.pairwise_cons.2 h
      · next hlt hne =>
        refine List.pairwise_cons.2 ⟨?_, ih h.2⟩
        intro y hy
        rcases mem_insertInto.1 hy with rfl | hy
        · have hle : x ≤ y := String.not_lt.1 hlt
          exact String.not_le.1 fun hge => hne (String.le_antisymm hge hle)
        · exact h.1 y hy

/-- The set without members. -/
def empty : LabelSet := ⟨[], .nil⟩

instance : Inhabited LabelSet := ⟨empty⟩

/-- The set with one more member. -/
def insert (label : String) (s : LabelSet) : LabelSet :=
  ⟨insertInto label s.toList, increasing_insertInto s.increasing⟩

/-- The set of the members of a list. -/
def ofList (labels : List String) : LabelSet :=
  labels.foldr insert empty

/-- The label is a member. -/
def contains (s : LabelSet) (label : String) : Bool :=
  s.toList.contains label

/-- The set has no members. -/
def isEmpty (s : LabelSet) : Bool :=
  s.toList.isEmpty

/-- The number of labels that two sets share. -/
def shared (a b : LabelSet) : Nat :=
  (a.toList.filter b.contains).length

theorem mem_ofList {label : String} {labels : List String} :
    label ∈ (ofList labels).toList ↔ label ∈ labels := by
  induction labels with
  | nil => simp [ofList, empty]
  | cons x xs ih =>
    simp only [ofList, List.foldr_cons, insert, mem_insertInto, List.mem_cons]
    rw [show (List.foldr insert empty xs) = ofList xs from rfl, ih]

theorem eq_of_increasing {xs ys : List String} (hx : xs.Pairwise (· < ·))
    (hy : ys.Pairwise (· < ·)) (h : ∀ l, l ∈ xs ↔ l ∈ ys) : xs = ys := by
  induction xs generalizing ys with
  | nil =>
    cases ys with
    | nil => rfl
    | cons y ys => exact absurd ((h y).2 (by simp)) (by simp)
  | cons x xs ih =>
    cases ys with
    | nil => exact absurd ((h x).1 (by simp)) (by simp)
    | cons y ys =>
      rw [List.pairwise_cons] at hx hy
      have hxy : x = y := by
        rcases List.mem_cons.1 ((h x).1 (by simp)) with e | hm
        · exact e
        · rcases List.mem_cons.1 ((h y).2 (by simp)) with e | hn
          · exact e.symm
          · exact absurd (String.lt_trans (hx.1 y hn) (hy.1 x hm)) (String.lt_irrefl x)
      subst hxy
      refine congrArg (x :: ·) (ih hx.2 hy.2 fun l => ?_)
      constructor
      · intro hl
        rcases List.mem_cons.1 ((h l).1 (List.mem_cons_of_mem _ hl)) with e | hm
        · exact absurd (hx.1 l hl) (e ▸ String.lt_irrefl x)
        · exact hm
      · intro hl
        rcases List.mem_cons.1 ((h l).2 (List.mem_cons_of_mem _ hl)) with e | hm
        · exact absurd (hy.1 l hl) (e ▸ String.lt_irrefl x)
        · exact hm

/-- Sets with the same members are equal. -/
theorem ext_mem {a b : LabelSet} (h : ∀ l, l ∈ a.toList ↔ l ∈ b.toList) : a = b := by
  obtain ⟨xs, hx⟩ := a
  obtain ⟨ys, hy⟩ := b
  have := eq_of_increasing hx hy h
  subst this
  rfl

end LabelSet

end FlowDraft
