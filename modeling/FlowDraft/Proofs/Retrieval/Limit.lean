import FlowDraft.Proofs.Retrieval.Search

/-!
# `FlowDraft.Proofs.Retrieval.Limit`: how many references a search gives

A source gives documents for a query (`Source.Gives`), or else it fails
(`Source.gives_or_failsWith`) and there are no references. So the number of references is told by
the documents that are given: all of them, up to the number that is wanted (`length_find_of_gives`,
`length_find_le`).

A search may be asked for a number of references. A number above zero is a limit that is kept to,
whatever the source gives. Zero is none: it stands for the usual number. `length_find_le_iff` says
exactly when a search keeps to the number that it was asked for.
-/

set_option autoImplicit false

namespace FlowDraft

namespace Source

/-- The source is there, and it gives documents for the query that can all be read. -/
structure Gives (source : Source) (query : String) (count : Int) (documents : List Document) :
    Prop where
  available : source.unavailable = none
  search : source.search query count = .ok (documents.map .ok)

/-- A source gives documents, or it fails. -/
theorem gives_or_failsWith (source : Source) (query : String) (count : Int) :
    (∃ documents, source.Gives query count documents) ∨
      ∃ fault, source.FailsWith query count fault := by
  cases havailable : source.unavailable with
  | some fault => exact .inr ⟨fault, .unavailable havailable⟩
  | none =>
    cases hsearch : source.search query count with
    | error fault => exact .inr ⟨fault, .search havailable hsearch⟩
    | ok hits =>
      rcases hits_cases hits with ⟨documents, rfl⟩ | ⟨documents, fault, later, rfl⟩
      · exact .inl ⟨documents, havailable, hsearch⟩
      · exact .inr ⟨fault, .unreadable havailable hsearch⟩

end Source

/-- A ranking keeps as many examples as are asked for, whatever the weights are. -/
theorem Example.length_rank (w : Weights Float) (request : String) (k : Nat)
    (examples : List Example) : (rank w request k examples).length = min k examples.length := by
  have hlength := (sortFalling_perm floatLe (score Float.ofNat w (classify request)) examples).length_eq
  rw [rank, rankBy, Slice.before_ofNat, List.length_take, hlength]

namespace Retrieval

section
variable (options : RetrievalOptions) {source : Source} {query : String} {topK : Option Int} {k : Nat}
  (hk : wanted options topK = k)
include hk

/-- There are as many references as documents, up to the number that is wanted. -/
theorem length_find_of_gives {documents : List Document}
    (h : source.Gives query (k * options.oversampling) documents) :
    (find options source query topK).examples.length = min k documents.length := by
  rw [← hk] at h
  rw [find_of_readable options topK h.available h.search, hk, Example.length_rank, List.length_map]

/-- There are never more references than are wanted. -/
theorem length_find_le : (find options source query topK).examples.length ≤ k := by
  rcases source.gives_or_failsWith query (k * options.oversampling) with
    ⟨documents, h⟩ | ⟨fault, h⟩
  · rw [length_find_of_gives options hk h]
    exact Nat.min_le_left _ _
  · rw [← hk] at h
    rw [find_of_failsWith options topK h]
    exact Nat.zero_le k

/-- There are no references exactly when no documents are given for them. -/
theorem find_eq_nil_iff (hpos : 0 < k) :
    (find options source query topK).examples = [] ↔
      ∀ documents, source.Gives query (k * options.oversampling) documents → documents = [] := by
  constructor
  · intro hnone documents h
    have hlength := length_find_of_gives options hk h
    rw [hnone, List.length_nil] at hlength
    rw [← List.length_eq_zero_iff]
    omega
  · intro hnone
    rcases source.gives_or_failsWith query (k * options.oversampling) with
      ⟨documents, h⟩ | ⟨fault, h⟩
    · rw [← List.length_eq_zero_iff, length_find_of_gives options hk h, hnone documents h]
      exact Nat.min_zero k
    · rw [← hk] at h
      rw [find_of_failsWith options topK h]

end

/-- **A number above zero is kept to, and zero is the usual number.** A search that is asked for a
number of references above zero gives at most so many, and all documents if there are not more. One
that is asked for none goes as one that was not asked for a number, which gives up to the usual
number. So a search keeps to the number that it was asked for exactly if that is above zero, or if
the source gives no documents. -/
theorem length_find_le_iff (options : RetrievalOptions) (source : Source) (query : String)
    (number : Nat) :
    let asked := find options source query (some number)
    let usual := find options source query none
    (0 < number → asked.examples.length ≤ number ∧
      ∀ documents, source.Gives query (number * options.oversampling) documents →
        asked.examples.length = min number documents.length) ∧
    (number = 0 → asked = usual) ∧
    (usual.examples.length ≤ options.topK ∧
      ∀ documents, source.Gives query (options.topK * options.oversampling) documents →
        usual.examples.length = min (options.topK : Nat) documents.length) ∧
    (asked.examples.length ≤ number ↔ 0 < number ∨
      ∀ documents, source.Gives query (options.topK * options.oversampling) documents →
        documents = []) := by
  intro asked usual
  have husual : wanted options none = (options.topK : Nat) := rfl
  have hasked : 0 < number → wanted options (some number) = number := fun h => if_neg (by omega)
  have hzero : number = 0 → asked = usual := by
    rintro rfl
    rfl
  refine ⟨fun hpos => ⟨length_find_le options (hasked hpos), fun documents h =>
      length_find_of_gives options (hasked hpos) h⟩, hzero,
    ⟨length_find_le options husual, fun documents h => length_find_of_gives options husual h⟩, ?_⟩
  rcases Nat.eq_zero_or_pos number with hnumber | hpos
  · -- Only no references at all are within zero, and the usual number is above zero.
    rw [hzero hnumber, hnumber, Nat.le_zero, List.length_eq_zero_iff,
      find_eq_nil_iff options husual options.topK.2]
    simp
  · exact iff_of_true (length_find_le options (hasked hpos)) (.inl hpos)

/-- A source that gives the same two documents for every query. -/
def chatSource : Source where
  search _ _ := .ok (chatDocuments.map .ok)

theorem gives_chatDocuments (query : String) (count : Int) :
    chatSource.Gives query count chatDocuments :=
  ⟨rfl, rfl⟩

/-- Of two documents, a search for one reference gets one, and a search that names no number gets
both. -/
theorem length_find_le_iff_of_chat :
    chatSource.Gives "Slack" 3 chatDocuments ∧
    (find {} chatSource "Slack" (some 1)).examples.length = 1 ∧
    (find {} chatSource "Slack" none).examples.length = 2 := by
  obtain ⟨hasked, -, ⟨-, husual⟩, -⟩ := length_find_le_iff {} chatSource "Slack" 1
  exact ⟨gives_chatDocuments "Slack" 3, (hasked Nat.one_pos).2 _ (gives_chatDocuments "Slack" _),
    husual _ (gives_chatDocuments "Slack" _)⟩

/-- A search for no references gets two. -/
theorem find_zero_of_chat :
    (find {} chatSource "Slack" (some 0)).examples.length = 2 ∧
      ¬ (find {} chatSource "Slack" (some 0)).examples.length ≤ 0 := by
  have hlength : (find {} chatSource "Slack" (some 0)).examples.length = 2 :=
    length_find_of_gives {} (k := 3) rfl (gives_chatDocuments "Slack" _)
  exact ⟨hlength, by omega⟩

end Retrieval

end FlowDraft
