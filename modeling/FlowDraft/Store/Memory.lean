import FlowDraft.Example.Rank
import FlowDraft.Store.Embedding

/-!
# `FlowDraft.Store.Memory`: a collection kept in memory

The documents of a memory store stand in the order in which they were added, each with its vector.
A search gives the documents most similar to a query first.

A `MemoryStore` is an `InMemoryExampleStore`, with `add_documents`, `clear` and `search`.
-/

set_option autoImplicit false

namespace FlowDraft

/-- A collection kept in memory. -/
structure MemoryStore where
  /-- The number of places of the vectors. -/
  size : Int := 256
  records : List (Document × List Float) := []

namespace MemoryStore

instance : Inhabited MemoryStore := ⟨{}⟩

/-- The documents, in the order in which they were added. -/
def documents (s : MemoryStore) : List Document :=
  s.records.map (·.1)

/-- The store without its documents. -/
def clear (s : MemoryStore) : MemoryStore :=
  { s with records := [] }

/-- The store with more documents. The first one that cannot be embedded ends the addition, and
those before it stay. -/
def add (s : MemoryStore) : List Document → MemoryStore × Option Store.EmbedError
  | [] => (s, none)
  | d :: ds =>
    match Store.Embedding.embed s.size d.content with
    | .error e => (s, some e)
    | .ok v => add { s with records := s.records ++ [(d, v)] } ds

/-- The documents before position `k` when the most similar ones come first, for any measure of
similarity. Documents that are equally similar keep their order. -/
def searchBy {κ : Type} (le : κ → κ → Bool) (alike : List Float → List Float → κ)
    (s : MemoryStore) (query : String) (k : Int) : Except Store.EmbedError (List Document) :=
  (Store.Embedding.embed s.size query).map fun q =>
    (Slice.before k (sortFalling le (fun record => alike q record.2) s.records)).map (·.1)

/-- The documents before position `k` when those come first whose vectors point most nearly the way
of the query. -/
def search (s : MemoryStore) (query : String) (k : Int) :
    Except Store.EmbedError (List Document) :=
  s.searchBy Example.floatLe Store.Embedding.similarity query k

end MemoryStore

end FlowDraft
