import FlowDraft.Proofs.Binary64.Order
import FlowDraft.Proofs.Sorting.Stable
import FlowDraft.Seed.Basic

/-!
# `FlowDraft.Proofs.Store.History`: a store in memory after any history

`MemoryStore.Op` is something that is done with a store in memory, and `perform` what comes of it.
The reference is a list of documents: `holding` is the store that holds just these, each with the
vector of its text. `perform_holding` says what one operation does, in terms of the documents alone,
and `after_holding` what a history does, by induction on it. `contents_of_no_clear` and
`contents_of_last_clear` say which documents those are.

A search looks at the documents and at nothing else (`search_holding`). `ranked_eq_map_get` tells
what it finds by the places of the documents in the store, whatever the similarities come to, and in
which order, as long as they are comparable: NaN is comparable with nothing. `history_lossless` is
the main statement.
-/

set_option autoImplicit false

namespace FlowDraft

namespace MemoryStore

open Store Sorting

/-! ### What is done with a store -/

/-- Something that is done with a store. -/
inductive Op where
  | add (documents : List Document)
  | clear
  | search (query : String) (k : Int)
  | seed (recreate : Bool) (samples : List Sample)

namespace Op

/-- Whatever the store held is gone. -/
def clears : Op → Bool
  | clear | seed true _ => true
  | _ => false

/-- The documents that come in. -/
def added : Op → List Document
  | add documents => documents
  | seed _ samples => samples.map Sample.toDocument
  | _ => []

end Op

/-- What an addition gives: no documents, or the fault of the first one that cannot be embedded. -/
def outcome : Option EmbedError → Except EmbedError (List Document)
  | none => .ok []
  | some e => .error e

/-- The store that an operation leaves, and the documents that it finds. Only a search finds
some. -/
def perform (s : MemoryStore) : Op → MemoryStore × Except EmbedError (List Document)
  | .add documents => ((s.add documents).1, outcome (s.add documents).2)
  | .clear => (s.clear, .ok [])
  | .search query k => (s, s.search query k)
  | .seed recreate samples => ((s.seed recreate samples).1, outcome (s.seed recreate samples).2)

/-- The store after a history. -/
def after (s : MemoryStore) (history : List Op) : MemoryStore :=
  history.foldl (fun s o => (s.perform o).1) s

/-! ### The documents that it holds -/

/-- The documents after an operation. -/
def contentsStep (documents : List Document) (o : Op) : List Document :=
  (if o.clears then [] else documents) ++ o.added

/-- The documents after a history. -/
def contents (documents : List Document) (history : List Op) : List Document :=
  history.foldl contentsStep documents

/-- Without an operation that clears the store, the documents are all that came in. -/
theorem contents_of_no_clear {history : List Op} (documents : List Document)
    (h : ∀ o ∈ history, o.clears = false) :
    contents documents history = documents ++ history.flatMap Op.added := by
  induction history generalizing documents with
  | nil => simp [contents]
  | cons o history ih =>
    have hkeeps : o.clears = false := h o List.mem_cons_self
    have hrest := ih (contentsStep documents o) fun o' ho' => h o' (List.mem_cons_of_mem o ho')
    rw [contents, List.foldl_cons, ← contents, hrest, contentsStep, hkeeps, List.flatMap_cons,
      ← List.append_assoc]
    rfl

/-- Otherwise they are those that came in with the last one that does, and after it. -/
theorem contents_of_last_clear {before later : List Op} {o : Op} (documents : List Document)
    (hclears : o.clears = true) (h : ∀ o' ∈ later, o'.clears = false) :
    contents documents (before ++ o :: later) = o.added ++ later.flatMap Op.added := by
  rw [contents, List.foldl_append, List.foldl_cons, ← contents, ← contents,
    contents_of_no_clear _ h, contentsStep, if_pos hclears, List.nil_append]

/-! ### A store that holds documents -/

section
variable (size : Int)

/-- The vector of a text. -/
def vectorOf (text : String) : List Float :=
  Embedding.vector hashWord size.toNat text

/-- How alike a query and a document are. -/
def nearness (query : String) (d : Document) : Float :=
  Embedding.similarity (vectorOf size query) (vectorOf size d.content)

/-- A document with the vector of its text. -/
def entry (d : Document) : Document × List Float :=
  (d, vectorOf size d.content)

/-- The store that holds the documents. -/
def holding (documents : List Document) : MemoryStore :=
  { size, records := documents.map (entry size) }

theorem documents_holding (documents : List Document) :
    (holding size documents).documents = documents := by
  rw [MemoryStore.documents, holding, List.map_map]
  exact List.map_id documents

variable (hsize : 0 < size)
include hsize

theorem embed_eq (text : String) : Embedding.embed size text = .ok (vectorOf size text) :=
  if_pos hsize

/-- With places for the words, every document can be added. -/
theorem add_holding (documents new : List Document) :
    (holding size documents).add new = (holding size (documents ++ new), none) := by
  induction new generalizing documents with
  | nil => rw [add, List.append_nil]
  | cons d new ih =>
    have hembed : Embedding.embed (holding size documents).size d.content
        = .ok (vectorOf size d.content) := embed_eq size hsize d.content
    have hnext : { holding size documents with
          records := (holding size documents).records ++ [(d, vectorOf size d.content)] }
        = holding size (documents ++ [d]) := by
      rw [holding, holding, List.map_append]
      rfl
    rw [add, hembed]
    show add _ new = _
    rw [hnext, ih, List.append_assoc, List.singleton_append]

end

/-! ### What a search finds -/

/-- The documents that a search finds if it is for all of them. -/
def ranked (size : Int) (documents : List Document) (query : String) : List Document :=
  (sortFalling Example.floatLe
    (fun record => Embedding.similarity (vectorOf size query) record.2)
    (documents.map (entry size))).map (·.1)

/-- A search finds those before a position. -/
theorem search_holding {size : Int} (hsize : 0 < size) (documents : List Document) (query : String)
    (k : Int) :
    (holding size documents).search query k
      = .ok (Slice.before k (ranked size documents query)) := by
  have hembed : Embedding.embed (holding size documents).size query = .ok (vectorOf size query) :=
    embed_eq size hsize query
  rw [search, searchBy, hembed, ranked, Slice.before, List.length_map, ← List.map_take]
  rfl

/-- They are all documents of the store. -/
theorem ranked_perm (size : Int) (documents : List Document) (query : String) :
    (ranked size documents query).Perm documents := by
  have h := (sortFalling_perm Example.floatLe
    (fun record => Embedding.similarity (vectorOf size query) record.2)
    (documents.map (entry size))).map (·.1)
  exact h.trans (.of_eq (documents_holding size documents))

/-- They are told by the places that they have in the store: every place once. If no similarity is
NaN, similarities never rise, and places of equal similarities go up. -/
theorem ranked_eq_map_get (size : Int) (documents : List Document) (query : String) :
    ∃ places : List (Fin documents.length), places.Perm (List.finRange documents.length) ∧
      ranked size documents query = places.map documents.get ∧
      ((∀ d ∈ documents, (nearness size query d).isNaN = false) →
        places.Pairwise (Precedes Example.floatLe (nearness size query) documents)) := by
  by_cases hnumbers : ∀ d ∈ documents, (nearness size query d).isNaN = false
  · have hself : ∀ d ∈ documents,
        Example.floatLe (nearness size query d) (nearness size query d) = true :=
      fun d hd => Binary64.floatLe_self (hnumbers d hd)
    obtain ⟨places, hperm, hsorted, hordered⟩ := sortFalling_eq_map_get (nearness size query)
      Binary64.floatLe_trans Binary64.floatLe_total hself
    refine ⟨places, hperm, ?_, fun _ => hordered⟩
    rw [ranked, sortFalling_map _ (entry size) hself, List.map_map, ← hsorted]
    exact List.map_id _
  · -- With NaN among the similarities, all that is known is that nothing is lost or invented.
    have hperm := ranked_perm size documents query
    obtain ⟨places, hplaces, hranked⟩ : ∃ places : List (Fin documents.length),
        places.Perm (List.finRange documents.length) ∧
          ranked size documents query = places.map documents.get :=
      exists_perm_of_perm_map (hperm.trans (.of_eq (List.map_get_finRange documents).symm))
    exact ⟨places, hplaces, hranked, fun h => absurd h hnumbers⟩

/-! ### One operation, and a history -/

section
variable {size : Int} (hsize : 0 < size)
include hsize

/-- What an operation finds in a store with these documents. -/
def found (size : Int) (documents : List Document) : Op → List Document
  | .search query k => Slice.before k (ranked size documents query)
  | _ => []

/-- An operation on a store that holds documents succeeds, and leaves the store that holds the
documents after it. -/
theorem perform_holding (documents : List Document) (o : Op) :
    (holding size documents).perform o
      = (holding size (contentsStep documents o), .ok (found size documents o)) := by
  cases o with
  | add new => rw [perform, add_holding size hsize]; rfl
  | clear => rfl
  | search query k =>
    rw [perform, search_holding hsize, contentsStep]
    simp [Op.clears, Op.added, found]
  | seed recreate samples =>
    cases recreate with
    | true =>
      have hseed : (holding size documents).seed true samples
          = (holding size (samples.map Sample.toDocument), none) :=
        add_holding size hsize [] (samples.map Sample.toDocument)
      rw [perform, hseed]
      rfl
    | false =>
      have hseed : (holding size documents).seed false samples
          = (holding size (documents ++ samples.map Sample.toDocument), none) :=
        add_holding size hsize documents (samples.map Sample.toDocument)
      rw [perform, hseed]
      rfl

/-- A history leaves the store that holds the documents after it. -/
theorem after_holding (documents : List Document) (history : List Op) :
    (holding size documents).after history = holding size (contents documents history) := by
  induction history generalizing documents with
  | nil => rfl
  | cons o history ih =>
    rw [after, List.foldl_cons, ← after, perform_holding hsize, ih, contents, contents,
      List.foldl_cons]

end

/-- **A store in memory loses and invents nothing.** After any history of an empty store, whose
vectors have places, it holds the documents that came in since it was last cleared, in order, and
whatever is done next succeeds. A search leaves the store as it is. For each query there is an order
of all documents, each of them once, and a search for `k` documents finds the first `k` in it; in
that order similarities never rise and equal ones keep the order of the store, as long as they are
numbers. Seeding anew leaves the documents of the samples, whatever was there before and however
often it is done, and other seeding adds them to the ones that are there. -/
theorem history_lossless (size : Int) (hsize : 0 < size) (history : List Op) :
    let store := ({ size } : MemoryStore).after history
    let documents := store.documents
    ((∀ o ∈ history, o.clears = false) → documents = history.flatMap Op.added) ∧
    (∀ before o later, history = before ++ o :: later → o.clears = true →
      (∀ o' ∈ later, o'.clears = false) → documents = o.added ++ later.flatMap Op.added) ∧
    (∀ o, ∃ found, (store.perform o).2 = .ok found) ∧
    (∀ query k, (store.perform (.search query k)).1 = store) ∧
    (∀ query, ∃ places : List (Fin documents.length),
      places.Perm (List.finRange documents.length) ∧
      ((∀ d ∈ documents, (nearness size query d).isNaN = false) →
        places.Pairwise (Precedes Example.floatLe (nearness size query) documents)) ∧
      ∀ k : Nat, ∃ hits, store.search query k = .ok hits ∧
        hits = (places.take k).map documents.get ∧ hits.length = min k documents.length ∧
        (documents.length ≤ k → hits.Perm documents) ∧
        ∀ j ≤ k, ∃ fewer, store.search query j = .ok fewer ∧ fewer <+: hits) ∧
    (∀ samples,
      let once := (store.perform (.seed true samples)).1
      once.documents = samples.map Sample.toDocument ∧
      (({ size } : MemoryStore).perform (.seed true samples)).1 = once ∧
      (once.perform (.seed true samples)).1 = once) ∧
    ∀ samples, (store.perform (.seed false samples)).1.documents
      = documents ++ samples.map Sample.toDocument := by
  intro store documents
  have hstore : store = holding size (contents [] history) := after_holding hsize [] history
  have hdocuments : documents = contents [] history := by
    rw [← documents_holding size (contents [] history), ← hstore]
  have hholding : store = holding size documents := hdocuments ▸ hstore
  -- From here on only the documents count, not the history that they come from.
  clear_value store documents
  subst hholding
  refine ⟨fun h => ?_, ?_, fun o => ?_, fun _ _ => rfl, fun query => ?_, fun samples => ?_,
    fun samples => ?_⟩
  · rw [hdocuments, contents_of_no_clear [] h, List.nil_append]
  · rintro before o later rfl hclears h
    rw [hdocuments, contents_of_last_clear [] hclears h]
  · exact ⟨_, congrArg Prod.snd (perform_holding hsize documents o)⟩
  · obtain ⟨places, hperm, hranked, hordered⟩ := ranked_eq_map_get size documents query
    have hsearch : ∀ k : Nat, (holding size documents).search query k
        = .ok ((places.take k).map documents.get) := fun k => by
      rw [search_holding hsize, Slice.before_ofNat, hranked, List.map_take]
    have hlength : places.length = documents.length :=
      hperm.length_eq.trans List.length_finRange
    refine ⟨places, hperm, hordered, fun k => ⟨_, hsearch k, rfl, ?_, fun hk => ?_, fun j hj => ?_⟩⟩
    · rw [List.length_map, List.length_take, hlength]
    · rw [List.take_of_length_le (hlength.le.trans hk), ← hranked]
      exact ranked_perm size documents query
    · exact ⟨_, hsearch j, (List.take_prefix_take_left hj).map documents.get⟩
  · have hseed : ∀ held, ((holding size held).perform (.seed true samples)).1
        = holding size (samples.map Sample.toDocument) :=
      fun held => congrArg Prod.fst (perform_holding hsize held (.seed true samples))
    intro once
    have honce : once = holding size (samples.map Sample.toDocument) := hseed documents
    rw [honce, hseed]
    exact ⟨documents_holding size _, hseed [], rfl⟩
  · rw [perform_holding hsize]
    exact documents_holding size _

/-- Two documents without words, and one with a word. -/
abbrev newsDocuments : List Document := [⟨"", []⟩, ⟨" ", []⟩, ⟨"news", []⟩]

/-- Only the last of them is like the word. -/
theorem map_nearness_newsDocuments :
    newsDocuments.map (nearness 2 "news") = [0.0, 0.0, 1.0] := by
  have hvector : vectorOf 2 "news" = [0.0, 1.0] := by decide +kernel
  show [Embedding.similarity (vectorOf 2 "news") (vectorOf 2 ""),
    Embedding.similarity (vectorOf 2 "news") (vectorOf 2 " "),
    Embedding.similarity (vectorOf 2 "news") (vectorOf 2 "news")] = _
  rw [hvector]
  decide +kernel

theorem isNaN_nearness_newsDocuments :
    ∀ d ∈ newsDocuments, (nearness 2 "news" d).isNaN = false := by
  have hall : ∀ key ∈ newsDocuments.map (nearness 2 "news"), key.isNaN = false := by
    rw [map_nearness_newsDocuments]
    decide
  exact fun d hd => hall _ (List.mem_map_of_mem hd)

/-- A store that was cleared and got these documents then holds them. A search for the word finds
the last one first, and then the other two in their order. -/
theorem history_lossless_of_newsDocuments :
    let before : List Op := [.add [⟨"mail", []⟩], .search "mail" 1]
    let store := ({ size := 2 } : MemoryStore).after (before ++ .clear :: [.add newsDocuments])
    store.documents = newsDocuments ∧
      (∀ d ∈ newsDocuments, (nearness 2 "news" d).isNaN = false) ∧
      store.search "news" 2 = .ok [⟨"news", []⟩, ⟨"", []⟩] := by
  intro before store
  obtain ⟨-, hdocuments, -, -, hsearch, -⟩ :=
    history_lossless 2 (by decide) (before ++ .clear :: [.add newsDocuments])
  have hnew : store.documents = newsDocuments :=
    hdocuments before .clear [.add newsDocuments] rfl rfl (by decide)
  change ∀ query, ∃ places : List (Fin store.documents.length), _ at hsearch
  rw [hnew] at hsearch
  obtain ⟨places, hplaces, hordered, hfound⟩ := hsearch "news"
  obtain ⟨hits, hhits, rfl, -⟩ := hfound 2
  have hkey : ∀ i : Fin newsDocuments.length,
      ([0.0, 0.0, 1.0] : List Float)[i] = nearness 2 "news" newsDocuments[i] := fun i => by
    simp only [← map_nearness_newsDocuments, Fin.getElem_fin, List.getElem_map]
  have horder : ([2, 0, 1] : List (Fin newsDocuments.length)).Pairwise
      (Precedes Example.floatLe (nearness 2 "news") newsDocuments) := by
    have hvalues : ([2, 0, 1] : List (Fin newsDocuments.length)).Pairwise
        (Precedes Example.floatLe id ([0.0, 0.0, 1.0] : List Float)) := by decide
    refine hvalues.imp fun {i j} h => ?_
    rw [Precedes, id, id, hkey i, hkey j] at h
    exact h
  -- There is only one order in which similarities never rise and equal ones stay in order.
  obtain rfl : places = [2, 0, 1] := eq_of_pairwise_precedes (hplaces.trans (by decide))
    (hordered isNaN_nearness_newsDocuments) horder
  exact ⟨hnew, isNaN_nearness_newsDocuments, hhits⟩

end MemoryStore

end FlowDraft
