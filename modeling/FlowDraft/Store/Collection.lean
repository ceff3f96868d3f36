import FlowDraft.Example.Document
import FlowDraft.Fault
import FlowDraft.Model.Options
import FlowDraft.Slice
import FlowDraft.Store.CollectionOptions

/-!
# `FlowDraft.Store.Collection`: a collection kept by a service

A collection may be kept by a service of its own, which another service helps with embeddings.
Everything that is done with it is a list of calls, and `Call.keep` says what the collection holds
after a call.

The calls are those that `QdrantExampleStore` makes.
-/

set_option autoImplicit false

namespace FlowDraft.Collection

/-- What the services behind a collection are asked for. -/
inductive Call where
  /-- Embeddings by a model. -/
  | embed (model : String) (apiKey : Option String)
  /-- A connection to the service that keeps the collection. -/
  | connect (url : String) (apiKey : Option String)
  /-- The collection of that name. -/
  | select (name : String)
  /-- So many documents for a query, the most similar ones first. -/
  | search (query : String) (count : Int)
  /-- More documents. -/
  | add (documents : List Document)
  /-- The collection dropped, and built anew from documents. -/
  | rebuild (documents : List Document) (options : CollectionOptions)

/-- The documents of a collection after a call. -/
def Call.keep (documents : List Document) : Call → List Document
  | add more => documents ++ more
  | rebuild anew _ => anew
  | _ => documents

/-- The documents of a collection after calls. -/
def keep (documents : List Document) (calls : List Call) : List Document :=
  calls.foldl Call.keep documents

/-- What is reported where no collection can be reached. -/
def unavailable : Fault :=
  ⟨.runtime, "Qdrant dependencies are not available. Install qdrant-client/langchain-community.",
    []⟩

/-- The calls that open a collection. -/
def opening (options : CollectionOptions) (models : ModelOptions) : List Call :=
  [.embed models.embedding models.apiKey?, .connect options.url options.apiKey,
    .select options.collection]

/-- The calls that put documents into a collection. With `recreate` they replace the ones that are
there. -/
def seeding (options : CollectionOptions) (recreate : Bool) (documents : List Document) :
    List Call :=
  if recreate then [.rebuild documents options, .select options.collection]
  else [.add documents]

/-- The documents before position `k`, when a service gives those of a collection in the order in
which it holds them. -/
def search (documents : List Document) (k : Int) : List Document :=
  Slice.before k documents

end FlowDraft.Collection
