import FlowDraft.Fault
import FlowDraft.Model.Service
import FlowDraft.Retrieval.Options
import FlowDraft.Store.Memory

/-!
# `FlowDraft.Retrieval.Search`: finding references for a request

More documents are sought than references are wanted, and ranking picks from them. References help
but are not needed: whatever goes wrong on the way is logged, and then there are none.

`find` is `ExampleRetriever.retrieve`.
-/

set_option autoImplicit false

namespace FlowDraft

/-- A document that was found, or what goes wrong when it is read. -/
abbrev Hit := Except Fault Document

/-- Where documents are sought. -/
structure Source where
  /-- What goes wrong before anything is sought, if anything. -/
  unavailable : Option Fault := none
  /-- The documents for a query, the most similar ones first. -/
  search : String → Int → Except Fault (List Hit)

namespace Source

/-- The fault of a text that cannot be embedded. -/
def embedFault : Store.EmbedError → Fault
  | .noPlaces => ⟨.other, "integer modulo by zero", []⟩
  | .negativeSize => ⟨.other, "list index out of range", []⟩

/-- A collection kept in memory. -/
def ofMemory (store : MemoryStore) : Source where
  search query k :=
    match store.search query k with
    | .ok documents => .ok (documents.map .ok)
    | .error e => .error (embedFault e)

end Source

/-- The references that were found, and what happened meanwhile. -/
structure Found where
  examples : List Example
  events : List Model.Event

namespace Retrieval

open Model

/-- What is logged when no references can be had. -/
def failedLine (fault : Fault) : Event :=
  .log .warning ("Example retrieval failed, continuing without references: " ++ fault.text)

/-- The number of references that is wanted. Zero stands for the usual number. -/
def wanted (options : RetrievalOptions) (topK : Option Int) : Int :=
  match topK with
  | some k => if k = 0 then options.topK else k
  | none => options.topK

/-- The documents for a query, all of them read. -/
def candidates (source : Source) (query : String) (count : Int) : Except Fault (List Example) :=
  (source.search query count).bind fun hits => hits.mapM fun hit => hit.map Example.ofDocument

/-- The references for a query. -/
def find (options : RetrievalOptions) (source : Source) (query : String) (topK : Option Int) :
    Found :=
  let k := wanted options topK
  let count := k * options.oversampling
  match source.unavailable with
  | some fault => ⟨[], [failedLine fault]⟩
  | none =>
    match candidates source query count with
    | .error fault => ⟨[], [.sought count, failedLine fault]⟩
    | .ok examples => ⟨Example.rank options.weights query k examples, [.sought count]⟩

end Retrieval

end FlowDraft
