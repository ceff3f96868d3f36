import FlowDraft.Example.Document
import FlowDraft.Text.Blank

/-!
# `FlowDraft.Sample.Basic`: curated sample workflows

A sample is a workflow with the problem that it solves. Samples are indexed as documents, and each
of them gives an entry of the catalogue of prompts.

A `Sample` is a `SampleWorkflow`, `toDocument` is `build_example_document`, and `catalogue` is
`get_prompt_examples`.
-/

set_option autoImplicit false

namespace FlowDraft

/-- A curated workflow. -/
structure Sample where
  id : String
  title : String
  description : String
  problem : String
  tags : List String
  workflow : Fields
  complexity : Option String := none
  integrations : List String := []
deriving Inhabited

/-- An entry of the catalogue: a request that is ready to be made. -/
structure CatalogueEntry where
  id : String
  title : String
  prompt : String
  description : String
  profile : Profile
  complexity : Option String
  integrations : List String
  tags : List String
deriving Inhabited

namespace Sample

/-- The text that a sample is profiled by. -/
def profileText (s : Sample) : String :=
  " ".intercalate [s.title, s.description, s.problem, " ".intercalate s.tags]

/-- The profile of a sample. -/
def profile (s : Sample) : Profile :=
  classify s.profileText

/-- The number of nodes of a sample. -/
def nodeCount (s : Sample) : Nat :=
  (((Json.obj s.workflow).field "nodes").items?.getD []).length

/-- The text that a sample is found by. -/
def content (s : Sample) : String :=
  "\n".intercalate
    [s.title, "", s.description, "", "Problem solved: " ++ s.problem, "",
     "Tags: " ++ ", ".intercalate s.tags, "Node count: " ++ toString s.nodeCount]

/-- The document that a sample is indexed as. -/
def toDocument (s : Sample) : Document where
  content := s.content
  fields :=
    [("id", .str s.id), ("title", .str s.title), ("tags", .ofTexts s.tags),
     ("metadata", s.profile.toJson), ("workflow", .obj s.workflow)]

/-- The text, unless it is empty. -/
def filled? (s : String) : Option String :=
  if s.isEmpty then none else some s

/-- The request that a sample answers. -/
def request (s : Sample) : String :=
  Text.trim (((filled? s.problem).or (filled? s.description)).getD
    ("Design an n8n workflow similar to \"" ++ s.title ++ "\"."))

/-- The entry of a sample in the catalogue. -/
def toEntry (s : Sample) : CatalogueEntry where
  id := s.id
  title := s.title
  prompt := s.request
  description :=
    (filled? s.description).getD "No description available. Focus on the prompt for guidance."
  profile := s.profile
  complexity := s.complexity
  integrations := s.integrations
  tags := s.tags

/-- The catalogue of prompts, cut to `limit` entries. A negative limit leaves none. -/
def catalogue (samples : List Sample) (limit : Int) : List CatalogueEntry :=
  (samples.map toEntry).take limit.toNat

/-- The number of entries that are shown when no limit is given. -/
def defaultLimit : Int := 10

end Sample

end FlowDraft
