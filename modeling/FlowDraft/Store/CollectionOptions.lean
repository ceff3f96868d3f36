import FlowDraft.Settings.Field

/-!
# `FlowDraft.Store.CollectionOptions`: where the indexed collection is kept

They are a `VectorStoreConfig`.
-/

set_option autoImplicit false

namespace FlowDraft

/-- The service that keeps the collection, and the name of the collection. -/
structure CollectionOptions where
  url : String := "http://localhost:6333"
  apiKey : Option String := none
  collection : String := "ai_workflow_examples"
deriving DecidableEq

namespace CollectionOptions

instance : Inhabited CollectionOptions := ⟨{}⟩

/-- The options that a document gives. -/
def ofJson (v : Json) : Settings.Checked CollectionOptions :=
  let defaults : CollectionOptions := {}
  let field {α : Type} (name : String) (default : α) := Settings.Checked.field v name default
  Settings.Checked.pure CollectionOptions.mk
  |>.apply (field "url" defaults.url Settings.text)
  |>.apply (field "api_key" defaults.apiKey Settings.text?)
  |>.apply (field "collection" defaults.collection Settings.text)

end CollectionOptions

end FlowDraft
