import FlowDraft.Example.Rank
import FlowDraft.Settings.Field

/-!
# `FlowDraft.Retrieval.Options`: how many references are sought, and how they are ranked

They are a `RetrievalConfig`.
-/

set_option autoImplicit false

namespace FlowDraft

/-- How references are sought. -/
structure RetrievalOptions where
  /-- The number of references in a prompt. -/
  topK : Settings.Positive := 3
  /-- How many documents are sought for each reference. -/
  oversampling : Settings.Positive := 3
  weights : Weights Float := Weights.standard

namespace RetrievalOptions

instance : Inhabited RetrievalOptions := ⟨{}⟩

/-- The options that a document gives. -/
def ofJson (v : Json) : Settings.Checked RetrievalOptions :=
  let defaults : RetrievalOptions := {}
  let field {α : Type} (name : String) (default : α) := Settings.Checked.field v name default
  let weight (name : String) (default : Float) := field name default Settings.nonNegative
  let weights := Settings.Checked.pure Weights.mk
    |>.apply (weight "industry_weight" defaults.weights.industry)
    |>.apply (weight "domain_weight" defaults.weights.domain)
    |>.apply (weight "channel_weight" defaults.weights.channel)
    |>.apply (weight "trigger_weight" defaults.weights.trigger)
  Settings.Checked.pure RetrievalOptions.mk
  |>.apply (field "top_k" defaults.topK Settings.positive)
  |>.apply (field "oversample_factor" defaults.oversampling Settings.positive)
  |>.apply weights

end RetrievalOptions

end FlowDraft
