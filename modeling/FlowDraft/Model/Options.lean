import FlowDraft.Settings.Field

/-!
# `FlowDraft.Model.Options`: which models are asked, and how often

Up to three models are asked in turn: a primary one, a fallback and a second fallback. Each has
the same number of tries, and the wait between two tries doubles from `baseDelay` on.

`ModelOptions` is `ModelConfig`, and `chain` is `model_chain`.
-/

set_option autoImplicit false

namespace FlowDraft

/-- The models and their retry policy. -/
structure ModelOptions where
  apiKey : Option String := none
  primary : String := "gpt-4.1"
  fallback : Option String := some "gpt-4.1-mini"
  secondFallback : Option String := some "gpt-4o-mini"
  embedding : String := "text-embedding-3-small"
  temperature : Float := 0.2
  maxTries : Settings.Positive := 3
  /-- The seconds before the second try. -/
  baseDelay : Float := 1.0

namespace ModelOptions

instance : Inhabited ModelOptions := ⟨{}⟩

/-- The models without empty names and without repeats, in the order in which they are asked. -/
def chain (o : ModelOptions) : List String :=
  (([some o.primary, o.fallback, o.secondFallback].filterMap id).filter
    fun m => !m.isEmpty).foldl (fun chain m => if m ∈ chain then chain else chain ++ [m]) []

/-- The key that the models are asked with, unless it is empty. -/
def apiKey? (o : ModelOptions) : Option String :=
  o.apiKey.filter fun k => !k.isEmpty

/-- The options that a document gives. -/
def ofJson (v : Json) : Settings.Checked ModelOptions :=
  let defaults : ModelOptions := {}
  let field {α : Type} (name : String) (default : α) := Settings.Checked.field v name default
  Settings.Checked.pure ModelOptions.mk
  |>.apply (field "api_key" defaults.apiKey Settings.text?)
  |>.apply (field "primary_model" defaults.primary Settings.text)
  |>.apply (field "fallback_model" defaults.fallback Settings.text?)
  |>.apply (field "secondary_fallback_model" defaults.secondFallback Settings.text?)
  |>.apply (field "embedding_model" defaults.embedding Settings.text)
  |>.apply (field "temperature" defaults.temperature Settings.upToTwo)
  |>.apply (field "max_retries" defaults.maxTries Settings.positive)
  |>.apply (field "retry_base_delay_seconds" defaults.baseDelay Settings.nonNegative)

end ModelOptions

end FlowDraft
