import FlowDraft.Model.Options
import FlowDraft.Retrieval.Options
import FlowDraft.Settings.Origins
import FlowDraft.Store.CollectionOptions
import FlowDraft.Text.Quoted

/-!
# `FlowDraft.Settings.Environment`: settings from the environment

Every setting has a variable. Variables that are not set leave the default. The first variable
that cannot be read is reported, before any bound is checked for the options it belongs to.

`ofEnvironment` is `Settings.from_env`.
-/

set_option autoImplicit false

namespace FlowDraft

/-- The variables that are set. -/
abbrev Environment := List (String × String)

/-- Everything that is set for a process. -/
structure Settings where
  models : ModelOptions := {}
  collection : CollectionOptions := {}
  retrieval : RetrievalOptions := {}
  allowedOrigins : List String := [Settings.everyOrigin]

namespace Settings

instance : Inhabited Settings := ⟨{}⟩

/-- Why settings are not read. -/
inductive SettingsError where
  /-- A variable should hold a whole number. -/
  | notWhole (entered : String)
  /-- A variable holds a whole number with too many digits. -/
  | oversized (digits : Nat)
  /-- A variable should hold a number. -/
  | notNumber (entered : String)
  /-- Options are out of bounds. -/
  | invalid (problems : Problems)

namespace SettingsError

/-- The most characters of an entered text that a message shows, quotes included. -/
def shownLength : Nat := 200

/-- What is reported for a variable that is not read. Options out of bounds are reported by their
problems instead. -/
def message? : SettingsError → Option String
  | notWhole entered =>
    some ("invalid literal for int() with base 10: " ++
      String.ofList ((Text.quoted entered).toList.take shownLength))
  | oversized digits => some (Decimal.oversizedMessage digits)
  | notNumber entered => some ("could not convert string to float: " ++ Text.quoted entered)
  | invalid _ => none

end SettingsError

/-- The names of the variables that are looked at. -/
def variableNames : List String :=
  ["OPENAI_API_KEY", "WORKFLOW_MODEL", "WORKFLOW_FALLBACK_MODEL",
   "WORKFLOW_SECONDARY_FALLBACK_MODEL", "EMBEDDING_MODEL", "MODEL_MAX_RETRIES",
   "MODEL_RETRY_BASE_DELAY", "QDRANT_URL", "QDRANT_API_KEY", "QDRANT_COLLECTION",
   "RETRIEVAL_TOP_K", "AI_WORKFLOW_ALLOWED_ORIGIN"]

/-- A setting that may be empty, which counts as not set. -/
def filledVariable? (env : Environment) (name : String) : Option String :=
  (env.lookup name).filter fun s => !s.isEmpty

/-- A setting that is a text. -/
def textVariable (env : Environment) (name default : String) : String :=
  (env.lookup name).getD default

/-- A setting that is a whole number. -/
def wholeVariable (env : Environment) (name : String) (default : Int) :
    Except SettingsError Int :=
  match env.lookup name with
  | none => .ok default
  | some entered =>
    (Decimal.Entered.toInt entered).mapError fun
      | .unreadable => .notWhole entered
      | .oversized digits => .oversized digits

/-- A setting that is a number. -/
def numberVariable (env : Environment) (name : String) (default : Float) :
    Except SettingsError Float :=
  match env.lookup name with
  | none => .ok default
  | some entered =>
    match Decimal.Entered.toFloat? entered with
    | some x => .ok x
    | none => .error (.notNumber entered)

/-- A checked value, with the name of the field that it is for. -/
def checked {α : Type} (name : String) (r : Except Problem α) : Checked α :=
  r.mapError fun problem => [(name, problem)]

/-- The models that the environment names. -/
def modelsOf (env : Environment) : Except SettingsError ModelOptions := do
  let defaults : ModelOptions := {}
  let tries ← wholeVariable env "MODEL_MAX_RETRIES" defaults.maxTries
  let delay ← numberVariable env "MODEL_RETRY_BASE_DELAY" defaults.baseDelay
  let bounds := Checked.pure Prod.mk
    |>.apply (checked "max_retries" (atLeastOne tries))
    |>.apply (checked "retry_base_delay_seconds" (atLeastZero delay))
  let (maxTries, baseDelay) ← bounds.mapError SettingsError.invalid
  pure
    { defaults with
      apiKey := filledVariable? env "OPENAI_API_KEY"
      primary := textVariable env "WORKFLOW_MODEL" defaults.primary
      fallback := (env.lookup "WORKFLOW_FALLBACK_MODEL").or defaults.fallback
      secondFallback :=
        (env.lookup "WORKFLOW_SECONDARY_FALLBACK_MODEL").or defaults.secondFallback
      embedding := textVariable env "EMBEDDING_MODEL" defaults.embedding
      maxTries
      baseDelay }

/-- The collection that the environment names. -/
def collectionOf (env : Environment) : CollectionOptions :=
  let defaults : CollectionOptions := {}
  { url := textVariable env "QDRANT_URL" defaults.url
    apiKey := filledVariable? env "QDRANT_API_KEY"
    collection := textVariable env "QDRANT_COLLECTION" defaults.collection }

/-- How the environment has references sought. -/
def retrievalOf (env : Environment) : Except SettingsError RetrievalOptions := do
  let defaults : RetrievalOptions := {}
  let topK ← wholeVariable env "RETRIEVAL_TOP_K" defaults.topK
  let topK ← (checked "top_k" (atLeastOne topK)).mapError SettingsError.invalid
  pure { defaults with topK }

/-- The settings that the environment gives. -/
def ofEnvironment (env : Environment) : Except SettingsError Settings := do
  let models ← modelsOf env
  let retrieval ← retrievalOf env
  pure
    { models
      collection := collectionOf env
      retrieval
      allowedOrigins := splitOrigins (textVariable env "AI_WORKFLOW_ALLOWED_ORIGIN" everyOrigin) }

end Settings

end FlowDraft
