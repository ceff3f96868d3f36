import FlowDraft.Log
import FlowDraft.Sample.Bundled
import FlowDraft.Seed.Arguments
import FlowDraft.Seed.Basic
import FlowDraft.Settings.Environment
import FlowDraft.Store.Collection

/-!
# `FlowDraft.Seed.Command`: the command that indexes samples

The command reads its arguments and the settings, loads samples, and puts them into the collection
or, as a rehearsal, into memory. Whatever goes wrong behind the settings is logged as a failure.

`run` is `main` in the seeding command.
-/

set_option autoImplicit false

namespace FlowDraft.Seed

/-- How the command ends. -/
inductive Ending where
  /-- So many samples were indexed, in memory or in the collection of that name. -/
  | seeded (count : Nat) (collection : Option String)
  /-- The samples could not be loaded, or not be indexed. -/
  | failed
  | refused (refusal : Refusal)
  /-- The settings could not be read. -/
  | misconfigured (error : Settings.SettingsError)

namespace Ending

/-- Where samples were put. -/
def target : Option String → String
  | none => "in-memory store"
  | some name => "collection \"" ++ name ++ "\""

/-- What is logged in the end. -/
def lines : Ending → List LogLine
  | seeded count collection =>
    [⟨.info, "Seeded " ++ toString count ++ " workflow example(s) into " ++ target collection⟩]
  | failed => [⟨.error, "Seeding failed"⟩]
  | refused _ | misconfigured _ => []

/-- The code that the process ends with. -/
def exitCode : Ending → Nat
  | seeded .. => 0
  | failed | misconfigured _ => 1
  | refused .help => 0
  | refused .usage => 2

end Ending

/-- How the command ended, and what the services behind the collection were asked for. -/
structure Outcome where
  ending : Ending
  calls : List Collection.Call := []

/-- The samples that an order asks for: those in the text of its file, or the bundled ones. -/
def samplesOf (order : Order) (content : Option String) : Except LoadError (List Sample) :=
  match order.origin, content with
  | .bundled, _ => .ok Sample.bundled
  | .file name, some text => Sample.load name text
  | .file _, none | .nameless, _ => .error .missingFile

/-- Samples put into memory. -/
def rehearse (samples : List Sample) : Outcome :=
  match (default : MemoryStore).seed true samples with
  | (_, none) => ⟨.seeded samples.length none, []⟩
  | (_, some _) => ⟨.failed, []⟩

/-- Samples put into the collection, if it can be reached. -/
def store (reachable : Bool) (settings : Settings) (samples : List Sample) : Outcome :=
  if reachable then
    ⟨.seeded samples.length (some settings.collection.collection),
      Collection.opening settings.collection settings.models ++
        Collection.seeding settings.collection true (samples.map Sample.toDocument)⟩
  else ⟨.failed, []⟩

/-- An order carried out, with the text of its file if that can be read. -/
def carryOut (reachable : Bool) (env : Environment) (content : Option String) (order : Order) :
    Outcome :=
  match Settings.ofEnvironment env with
  | .error e => ⟨.misconfigured e, []⟩
  | .ok settings =>
    match samplesOf order content with
    | .error _ => ⟨.failed, []⟩
    | .ok samples => if order.inMemory then rehearse samples else store reachable settings samples

/-- The command, with the files that can be read. -/
def run (reachable : Bool) (env : Environment) (files : String → Option String)
    (arguments : List String) : Outcome :=
  match readArguments arguments with
  | .error refusal => ⟨.refused refusal, []⟩
  | .ok order => carryOut reachable env (order.fileName?.bind files) order

end FlowDraft.Seed
