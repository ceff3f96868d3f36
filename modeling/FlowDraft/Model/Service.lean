import FlowDraft.Fault
import FlowDraft.Log
import FlowDraft.Text.Letter

/-!
# `FlowDraft.Model.Service`: models, and what happens with them

A service builds a client for a model and answers calls. What it does may differ from one time to
the next, so it is a function of how often it was asked before. A session keeps the clients that
were built, counts what the service was asked, and tells the time. Everything that happens is kept
as a list of events.

`Session.client` is `ModelInvoker._generator`, and an `Attempt` is a `ModelAttempt`.
-/

set_option autoImplicit false

namespace FlowDraft.Model

/-- What comes of a call, and how many seconds it takes. -/
structure Answer where
  outcome : Except Fault Letters
  seconds : Float := 0.0

/-- What models do. -/
structure Service where
  /-- What goes wrong when a client for the model is built for the `n`-th time, if anything. -/
  build : String → Nat → Option Fault
  /-- What the model answers when it is called for the `n`-th time. -/
  answer : String → Nat → Answer

/-- A call of a model. The client is told apart by which build it came from. -/
structure Call where
  model : String
  client : Nat
  instruction : String
  prompt : String
deriving DecidableEq, Repr

/-- A try at a model. The number is zero when no client could be built. -/
structure Attempt where
  model : String
  number : Nat
  error : Option String
deriving DecidableEq, Repr

/-- Something that happened. -/
inductive Event where
  /-- A client was built, or could not be. -/
  | built (model : String) (fault : Option Fault)
  | called (call : Call)
  | attempted (attempt : Attempt)
  | waited (seconds : Float)
  /-- Documents were sought, so many of them. -/
  | sought (count : Int)
  | logged (line : LogLine)

namespace Event

/-- The models that clients were built for, in order, also where that failed. -/
def builds (events : List Event) : List String :=
  events.filterMap fun | .built model _ => some model | _ => none

/-- The calls, in order. -/
def calls (events : List Event) : List Call :=
  events.filterMap fun | .called call => some call | _ => none

/-- The tries, in order. -/
def attempts (events : List Event) : List Attempt :=
  events.filterMap fun | .attempted attempt => some attempt | _ => none

/-- The waits, in order. -/
def waits (events : List Event) : List Float :=
  events.filterMap fun | .waited seconds => some seconds | _ => none

/-- The counts of documents that were sought, in order. -/
def searches (events : List Event) : List Int :=
  events.filterMap fun | .sought count => some count | _ => none

/-- The lines of the log, in order. -/
def lines (events : List Event) : List LogLine :=
  events.filterMap fun | .logged line => some line | _ => none

/-- A line of the log. -/
def log (level : LogLevel) (text : String) : Event :=
  .logged ⟨level, text⟩

end Event

/-- The clients that were built, what the service was asked so far, and the time. -/
structure Session where
  /-- Each model with the number of the build that its client came from. -/
  clients : List (String × Nat) := []
  /-- The models that clients were built for, latest first. -/
  builds : List String := []
  /-- The models that were called, latest first. -/
  calls : List String := []
  clock : Float := 0.0

instance : Inhabited Session := ⟨{}⟩

/-- The value of something that was done, what happened meanwhile, and the session afterwards. -/
structure Run (α : Type) where
  value : α
  events : List Event
  session : Session

namespace Run

/-- The run after the events that came before it. -/
def after {α : Type} (r : Run α) (events : List Event) : Run α :=
  { r with events := events ++ r.events }

end Run

namespace Session

/-- The client of a model: the one in the session, or else a new one. A client that cannot be built
leaves nothing behind, so the next time is a new try. -/
def client (service : Service) (s : Session) (model : String) : Run (Except Fault Nat) :=
  match s.clients.lookup model with
  | some number => ⟨.ok number, [], s⟩
  | none =>
    let number := s.builds.count model
    let s := { s with builds := model :: s.builds }
    match service.build model number with
    | some fault => ⟨.error fault, [.built model (some fault)], s⟩
    | none => ⟨.ok number, [.built model none], { s with clients := (model, number) :: s.clients }⟩

/-- The answer to a call, and the session after it. -/
def call (service : Service) (s : Session) (c : Call) : Run (Except Fault Letters) :=
  let answer := service.answer c.model (s.calls.count c.model)
  ⟨answer.outcome, [.called c],
    { s with calls := c.model :: s.calls, clock := s.clock + answer.seconds }⟩

end Session

end FlowDraft.Model
