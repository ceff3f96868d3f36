import FlowDraft.Decimal.Fixed
import FlowDraft.Model.Options
import FlowDraft.Model.Service

/-!
# `FlowDraft.Model.Invoke`: asking models until one answers

Each model of the chain is tried up to a number of times. Only a service with too much to do is
tried again, after a wait that doubles from try to try; any other fault ends the stage of that
model at once. When a stage fails the next model has its turn. The chain is gone through once.

`stage` is `ModelInvoker.invoke`, and `askChain` is `ModelInvoker.invoke_with_fallback`.
-/

set_option autoImplicit false

namespace FlowDraft.Model

/-- Why a model, or the whole chain, gave no text. -/
inductive StageFailure where
  /-- The tries of a model were used up, or another one was not worth it. -/
  | failed (model : String) (tries : Nat) (cause : Fault) (worthRetry : Bool)
  /-- The chain has no models. -/
  | noModels (primary : String)

namespace StageFailure

/-- The model that failed. -/
def model : StageFailure → String
  | failed model .. => model
  | noModels primary => primary

/-- How often the model was called. -/
def tries : StageFailure → Nat
  | failed _ tries .. => tries
  | noModels _ => 0

/-- The fault behind the failure. -/
def cause : StageFailure → Fault
  | failed _ _ cause _ => cause
  | noModels _ => ⟨.runtime, "no models configured", []⟩

/-- The last fault was worth another try. -/
def worthRetry : StageFailure → Bool
  | failed _ _ _ worthRetry => worthRetry
  | noModels _ => false

/-- The failure came of a fault of a model. -/
def fromFault : StageFailure → Bool
  | failed .. => true
  | noModels _ => false

/-- What is reported. -/
def message (f : StageFailure) : String :=
  "Model " ++ f.model ++ " failed after " ++ toString f.tries ++ " attempt(s) (" ++
    (if f.worthRetry then "retries exhausted" else "non-retryable error") ++ "): " ++ f.cause.text

end StageFailure

/-- Why there is no text. -/
inductive InvokeError where
  | stage (failure : StageFailure)
  /-- The wait before the next try is beyond the range of numbers. -/
  | waitOverflow

/-- The most doublings of a wait: one more is beyond the range of binary64 numbers. -/
def maxDoublings : Nat := 1023

/-- The wait after a number of doublings. -/
def wait? (base : Float) (doublings : Nat) : Option Float :=
  if doublings ≤ maxDoublings then some (base * Float.ofNat (1 <<< doublings)) else none

/-- The prompt with the instruction that goes with it. -/
structure Question where
  instruction : String
  prompt : String

/-- What is logged before a wait. -/
def overloadedLine (model : String) (number maxTries : Nat) (wait : Float) : Event :=
  .log .warning ("Model " ++ model ++ " overloaded (attempt " ++ toString number ++ "/" ++
    toString maxTries ++ "), retrying in " ++ String.ofList (Decimal.fixed 2 wait) ++ "s")

/-- What is logged when a model failed. -/
def failedLine (model : String) (failure : StageFailure) : Event :=
  .log .warning ("Model " ++ model ++ " failed, trying next fallback: " ++ failure.message)

/-- What is logged when a model answered. -/
def answeredLine (model : String) : Event :=
  .log .info ("Workflow generated with model " ++ model)

/-- The tries at a model from the one numbered `number` on, with `left` more of them after it. -/
def tries (service : Service) (options : ModelOptions) (q : Question) (model : String)
    (client : Nat) : (left number : Nat) → Session → Run (Except InvokeError Letters)
  | left, number, s =>
    let r := s.call service ⟨model, client, q.instruction, q.prompt⟩
    match r.value with
    | .ok text => ⟨.ok text, r.events ++ [.attempted ⟨model, number, none⟩], r.session⟩
    | .error fault =>
      let events := r.events ++ [.attempted ⟨model, number, some fault.text⟩]
      let failure := StageFailure.failed model number fault
      -- Any fault other than an overload ends the stage, whatever is left.
      if !fault.isOverload then ⟨.error (.stage (failure false)), events, r.session⟩
      else
        match left with
        -- The last try is not followed by a wait.
        | 0 => ⟨.error (.stage (failure true)), events, r.session⟩
        | left + 1 =>
          match wait? options.baseDelay (number - 1) with
          | none => ⟨.error .waitOverflow, events, r.session⟩
          | some wait =>
            (tries service options q model client left (number + 1)
              { r.session with clock := r.session.clock + wait }).after
              (events ++ [overloadedLine model number options.maxTries wait, .waited wait])

/-- The stage of a model: its client, and then its tries. -/
def stage (service : Service) (options : ModelOptions) (q : Question) (model : String)
    (s : Session) : Run (Except InvokeError Letters) :=
  let r := s.client service model
  match r.value with
  | .error fault =>
    ⟨.error (.stage (.failed model 0 fault false)),
      r.events ++ [.attempted ⟨model, 0, some fault.text⟩], r.session⟩
  | .ok client =>
    (tries service options q model client (options.maxTries - 1) 1 r.session).after r.events

/-- The stages of models in turn. When none of them answers, the last failure counts; before the
first stage that is `last`. -/
def stages (service : Service) (options : ModelOptions) (q : Question) :
    (last : StageFailure) → List String → Session → Run (Except InvokeError Letters)
  | last, [], s => ⟨.error (.stage last), [], s⟩
  | _, model :: models, s =>
    let r := stage service options q model s
    match r.value with
    | .ok text => ⟨.ok text, r.events ++ [answeredLine model], r.session⟩
    | .error .waitOverflow => ⟨.error .waitOverflow, r.events, r.session⟩
    | .error (.stage failure) =>
      (stages service options q failure models r.session).after
        (r.events ++ [failedLine model failure])

/-- The text that the chain gives. -/
def askChain (service : Service) (options : ModelOptions) (q : Question) (s : Session) :
    Run (Except InvokeError Letters) :=
  stages service options q (.noModels options.primary) options.chain s

/-- The text that one model gives: the primary one, unless another one is named. -/
def askOne (service : Service) (options : ModelOptions) (q : Question) (named : Option String)
    (s : Session) : Run (Except InvokeError Letters) :=
  stage service options q ((named.filter fun m => !m.isEmpty).getD options.primary) s

end FlowDraft.Model
