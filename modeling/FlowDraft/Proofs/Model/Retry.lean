import FlowDraft.Proofs.Model.Chain

/-!
# `FlowDraft.Proofs.Model.Retry`: a chain that was not asked before

A fresh session has no clients and asked nothing. From it, what a stage does is a function of the
model alone: `stageResult` is what it comes to, and `stageCalls`, `stageAttempts` and `stageWaits`
are what it leaves in the log. The whole run is put together from them, for up to 1025 tries at
each model. With more of them a wait may be beyond the range of numbers, which is the
subject of `FlowDraft.Proofs.Model.Overflow`.
-/

set_option autoImplicit false

namespace FlowDraft.Model

/-- What a model answers that was not asked before. -/
def Service.script (service : Service) (model : String) : Script :=
  fun i => (service.answer model i).outcome

section
variable (service : Service) (options : ModelOptions) (q : Question) (model : String)

/-! ### A stage by itself -/

/-- The number of calls in the stage of a model: up to the first outcome that is no overload, or as
many as there are tries. There are none when the client cannot be built. -/
def stageCalls : Nat :=
  match service.build model 0 with
  | some _ => 0
  | none => (service.script model).calls options.maxTries

/-- What the stage of a model comes to. -/
def stageResult : Except StageFailure Letters :=
  match service.build model 0 with
  | some fault => .error (.failed model 0 fault false)
  | none =>
    match service.script model (stageCalls service options model - 1) with
    | .ok text => .ok text
    | .error fault =>
      .error (.failed model (stageCalls service options model) fault fault.isOverload)

/-- The tries in the stage of a model. A client that cannot be built counts as one, numbered
zero. -/
def stageAttempts : List Attempt :=
  match service.build model 0 with
  | some fault => [⟨model, 0, some fault.text⟩]
  | none =>
    (List.range (stageCalls service options model)).map fun i =>
      ⟨model, i + 1, errorText? (service.script model i)⟩

/-- The waits in the stage of a model: one between two tries, and each twice the one before. -/
def stageWaits : List Float :=
  (List.range (stageCalls service options model - 1)).map (backoff options.baseDelay)

/-- Everything that happens in the stage of a model, in order. -/
def stageEvents : List Event :=
  .built model (service.build model 0) ::
    match service.build model 0 with
    | some fault => [.attempted ⟨model, 0, some fault.text⟩]
    | none =>
      triesEvents options q model 0 0 (service.script model) (stageCalls service options model)

/-! ### The stage from a fresh session -/

theorem script_fresh (clock : Float) :
    ({ clock := clock } : Session).script service model = service.script model := by
  funext i
  simp [Session.script, Service.script]

theorem ending_of_le (h : (options.maxTries : Nat) ≤ maxDoublings + 2) (script : Script) :
    ending model options.maxTries (script.calls (tryBudget options))
        (script (script.calls (tryBudget options) - 1))
      = match script (script.calls options.maxTries - 1) with
        | .ok text => .ok text
        | .error fault =>
          .error (.stage
            (.failed model (script.calls options.maxTries) fault fault.isOverload)) := by
  have hbudget : tryBudget options = options.maxTries := Nat.min_eq_left h
  rw [hbudget]
  cases houtcome : script (script.calls options.maxTries - 1) with
  | ok text => rfl
  | error fault =>
    cases hfault : fault.isOverload with
    | false => simp [ending, hfault]
    | true =>
      have hbusy : script.busy (script.calls options.maxTries - 1) = true := by
        rw [Script.busy, houtcome]
        exact hfault
      have hall : script.calls options.maxTries = options.maxTries := Script.calls_eq_budget hbusy
      simp [ending, hfault, hall]

/-- From a fresh session, a stage is what it is by itself. -/
theorem stage_fresh (h : (options.maxTries : Nat) ≤ maxDoublings + 2) (clock : Float) :
    (stage service options q model { clock := clock }).value
        = (stageResult service options model).mapError .stage ∧
      (stage service options q model { clock := clock }).events
        = stageEvents service options q model := by
  let s : Session := { clock := clock }
  have hlookup : s.clients.lookup model = none := rfl
  cases hbuild : service.build model 0 with
  | some fault =>
    have hclient := Session.client_of_fault service model hlookup hbuild
    rw [stage_of_unbuilt service options q model
      (show (s.client service model).value = .error fault by rw [hclient]), hclient]
    simp [stageResult, stageEvents, hbuild, Except.mapError]
  | none =>
    have hclient := Session.client_of_new service model hlookup hbuild
    obtain ⟨_, hstage⟩ := stage_of_built service options q model 0
      (show (s.client service model).value = .ok 0 by rw [hclient]; rfl)
    rw [hstage, hclient, script_fresh]
    constructor
    · simp only [ending_of_le options model h, stageResult, stageCalls, hbuild]
      cases service.script model ((service.script model).calls options.maxTries - 1) <;> rfl
    · simp only [stageEvents, stageCalls, hbuild, tryBudget, Nat.min_eq_left h]
      rfl

/-- From a fresh session, the models that are asked are those up to the first one that answers. -/
theorem asked_fresh (h : (options.maxTries : Nat) ≤ maxDoublings + 2) (clock : Float)
    (models : List String) :
    asked service options q { clock := clock } models
      = untilFirst (fun m => !(stageResult service options m).isOk) models :=
  untilFirst_congr fun m _ => by
    rw [stageFails, (stage_fresh service options q m h clock).1]
    cases stageResult service options m <;> rfl

/-! ### The logs of a stage -/

theorem filterMap_triesEvents {α : Type} (f : Event → Option α) (client doublings : Nat)
    (script : Script) (n : Nat) :
    (triesEvents options q model client doublings script n).filterMap f
      = (List.range n).flatMap fun i =>
          (tryEvents q model client (doublings + i + 1) (script i)).filterMap f ++
            if i + 1 < n then (waitEvents options model (doublings + i + 1)).filterMap f
            else [] := by
  rw [triesEvents, List.filterMap_flatMap]
  refine List.flatMap_congr fun i _ => ?_
  rw [List.filterMap_append]
  split <;> rfl

/-- Something between two of `n` tries happens `n - 1` times. -/
theorem flatMap_range_between {α : Type} (g : Nat → α) (n : Nat) :
    ((List.range n).flatMap fun i => if i + 1 < n then [g i] else [])
      = (List.range (n - 1)).map g := by
  cases n with
  | zero => rfl
  | succ n =>
    have hbetween : ∀ i ∈ List.range n, (if i + 1 < n + 1 then [g i] else []) = [g i] :=
      fun i hi => if_pos (Nat.succ_lt_succ (List.mem_range.1 hi))
    rw [List.range_succ, List.flatMap_append, List.flatMap_congr hbetween, ← List.map_eq_flatMap]
    simp

theorem builds_triesEvents (client doublings : Nat) (script : Script) (n : Nat) :
    Event.builds (triesEvents options q model client doublings script n) = [] := by
  rw [Event.builds, filterMap_triesEvents]
  simp [tryEvents, waitEvents, overloadedLine, Event.log]

theorem calls_triesEvents (client doublings : Nat) (script : Script) (n : Nat) :
    Event.calls (triesEvents options q model client doublings script n)
      = List.replicate n ⟨model, client, q.instruction, q.prompt⟩ := by
  have hreplicate : ∀ call : Call,
      List.replicate n call = (List.range n).flatMap fun _ => [call] := fun call => by
    rw [← List.map_eq_flatMap, List.map_const', List.length_range]
  rw [Event.calls, filterMap_triesEvents, hreplicate]
  simp [tryEvents, waitEvents, overloadedLine, Event.log]

theorem attempts_triesEvents (client doublings : Nat) (script : Script) (n : Nat) :
    Event.attempts (triesEvents options q model client doublings script n)
      = (List.range n).map fun i => ⟨model, doublings + i + 1, errorText? (script i)⟩ := by
  rw [Event.attempts, filterMap_triesEvents, List.map_eq_flatMap]
  simp [tryEvents, waitEvents, overloadedLine, Event.log]

theorem waits_triesEvents (client doublings : Nat) (script : Script) (n : Nat) :
    Event.waits (triesEvents options q model client doublings script n)
      = (List.range (n - 1)).map fun i => backoff options.baseDelay (doublings + i) := by
  rw [Event.waits, filterMap_triesEvents, ← flatMap_range_between]
  simp [tryEvents, waitEvents, overloadedLine, Event.log]

theorem builds_stageEvents : Event.builds (stageEvents service options q model) = [model] := by
  rw [Event.builds, stageEvents]
  cases service.build model 0 with
  | some fault => rfl
  | none => exact congrArg _ (builds_triesEvents options q model 0 0 _ _)

theorem calls_stageEvents :
    Event.calls (stageEvents service options q model)
      = List.replicate (stageCalls service options model) ⟨model, 0, q.instruction, q.prompt⟩ := by
  rw [Event.calls, stageEvents, stageCalls]
  cases service.build model 0 with
  | some fault => rfl
  | none => exact calls_triesEvents options q model 0 0 _ _

theorem attempts_stageEvents :
    Event.attempts (stageEvents service options q model)
      = stageAttempts service options model := by
  rw [Event.attempts, stageEvents, stageAttempts]
  cases service.build model 0 with
  | some fault => rfl
  | none =>
    refine (attempts_triesEvents options q model 0 0 _ _).trans ?_
    simp only [Nat.zero_add]

theorem waits_stageEvents :
    Event.waits (stageEvents service options q model) = stageWaits service options model := by
  rw [Event.waits, stageEvents, stageWaits]
  cases hbuild : service.build model 0 with
  | some fault => simp [stageCalls, hbuild]
  | none =>
    refine (waits_triesEvents options q model 0 0 _ _).trans ?_
    simp only [Nat.zero_add]

end

/-! ### The run of the chain -/

theorem filterMap_verdict {α : Type} {f : Event → Option α} (model : String)
    (h : ∀ line, f (.logged line) = none)
    (result : Except InvokeError Letters) : (verdict model result).filterMap f = [] := by
  cases result with
  | ok text => simp [verdict, answeredLine, Event.log, h]
  | error e =>
    cases e with
    | stage failure => simp [verdict, failedLine, Event.log, h]
    | waitOverflow => rfl

/-- **A run of the chain from a fresh session.** The chain holds the names that are not empty, each
of them once. The models are asked in its order, up to the first one whose stage comes to a text;
what happens is what happens in their stages, with a line of the log behind each, and the value is
that of the last stage. Clients are built for these models only, and calls, waits and tries are
those of their stages. -/
theorem askChain_fresh (service : Service) (options : ModelOptions) (q : Question) (clock : Float)
    (h : (options.maxTries : Nat) ≤ 1025) :
    let r := askChain service options q { clock := clock }
    let result := stageResult service options
    let asked := untilFirst (fun m => !(result m).isOk) options.chain
    options.chain = (options.named.filter fun m => !m.isEmpty).eraseDups ∧
      r.value = (((asked.map result).getLast?).getD
        (.error (.noModels options.primary))).mapError .stage ∧
      r.events = asked.flatMap (fun m =>
        stageEvents service options q m ++ verdict m ((result m).mapError .stage)) ∧
      Event.builds r.events = asked ∧
      Event.calls r.events = asked.flatMap (fun m =>
        List.replicate (stageCalls service options m) ⟨m, 0, q.instruction, q.prompt⟩) ∧
      Event.waits r.events = asked.flatMap (stageWaits service options) ∧
      Event.attempts r.events = asked.flatMap (stageAttempts service options) := by
  intro r result asked
  obtain ⟨hevents, hvalue⟩ := stages_eq service options q options.chain_nodup
    (.noModels options.primary) { clock := clock }
  rw [asked_fresh service options q h] at hevents hvalue
  have hr : r.events = asked.flatMap fun m =>
      stageEvents service options q m ++ verdict m ((result m).mapError .stage) :=
    hevents.trans <| List.flatMap_congr fun m _ => by
      rw [turn, (stage_fresh service options q m h clock).1,
        (stage_fresh service options q m h clock).2]
  -- A projection of the log of the run is made of those of the stages.
  have hlog : ∀ {α : Type} (f : Event → Option α), (∀ line, f (.logged line) = none) →
      r.events.filterMap f
        = asked.flatMap fun m => (stageEvents service options q m).filterMap f :=
    fun f hf => by
      rw [hr, List.filterMap_flatMap]
      exact List.flatMap_congr fun m _ => by
        rw [List.filterMap_append, filterMap_verdict m hf, List.append_nil]
  refine ⟨options.chain_eq, ?_, hr, ?_, ?_, ?_, ?_⟩
  · have hmap : (asked.map fun m => (stage service options q m { clock := clock }).value)
        = (asked.map result).map (Except.mapError .stage) := by
      rw [List.map_map]
      exact List.map_congr_left fun m _ => (stage_fresh service options q m h clock).1
    refine hvalue.trans ?_
    rw [hmap, List.getLast?_map]
    exact Option.getD_map (Except.mapError InvokeError.stage)
      (.error (StageFailure.noModels options.primary)) _
  · refine (hlog _ fun _ => rfl).trans ?_
    have hbuilds : asked.flatMap (fun m => Event.builds (stageEvents service options q m))
        = asked.flatMap fun m => [m] :=
      List.flatMap_congr fun m _ => builds_stageEvents service options q m
    exact hbuilds.trans (List.flatMap_singleton' asked)
  · exact (hlog _ fun _ => rfl).trans <|
      List.flatMap_congr fun m _ => calls_stageEvents service options q m
  · exact (hlog _ fun _ => rfl).trans <|
      List.flatMap_congr fun m _ => waits_stageEvents service options q m
  · exact (hlog _ fun _ => rfl).trans <|
      List.flatMap_congr fun m _ => attempts_stageEvents service options q m

/-- A run with two overloads and a bad key at the first model, no client for the second one, and an
answer of the third one. -/
theorem askChain_fresh_third_answers :
    let service : Service :=
      { build := fun model _ =>
          if model = "gpt-4.1-mini" then some ⟨.missing, "gpt-4.1-mini", []⟩ else none
        answer := fun model i =>
          if model = "gpt-4o-mini" then ⟨.ok "draft", 1.0⟩
          else if i < 2 then ⟨.error ⟨.other, "busy", [.int 429]⟩, 1.0⟩
          else ⟨.error ⟨.value, "bad key", []⟩, 1.0⟩ }
    let options : ModelOptions := { maxTries := 5 }
    let r := askChain service options ⟨"instruction", "prompt"⟩ { clock := 0.0 }
    (options.maxTries : Nat) ≤ 1025 ∧ r.value = .ok "draft" ∧
      Event.builds r.events = ["gpt-4.1", "gpt-4.1-mini", "gpt-4o-mini"] ∧
      Event.waits r.events = [backoff 1.0 0, backoff 1.0 1] ∧
      Event.attempts r.events
        = [⟨"gpt-4.1", 1, some "busy"⟩, ⟨"gpt-4.1", 2, some "busy"⟩,
           ⟨"gpt-4.1", 3, some "bad key"⟩, ⟨"gpt-4.1-mini", 0, some "'gpt-4.1-mini'"⟩,
           ⟨"gpt-4o-mini", 1, none⟩] := by
  intro service options r
  have hmax : (options.maxTries : Nat) ≤ 1025 := by decide
  obtain ⟨-, hvalue, -, hbuilds, -, hwaits, hattempts⟩ :=
    askChain_fresh service options ⟨"instruction", "prompt"⟩ 0.0 hmax
  exact ⟨hmax, hvalue.trans rfl, hbuilds.trans rfl, hwaits.trans rfl, hattempts.trans rfl⟩

end FlowDraft.Model
