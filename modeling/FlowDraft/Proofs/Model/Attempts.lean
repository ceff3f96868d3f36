import FlowDraft.Proofs.Model.Retry

/-!
# `FlowDraft.Proofs.Model.Attempts`: every asking is a try

What happens while the models are asked is put down as tries. `askChain_attempts` says that nothing
is left out and nothing is added: from any session on, there is one try for each call and for each
client that could not be built, in the order in which these happened. `askChain_calls` says what
the models are called with.
-/

set_option autoImplicit false

namespace FlowDraft.Model

/-- The event is a call of a model, or a client of a model could not be built. The truth value tells
whether it is a call. -/
def Event.asking? : Event → Option (String × Bool)
  | .called call => some (call.model, true)
  | .built model (some _) => some (model, false)
  | _ => none

/-- The askings of models, in order. -/
def Event.askings (events : List Event) : List (String × Bool) :=
  events.filterMap Event.asking?

/-- A try as an asking: only a call has a number above zero. -/
def Attempt.asking (a : Attempt) : String × Bool :=
  (a.model, 0 < a.number)

section
variable (service : Service) (options : ModelOptions) (q : Question) (model : String)

/-- The tries at a model that has a client are its calls. -/
theorem askings_triesEvents (client doublings : Nat) (script : Script) (n : Nat) :
    Event.askings (triesEvents options q model client doublings script n)
      = (Event.attempts (triesEvents options q model client doublings script n)).map
          Attempt.asking := by
  rw [attempts_triesEvents, Event.askings, filterMap_triesEvents, List.map_map, List.map_eq_flatMap]
  refine List.flatMap_congr fun i _ => ?_
  -- A wait between two tries is neither.
  split <;> rfl

/-- A client that is there or could be built is no asking, and a client is no try and no call. -/
theorem Session.client_events (s : Session) :
    Event.attempts (s.client service model).events = [] ∧
      Event.calls (s.client service model).events = [] ∧
      Event.askings (s.client service model).events
        = match (s.client service model).value with
          | .ok _ => []
          | .error _ => [(model, false)] := by
  cases hlookup : s.clients.lookup model with
  | some number =>
    rw [client_of_known service model hlookup]
    exact ⟨rfl, rfl, rfl⟩
  | none =>
    cases hbuild : service.build model (s.builds.count model) with
    | some fault =>
      rw [client_of_fault service model hlookup hbuild]
      exact ⟨rfl, rfl, rfl⟩
    | none =>
      rw [client_of_new service model hlookup hbuild]
      exact ⟨rfl, rfl, rfl⟩

/-- The tries of a stage are its askings, and its calls are made with the question. -/
theorem stage_attempts (s : Session) :
    Event.askings (stage service options q model s).events
        = (Event.attempts (stage service options q model s).events).map Attempt.asking ∧
      ∀ call ∈ Event.calls (stage service options q model s).events,
        call.instruction = q.instruction ∧ call.prompt = q.prompt := by
  obtain ⟨hattempts, hcalls, haskings⟩ := s.client_events service model
  cases hclient : (s.client service model).value with
  | error fault =>
    rw [hclient] at haskings
    rw [stage_of_unbuilt service options q model hclient]
    simp only [Event.askings, Event.attempts, Event.calls, List.filterMap_append] at *
    rw [haskings, hattempts, hcalls]
    exact ⟨rfl, fun call h => absurd h List.not_mem_nil⟩
  | ok client =>
    rw [hclient] at haskings
    obtain ⟨_, hstage⟩ := stage_of_built service options q model client hclient
    have htries := askings_triesEvents options q model client 0 (s.script service model)
      ((s.script service model).calls (tryBudget options))
    have hcalled := calls_triesEvents options q model client 0 (s.script service model)
      ((s.script service model).calls (tryBudget options))
    rw [hstage]
    simp only [Event.askings, Event.attempts, Event.calls, List.filterMap_append] at *
    rw [haskings, hattempts, hcalls, hcalled, List.nil_append, List.nil_append]
    refine ⟨htries, ?_⟩
    intro call hcall
    rw [List.eq_of_mem_replicate hcall]
    exact ⟨rfl, rfl⟩

/-- **Nothing that was asked is left out of the tries.** They are the calls and the clients that
could not be built, in order. -/
theorem askChain_attempts (s : Session) :
    (Event.attempts (askChain service options q s).events).map Attempt.asking
      = Event.askings (askChain service options q s).events := by
  rw [askChain, (stages_eq service options q options.chain_nodup _ s).1, Event.attempts,
    Event.askings, List.filterMap_flatMap, List.filterMap_flatMap, List.map_flatMap]
  refine List.flatMap_congr fun m _ => ?_
  rw [turn, List.filterMap_append, List.filterMap_append, filterMap_verdict m fun _ => rfl,
    filterMap_verdict m fun _ => rfl, List.append_nil, List.append_nil]
  exact (stage_attempts service options q m s).1.symm

/-- Every call is made with the question. -/
theorem askChain_calls (s : Session) {call : Call}
    (h : call ∈ Event.calls (askChain service options q s).events) :
    call.instruction = q.instruction ∧ call.prompt = q.prompt := by
  rw [askChain, (stages_eq service options q options.chain_nodup _ s).1, Event.calls,
    List.filterMap_flatMap, List.mem_flatMap] at h
  obtain ⟨m, -, hm⟩ := h
  rw [turn, List.filterMap_append, filterMap_verdict m fun _ => rfl, List.append_nil] at hm
  exact (stage_attempts service options q m s).2 call hm

end

end FlowDraft.Model
