import FlowDraft.Proofs.Draft.Outcome

/-!
# `FlowDraft.Proofs.Draft.Fallbacks`: answers of models that were not asked first

A trace counts as a fallback when its tries name more than one model. The first model of the chain
is asked first, and every model that failed left a try, so these are the requests that a model other
than the first one answered (`Answered.fellBack_record`). `fallbacks_of_calls` says it of a store
that drafters share, and also what the tries of every trace in it look like.
-/

set_option autoImplicit false

namespace FlowDraft

open Model Trace

/-- The models of a request, in the order in which they are asked. -/
def DraftCall.models (c : DraftCall) : List String :=
  c.drafter.models.elim [] (·.chain)

/-- The model that answered: the one that was called last. -/
def Answered.model? (a : Answered) : Option String :=
  (Event.calls a.drafted.events).getLast?.map (·.model)

/-- The tries of an answered request are told in order: those of the models before the one that
answered, and then its own ones, of which the last one is the call that it answered. -/
structure Answered.TriesInOrder (a : Answered) (before : List String) (model : String)
    (after : List String) (errors : Nat) : Prop where
  models : a.call.models = before ++ model :: after
  nodup : a.call.models.Nodup
  tries : ChainTries before model errors a.record.attempts
  last : a.model? = some model
  answer : (a.call.drafter.service.answer model
    (a.call.session.calls.count model + errors)).outcome = .ok a.suggestion.rawText

/-- An answered request has models that gave the text of its suggestion. -/
theorem DraftCall.exists_text_of_outcome (c : DraftCall) {store : Store} {s : Suggestion}
    (hcapacity : 0 ≤ store.capacity) (hs : (c.run store).outcome = .ok s) :
    ∃ options, c.drafter.models = some options ∧ c.prompt ≠ "" ∧
      (c.chain options).value = .ok s.rawText := by
  -- Each reason to fail rules out an answer, so the cases that are reasons are none.
  have hnone : ∀ e, ¬ c.Fails e := fun e he => by
    cases (c.run_of_fails store he).1.symm.trans hs
  cases hmodels : c.drafter.models with
  | none => exact absurd (.notConfigured hmodels) (hnone _)
  | some options =>
    have hprompt : c.prompt ≠ "" := fun hblank => hnone _ (.promptRequired hmodels hblank)
    cases hchain : (c.chain options).value with
    | error e => exact absurd (.chain hmodels hprompt hchain) (hnone _)
    | ok raw =>
      have hout := c.outcome_of_text hmodels hprompt hchain hcapacity
      obtain rfl := Except.ok.inj (hs.symm.trans hout)
      have hraw := Suggestion.rawText_parseFrom c.drafter.conditionNames c.conditionsNamed raw
      exact ⟨options, rfl, hprompt, hchain.trans (congrArg _ hraw.symm)⟩

/-- The tries of a request that is answered are told in order. -/
theorem DraftCall.triesInOrder_of_outcome (c : DraftCall) {store : Store} {s : Suggestion}
    (hcapacity : 0 ≤ store.capacity) (hs : (c.run store).outcome = .ok s) :
    ∃ before model after errors,
      (Answered.mk c (c.run store) s).TriesInOrder before model after errors := by
  obtain ⟨options, hmodels, hprompt, hraw⟩ := c.exists_text_of_outcome hcapacity hs
  obtain ⟨before, model, after, errors, hchain, htries, hlast, hanswer⟩ :=
    chainTries_of_text c.drafter.service options ⟨c.drafter.instruction, c.sent⟩ hraw
  have hcall : c.models = options.chain := by rw [models, hmodels, Option.elim_some]
  have hattempts : Event.attempts (c.run store).events = Event.attempts (c.chain options).events :=
    c.filterMap_run_of_text hmodels hprompt hraw hcapacity (fun _ => rfl) fun _ => rfl
  have hcalls : Event.calls (c.run store).events = Event.calls (c.chain options).events :=
    c.filterMap_run_of_text hmodels hprompt hraw hcapacity (fun _ => rfl) fun _ => rfl
  refine ⟨before, model, after, errors, hcall.trans hchain, hcall ▸ options.chain_nodup, ?_, ?_,
    hanswer⟩
  · show ChainTries before model errors (Event.attempts (c.run store).events)
    rw [hattempts]
    exact htries
  · rw [Answered.model?, hcalls]
    exact hlast

namespace Answered
variable {a : Answered} {before after : List String} {model : String} {errors : Nat}

/-- The tries name the models up to the one that answered. -/
theorem TriesInOrder.models_record (h : a.TriesInOrder before model after errors) :
    Metrics.models a.record = before ++ [model] := by
  have hnodup : ((before ++ [model]) ++ after).Nodup := by
    rw [List.append_assoc, List.singleton_append, ← h.models]
    exact h.nodup
  exact h.tries.models_eq hnodup.of_append_left

/-- A trace counts as a fallback exactly when another model than the first one answered. -/
theorem TriesInOrder.fellBack_record (h : a.TriesInOrder before model after errors) :
    Metrics.fellBack a.record = (a.model? != a.call.models.head?) := by
  rw [Metrics.fellBack, h.models_record, h.last, h.models]
  cases hbefore : before with
  | nil => simp
  | cons first others =>
    -- The first model failed, and no model comes twice, so another one answered.
    have hne : model ≠ first := by
      rintro rfl
      have hnodup := h.nodup
      rw [h.models, hbefore, List.cons_append, List.nodup_cons] at hnodup
      exact hnodup.1 (by simp)
    simp [hne]

end Answered

/-- **A fallback is an answer of another model than the first one.** Drafters share a store that is
empty at first. The number of fallbacks in its figures is the number of the traces it keeps whose
request was answered by a model other than the first one of its chain. In every trace, the tries
stand together model by model, in the order of the chain, in which no model comes twice. They end at
the model that answered. All of them have errors except the last one, which is a call of that model
and gave the text. -/
theorem fallbacks_of_calls (capacity : Nat) (calls : List DraftCall) :
    let start : Store := { capacity := capacity }
    let store := tracesAfter start calls
    let made := answers start calls
    let kept := made.drop (made.length - capacity)
    store.records = kept.map Answered.record ∧
    store.metrics.fallbacks = kept.countP (fun a => a.model? != a.call.models.head?) ∧
    ∀ a ∈ kept, ∃ before model after errors, a.TriesInOrder before model after errors ∧
      ∃ failed, a.record.attempts = failed ++ [⟨model, errors + 1, none⟩] ∧
        ∀ t ∈ failed, t.error ≠ none := by
  intro start store made kept
  have hstart : 0 ≤ start.capacity := Int.natCast_nonneg capacity
  have hrecords : store.records = kept.map Answered.record := by
    refine (records_tracesAfter calls hstart List.drop_nil.symm).2.trans ?_
    rw [List.nil_append, Store.evict, List.length_map, ← List.map_drop]
    rfl
  have hinOrder : ∀ a ∈ kept, ∃ before model after errors,
      a.TriesInOrder before model after errors := by
    intro a ha
    -- What is kept was answered at some time, with the store that was there then.
    obtain ⟨between, hbetween, hdrafted, hout⟩ :=
      exists_run_of_mem_answers hstart (List.mem_of_mem_drop ha)
    obtain ⟨c, drafted, s⟩ := a
    obtain rfl : drafted = c.run between := hdrafted
    exact c.triesInOrder_of_outcome hbetween hout
  refine ⟨hrecords, ?_, ?_⟩
  · show store.records.countP Metrics.fellBack = _
    rw [hrecords, List.countP_map]
    refine List.countP_congr fun a ha => ?_
    obtain ⟨before, model, after, errors, h⟩ := hinOrder a ha
    rw [Function.comp_apply, h.fellBack_record]
  · intro a ha
    obtain ⟨before, model, after, errors, h⟩ := hinOrder a ha
    exact ⟨before, model, after, errors, h, h.tries.last_eq⟩

/-- Two requests with the same models. For the second one, no client of the first model can be
built. -/
def sentenceFallbackCalls : List DraftCall :=
  let unbuilt : Service :=
    { sentenceDrafter.service with
      build := fun model _ =>
        if model = "gpt-4.1" then some ⟨.connection, "no route", []⟩ else none }
  [{ drafter := sentenceDrafter, request := { prompt := "Mail the report" } },
   { drafter := { sentenceDrafter with service := unbuilt }, request := { prompt := "Post it" } }]

/-- The second of the two requests is a fallback. -/
theorem fallbacks_of_calls_unbuilt :
    let store := tracesAfter { capacity := (2 : Nat) } sentenceFallbackCalls
    store.metrics.fallbacks = 1 ∧
      store.records.map (·.attempts)
        = [[⟨"gpt-4.1", 1, none⟩],
           [⟨"gpt-4.1", 0, some "no route"⟩, ⟨"gpt-4.1-mini", 1, none⟩]] := by
  intro store
  obtain ⟨hrecords, hfallbacks, -⟩ := fallbacks_of_calls 2 sentenceFallbackCalls
  refine ⟨hfallbacks.trans (by decide +kernel), ?_⟩
  rw [show store.records = _ from hrecords]
  decide +kernel

end FlowDraft
