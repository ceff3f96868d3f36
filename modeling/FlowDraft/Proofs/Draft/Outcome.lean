import FlowDraft.Proofs.Draft.Unreferenced
import FlowDraft.Proofs.Json.Finite
import FlowDraft.Proofs.Model.Groups
import FlowDraft.Proofs.Reply.Parts

/-!
# `FlowDraft.Proofs.Draft.Outcome`: what a draft comes to

A request that asks the models comes to one of three things. If every model of the chain fails
(`DraftCall.AllFail`), the failure of the last stage is its outcome. If one gives a text, the
outcome is the suggestion of that text, unless the store of traces has no room. There is nothing
else as long as no wait can be beyond the range of numbers, which takes more than 1025 tries at a
model.

Where the texts of the models hold finite numbers only, so does the suggestion
(`Suggestion.isFinite_parseFrom`).
-/

set_option autoImplicit false

namespace FlowDraft

open Model Trace

namespace Model

/-- The objects in the texts that the models answer with hold finite numbers only. -/
def Service.FiniteReplies (service : Service) : Prop :=
  ∀ model i raw v, (service.answer model i).outcome = .ok raw → Suggestion.object? raw = some v →
    ∀ x, Json.Inside (.float x) v → x.isFinite = true

section
variable (service : Service) (options : ModelOptions) (q : Question)

/-- The text of a stage is an answer of its model. -/
theorem exists_answer_of_stage {model : String} {raw : Letters} {s : Session}
    (h : (stage service options q model s).value = .ok raw) :
    ∃ i, (service.answer model i).outcome = .ok raw := by
  obtain ⟨texts, -, -, hanswer⟩ := attempts_stage_of_text service options q h
  exact ⟨_, hanswer⟩

/-- Unless all models of the chain fail, one of them gives the text. -/
theorem exists_answer_of_askChain {s : Session} (htries : (options.maxTries : Nat) ≤ 1025)
    (h : ¬ ∀ m ∈ options.chain, stageFails service options q s m = true) :
    ∃ raw, (askChain service options q s).value = .ok raw ∧
      ∃ model i, (service.answer model i).outcome = .ok raw := by
  rcases fails_or_split (stageFails service options q s) options.chain with
    hfails | ⟨before, model, after, hchain, hbefore, hmodel⟩
  · exact absurd hfails h
  · -- The chain ends with this model, which answers, or else runs out of waits.
    have hvalue : (askChain service options q s).value = (stage service options q model s).value :=
      stages_value_of_split service options q options.chain_nodup hchain _ s hbefore hmodel
    cases hstage : (stage service options q model s).value with
    | ok raw =>
      exact ⟨raw, hvalue.trans hstage, model, exists_answer_of_stage service options q hstage⟩
    | error e =>
      cases e with
      | stage failure =>
        rw [stageFails, hstage] at hmodel
        cases hmodel
      | waitOverflow =>
        have hover := ((stage_eq_waitOverflow_iff service options q s model).1 hstage).1
        omega

end

end Model

namespace DraftCall

/-- Every model of the chain fails for the request. -/
def AllFail (c : DraftCall) : Prop :=
  ∃ options, c.drafter.models = some options ∧ ∀ m ∈ options.chain,
    stageFails c.drafter.service options ⟨c.drafter.instruction, c.sent⟩ c.session m = true

section
variable (c : DraftCall) {store : Store}

/-- Where all models fail, the request fails with the failure of a stage. -/
theorem outcome_of_allFail (hprompt : c.prompt ≠ "") (h : c.AllFail) :
    ∃ failure, (c.run store).outcome = .error (.stage failure) := by
  obtain ⟨options, hmodels, hfails⟩ := h
  obtain ⟨failure, hvalue⟩ := stages_value_of_fails c.drafter.service options
    ⟨c.drafter.instruction, c.sent⟩ options.chain_nodup (.noModels options.primary) c.session hfails
  exact ⟨failure, (c.run_of_fails store (.chain hmodels hprompt hvalue)).1⟩

/-- Where some model does not fail, the chain gives a text that a model answered with. -/
theorem exists_text {options : ModelOptions} (hmodels : c.drafter.models = some options)
    (htries : (options.maxTries : Nat) ≤ 1025) (h : ¬ c.AllFail) :
    ∃ raw, (c.chain options).value = .ok raw ∧
      ∃ model i, (c.drafter.service.answer model i).outcome = .ok raw :=
  exists_answer_of_askChain c.drafter.service options _ htries fun hfails =>
    h ⟨options, hmodels, hfails⟩

section
variable {options : ModelOptions} {raw : Letters} (hmodels : c.drafter.models = some options)
  (hprompt : c.prompt ≠ "") (hraw : (c.chain options).value = .ok raw)
include hmodels hprompt hraw

/-- The suggestion of a text is the outcome, with the name of its trace. -/
theorem outcome_of_text (hcapacity : 0 ≤ store.capacity) :
    (c.run store).outcome
      = .ok { (Suggestion.parseFrom c.drafter.conditionNames c.conditionsNamed raw).1 with
          traceId := some (c.drafter.traceNames store.named) } := by
  rw [c.run_of_text hmodels hprompt hraw hcapacity]
  rfl

/-- A store of negative capacity has no room for the trace of an answered request. -/
theorem outcome_of_noRoom (hcapacity : store.capacity < 0) :
    (c.run store).outcome = .error .noRoom := by
  rw [c.run_of_models store hmodels hprompt]
  simp only [hraw, Drafter.finish, Store.add, if_pos hcapacity]

end

end

end DraftCall

/-- The document form of a suggestion holds finite numbers only, if the text that it was read from
does. -/
theorem Suggestion.isFinite_parseFrom (names : Nat → String) (taken : Nat) {raw : Letters}
    (traceId : Option String)
    (h : ∀ v, object? raw = some v → ∀ x, Json.Inside (.float x) v → x.isFinite = true) :
    { (parseFrom names taken raw).1 with traceId }.toJson.isFinite = true := by
  obtain ⟨hworkflow, hactions⟩ := throughout_parseFrom Json.lenient_sendable names taken
    fun v hv => Json.throughout_sendable_iff.2 (h v hv)
  exact Json.isFinite_iff.2 <| Json.throughout_sendable_iff.1 <|
    throughout_toJson Json.lenient_sendable hworkflow hactions

end FlowDraft
