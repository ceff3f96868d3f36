import FlowDraft.Proofs.Model.Chain

/-!
# `FlowDraft.Proofs.Model.Overflow`: waits beyond the range of numbers

A run of the chain gives a text or fails with the failure of a stage, with one exception: the wait
after the 1025th try at a model is beyond the range of numbers, and then the run ends there without
asking the models that are left. `MeetsOverflow` says which runs come to that. With up to 1025 tries
at each model none does.
-/

set_option autoImplicit false

namespace FlowDraft.Model

section
variable (service : Service) (options : ModelOptions) (q : Question)

/-- The last of `n` calls leads to a wait beyond the range of numbers exactly when it met an
overload and more tries were to follow. -/
theorem ending_eq_waitOverflow_iff (model : String) (maxTries n : Nat) (script : Script) (i : Nat) :
    ending model maxTries n (script i) = .error .waitOverflow ↔
      script.busy i = true ∧ n ≠ maxTries := by
  rw [Script.busy]
  cases script i with
  | ok text => simp [ending]
  | error fault =>
    cases hfault : fault.isOverload with
    | false => simp [ending, hfault]
    | true => by_cases hn : n = maxTries <;> simp [ending, hfault, hn]

/-- The last call met an overload exactly when every call that might be made would. -/
theorem busy_last_iff (script : Script) {budget : Nat} (h : 0 < budget) :
    script.busy (script.calls budget - 1) = true ↔ ∀ i < budget, script.busy i = true := by
  constructor
  · intro hlast i hi
    have hall := Script.calls_eq_budget hlast
    by_cases hend : i + 1 = budget
    · rw [hall, ← hend, Nat.add_sub_cancel] at hlast
      exact hlast
    · have hlt : i + 1 < script.calls budget := by omega
      exact Script.busy_of_lt_calls hlt
  · intro hall
    have hpos := script.calls_pos h
    have hle := script.calls_le budget
    exact hall (script.calls budget - 1) (by omega)

/-- A stage ends at a wait beyond the range of numbers exactly when there is a client, more than
1025 tries may be made, and the first 1025 outcomes are overloads. -/
theorem stage_eq_waitOverflow_iff (s : Session) (model : String) :
    (stage service options q model s).value = .error .waitOverflow ↔
      1025 < (options.maxTries : Nat) ∧ (∃ client, (s.client service model).value = .ok client) ∧
        ∀ i < 1025, (s.script service model).busy i = true := by
  cases hclient : (s.client service model).value with
  | error fault =>
    rw [stage_of_unbuilt service options q model hclient]
    simp
  | ok client =>
    obtain ⟨_, hstage⟩ := stage_of_built service options q model client hclient
    have hmax : 1 ≤ (options.maxTries : Nat) := options.maxTries.2
    have hbudget : tryBudget options = min (options.maxTries : Nat) 1025 := rfl
    have hpos : 0 < tryBudget options := by omega
    rw [hstage, ending_eq_waitOverflow_iff, busy_last_iff _ hpos]
    constructor
    · rintro ⟨hall, hn⟩
      have hcalls := Script.calls_eq_budget ((busy_last_iff _ hpos).2 hall)
      have hover : 1025 < (options.maxTries : Nat) := by omega
      exact ⟨hover, ⟨client, rfl⟩, fun i hi => hall i (by omega)⟩
    · rintro ⟨hover, -, hall⟩
      have hle := (s.script service model).calls_le (tryBudget options)
      exact ⟨fun i hi => hall i (by omega), by omega⟩

/-- The failure of a run is that of the first stage that does not fail, or of the last one. -/
theorem stages_value_of_split {models before after : List String} {model : String}
    (h : models.Nodup) (hmodels : models = before ++ model :: after) (last : StageFailure)
    (s : Session) (hbefore : ∀ m ∈ before, stageFails service options q s m = true)
    (hmodel : stageFails service options q s model = false) :
    (stages service options q last models s).value = (stage service options q model s).value := by
  have hend : untilFirst (stageFails service options q s) (model :: after) = [model] := by
    simp [untilFirst, hmodel]
  rw [(stages_eq service options q h last s).2, asked, hmodels, untilFirst_append hbefore, hend,
    List.map_append, List.map_singleton, List.getLast?_concat]
  rfl

/-- Where every stage fails, the run fails with the failure of a stage. -/
theorem stages_value_of_fails {models : List String} (h : models.Nodup) (last : StageFailure)
    (s : Session) (hfails : ∀ m ∈ models, stageFails service options q s m = true) :
    ∃ failure, (stages service options q last models s).value = .error (.stage failure) := by
  have hall : asked service options q s models = models := by
    simpa [asked, untilFirst] using untilFirst_append hfails []
  rw [(stages_eq service options q h last s).2, hall]
  cases hlast : (models.map fun m => (stage service options q m s).value).getLast? with
  | none => exact ⟨last, rfl⟩
  | some value =>
    obtain ⟨m, hm, rfl⟩ := List.mem_map.1 (List.mem_of_getLast? hlast)
    have hm := hfails m hm
    rw [stageFails] at hm
    split at hm
    · next failure hvalue => exact ⟨failure, hvalue⟩
    · simp at hm

/-- Some model of the chain has its turn, because the stages of the models before it fail. More than
1025 tries may be made at it, it has a client, and its first 1025 outcomes are overloads. -/
def MeetsOverflow (s : Session) : Prop :=
  1025 < (options.maxTries : Nat) ∧ ∃ before model after,
    options.chain = before ++ model :: after ∧
    (∀ m ∈ before, stageFails service options q s m = true) ∧
    (∃ client, (s.client service model).value = .ok client) ∧
    ∀ i < 1025, (s.script service model).busy i = true

theorem askChain_value_of_meetsOverflow {s : Session}
    (h : MeetsOverflow service options q s) :
    (askChain service options q s).value = .error .waitOverflow := by
  obtain ⟨hover, before, model, after, hchain, hbefore, hclient, hbusy⟩ := h
  have hvalue : (stage service options q model s).value = .error .waitOverflow :=
    (stage_eq_waitOverflow_iff service options q s model).2 ⟨hover, hclient, hbusy⟩
  have hmodel : stageFails service options q s model = false := by rw [stageFails, hvalue]
  rw [askChain, stages_value_of_split service options q options.chain_nodup hchain _ s hbefore
    hmodel, hvalue]

theorem meetsOverflow_of_askChain_value {s : Session}
    (h : (askChain service options q s).value = .error .waitOverflow) :
    MeetsOverflow service options q s := by
  rcases fails_or_split (stageFails service options q s) options.chain with
    hfails | ⟨before, model, after, hchain, hbefore, hmodel⟩
  · obtain ⟨failure, hvalue⟩ := stages_value_of_fails service options q options.chain_nodup
      (.noModels options.primary) s hfails
    rw [askChain, hvalue] at h
    cases h
  · rw [askChain, stages_value_of_split service options q options.chain_nodup hchain _ s hbefore
      hmodel] at h
    obtain ⟨hover, hclient, hbusy⟩ := (stage_eq_waitOverflow_iff service options q s model).1 h
    exact ⟨hover, before, model, after, hchain, hbefore, hclient, hbusy⟩

end

/-- **A run of the chain gives a text or the failure of a stage**, from any session on, unless one
of its models meets more overloads than there are waits. And where a stage fails, the next model of
the chain has its turn. -/
theorem askChain_text_or_failure_iff (service : Service) (options : ModelOptions) (q : Question)
    (s : Session) :
    let r := askChain service options q s
    (((∃ text, r.value = .ok text) ∨ ∃ failure, r.value = .error (.stage failure)) ↔
      ¬ MeetsOverflow service options q s) ∧
    ∀ before model after, options.chain = before ++ model :: after →
      (∀ m ∈ before, stageFails service options q s m = true) →
      ∃ rest, r.events = before.flatMap (turn service options q s) ++
        (turn service options q s model ++ rest) := by
  intro r
  refine ⟨⟨?_, ?_⟩, ?_⟩
  · intro h hover
    have hvalue : r.value = .error .waitOverflow :=
      askChain_value_of_meetsOverflow service options q hover
    rcases h with ⟨text, htext⟩ | ⟨failure, hfailure⟩
    · rw [hvalue] at htext
      cases htext
    · rw [hvalue] at hfailure
      cases hfailure
  · intro hover
    cases hvalue : r.value with
    | ok text => exact .inl ⟨text, rfl⟩
    | error e =>
      cases e with
      | stage failure => exact .inr ⟨failure, rfl⟩
      | waitOverflow =>
        exact absurd (meetsOverflow_of_askChain_value service options q hvalue) hover
  · intro before model after hchain hbefore
    have hevents : r.events
        = (asked service options q s options.chain).flatMap (turn service options q s) :=
      (stages_eq service options q options.chain_nodup (.noModels options.primary) s).1
    obtain ⟨later, hlater⟩ := untilFirst_cons (stageFails service options q s) model after
    refine ⟨later.flatMap (turn service options q s), ?_⟩
    rw [hevents, asked, hchain, untilFirst_append hbefore, hlater, List.flatMap_append,
      List.flatMap_cons]

/-- Three tries at each model are too few for an overflow, whatever the models answer. -/
theorem askChain_text_or_failure_three_tries :
    let service : Service :=
      { build := fun _ _ => none, answer := fun _ _ => ⟨.error ⟨.other, "overloaded", []⟩, 1.0⟩ }
    let r := askChain service {} ⟨"instruction", "prompt"⟩ { clock := 0.0 }
    ¬ MeetsOverflow service {} ⟨"instruction", "prompt"⟩ { clock := 0.0 } ∧
      ((∃ text, r.value = .ok text) ∨ ∃ failure, r.value = .error (.stage failure)) := by
  intro service r
  have hover : ¬ MeetsOverflow service {} ⟨"instruction", "prompt"⟩ { clock := 0.0 } :=
    fun h => absurd h.1 (by decide)
  exact ⟨hover, (askChain_text_or_failure_iff service {} ⟨"instruction", "prompt"⟩
    { clock := 0.0 }).1.2 hover⟩

/-- With 1026 tries, a first model that is always busy ends the run at a wait, and the second model
is not asked, though it would answer. -/
theorem askChain_waitOverflow_of_1026_tries :
    let service : Service :=
      { build := fun _ _ => none
        answer := fun model _ =>
          if model = "gpt-4.1" then ⟨.error ⟨.other, "overloaded", [.int 503]⟩, 0.0⟩
          else ⟨.ok "draft", 0.0⟩ }
    let options : ModelOptions := { maxTries := 1026, baseDelay := 0.0 }
    (askChain service options ⟨"instruction", "prompt"⟩ { clock := 0.0 }).value
        = .error .waitOverflow ∧
      (stage service options ⟨"instruction", "prompt"⟩ "gpt-4.1-mini" { clock := 0.0 }).value
        = .ok "draft" := by
  intro service options
  refine ⟨askChain_value_of_meetsOverflow service options _ ⟨by decide, [], "gpt-4.1",
    ["gpt-4.1-mini", "gpt-4o-mini"], by decide, by simp, ⟨0, rfl⟩, fun i _ => rfl⟩, ?_⟩
  simp [stage, tries, Session.client, Session.call, service, Run.after]

end FlowDraft.Model
