import FlowDraft.Proofs.Model.Stage
import Mathlib.Data.List.Basic

/-!
# `FlowDraft.Proofs.Model.Chain`: the stages of a chain

The stages of different models do not disturb each other: a stage changes what the session knows of
its own model only (`stage_agrees`), and a stage reads no more than that (`stage_congr`). So every
stage of a chain without repeats runs as it would run from the session at the start, and
`stages_eq` puts a run of the chain together from such stages. The models that are asked are those
up to the first one whose stage does not fail, and the value is that of the last stage.
-/

set_option autoImplicit false

namespace FlowDraft

/-- The names of the models in the order in which they are given, also the empty ones. -/
def ModelOptions.named (o : ModelOptions) : List String :=
  [some o.primary, o.fallback, o.secondFallback].filterMap id

/-- Collecting the members of a list that are not there yet keeps the first one of each. -/
theorem foldl_collect_eq (names collected : List String) :
    names.foldl (fun chain m => if m ∈ chain then chain else chain ++ [m]) collected
      = collected ++ (names.filter (· ∉ collected)).eraseDups := by
  induction names generalizing collected with
  | nil => simp
  | cons m names ih =>
    rw [List.foldl_cons, ih]
    by_cases h : m ∈ collected
    · simp [h]
    · have hfilter : names.filter (· ∉ collected ++ [m])
          = (names.filter (· ∉ collected)).filter fun b => !b == m := by
        rw [List.filter_filter]
        exact List.filter_congr fun b _ => by by_cases hb : b = m <;> simp [hb]
      rw [if_neg h, hfilter, List.filter_cons_of_pos (by simpa using h), List.eraseDups_cons]
      simp

/-- The chain holds the names that are not empty, each of them once, where it is named first. -/
theorem ModelOptions.chain_eq (o : ModelOptions) :
    o.chain = (o.named.filter fun m => !m.isEmpty).eraseDups := by
  rw [chain, foldl_collect_eq]
  simp [named]

/-- A list whose repeats are erased has none. -/
theorem nodup_eraseDups (names : List String) : names.eraseDups.Nodup := by
  match names with
  | [] => exact List.nodup_nil
  | m :: names =>
    rw [List.eraseDups_cons, List.nodup_cons, List.mem_eraseDups]
    exact ⟨by simp, nodup_eraseDups _⟩
termination_by names.length
decreasing_by
  have := List.length_filter_le (fun b => !b == m) names
  simp only [List.length_cons]
  omega

/-- No model is in the chain twice. -/
theorem ModelOptions.chain_nodup (o : ModelOptions) : o.chain.Nodup := by
  rw [chain_eq]
  exact nodup_eraseDups _

namespace Model

/-! ### Stages that do not disturb each other -/

/-- Two sessions know the same of a model: its client, and how often it was built and called. -/
structure Session.Agrees (s s' : Session) (model : String) : Prop where
  lookup : s'.clients.lookup model = s.clients.lookup model
  builds : s'.builds.count model = s.builds.count model
  calls : s'.calls.count model = s.calls.count model

theorem Session.Agrees.refl (s : Session) (model : String) : s.Agrees s model :=
  ⟨rfl, rfl, rfl⟩

section
variable (service : Service) (options : ModelOptions) (q : Question)

/-- A client is the same in sessions that know the same of its model. -/
theorem Session.client_congr {s s' : Session} {model : String} (h : s.Agrees s' model) :
    (s'.client service model).value = (s.client service model).value ∧
      (s'.client service model).events = (s.client service model).events := by
  cases hlookup : s.clients.lookup model with
  | some number =>
    rw [client_of_known service model hlookup,
      client_of_known service model (h.lookup.trans hlookup)]
    exact ⟨rfl, rfl⟩
  | none =>
    have hlookup' := h.lookup.trans hlookup
    cases hbuild : service.build model (s.builds.count model) with
    | some fault =>
      rw [client_of_fault service model hlookup hbuild,
        client_of_fault service model hlookup' (h.builds ▸ hbuild)]
      exact ⟨rfl, rfl⟩
    | none =>
      rw [client_of_new service model hlookup hbuild,
        client_of_new service model hlookup' (h.builds ▸ hbuild), h.builds]
      exact ⟨rfl, rfl⟩

/-- The stage of a model is the same from sessions that know the same of it. -/
theorem stage_congr {s s' : Session} {model : String} (h : s.Agrees s' model) :
    (stage service options q model s').value = (stage service options q model s).value ∧
      (stage service options q model s').events = (stage service options q model s).events := by
  obtain ⟨hvalue, hevents⟩ := Session.client_congr service h
  have hscript : s'.script service model = s.script service model := by
    funext i
    rw [Session.script, h.calls, Session.script]
  cases hclient : (s.client service model).value with
  | error fault =>
    rw [stage_of_unbuilt service options q model hclient,
      stage_of_unbuilt service options q model (hvalue.trans hclient), hevents]
    exact ⟨rfl, rfl⟩
  | ok client =>
    obtain ⟨_, hstage⟩ := stage_of_built service options q model client hclient
    obtain ⟨_, hstage'⟩ := stage_of_built service options q model client (hvalue.trans hclient)
    rw [hstage, hstage', hevents, hscript]
    exact ⟨rfl, rfl⟩

/-- Looking up or building a client tells nothing about other models. -/
theorem Session.client_agrees (s : Session) {model other : String} (h : other ≠ model) :
    s.Agrees (s.client service model).session other := by
  have hne : (other == model) = false := by simpa using h
  cases hlookup : s.clients.lookup model with
  | some number =>
    rw [client_of_known service model hlookup]
    exact .refl s other
  | none =>
    cases hbuild : service.build model (s.builds.count model) with
    | some fault =>
      rw [client_of_fault service model hlookup hbuild]
      exact ⟨rfl, List.count_cons_of_ne h.symm, rfl⟩
    | none =>
      rw [client_of_new service model hlookup hbuild]
      exact ⟨by rw [List.lookup_cons, hne], List.count_cons_of_ne h.symm, rfl⟩

/-- A stage tells nothing about other models. -/
theorem stage_agrees (s : Session) {model other : String} (h : other ≠ model) :
    s.Agrees (stage service options q model s).session other := by
  have hclient := s.client_agrees service h
  cases hvalue : (s.client service model).value with
  | error fault =>
    rw [stage_of_unbuilt service options q model hvalue]
    exact hclient
  | ok client =>
    obtain ⟨_, hstage⟩ := stage_of_built service options q model client hvalue
    rw [hstage]
    refine ⟨hclient.lookup, hclient.builds, ?_⟩
    rw [List.count_append, List.count_replicate, if_neg (by simpa using h.symm), Nat.zero_add]

/-! ### A run of the chain -/

/-- The members of a list up to the first one that does not fail, itself included. -/
def untilFirst (fails : String → Bool) : List String → List String
  | [] => []
  | m :: models => if fails m then m :: untilFirst fails models else [m]

theorem mem_of_mem_untilFirst {fails : String → Bool} {m : String} {models : List String}
    (h : m ∈ untilFirst fails models) : m ∈ models := by
  induction models with
  | nil => exact h
  | cons m' models ih =>
    rw [untilFirst] at h
    split at h
    · rcases List.mem_cons.1 h with rfl | h
      · exact List.mem_cons_self
      · exact List.mem_cons_of_mem _ (ih h)
    · rw [List.mem_singleton.1 h]
      exact List.mem_cons_self

theorem untilFirst_congr {fails fails' : String → Bool} {models : List String}
    (h : ∀ m ∈ models, fails m = fails' m) :
    untilFirst fails models = untilFirst fails' models := by
  induction models with
  | nil => rfl
  | cons m models ih =>
    rw [untilFirst, untilFirst, h m List.mem_cons_self,
      ih fun m' hm' => h m' (List.mem_cons_of_mem _ hm')]

/-- Members that fail are taken, and then those that follow. -/
theorem untilFirst_append {fails : String → Bool} {before : List String}
    (h : ∀ m ∈ before, fails m = true) (rest : List String) :
    untilFirst fails (before ++ rest) = before ++ untilFirst fails rest := by
  induction before with
  | nil => rfl
  | cons m before ih =>
    rw [List.cons_append, untilFirst, if_pos (h m List.mem_cons_self),
      ih fun m' hm' => h m' (List.mem_cons_of_mem _ hm'), List.cons_append]

/-- The first member is taken, whether it fails or not. -/
theorem untilFirst_cons (fails : String → Bool) (model : String) (models : List String) :
    ∃ later, untilFirst fails (model :: models) = model :: later := by
  rw [untilFirst]
  split
  · exact ⟨_, rfl⟩
  · exact ⟨[], rfl⟩

/-- Either all members fail, or there is a first one that does not. -/
theorem fails_or_split (fails : String → Bool) (models : List String) :
    (∀ m ∈ models, fails m = true) ∨
      ∃ before model after, models = before ++ model :: after ∧
        (∀ m ∈ before, fails m = true) ∧ fails model = false := by
  induction models with
  | nil => exact .inl (by simp)
  | cons m models ih =>
    cases hm : fails m with
    | false => exact .inr ⟨[], m, models, rfl, by simp, hm⟩
    | true =>
      rcases ih with h | ⟨before, model, after, rfl, hbefore, hmodel⟩
      · exact .inl (List.forall_mem_cons.2 ⟨hm, h⟩)
      · exact .inr ⟨m :: before, model, after, rfl, List.forall_mem_cons.2 ⟨hm, hbefore⟩, hmodel⟩

/-- The stage of a model fails, so that the next model has its turn. -/
def stageFails (s : Session) (model : String) : Bool :=
  match (stage service options q model s).value with
  | .error (.stage _) => true
  | _ => false

/-- The models that are asked from a session on. -/
def asked (s : Session) (models : List String) : List String :=
  untilFirst (stageFails service options q s) models

/-- What is logged at the end of a stage. -/
def verdict (model : String) : Except InvokeError Letters → List Event
  | .ok _ => [answeredLine model]
  | .error (.stage failure) => [failedLine model failure]
  | .error .waitOverflow => []

/-- What happens in the stage of a model that is asked from a session on. -/
def turn (s : Session) (model : String) : List Event :=
  (stage service options q model s).events ++ verdict model (stage service options q model s).value

/-- The stages of different models in turn are those that each would have from the session at the
start. The value is that of the last one. -/
theorem stages_eq {models : List String} (h : models.Nodup) (last : StageFailure) (s : Session) :
    (stages service options q last models s).events
        = (asked service options q s models).flatMap (turn service options q s) ∧
      (stages service options q last models s).value
        = (((asked service options q s models).map fun m =>
            (stage service options q m s).value).getLast?).getD (.error (.stage last)) := by
  induction models generalizing last s with
  | nil => exact ⟨rfl, rfl⟩
  | cons m models ih =>
    obtain ⟨hm, hmodels⟩ := List.nodup_cons.1 h
    rw [stages]
    cases hvalue : (stage service options q m s).value with
    | ok text =>
      have hfails : stageFails service options q s m = false := by rw [stageFails, hvalue]
      simp [asked, untilFirst, hfails, turn, verdict, hvalue]
    | error e =>
      cases e with
      | waitOverflow =>
        have hfails : stageFails service options q s m = false := by rw [stageFails, hvalue]
        simp [asked, untilFirst, hfails, turn, verdict, hvalue]
      | stage failure =>
        have hfails : stageFails service options q s m = true := by rw [stageFails, hvalue]
        obtain ⟨hevents, hlast⟩ := ih hmodels failure (stage service options q m s).session
        -- The other models are asked as they would be from `s`.
        let s' := (stage service options q m s).session
        have hstage : ∀ m' ∈ models,
            (stage service options q m' s').value = (stage service options q m' s).value ∧
              (stage service options q m' s').events = (stage service options q m' s).events :=
          fun m' hm' => stage_congr service options q
            (stage_agrees service options q s (ne_of_mem_of_not_mem hm' hm))
        have hasked : asked service options q s' models = asked service options q s models :=
          untilFirst_congr fun m' hm' => by rw [stageFails, stageFails, (hstage m' hm').1]
        have hturn : ∀ m' ∈ asked service options q s models,
            turn service options q s' m' = turn service options q s m' := fun m' hm' => by
          have hm' := hstage m' (mem_of_mem_untilFirst hm')
          rw [turn, turn, hm'.1, hm'.2]
        have hcons : asked service options q s (m :: models)
            = m :: asked service options q s models := by
          rw [asked, untilFirst, if_pos hfails, asked]
        rw [hasked] at hevents hlast
        have hvalues : (asked service options q s models).map
              (fun m => (stage service options q m s').value)
            = (asked service options q s models).map
              (fun m => (stage service options q m s).value) :=
          List.map_congr_left fun m' hm' => (hstage m' (mem_of_mem_untilFirst hm')).1
        simp only [Run.after, hcons]
        constructor
        · rw [hevents, List.flatMap_cons, List.flatMap_congr hturn, turn, hvalue, verdict]
        · rw [hlast, hvalues, List.map_cons, List.getLast?_cons, Option.getD_some, hvalue]

end

end Model

end FlowDraft
