import FlowDraft.Proofs.Model.Attempts
import FlowDraft.Proofs.Model.Overflow

/-!
# `FlowDraft.Proofs.Model.Groups`: the tries of a chain, model by model

The tries of a chain that gives a text are those of models that failed, in the order of the chain,
and then those of the model that answered (`ChainTries`). A model that failed left at least one try,
also when it was not called. So the models that tries name, each of them once, are exactly the
models that were asked (`ChainTries.models_eq`), and the tries tell which model answered.
-/

set_option autoImplicit false

namespace FlowDraft.Model

/-! ### Tries that stand together -/

/-- Tries at a model, numbered from one on. -/
def numbered (model : String) (errors : List (Option String)) : List Attempt :=
  errors.mapIdx fun i error => ⟨model, i + 1, error⟩

/-- The tries at a model whose stage failed. There is one numbered zero if its client could not be
built, and otherwise there are calls that met errors. -/
inductive FailedTries (model : String) : List Attempt → Prop where
  | unbuilt (text : String) : FailedTries model [⟨model, 0, some text⟩]
  | called (texts : List String) (h : texts ≠ []) :
      FailedTries model (numbered model (texts.map some))

/-- The tries at models of which the last one answered: those of the models before it, which failed,
then so many calls of it that met errors, and then the call that it answered. -/
inductive ChainTries : List String → String → Nat → List Attempt → Prop where
  | answered (model : String) (texts : List String) :
      ChainTries [] model texts.length (numbered model (texts.map some ++ [none]))
  | failed {m model : String} {before : List String} {errors : Nat} {group later : List Attempt}
      (hgroup : FailedTries m group) (h : ChainTries before model errors later) :
      ChainTries (m :: before) model errors (group ++ later)

theorem map_model_numbered (model : String) (errors : List (Option String)) :
    (numbered model errors).map (·.model) = List.replicate errors.length model := by
  simp [numbered, List.eq_replicate_iff]

/-- Tries that are numbered with texts of errors have errors. -/
theorem error_of_mem_numbered {model : String} {texts : List String} {t : Attempt}
    (h : t ∈ numbered model (texts.map some)) : t.error ≠ none := by
  obtain ⟨i, hi, rfl⟩ := List.mem_mapIdx.1 h
  simp

/-- The last of numbered tries has the greatest number. -/
theorem numbered_append_singleton (model : String) (errors : List (Option String))
    (error : Option String) :
    numbered model (errors ++ [error])
      = numbered model errors ++ [⟨model, errors.length + 1, error⟩] := by
  simp [numbered, List.mapIdx_append]

/-- Tries at a model whose stage failed are there, name the model and have errors. -/
theorem FailedTries.told {model : String} {group : List Attempt} (h : FailedTries model group) :
    (∃ n, group.map (·.model) = List.replicate (n + 1) model) ∧ ∀ t ∈ group, t.error ≠ none := by
  cases h with
  | unbuilt text => exact ⟨⟨0, rfl⟩, by simp⟩
  | called texts htexts =>
    obtain ⟨n, hn⟩ := Nat.exists_eq_succ_of_ne_zero (mt List.length_eq_zero_iff.1 htexts)
    exact ⟨⟨n, by rw [map_model_numbered, List.length_map, hn]⟩, fun t => error_of_mem_numbered⟩

/-- Erasing repeats from a name that is repeated and names other than it leaves it once. -/
theorem eraseDups_replicate_append {name : String} {names : List String} (n : Nat)
    (h : name ∉ names) :
    (List.replicate (n + 1) name ++ names).eraseDups = name :: names.eraseDups := by
  have hothers : names.filter (fun b => !b == name) = names :=
    List.filter_eq_self.2 fun b hb => by simpa using ne_of_mem_of_not_mem hb h
  rw [List.replicate_succ, List.cons_append, List.eraseDups_cons, List.filter_append, hothers]
  simp

namespace ChainTries
variable {model : String} {before : List String} {errors : Nat} {tries : List Attempt}

/-- Only the models that were asked are named. -/
theorem mem_of_mem (h : ChainTries before model errors tries) {t : Attempt} (ht : t ∈ tries) :
    t.model ∈ before ++ [model] := by
  induction h with
  | answered model texts =>
    have hmodel : t.model ∈ (numbered model (texts.map some ++ [none])).map (·.model) :=
      List.mem_map_of_mem ht
    rw [map_model_numbered] at hmodel
    simp [List.eq_of_mem_replicate hmodel]
  | @failed m model before errors group later hgroup h ih =>
    rcases List.mem_append.1 ht with ht | ht
    · obtain ⟨⟨n, hn⟩, -⟩ := hgroup.told
      have hmodel : t.model ∈ List.replicate (n + 1) m := hn ▸ List.mem_map_of_mem ht
      simp [List.eq_of_mem_replicate hmodel]
    · exact List.mem_cons_of_mem _ (ih ht)

/-- **The models that the tries name, each of them once, are those that were asked**, in order. -/
theorem models_eq (h : ChainTries before model errors tries) (hnodup : (before ++ [model]).Nodup) :
    (tries.map (·.model)).eraseDups = before ++ [model] := by
  induction h with
  | answered model texts =>
    rw [map_model_numbered, List.length_append, ← List.append_nil (List.replicate _ _)]
    exact eraseDups_replicate_append _ List.not_mem_nil
  | @failed m model before errors group later hgroup h ih =>
    -- The group is there and names only `m`, and the tries behind it do not name `m` again.
    obtain ⟨⟨n, hn⟩, -⟩ := hgroup.told
    rw [List.cons_append, List.nodup_cons] at hnodup
    have hm : m ∉ later.map (·.model) := by
      intro hmem
      obtain ⟨t, ht, rfl⟩ := List.mem_map.1 hmem
      exact hnodup.1 (h.mem_of_mem ht)
    rw [List.map_append, hn, eraseDups_replicate_append n hm, ih hnodup.2, List.cons_append]

/-- All tries have errors except the last one, and that is a call of the model that answered. -/
theorem last_eq (h : ChainTries before model errors tries) :
    ∃ failed, tries = failed ++ [⟨model, errors + 1, none⟩] ∧ ∀ t ∈ failed, t.error ≠ none := by
  induction h with
  | answered model texts =>
    refine ⟨numbered model (texts.map some), ?_, fun t => error_of_mem_numbered⟩
    rw [numbered_append_singleton, List.length_map]
  | @failed m model before errors group later hgroup h ih =>
    obtain ⟨failed, rfl, hfailed⟩ := ih
    refine ⟨group ++ failed, (List.append_assoc ..).symm, ?_⟩
    exact List.forall_mem_append.2 ⟨hgroup.told.2, hfailed⟩

/-- Tries at models that failed stand before those of the models after them. -/
theorem of_failed {names : List String} {f : String → List Attempt}
    (hnames : ∀ m ∈ names, FailedTries m (f m)) (h : ChainTries [] model errors tries) :
    ChainTries names model errors (names.flatMap f ++ tries) := by
  induction names with
  | nil => exact h
  | cons m names ih =>
    obtain ⟨hm, hnames⟩ := List.forall_mem_cons.1 hnames
    rw [List.flatMap_cons, List.append_assoc]
    exact .failed hm (ih hnames)

end ChainTries

/-! ### The tries of a run -/

/-- An overload is an error. -/
theorem Script.errorText?_of_busy {script : Script} {i : Nat} (h : script.busy i = true) :
    errorText? (script i) ≠ none := by
  rw [busy] at h
  cases hi : script i with
  | ok text => simp [hi] at h
  | error fault => simp [errorText?]

/-- The texts of outcomes that are errors. -/
theorem Script.exists_texts {script : Script} {n : Nat}
    (h : ∀ i < n, errorText? (script i) ≠ none) :
    ∃ texts : List String, texts.length = n ∧
      (List.range n).map (fun i => errorText? (script i)) = texts.map some := by
  refine ⟨(List.range n).map fun i => (errorText? (script i)).getD "", by simp, ?_⟩
  rw [List.map_map]
  refine List.map_congr_left fun i hi => ?_
  obtain ⟨text, htext⟩ := Option.ne_none_iff_exists'.1 (h i (List.mem_range.1 hi))
  simp [htext]

section
variable (service : Service) (options : ModelOptions) (q : Question)

/-- The tries of a stage that has a client are numbered, and each has the error of its outcome. -/
theorem attempts_stage_of_built {s : Session} {model : String} {client : Nat}
    (h : (s.client service model).value = .ok client) :
    let r := stage service options q model s
    let script := s.script service model
    ∃ n, r.value = ending model options.maxTries (n + 1) (script n) ∧
      (∀ i < n, script.busy i = true) ∧
      Event.attempts r.events
        = numbered model ((List.range (n + 1)).map fun i => errorText? (script i)) ∧
      Event.calls r.events = List.replicate (n + 1) ⟨model, client, q.instruction, q.prompt⟩ := by
  intro r script
  obtain ⟨hattempts, hcalls, -⟩ := s.client_events service model
  obtain ⟨clock, hstage⟩ := stage_of_built service options q model client h
  have hpos : 0 < script.calls (tryBudget options) :=
    script.calls_pos (Nat.lt_min.2 ⟨options.maxTries.2, by decide⟩)
  -- At least one call is made, so the number of calls has a predecessor.
  obtain ⟨n, hn⟩ := Nat.exists_eq_succ_of_ne_zero (Nat.ne_of_gt hpos)
  have hr : r = _ := hstage
  rw [hn] at hr
  have hbusy : ∀ i < n, script.busy i = true := fun i hi =>
    Script.busy_of_lt_calls (show i + 1 < script.calls (tryBudget options) by omega)
  refine ⟨n, congrArg Run.value hr, hbusy, ?_, ?_⟩
  · have htries := attempts_triesEvents options q model client 0 script (n + 1)
    rw [hr]
    simp only [Event.attempts, List.filterMap_append] at *
    rw [hattempts, htries, List.nil_append]
    simp [numbered, List.ext_getElem_iff]
  · have htries := calls_triesEvents options q model client 0 script (n + 1)
    rw [hr]
    simp only [Event.calls, List.filterMap_append] at *
    rw [hcalls, htries, List.nil_append]

/-- The tries of a stage that comes to a text. -/
theorem attempts_stage_of_text {s : Session} {model : String} {raw : Letters}
    (h : (stage service options q model s).value = .ok raw) :
    let r := stage service options q model s
    ∃ texts : List String,
      Event.attempts r.events = numbered model (texts.map some ++ [none]) ∧
      (Event.calls r.events).map (·.model) = List.replicate (texts.length + 1) model ∧
      (service.answer model (s.calls.count model + texts.length)).outcome = .ok raw := by
  intro r
  cases hclient : (s.client service model).value with
  | error fault =>
    rw [stage_of_unbuilt service options q model hclient] at h
    cases h
  | ok client =>
    obtain ⟨n, hvalue, hbusy, hattempts, hcalls⟩ :=
      attempts_stage_of_built service options q hclient
    have hlast : s.script service model n = .ok raw := ending_eq_ok_iff.1 (hvalue.symm.trans h)
    obtain ⟨texts, hlength, htexts⟩ :=
      Script.exists_texts fun i hi => Script.errorText?_of_busy (hbusy i hi)
    refine ⟨texts, ?_, ?_, by rw [hlength]; exact hlast⟩
    · rw [hattempts, List.range_succ, List.map_append, htexts, List.map_singleton, hlast]
      rfl
    · rw [hcalls, List.map_replicate, hlength]

/-- The tries of a stage that comes to no text. -/
theorem failedTries_of_stage {s : Session} {model : String} {e : InvokeError}
    (h : (stage service options q model s).value = .error e) :
    FailedTries model (Event.attempts (stage service options q model s).events) := by
  cases hclient : (s.client service model).value with
  | error fault =>
    obtain ⟨hattempts, -⟩ := s.client_events service model
    have hone : Event.attempts (stage service options q model s).events
        = [⟨model, 0, some fault.text⟩] := by
      rw [stage_of_unbuilt service options q model hclient]
      simp only [Event.attempts, List.filterMap_append] at *
      rw [hattempts]
      rfl
    rw [hone]
    exact .unbuilt _
  | ok client =>
    -- The outcomes before the last one are overloads, and a text at the end would be the value.
    obtain ⟨n, hvalue, hbusy, hattempts, -⟩ := attempts_stage_of_built service options q hclient
    have hlast : errorText? (s.script service model n) ≠ none := by
      cases hn : s.script service model n with
      | ok text => cases (ending_eq_ok_iff.2 hn).symm.trans (hvalue.symm.trans h)
      | error fault => simp [errorText?]
    obtain ⟨texts, hlength, htexts⟩ := Script.exists_texts (n := n + 1) fun i hi => by
      by_cases hi' : i = n
      · exact hi' ▸ hlast
      · exact Script.errorText?_of_busy (hbusy i (by omega))
    rw [hattempts, htexts]
    exact .called texts (List.length_pos_iff.1 (by omega))

/-- Where the chain gives a text, some model comes to it, and the models before that one fail. What
happens is what happens in their stages. -/
theorem askChain_of_text {s : Session} {raw : Letters}
    (h : (askChain service options q s).value = .ok raw) :
    ∃ before model after, options.chain = before ++ model :: after ∧
      (∀ m ∈ before, stageFails service options q s m = true) ∧
      (stage service options q model s).value = .ok raw ∧
      (askChain service options q s).events
        = (before ++ [model]).flatMap (turn service options q s) := by
  rcases fails_or_split (stageFails service options q s) options.chain with
    hfails | ⟨before, model, after, hchain, hbefore, hmodel⟩
  · obtain ⟨failure, hvalue⟩ := stages_value_of_fails service options q options.chain_nodup
      (.noModels options.primary) s hfails
    cases hvalue.symm.trans h
  · have hvalue := stages_value_of_split service options q options.chain_nodup hchain
      (.noModels options.primary) s hbefore hmodel
    have hasked : asked service options q s options.chain = before ++ [model] := by
      rw [asked, hchain, untilFirst_append hbefore, untilFirst, if_neg (by simp [hmodel])]
    refine ⟨before, model, after, hchain, hbefore, hvalue.symm.trans h, ?_⟩
    rw [askChain, (stages_eq service options q options.chain_nodup _ s).1, hasked]

/-- A projection of what happens in stages that leaves out lines of the log. -/
theorem filterMap_turn {α : Type} {f : Event → Option α} (s : Session) (model : String)
    (h : ∀ line, f (.logged line) = none) :
    (turn service options q s model).filterMap f
      = (stage service options q model s).events.filterMap f := by
  rw [turn, List.filterMap_append, filterMap_verdict model h, List.append_nil]

/-- **The tries of a chain that gives a text** are those of the models that failed, and then those
of the model that answered, which is called last. It answered when it had met as many errors as the
tries have of it. -/
theorem chainTries_of_text {s : Session} {raw : Letters}
    (h : (askChain service options q s).value = .ok raw) :
    let r := askChain service options q s
    ∃ before model after errors, options.chain = before ++ model :: after ∧
      ChainTries before model errors (Event.attempts r.events) ∧
      (Event.calls r.events).getLast?.map (·.model) = some model ∧
      (service.answer model (s.calls.count model + errors)).outcome = .ok raw := by
  intro r
  obtain ⟨before, model, after, hchain, hbefore, hvalue, hevents⟩ :=
    askChain_of_text service options q h
  obtain ⟨texts, hattempts, hcalls, hanswer⟩ := attempts_stage_of_text service options q hvalue
  -- A projection of the log of the run is made of those of the stages.
  have hlog : ∀ {α : Type} (f : Event → Option α), (∀ line, f (.logged line) = none) →
      r.events.filterMap f
        = (before.flatMap fun m => (stage service options q m s).events.filterMap f) ++
          (stage service options q model s).events.filterMap f := by
    intro α f hf
    rw [hevents, List.filterMap_flatMap, List.flatMap_append, List.flatMap_singleton]
    rw [filterMap_turn service options q s model hf]
    rw [List.flatMap_congr fun m _ => filterMap_turn service options q s m hf]
  refine ⟨before, model, after, texts.length, hchain, ?_, ?_, hanswer⟩
  · rw [Event.attempts, hlog _ fun _ => rfl, ← Event.attempts, hattempts]
    refine .of_failed (fun m hm => ?_) (.answered model texts)
    have hfails := hbefore m hm
    rw [stageFails] at hfails
    cases hm : (stage service options q m s).value with
    | ok text => simp [hm] at hfails
    | error e => exact failedTries_of_stage service options q hm
  · rw [Event.calls, hlog _ fun _ => rfl, ← Event.calls, ← List.getLast?_map, List.map_append,
      hcalls, List.replicate_succ', ← List.append_assoc, List.getLast?_concat]

end

end FlowDraft.Model
