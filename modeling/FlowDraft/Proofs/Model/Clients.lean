import FlowDraft.Proofs.Model.Retry

/-!
# `FlowDraft.Proofs.Model.Clients`: every client is built once

Models are asked one after another in the same session: one by itself, or a chain of them. Each time
a model has its turn there is a stage (`visits`), and what happens in all is what happens in the
stages (`events_inquire`).

A stage needs a client. `Session.Follows` says that a session knows of its clients what the events
so far tell: there is one exactly when a build succeeded, and it is the one of that build. A stage
keeps this up (`Session.Follows.stage`), so it holds along every row of stages (`Visited.follows`).
It follows that a client is built at the beginning of a stage exactly when no build for its model
has succeeded before, and that all calls of a model go to one client (`clients_of_inquiries`).
-/

set_option autoImplicit false

namespace FlowDraft.Model

/-! ### Models asked in turn -/

/-- Something that is asked of one model, which is the primary one unless another one is named, or
of the chain. -/
inductive Inquiry where
  | one (q : Question) (named : Option String)
  | chain (q : Question)

/-- A stage that was gone through: its model, and what happened in it. -/
structure Visit where
  model : String
  events : List Event

/-- What came of the builds for a model, in order: the fault, if something went wrong. -/
def buildOutcomes (model : String) (events : List Event) : List (Option Fault) :=
  events.filterMap fun
    | .built m outcome => if m = model then some outcome else none
    | _ => none

section
variable (service : Service) (options : ModelOptions)

/-- What comes of an inquiry. -/
def Inquiry.run : Inquiry → Session → Run (Except InvokeError Letters)
  | .one q named, s => askOne service options q named s
  | .chain q, s => askChain service options q s

/-- What comes of inquiries in turn. -/
def inquire : List Inquiry → Session → Run (List (Except InvokeError Letters))
  | [], s => ⟨[], [], s⟩
  | i :: inquiries, s =>
    let r := i.run service options s
    let later := inquire inquiries r.session
    ⟨r.value :: later.value, r.events ++ later.events, later.session⟩

/-- The stages of models in turn, up to the first one that does not fail. -/
def chainVisits (q : Question) : List String → Session → List Visit
  | [], _ => []
  | model :: models, s =>
    let r := stage service options q model s
    ⟨model, r.events ++ verdict model r.value⟩ ::
      match r.value with
      | .error (.stage _) => chainVisits q models r.session
      | _ => []

/-- The stages of an inquiry. -/
def Inquiry.visits : Inquiry → Session → List Visit
  | .one q named, s =>
    let model := (named.filter fun m => !m.isEmpty).getD options.primary
    [⟨model, (stage service options q model s).events⟩]
  | .chain q, s => chainVisits service options q options.chain s

/-- The stages of inquiries in turn. -/
def visits : List Inquiry → Session → List Visit
  | [], _ => []
  | i :: inquiries, s =>
    i.visits service options s ++ visits inquiries (i.run service options s).session

/-! ### Rows of stages -/

/-- The stages are gone through one after another, from the first session to the last one. Lines of
the log may stand behind each of them. -/
inductive Visited : Session → List Visit → Session → Prop where
  | nil (s : Session) : Visited s [] s
  | cons {s s' : Session} {later : List Visit} {lines : List Event} (q : Question) (model : String)
      (hlines : ∀ e ∈ lines, ∃ line, e = .logged line)
      (h : Visited (stage service options q model s).session later s') :
      Visited s (⟨model, (stage service options q model s).events ++ lines⟩ :: later) s'

variable {service options}

theorem Visited.append {s s' s'' : Session} {before after : List Visit}
    (h : Visited service options s before s') (h' : Visited service options s' after s'') :
    Visited service options s (before ++ after) s'' := by
  induction h with
  | nil s => exact h'
  | cons q model hlines h ih => exact .cons q model hlines (ih h')

/-- A row that goes through a stage comes to a session before it. -/
theorem Visited.exists_of_append {s s' : Session} {before after : List Visit} {v : Visit}
    (h : Visited service options s (before ++ v :: after) s') :
    ∃ between, Visited service options s before between ∧
      ∃ q lines, v.events = (stage service options q v.model between).events ++ lines ∧
        ∀ e ∈ lines, ∃ line, e = .logged line := by
  induction before generalizing s with
  | nil =>
    cases h with
    | cons q model hlines h => exact ⟨s, .nil s, q, _, rfl, hlines⟩
  | cons first before ih =>
    cases h with
    | cons q model hlines h =>
      obtain ⟨between, hbefore, hv⟩ := ih h
      exact ⟨between, .cons q model hlines hbefore, hv⟩

variable (service options)

theorem verdict_logged (model : String) (result : Except InvokeError Letters) :
    ∀ e ∈ verdict model result, ∃ line, e = .logged line := by
  intro e he
  cases result with
  | ok text => exact ⟨_, List.mem_singleton.1 he⟩
  | error failure =>
    cases failure with
    | stage failure => exact ⟨_, List.mem_singleton.1 he⟩
    | waitOverflow => cases he

/-- The stages of a chain are a row, and what happens is what happens in them. -/
theorem visited_stages (q : Question) (models : List String) (last : StageFailure) (s : Session) :
    Visited service options s (chainVisits service options q models s)
        (stages service options q last models s).session ∧
      (stages service options q last models s).events
        = (chainVisits service options q models s).flatMap (·.events) := by
  induction models generalizing last s with
  | nil => exact ⟨.nil s, rfl⟩
  | cons model models ih =>
    rw [stages, chainVisits]
    have hlines := verdict_logged model (stage service options q model s).value
    cases hvalue : (stage service options q model s).value with
    | ok text =>
      rw [hvalue] at hlines
      exact ⟨.cons q model hlines (.nil _), by simp [verdict]⟩
    | error e =>
      rw [hvalue] at hlines
      cases e with
      | waitOverflow => exact ⟨.cons q model hlines (.nil _), by simp [verdict]⟩
      | stage failure =>
        -- The next model has its turn in the session that this stage leaves.
        obtain ⟨hlater, hevents⟩ := ih failure (stage service options q model s).session
        refine ⟨.cons q model hlines hlater, ?_⟩
        simp only [Run.after, List.flatMap_cons, hevents]
        rfl

theorem visited_inquiry (i : Inquiry) (s : Session) :
    Visited service options s (i.visits service options s) (i.run service options s).session ∧
      (i.run service options s).events = (i.visits service options s).flatMap (·.events) := by
  cases i with
  | one q named =>
    -- A model that is asked by itself has no lines of the log behind its stage.
    let model := (named.filter fun m => !m.isEmpty).getD options.primary
    have hrow : Visited service options s [⟨model, (stage service options q model s).events ++ []⟩]
        (stage service options q model s).session :=
      .cons q model (fun e he => absurd he List.not_mem_nil) (.nil _)
    rw [List.append_nil] at hrow
    exact ⟨hrow, (List.append_nil _).symm⟩
  | chain q => exact visited_stages service options q options.chain (.noModels options.primary) s

/-- The stages of inquiries are a row. -/
theorem visited_inquire (inquiries : List Inquiry) (s : Session) :
    Visited service options s (visits service options inquiries s)
      (inquire service options inquiries s).session := by
  induction inquiries generalizing s with
  | nil => exact .nil s
  | cons i inquiries ih =>
    exact (visited_inquiry service options i s).1.append (ih (i.run service options s).session)

/-- What happens in all is what happens in the stages. -/
theorem events_inquire (inquiries : List Inquiry) (s : Session) :
    (inquire service options inquiries s).events
      = (visits service options inquiries s).flatMap (·.events) := by
  induction inquiries generalizing s with
  | nil => rfl
  | cons i inquiries ih =>
    rw [inquire, visits, List.flatMap_append, ← ih, ← (visited_inquiry service options i s).2]

end

/-! ### What events tell of clients -/

theorem buildOutcomes_append (model : String) (events later : List Event) :
    buildOutcomes model (events ++ later)
      = buildOutcomes model events ++ buildOutcomes model later :=
  List.filterMap_append

theorem buildOutcomes_built (m model : String) (outcome : Option Fault) :
    buildOutcomes m [.built model outcome] = if model = m then [outcome] else [] := by
  by_cases h : model = m <;> simp [buildOutcomes, h]

/-- Where nothing is built, nothing is built for a model. -/
theorem buildOutcomes_of_builds {events : List Event} (h : Event.builds events = [])
    (model : String) : buildOutcomes model events = [] := by
  rw [Event.builds, List.filterMap_eq_nil_iff] at h
  rw [buildOutcomes, List.filterMap_eq_nil_iff]
  intro e he
  have hnone := h e he
  cases e with
  | built m outcome => cases hnone
  | _ => rfl

/-- What the events tell of the client of a model. As long as its builds fail there is none, and
nothing calls the model. The first build that succeeds is the last one, and every call of the model
goes to the client that came of it. -/
inductive KnownBy (model : String) (events : List Event) : Option Nat → Prop where
  | unbuilt (faults : List Fault) (houtcomes : buildOutcomes model events = faults.map some)
      (hcalls : ∀ call ∈ Event.calls events, call.model ≠ model) : KnownBy model events none
  | built (faults : List Fault)
      (houtcomes : buildOutcomes model events = faults.map some ++ [none])
      (hcalls : ∀ call ∈ Event.calls events, call.model = model → call.client = faults.length) :
      KnownBy model events (some faults.length)

namespace KnownBy
variable {model : String} {events : List Event}

/-- There is a client exactly when a build succeeded. -/
theorem isSome_iff {client : Option Nat} (h : KnownBy model events client) :
    client.isSome = true ↔ none ∈ buildOutcomes model events := by
  cases h with
  | unbuilt faults houtcomes hcalls => simp [houtcomes]
  | built faults houtcomes hcalls => simp [houtcomes]

/-- Events without builds tell the same, if their calls of the model go to its client. -/
theorem append {client : Option Nat} (h : KnownBy model events client) {later : List Event}
    (hbuilds : buildOutcomes model later = [])
    (hlater : ∀ call ∈ Event.calls later, call.model = model → client = some call.client) :
    KnownBy model (events ++ later) client := by
  have houtcomes' : buildOutcomes model (events ++ later) = buildOutcomes model events := by
    rw [buildOutcomes_append, hbuilds, List.append_nil]
  have hcalls' : Event.calls (events ++ later) = Event.calls events ++ Event.calls later :=
    List.filterMap_append
  cases h with
  | unbuilt faults houtcomes hcalls =>
    refine .unbuilt faults (houtcomes'.trans houtcomes) ?_
    rw [hcalls', List.forall_mem_append]
    exact ⟨hcalls, fun call hcall hmodel => by cases hlater call hcall hmodel⟩
  | built faults houtcomes hcalls =>
    refine .built faults (houtcomes'.trans houtcomes) ?_
    rw [hcalls', List.forall_mem_append]
    exact ⟨hcalls, fun call hcall hmodel => (Option.some.inj (hlater call hcall hmodel)).symm⟩

end KnownBy

/-- The session knows of its clients what the events tell, and how often each was built. -/
structure Session.Follows (s : Session) (events : List Event) : Prop where
  builds : ∀ model, s.builds.count model = (buildOutcomes model events).length
  client : ∀ model, KnownBy model events (s.clients.lookup model)

theorem Session.follows_fresh (clock : Float) : ({ clock := clock } : Session).Follows [] where
  builds _ := rfl
  client _ := .unbuilt [] rfl fun _ hcall => absurd hcall List.not_mem_nil

namespace Session.Follows
variable {s : Session} {events : List Event} (h : s.Follows events)
include h

/-- Events without builds are followed by a session with the same clients. -/
theorem append {s' : Session} {later : List Event} (hbuilds : Event.builds later = [])
    (hlater : ∀ call ∈ Event.calls later, s.clients.lookup call.model = some call.client)
    (hclients : s'.clients = s.clients) (hcount : s'.builds = s.builds) :
    s'.Follows (events ++ later) where
  builds model := by
    rw [hcount, h.builds, buildOutcomes_append, buildOutcomes_of_builds hbuilds, List.append_nil]
  client model := by
    rw [hclients]
    refine (h.client model).append (buildOutcomes_of_builds hbuilds model) ?_
    rintro call hcall rfl
    exact hlater call hcall

/-- A build is followed by a session that has counted it and has the client that came of it. -/
theorem append_built {s' : Session} {model : String} (hnew : s.clients.lookup model = none)
    (outcome : Option Fault) (hcount : s'.builds = model :: s.builds)
    (hclient : s'.clients.lookup model
      = if outcome = none then some (s.builds.count model) else none)
    (hothers : ∀ m, m ≠ model → s'.clients.lookup m = s.clients.lookup m) :
    s'.Follows (events ++ [.built model outcome]) where
  builds m := by
    rw [hcount, buildOutcomes_append, buildOutcomes_built, List.length_append, ← h.builds,
      List.count_cons]
    by_cases hm : model = m <;> simp [hm]
  client m := by
    by_cases hm : m = model
    · subst hm
      have hknown := h.client m
      have hbuilds := h.builds m
      have hcalls : Event.calls (events ++ [.built m outcome]) = Event.calls events := by
        simp [Event.calls]
      -- There is no client yet, so every build so far failed and nothing called the model.
      rw [hnew] at hknown
      cases hknown with
      | unbuilt faults houtcomes hnone =>
        have houtcomes' : buildOutcomes m (events ++ [.built m outcome])
            = faults.map some ++ [outcome] := by
          rw [buildOutcomes_append, houtcomes, buildOutcomes_built, if_pos rfl]
        rw [houtcomes, List.length_map] at hbuilds
        cases outcome with
        | some fault =>
          rw [hclient, if_neg (by simp)]
          exact .unbuilt (faults ++ [fault]) (by simp [houtcomes']) (hcalls ▸ hnone)
        | none =>
          rw [hclient, if_pos rfl, hbuilds]
          exact .built faults houtcomes' fun call hcall hmodel =>
            absurd hmodel (hnone call (hcalls ▸ hcall))
    · -- The build tells nothing about other models.
      rw [hothers m hm]
      refine (h.client m).append ?_ fun call hcall => absurd hcall List.not_mem_nil
      rw [buildOutcomes_built, if_neg (Ne.symm hm)]

/-- A client is built exactly when no build for its model succeeded before, and the session goes on
to follow the events. -/
theorem lookupOrBuild (service : Service) (model : String) :
    let r := s.client service model
    r.session.Follows (events ++ r.events) ∧
      (∀ number, r.value = .ok number → r.session.clients.lookup model = some number) ∧
      (none ∈ buildOutcomes model events → r.events = []) ∧
      (none ∉ buildOutcomes model events → ∃ outcome, r.events = [.built model outcome]) := by
  intro r
  have hiff := (h.client model).isSome_iff
  cases hlookup : s.clients.lookup model with
  | some number =>
    have hr : r = ⟨.ok number, [], s⟩ := client_of_known service model hlookup
    rw [hlookup] at hiff
    rw [hr]
    refine ⟨by rwa [List.append_nil], ?_, fun _ => rfl, fun hnone => absurd (hiff.1 rfl) hnone⟩
    intro number' hnumber
    rw [hlookup, Except.ok.inj hnumber]
  | none =>
    have hnone : none ∉ buildOutcomes model events := fun hmem => by
      rw [hlookup] at hiff
      cases hiff.2 hmem
    cases hbuild : service.build model (s.builds.count model) with
    | some fault =>
      have hr : r = _ := client_of_fault service model hlookup hbuild
      rw [hr]
      exact ⟨h.append_built hlookup (some fault) rfl hlookup fun _ _ => rfl,
        fun number hnumber => (by cases hnumber), fun hmem => absurd hmem hnone,
        fun _ => ⟨_, rfl⟩⟩
    | none =>
      have hr : r = _ := client_of_new service model hlookup hbuild
      have hfound : r.session.clients.lookup model = some (s.builds.count model) := by
        rw [hr, List.lookup_cons, beq_self_eq_true]
      rw [hr] at hfound ⊢
      refine ⟨h.append_built hlookup none rfl hfound ?_, ?_, fun hmem => absurd hmem hnone,
        fun _ => ⟨_, rfl⟩⟩
      · intro m hm
        have hne : (m == model) = false := by simpa using hm
        rw [List.lookup_cons, hne]
      · intro number hnumber
        rw [hfound, Except.ok.inj hnumber]

end Session.Follows

/-! ### Stages -/

section
variable (service : Service) (options : ModelOptions) (q : Question)

/-- A stage looks up or builds a client. After that it builds nothing, and its calls go to that
client. -/
theorem stage_client (s : Session) (model : String) :
    let r := stage service options q model s
    let c := s.client service model
    ∃ rest, r.events = c.events ++ rest ∧ Event.builds rest = [] ∧
      (∀ call ∈ Event.calls rest, call.model = model ∧ c.value = .ok call.client) ∧
      r.session.clients = c.session.clients ∧ r.session.builds = c.session.builds := by
  intro r c
  cases hclient : (s.client service model).value with
  | error fault =>
    have hr : r = _ := stage_of_unbuilt service options q model hclient
    rw [hr]
    exact ⟨_, rfl, rfl, fun call hcall => absurd hcall List.not_mem_nil, rfl, rfl⟩
  | ok client =>
    obtain ⟨_, hr⟩ := stage_of_built service options q model client hclient
    have hr : r = _ := hr
    rw [hr]
    refine ⟨_, rfl, builds_triesEvents options q model client 0 _ _, ?_, rfl, rfl⟩
    intro call hcall
    rw [calls_triesEvents] at hcall
    rw [List.eq_of_mem_replicate hcall]
    exact ⟨rfl, rfl⟩

/-- A stage builds a client first of all, and only if no build for its model succeeded before. The
session goes on to follow the events. -/
theorem Session.Follows.stage {s : Session} {events : List Event} (h : s.Follows events)
    (model : String) :
    let r := Model.stage service options q model s
    r.session.Follows (events ++ r.events) ∧
      (none ∈ buildOutcomes model events → Event.builds r.events = []) ∧
      (none ∉ buildOutcomes model events →
        ∃ outcome rest, r.events = .built model outcome :: rest ∧ Event.builds rest = []) ∧
      ∀ call ∈ Event.calls r.events, call.model = model := by
  intro r
  -- A stage is the looking up of a client and then calls of that client.
  obtain ⟨hfollows, hfound, hknown, hnew⟩ := h.lookupOrBuild service model
  obtain ⟨rest, hevents, hbuilds, hcalls, hclients, hcount⟩ :=
    stage_client service options q s model
  have hsilent : Event.calls (s.client service model).events = [] := by
    by_cases hmem : none ∈ buildOutcomes model events
    · rw [hknown hmem]
      rfl
    · obtain ⟨outcome, hbuilt⟩ := hnew hmem
      rw [hbuilt]
      rfl
  refine ⟨?_, ?_, ?_, ?_⟩
  · show r.session.Follows (events ++ r.events)
    rw [hevents, ← List.append_assoc]
    refine hfollows.append hbuilds ?_ hclients hcount
    intro call hcall
    obtain ⟨hmodel, hclient⟩ := hcalls call hcall
    rw [hmodel]
    exact hfound call.client hclient
  · intro hmem
    rw [hevents, hknown hmem, List.nil_append]
    exact hbuilds
  · intro hmem
    obtain ⟨outcome, hbuilt⟩ := hnew hmem
    exact ⟨outcome, rest, by rw [hevents, hbuilt]; rfl, hbuilds⟩
  · intro call hcall
    rw [hevents, Event.calls, List.filterMap_append] at hcall
    rcases List.mem_append.1 hcall with hfirst | hrest
    · rw [show List.filterMap _ _ = [] from hsilent] at hfirst
      cases hfirst
    · exact (hcalls call hrest).1

/-- Lines of the log build and call nothing. -/
theorem filterMap_lines {α : Type} {f : Event → Option α} {lines : List Event}
    (hlines : ∀ e ∈ lines, ∃ line, e = .logged line) (hf : ∀ line, f (.logged line) = none) :
    lines.filterMap f = [] := by
  rw [List.filterMap_eq_nil_iff]
  intro e he
  obtain ⟨line, rfl⟩ := hlines e he
  exact hf line

/-- Along a row of stages the session follows the events. -/
theorem Visited.follows {service : Service} {options : ModelOptions} {s s' : Session}
    {row : List Visit} {events : List Event} (h : Visited service options s row s')
    (hs : s.Follows events) : s'.Follows (events ++ row.flatMap (·.events)) := by
  induction h generalizing events with
  | nil s => rwa [List.flatMap_nil, List.append_nil]
  | @cons s s' later lines q model hlines h ih =>
    obtain ⟨hstage, -⟩ := hs.stage service options q model
    have hcalls : Event.calls lines = [] := filterMap_lines hlines fun _ => rfl
    have hline : (Model.stage service options q model s).session.Follows
        (events ++ (Model.stage service options q model s).events ++ lines) := by
      refine hstage.append (filterMap_lines hlines fun _ => rfl) ?_ rfl rfl
      rw [hcalls]
      exact fun call hcall => absurd hcall List.not_mem_nil
    rw [List.flatMap_cons, ← List.append_assoc, ← List.append_assoc]
    exact ih hline

end

/-- **Every client is built once.** Ask models one after another in a fresh session, by themselves
or in chains. What happens is what happens in the stages. A stage whose model had a successful build
before builds nothing, and any other stage begins with a build for its model and builds nothing
more; its calls are calls of its model. So the builds for a model fail until one succeeds, which is
the last one, and every call of the model goes to the client of that build. -/
theorem clients_of_inquiries (service : Service) (options : ModelOptions)
    (inquiries : List Inquiry) (clock : Float) :
    let r := inquire service options inquiries { clock := clock }
    let stages := visits service options inquiries { clock := clock }
    r.events = stages.flatMap (·.events) ∧
    (∀ before v after, stages = before ++ v :: after →
      let earlier := before.flatMap (·.events)
      (none ∈ buildOutcomes v.model earlier → Event.builds v.events = []) ∧
      (none ∉ buildOutcomes v.model earlier →
        ∃ outcome rest, v.events = .built v.model outcome :: rest ∧ Event.builds rest = []) ∧
      ∀ call ∈ Event.calls v.events, call.model = v.model) ∧
    ∀ model, ∃ faults : List Fault,
      (buildOutcomes model r.events = faults.map some ∧
        ∀ call ∈ Event.calls r.events, call.model ≠ model) ∨
      (buildOutcomes model r.events = faults.map some ++ [none] ∧
        ∀ call ∈ Event.calls r.events, call.model = model → call.client = faults.length) := by
  intro r stages
  have hrow := visited_inquire service options inquiries { clock := clock }
  have hevents : r.events = stages.flatMap (·.events) := events_inquire service options inquiries _
  refine ⟨hevents, ?_, ?_⟩
  · intro before v after hstages earlier
    have hsplit : Visited service options { clock := clock } (before ++ v :: after) r.session :=
      hstages ▸ hrow
    -- The stage starts in a session that follows the events of the stages before it.
    obtain ⟨between, hbefore, q, lines, hv, hlines⟩ := hsplit.exists_of_append
    have hfollows : between.Follows earlier := hbefore.follows (Session.follows_fresh clock)
    obtain ⟨-, hknown, hnew, hcalls⟩ := hfollows.stage service options q v.model
    have hbuilds : Event.builds lines = [] := filterMap_lines hlines fun _ => rfl
    have hsilent : Event.calls lines = [] := filterMap_lines hlines fun _ => rfl
    refine ⟨?_, ?_, ?_⟩
    · intro hmem
      rw [hv, Event.builds, List.filterMap_append]
      exact List.append_eq_nil_iff.2 ⟨hknown hmem, hbuilds⟩
    · intro hmem
      obtain ⟨outcome, rest, hstage, hrest⟩ := hnew hmem
      refine ⟨outcome, rest ++ lines, by rw [hv, hstage]; rfl, ?_⟩
      rw [Event.builds, List.filterMap_append]
      exact List.append_eq_nil_iff.2 ⟨hrest, hbuilds⟩
    · intro call hcall
      rw [hv, Event.calls, List.filterMap_append] at hcall
      rcases List.mem_append.1 hcall with hstage | hline
      · exact hcalls call hstage
      · rw [show List.filterMap _ _ = [] from hsilent] at hline
        cases hline
  · intro model
    have hfollows : r.session.Follows r.events :=
      hevents ▸ hrow.follows (Session.follows_fresh clock)
    -- What the session has in the end is no matter, only what it says of the events.
    have hknown := hfollows.client model
    generalize r.session.clients.lookup model = client at hknown
    cases hknown with
    | unbuilt faults houtcomes hcalls => exact ⟨faults, .inl ⟨houtcomes, hcalls⟩⟩
    | built faults houtcomes hcalls => exact ⟨faults, .inr ⟨houtcomes, hcalls⟩⟩

/-- The first build of a client fails, and the second one succeeds. The model answers its first call
with an error; it is called again by the third inquiry, which builds nothing. Both calls go to the
client of the second build. -/
theorem clients_of_three_inquiries :
    let service : Service :=
      { build := fun _ i => if i = 0 then some ⟨.missing, "gpt-4.1", []⟩ else none
        answer := fun _ i =>
          if i = 0 then ⟨.error ⟨.value, "bad key", []⟩, 1.0⟩ else ⟨.ok "draft", 1.0⟩ }
    let inquiry : Inquiry := .one ⟨"instruction", "prompt"⟩ none
    let r := inquire service {} [inquiry, inquiry, inquiry] { clock := 0.0 }
    let stages := visits service {} [inquiry, inquiry, inquiry] { clock := 0.0 }
    stages.map (·.model) = ["gpt-4.1", "gpt-4.1", "gpt-4.1"] ∧
      (buildOutcomes "gpt-4.1" r.events).map Option.isNone = [false, true] ∧
      (∀ v ∈ stages.drop 2, Event.builds v.events = []) ∧
      (Event.calls r.events).length = 2 ∧
      ∀ call ∈ Event.calls r.events, call.model = "gpt-4.1" → call.client = 1 := by
  intro service inquiry r stages
  obtain ⟨-, hstages, hclients⟩ := clients_of_inquiries service {} [inquiry, inquiry, inquiry] 0.0
  have houtcomes : (buildOutcomes "gpt-4.1" r.events).map Option.isNone = [false, true] := by
    decide +kernel
  refine ⟨rfl, houtcomes, ?_, by decide +kernel, ?_⟩
  · have hearlier : ((buildOutcomes "gpt-4.1" ((stages.take 2).flatMap (·.events))).any
        Option.isNone) = true := by decide +kernel
    intro v hv
    obtain rfl : v = _ := List.mem_singleton.1 hv
    refine (hstages (stages.take 2) _ [] rfl).1 ?_
    obtain ⟨outcome, hmem, hnone⟩ := List.any_eq_true.1 hearlier
    rwa [Option.isNone_iff_eq_none.1 hnone] at hmem
  · intro call hcall hmodel
    obtain ⟨faults, ⟨hfailed, -⟩ | ⟨hbuilt, hsame⟩⟩ := hclients "gpt-4.1"
    · rw [hfailed] at houtcomes
      have hfalse : true ∈ (faults.map some).map Option.isNone := by simp [houtcomes]
      simp at hfalse
    · have hlength := congrArg List.length houtcomes
      rw [hbuilt] at hlength
      rw [hsame call hcall hmodel]
      simpa using hlength

end FlowDraft.Model
