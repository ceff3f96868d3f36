import FlowDraft.Store.Handle
import Mathlib.Data.List.Induction

/-!
# `FlowDraft.Proofs.Store.Shared`: a store that many ask for at once

`Step` has a rule for each thing that can happen to the shared store, and `step?` lets happen
exactly what the rules allow (`step?_eq_some_iff`). Builds take time, so several of them can be
under way, and they end in any order among other events. Nothing is assumed of the order, nor of the
number of callers.

Two invariants hold along every run that starts without a store. The store that is there was
supplied by a build that was completed or by someone who installed it (`supplied_of_run?`), and the
builds under way are those that began and did not end (`count_building`). Once a store is there and
no build is under way, callers find that store as long as none is installed (`found_of_settled`).
`shared_store` is the main statement. What a single caller does when nothing comes between is such a
run too (`run?_get`).
-/

set_option autoImplicit false

namespace FlowDraft.Store.Handle

variable {σ : Type}

/-! ### What can happen -/

/-- The store with which a caller returns. -/
def Event.returned? : Event σ → Option σ
  | .found _ store | .built _ store => some store
  | _ => none

/-- The event is the beginning of a build of the caller. -/
def Event.begins (caller : Nat) : Event σ → Bool
  | .began c => c == caller
  | _ => false

/-- The event is the end of a build of the caller. -/
def Event.ends (caller : Nat) : Event σ → Bool
  | .built c _ | .failed c _ => c == caller
  | _ => false

/-- The event installs a store or takes one away. -/
def Event.isPut : Event σ → Bool
  | .put _ => true
  | _ => false

/-- What an event leaves. -/
inductive Step : Handle σ → Event σ → Handle σ → Prop where
  /-- A caller who finds a store gets it at once. -/
  | found {h : Handle σ} {caller : Nat} {store : σ} (hstore : h.current = some store) :
      Step h (.found caller store) h
  /-- A caller who finds none begins a build. -/
  | began {h : Handle σ} {caller : Nat} (hnone : h.current = none) :
      Step h (.began caller) ⟨none, caller :: h.building⟩
  /-- A build under way may be completed, whatever is there by then. -/
  | built {h : Handle σ} {caller : Nat} {store : σ} (hbuilding : caller ∈ h.building) :
      Step h (.built caller store) ⟨some store, h.building.erase caller⟩
  /-- A build under way may fail. -/
  | failed {h : Handle σ} {caller : Nat} {fault : Fault} (hbuilding : caller ∈ h.building) :
      Step h (.failed caller fault) ⟨h.current, h.building.erase caller⟩
  /-- A store may be installed or taken away at any time. -/
  | put {h : Handle σ} {store : Option σ} : Step h (.put store) ⟨store, h.building⟩

section
variable [DecidableEq σ]

/-- Exactly what the rules allow can happen. -/
theorem step?_eq_some_iff {h h' : Handle σ} {e : Event σ} : h.step? e = some h' ↔ Step h e h' := by
  constructor
  · intro happens
    cases e with
    | found caller store =>
      simp only [step?, Option.ite_none_right_eq_some, Option.some.injEq] at happens
      obtain ⟨hstore, rfl⟩ := happens
      exact .found hstore
    | began caller =>
      simp only [step?, Option.ite_none_right_eq_some, Option.some.injEq,
        Option.isNone_iff_eq_none] at happens
      obtain ⟨hnone, rfl⟩ := happens
      rw [hnone]
      exact .began hnone
    | built caller store =>
      simp only [step?, Option.ite_none_right_eq_some, Option.some.injEq] at happens
      obtain ⟨hbuilding, rfl⟩ := happens
      exact .built hbuilding
    | failed caller fault =>
      simp only [step?, Option.ite_none_right_eq_some, Option.some.injEq] at happens
      obtain ⟨hbuilding, rfl⟩ := happens
      exact .failed hbuilding
    | put store =>
      simp only [step?, Option.some.injEq] at happens
      subst happens
      exact .put
  · intro happens
    cases happens with
    | found hstore => exact if_pos hstore
    | began hnone => simp [step?, hnone]
    | built hbuilding => exact if_pos hbuilding
    | failed hbuilding => exact if_pos hbuilding
    | put => rfl

theorem run?_append (h : Handle σ) (before after : List (Event σ)) :
    h.run? (before ++ after) = (h.run? before).bind fun between => between.run? after := by
  rw [run?, List.foldlM_append]
  rfl

/-- A run that goes through an event goes through the handles before and after it. -/
theorem exists_step_of_run? {h h' : Handle σ} {before after : List (Event σ)} {e : Event σ}
    (happens : h.run? (before ++ e :: after) = some h') :
    ∃ was now, h.run? before = some was ∧ Step was e now ∧ now.run? after = some h' := by
  rw [run?_append, Option.bind_eq_some_iff] at happens
  obtain ⟨was, hbefore, hrest⟩ := happens
  rw [run?, List.foldlM_cons] at hrest
  obtain ⟨now, hstep, hafter⟩ := Option.bind_eq_some_iff.1 hrest
  exact ⟨was, now, hbefore, step?_eq_some_iff.1 hstep, hafter⟩

end

/-! ### Where a store comes from -/

/-- A build was completed with the store, or someone installed it. -/
def Supplied (events : List (Event σ)) (store : σ) : Prop :=
  (∃ caller, .built caller store ∈ events) ∨ .put (some store) ∈ events

theorem Supplied.append {events : List (Event σ)} {store : σ} (h : Supplied events store)
    (later : List (Event σ)) : Supplied (events ++ later) store := by
  rcases h with ⟨caller, hbuilt⟩ | hput
  · exact .inl ⟨caller, List.mem_append_left later hbuilt⟩
  · exact .inr (List.mem_append_left later hput)

/-- A store that is there after an event was there before it, or came with it. -/
theorem Step.supplied {h h' : Handle σ} {e : Event σ} {store : σ} (happens : Step h e h')
    (hstore : h'.current = some store) : h.current = some store ∨ Supplied [e] store := by
  cases happens with
  | found _ => exact .inl hstore
  | began _ => cases hstore
  | built _ =>
    obtain rfl := Option.some.inj hstore
    exact .inr (.inl ⟨_, List.mem_singleton_self _⟩)
  | failed _ => exact .inl hstore
  | put =>
    have hput : _ = some store := hstore
    subst hput
    exact .inr (.inr (List.mem_singleton_self _))

/-- Whoever returns does so with the store that is there then. -/
theorem Step.current_of_returned {h h' : Handle σ} {e : Event σ} {store : σ}
    (happens : Step h e h') (hreturned : e.returned? = some store) : h'.current = some store := by
  cases happens with
  | found hstore => exact hstore.trans hreturned
  | built _ => exact hreturned
  | began _ => cases hreturned
  | failed _ => cases hreturned
  | put => cases hreturned

section
variable [DecidableEq σ]

/-- Along a run that starts without a store, the one that is there was supplied. -/
theorem supplied_of_run? {events : List (Event σ)} {h : Handle σ} {store : σ}
    (happens : run? {} events = some h) (hstore : h.current = some store) :
    Supplied events store := by
  induction events using List.reverseRecOn generalizing h with
  | nil =>
    obtain rfl := Option.some.inj happens
    cases hstore
  | append_singleton events e ih =>
    obtain ⟨was, now, hbefore, hstep, hafter⟩ := exists_step_of_run? happens
    obtain rfl : now = h := Option.some.inj hafter
    -- The last event supplied the store, or it was there before.
    rcases hstep.supplied hstore with hold | hnew
    · exact (ih hbefore hold).append [e]
    · exact hnew.imp (fun ⟨caller, hbuilt⟩ => ⟨caller, List.mem_append_right events hbuilt⟩)
        (List.mem_append_right events)

end

/-! ### Builds under way -/

theorem count_erase_add {building : List Nat} {c : Nat} (h : c ∈ building) (caller : Nat) :
    (building.erase c).count caller + (if c == caller then 1 else 0) = building.count caller := by
  by_cases hc : c = caller
  · subst hc
    have hpos := List.count_pos_iff.2 h
    rw [List.count_erase_self, beq_self_eq_true, if_pos rfl]
    omega
  · simp [hc, List.count_erase_of_ne (Ne.symm hc)]

/-- A build is added when it begins and taken away when it ends. -/
theorem Step.count_building {h h' : Handle σ} {e : Event σ} (happens : Step h e h')
    (caller : Nat) :
    h'.building.count caller + [e].countP (Event.ends caller)
      = h.building.count caller + [e].countP (Event.begins caller) := by
  cases happens with
  | found _ => rfl
  | began _ => simp [Event.ends, Event.begins, List.count_cons]
  | built hbuilding => simpa [Event.ends, Event.begins] using count_erase_add hbuilding caller
  | failed hbuilding => simpa [Event.ends, Event.begins] using count_erase_add hbuilding caller
  | put => rfl

section
variable [DecidableEq σ]

/-- The builds under way are those that began and did not end. -/
theorem count_building {events : List (Event σ)} {h : Handle σ}
    (happens : run? {} events = some h) (caller : Nat) :
    h.building.count caller + events.countP (Event.ends caller)
      = events.countP (Event.begins caller) := by
  induction events using List.reverseRecOn generalizing h with
  | nil =>
    obtain rfl := Option.some.inj happens
    rfl
  | append_singleton events e ih =>
    obtain ⟨was, now, hbefore, hstep, hafter⟩ := exists_step_of_run? happens
    obtain rfl : now = h := Option.some.inj hafter
    have hcount := ih hbefore
    have hone := hstep.count_building caller
    rw [List.countP_append, List.countP_append]
    omega

end

/-! ### A store that stays -/

/-- Where a store is there and no build is under way, nothing can happen but that a caller finds
the store, or that one is installed. -/
theorem Step.of_settled {h h' : Handle σ} {e : Event σ} {store : σ} (happens : Step h e h')
    (hstore : h.current = some store) (hbuilding : h.building = []) (hput : e.isPut = false) :
    h' = h ∧ ∃ caller, e = .found caller store := by
  cases happens with
  | found hfound =>
    obtain rfl := Option.some.inj (hfound.symm.trans hstore)
    exact ⟨rfl, _, rfl⟩
  | began hnone => cases hnone.symm.trans hstore
  | built hmem => simp [hbuilding] at hmem
  | failed hmem => simp [hbuilding] at hmem
  | put => cases hput

section
variable [DecidableEq σ]

/-- From then on every caller finds this store, as long as none is installed. -/
theorem found_of_settled {h h' : Handle σ} {events : List (Event σ)} {store : σ}
    (happens : h.run? events = some h') (hstore : h.current = some store)
    (hbuilding : h.building = []) (hput : ∀ e ∈ events, e.isPut = false) :
    h' = h ∧ ∀ e ∈ events, ∃ caller, e = .found caller store := by
  induction events with
  | nil => exact ⟨(Option.some.inj happens).symm, fun e he => absurd he List.not_mem_nil⟩
  | cons e events ih =>
    rw [List.forall_mem_cons] at hput
    have hfirst : h.run? ([] ++ e :: events) = some h' := happens
    obtain ⟨was, now, hbefore, hstep, hafter⟩ := exists_step_of_run? hfirst
    obtain rfl : h = was := Option.some.inj hbefore
    obtain ⟨rfl, hfound⟩ := hstep.of_settled hstore hbuilding hput.1
    obtain ⟨hsame, hothers⟩ := ih hafter hput.2
    exact ⟨hsame, List.forall_mem_cons.2 ⟨hfound, hothers⟩⟩

/-! ### The shared store -/

/-- What a single caller does when nothing comes between is a run. It returns with the store that is
there afterwards, or it fails and leaves everything as it was. -/
theorem run?_get (h : Handle σ) (caller : Nat) (build : Unit → Except Fault σ) :
    ∃ h', h.run? (h.get caller build).2 = some h' ∧ h'.building = h.building ∧
      (∀ store, (h.get caller build).1 = .ok store → h'.current = some store) ∧
      ∀ fault, (h.get caller build).1 = .error fault → h'.current = h.current := by
  rw [get]
  cases hcurrent : h.current with
  | some store =>
    refine ⟨h, by simp [run?, step?, hcurrent], rfl, ?_, fun fault hfault => by cases hfault⟩
    intro store' hok
    rw [hcurrent, Except.ok.inj hok]
  | none =>
    cases build () with
    | ok store =>
      refine ⟨⟨some store, h.building⟩, by simp [run?, step?, hcurrent], rfl, ?_,
        fun fault hfault => by cases hfault⟩
      intro store' hok
      rw [Except.ok.inj hok]
    | error fault =>
      exact ⟨⟨none, h.building⟩, by simp [run?, step?, hcurrent], rfl,
        fun store hok => (by cases hok), fun _ _ => rfl⟩

end

/-- **A store that many ask for at once.** Take any run of the shared store from the beginning, and
any event in it. It leads from one handle to the next by a rule. A build that fails leaves the store
as it is. A caller returns with the store that is there then, which was supplied by then. A build
begins only where no store is there, the builds under way are those that began and did not end, and
only such a build can end. And if a store is there before the event, no build is under way, and none
is installed from then on, then from this event on every caller finds this store, and no build
begins or ends. -/
theorem shared_store [DecidableEq σ] {events : List (Event σ)} {h : Handle σ}
    (happens : run? {} events = some h) (before : List (Event σ)) (e : Event σ)
    (after : List (Event σ)) (hevents : events = before ++ e :: after) :
    ∃ was now, run? {} before = some was ∧ Step was e now ∧ now.run? after = some h ∧
      (∀ caller fault, e = .failed caller fault → now.current = was.current) ∧
      (∀ store, e.returned? = some store →
        now.current = some store ∧ Supplied (before ++ [e]) store) ∧
      (∀ caller, e = .began caller → was.current = none) ∧
      (∀ caller, was.building.count caller + before.countP (Event.ends caller)
        = before.countP (Event.begins caller)) ∧
      (∀ caller, e.ends caller = true →
        before.countP (Event.ends caller) < before.countP (Event.begins caller)) ∧
      ∀ store, was.current = some store → was.building = [] →
        (∀ e' ∈ e :: after, e'.isPut = false) →
        h = was ∧ ∀ e' ∈ e :: after, ∃ caller, e' = .found caller store := by
  subst hevents
  obtain ⟨was, now, hbefore, hstep, hafter⟩ := exists_step_of_run? happens
  have hthrough : run? {} (before ++ [e]) = some now := by
    rw [run?_append, hbefore, Option.bind_some, run?, List.foldlM_cons, step?_eq_some_iff.2 hstep]
    rfl
  refine ⟨was, now, hbefore, hstep, hafter, ?_, ?_, ?_, count_building hbefore, ?_, ?_⟩
  · rintro caller fault rfl
    exact step?_failed_current (step?_eq_some_iff.2 hstep)
  · intro store hreturned
    have hstore := hstep.current_of_returned hreturned
    exact ⟨hstore, supplied_of_run? hthrough hstore⟩
  · rintro caller rfl
    cases hstep with
    | began hnone => exact hnone
  · intro caller hends
    -- After the event one more build has ended, and there were never more ends than beginnings.
    have hcount := count_building hthrough caller
    have hbegins : e.begins caller = false := by cases e <;> first | rfl | cases hends
    rw [List.countP_append, List.countP_append] at hcount
    simp only [List.countP_singleton, hends, hbegins, if_true, Bool.false_eq_true, if_false]
      at hcount
    omega
  · intro store hstore hbuilding hput
    rw [run?_append, hbefore] at happens
    exact found_of_settled happens hstore hbuilding hput

/-- Two callers begin a build, and each completes its own. A third caller comes between and gets the
first store, which is gone for a fourth one. -/
theorem shared_store_of_two_builds :
    let events : List (Event Nat) :=
      [.began 1, .began 2, .built 2 20, .found 3 20, .built 1 10, .found 4 10]
    run? {} events = some ⟨some 10, []⟩ ∧ Supplied (events.take 4) 20 ∧
      ∀ e ∈ events.drop 5, ∃ caller, e = .found caller 10 := by
  intro events
  have happens : run? {} events = some ⟨some 10, []⟩ := by rfl
  have hthird := shared_store happens (events.take 3) (.found 3 20) (events.drop 4) rfl
  have hfourth := shared_store happens (events.take 5) (.found 4 10) [] rfl
  refine ⟨happens, ?_, ?_⟩
  · obtain ⟨_, _, _, _, _, _, hreturned, _⟩ := hthird
    exact (hreturned 20 rfl).2
  · obtain ⟨was, now, hbefore, _, _, _, _, _, _, _, hsettled⟩ := hfourth
    have hwas : was = ⟨some 10, []⟩ := (Option.some.inj hbefore).symm
    subst hwas
    exact (hsettled 10 rfl rfl (by decide)).2

end FlowDraft.Store.Handle
