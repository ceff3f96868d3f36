import FlowDraft.Model.Invoke

/-!
# `FlowDraft.Proofs.Model.Stage`: the tries at one model

A model answers its calls in turn: its `Script` holds the outcomes. `Script.calls` is the number of
calls that a budget of them allows, up to the first outcome that is no overload.

`tries_eq` says what the tries at a model come to, from any number of doublings of the wait on.
`stage_of_built` and `stage_of_unbuilt` say it of a whole stage. There, as many tries are made as
`tryBudget` allows: `maxTries`, but never a try whose wait is beyond the range of numbers.

The statements hold from any session on, so a session may have asked the same model before.
-/

set_option autoImplicit false

namespace FlowDraft.Model

/-- The outcomes of the calls of a model, in turn. -/
abbrev Script := Nat → Except Fault Letters

namespace Script

/-- The outcome at a place is the fault of a service with too much to do. -/
def busy (script : Script) (i : Nat) : Bool :=
  match script i with
  | .ok _ => false
  | .error fault => fault.isOverload

/-- The outcomes after the first one. -/
def tail (script : Script) : Script := fun i => script (i + 1)

/-- The number of calls that are made when `budget` calls may be made: up to the first outcome that
is no overload, or all of them. -/
def calls (script : Script) (budget : Nat) : Nat :=
  ((List.range budget).find? fun i => !script.busy i).elim budget (· + 1)

/-- An outcome that is no overload ends the calls. -/
theorem calls_of_not_busy {script : Script} {budget : Nat} (h : script.busy 0 = false) :
    script.calls (budget + 1) = 1 := by
  simp [calls, List.range_succ_eq_map, h]

/-- After an overload the calls go on with the outcomes that are left. -/
theorem calls_of_busy {script : Script} {budget : Nat} (h : script.busy 0 = true) :
    script.calls (budget + 1) = script.tail.calls budget + 1 := by
  have hfind : ((List.range (budget + 1)).find? fun i => !script.busy i)
      = ((List.range budget).find? fun i => !script.tail.busy i).map (· + 1) := by
    rw [List.range_succ_eq_map, List.find?_cons_of_neg (by simp [h]), List.find?_map]
    rfl
  rw [calls, hfind, calls]
  cases (List.range budget).find? fun i => !script.tail.busy i <;> rfl

/-- Every outcome before the last call is an overload. -/
theorem busy_of_lt_calls {script : Script} {budget i : Nat} (h : i + 1 < script.calls budget) :
    script.busy i = true := by
  rw [calls] at h
  cases hfind : (List.range budget).find? fun i => !script.busy i with
  | none =>
    rw [hfind] at h
    have hi : i ∈ List.range budget := by
      simp only [Option.elim_none] at h
      exact List.mem_range.2 (by omega)
    simpa using List.find?_eq_none.1 hfind i hi
  | some j =>
    rw [hfind] at h
    have hi : i < j := Nat.lt_of_succ_lt_succ h
    simpa using (List.find?_range_eq_some.1 hfind).2.2 i hi

/-- No more calls are made than may be made. -/
theorem calls_le (script : Script) (budget : Nat) : script.calls budget ≤ budget := by
  rw [calls]
  cases hfind : (List.range budget).find? fun i => !script.busy i with
  | none => exact Nat.le_refl budget
  | some i => exact List.mem_range.1 (List.mem_of_find?_eq_some hfind)

/-- Where the last call met an overload, the budget is used up. -/
theorem calls_eq_budget {script : Script} {budget : Nat}
    (h : script.busy (script.calls budget - 1) = true) : script.calls budget = budget := by
  rw [calls] at h ⊢
  cases hfind : (List.range budget).find? fun i => !script.busy i with
  | none => rfl
  | some j =>
    have hj := List.find?_some hfind
    rw [hfind, Option.elim_some, Nat.add_sub_cancel] at h
    simp [h] at hj

/-- One call is made where it ends the calls or is the only one. -/
theorem calls_eq_one {script : Script} {budget : Nat} (h : script.busy 0 = true → budget = 1)
    (hpos : 0 < budget) : script.calls budget = 1 := by
  obtain ⟨b, rfl⟩ := Nat.exists_eq_succ_of_ne_zero (Nat.ne_of_gt hpos)
  cases hb : script.busy 0 with
  | false => exact calls_of_not_busy hb
  | true =>
    rw [calls_of_busy hb, show b = 0 from Nat.succ.inj (h hb)]
    rfl

/-- Where a call may be made, one is made. -/
theorem calls_pos (script : Script) {budget : Nat} (h : 0 < budget) : 0 < script.calls budget := by
  obtain ⟨b, rfl⟩ := Nat.exists_eq_succ_of_ne_zero (Nat.ne_of_gt h)
  cases hb : script.busy 0 with
  | false => rw [calls_of_not_busy hb]; omega
  | true => rw [calls_of_busy hb]; omega

end Script

/-- What the model answers from a session on. -/
def Session.script (service : Service) (s : Session) (model : String) : Script :=
  fun i => (service.answer model (s.calls.count model + i)).outcome

/-- The text of the fault that an outcome is. -/
def errorText? : Except Fault Letters → Option String
  | .ok _ => none
  | .error fault => some fault.text

/-- The wait after a number of doublings. -/
def backoff (base : Float) (doublings : Nat) : Float :=
  base * Float.ofNat (Nat.pow 2 doublings)

theorem wait?_of_le {doublings : Nat} (base : Float) (h : doublings ≤ maxDoublings) :
    wait? base doublings = some (backoff base doublings) := by
  rw [wait?, if_pos h, Nat.one_shiftLeft]
  rfl

theorem wait?_of_lt {doublings : Nat} (base : Float) (h : maxDoublings < doublings) :
    wait? base doublings = none := by
  rw [wait?, if_neg (Nat.not_le.2 h)]

/-- The number of tries that a stage may make. The wait after a later one would be beyond the range
of numbers. -/
def tryBudget (options : ModelOptions) : Nat :=
  min options.maxTries (maxDoublings + 2)

section
variable (service : Service) (options : ModelOptions) (q : Question) (model : String)
  (client : Nat)

/-- What happens at the try with that number. -/
def tryEvents (number : Nat) (outcome : Except Fault Letters) : List Event :=
  [.called ⟨model, client, q.instruction, q.prompt⟩,
   .attempted ⟨model, number, errorText? outcome⟩]

/-- What happens between the try with that number and the next one. -/
def waitEvents (number : Nat) : List Event :=
  let wait := backoff options.baseDelay (number - 1)
  [overloadedLine model number options.maxTries wait, .waited wait]

/-- What happens at `n` tries, the first of them after `doublings` doublings of the wait. -/
def triesEvents (doublings : Nat) (script : Script) (n : Nat) : List Event :=
  (List.range n).flatMap fun i =>
    tryEvents q model client (doublings + i + 1) (script i) ++
      if i + 1 < n then waitEvents options model (doublings + i + 1) else []

/-- What a stage of at most `maxTries` tries comes to after the try numbered `n`, when that was the
last one. -/
def ending (maxTries n : Nat) : Except Fault Letters → Except InvokeError Letters
  | .ok text => .ok text
  | .error fault =>
    if !fault.isOverload then .error (.stage (.failed model n fault false))
    else if n = maxTries then .error (.stage (.failed model n fault true))
    else .error .waitOverflow

/-- A stage comes to a text exactly when the last outcome is that text. -/
theorem ending_eq_ok_iff {model : String} {maxTries n : Nat} {outcome : Except Fault Letters}
    {raw : Letters} : ending model maxTries n outcome = .ok raw ↔ outcome = .ok raw := by
  cases outcome with
  | ok text => simp only [ending, Except.ok.injEq]
  | error fault =>
    simp only [ending, reduceCtorEq, iff_false]
    by_cases hfault : fault.isOverload = true
    · by_cases hn : n = maxTries <;> simp [hfault, hn]
    · simp [hfault]

theorem triesEvents_one (doublings : Nat) (script : Script) :
    triesEvents options q model client doublings script 1
      = tryEvents q model client (doublings + 1) (script 0) := by
  simp [triesEvents]

/-- The first of several tries, with the wait behind it, and the others. -/
theorem triesEvents_succ {n : Nat} (doublings : Nat) (script : Script) (h : 0 < n) :
    triesEvents options q model client doublings script (n + 1)
      = tryEvents q model client (doublings + 1) (script 0) ++
        (waitEvents options model (doublings + 1) ++
          triesEvents options q model client (doublings + 1) script.tail n) := by
  rw [triesEvents, List.range_succ_eq_map, List.flatMap_cons, List.flatMap_map]
  simp only [Nat.add_zero, Nat.add_lt_add_iff_right, if_pos h, List.append_assoc, triesEvents,
    Script.tail, Nat.succ_eq_add_one, Nat.add_right_comm doublings 1, ← Nat.add_assoc]

/-! ### One try -/

/-- The session after a call of the model. -/
def Session.asked (s : Session) : Session :=
  { s with
    calls := model :: s.calls
    clock := s.clock + (service.answer model (s.calls.count model)).seconds }

/-- A call of a model takes the first outcome off its script. -/
theorem Session.script_cons (s : Session) (clock : Float) :
    ({ s with calls := model :: s.calls, clock := clock } : Session).script service model
      = (s.script service model).tail := by
  funext i
  simp only [script, Script.tail, List.count_cons_self]
  rw [Nat.add_right_comm, Nat.add_assoc]

/-- The last try of a stage: the model answered, or another try is not worth it, or there is none
left, or the wait before it is beyond the range of numbers. -/
theorem tries_stops (left number : Nat) (s : Session)
    (h : (s.script service model).busy 0 = true → left = 0 ∨ maxDoublings < number - 1) :
    tries service options q model client left number s
      = ⟨ending model (number + left) number (s.script service model 0),
         tryEvents q model client number (s.script service model 0), s.asked service model⟩ := by
  have hvalue : (s.call service ⟨model, client, q.instruction, q.prompt⟩).value
      = s.script service model 0 := rfl
  rw [tries.eq_def]
  simp only [hvalue]
  cases houtcome : s.script service model 0 with
  | ok text => rfl
  | error fault =>
    have hbusy : (s.script service model).busy 0 = fault.isOverload := by
      rw [Script.busy, houtcome]
    cases hfault : fault.isOverload with
    | false => simp only [ending, hfault]; rfl
    | true =>
      cases left with
      | zero => simp only [ending, hfault, Nat.add_zero]; rfl
      | succ left =>
        have hwait : maxDoublings < number - 1 := (h (hbusy.trans hfault)).resolve_left (by simp)
        have hnumber : number ≠ number + (left + 1) := by omega
        simp only [ending, hfault, wait?_of_lt _ hwait, if_neg hnumber]
        rfl

/-- A try with an overload that another one follows after a wait. -/
theorem tries_again (left doublings : Nat) (s : Session)
    (h : (s.script service model).busy 0 = true) (hwait : doublings ≤ maxDoublings) :
    ∃ clock, tries service options q model client (left + 1) (doublings + 1) s
      = (tries service options q model client left (doublings + 1 + 1)
          { s with calls := model :: s.calls, clock := clock }).after
        (tryEvents q model client (doublings + 1) (s.script service model 0) ++
          waitEvents options model (doublings + 1)) := by
  have hvalue : (s.call service ⟨model, client, q.instruction, q.prompt⟩).value
      = s.script service model 0 := rfl
  rw [tries]
  simp only [hvalue]
  cases houtcome : s.script service model 0 with
  | ok text => simp [Script.busy, houtcome] at h
  | error fault =>
    have hfault : fault.isOverload = true := by simpa [Script.busy, houtcome] using h
    simp only [hfault, Nat.add_sub_cancel, wait?_of_le _ hwait]
    exact ⟨_, rfl⟩

/-! ### All tries -/

/-- The tries at a model when the first one is the last. -/
theorem tries_eq_of_stops (left doublings : Nat) (s : Session) (h : doublings ≤ maxDoublings + 1)
    (hstop : (s.script service model).busy 0 = true → left = 0 ∨ maxDoublings < doublings) :
    let n := (s.script service model).calls (min (left + 1) (maxDoublings + 2 - doublings))
    ∃ clock, tries service options q model client left (doublings + 1) s
      = ⟨ending model (doublings + left + 1) (doublings + n) (s.script service model (n - 1)),
         triesEvents options q model client doublings (s.script service model) n,
         { s with calls := List.replicate n model ++ s.calls, clock := clock }⟩ := by
  intro n
  have hn : n = 1 := Script.calls_eq_one (fun hb => by have := hstop hb; omega) (by omega)
  refine ⟨(s.asked service model).clock, ?_⟩
  rw [tries_stops service options q model client left (doublings + 1) s hstop, hn,
    triesEvents_one, Nat.add_right_comm doublings 1 left]
  rfl

/-- The tries at a model after some doublings of the wait, with `left` more of them after the first
one: as many calls as the outcomes and the range of waits allow, and what the last one makes of the
stage. -/
theorem tries_eq (left doublings : Nat) (s : Session) (h : doublings ≤ maxDoublings + 1) :
    let n := (s.script service model).calls (min (left + 1) (maxDoublings + 2 - doublings))
    ∃ clock, tries service options q model client left (doublings + 1) s
      = ⟨ending model (doublings + left + 1) (doublings + n) (s.script service model (n - 1)),
         triesEvents options q model client doublings (s.script service model) n,
         { s with calls := List.replicate n model ++ s.calls, clock := clock }⟩ := by
  induction left generalizing doublings s with
  | zero => exact tries_eq_of_stops service options q model client 0 doublings s h fun _ => .inl rfl
  | succ left ih =>
    by_cases hstop : (s.script service model).busy 0 = true → maxDoublings < doublings
    · exact tries_eq_of_stops service options q model client (left + 1) doublings s h
        fun hb => .inr (hstop hb)
    · -- The first try is tried again, so the hypothesis speaks of the tries after it.
      obtain ⟨hbusy, hwait⟩ :
          (s.script service model).busy 0 = true ∧ doublings ≤ maxDoublings := by
        simpa using hstop
      obtain ⟨clock, hagain⟩ := tries_again service options q model client left doublings s hbusy
        hwait
      obtain ⟨clock', htries⟩ := ih (doublings + 1)
        { s with calls := model :: s.calls, clock := clock } (by omega)
      have hbudget : min (left + 1 + 1) (maxDoublings + 2 - doublings)
          = min (left + 1) (maxDoublings + 2 - (doublings + 1)) + 1 := by omega
      rw [Session.script_cons] at htries
      rw [hbudget, Script.calls_of_busy hbusy]
      let n := (s.script service model).tail.calls
        (min (left + 1) (maxDoublings + 2 - (doublings + 1)))
      have hpos : 0 < n := Script.calls_pos _ (by omega)
      have hlast : (s.script service model).tail (n - 1) = s.script service model (n + 1 - 1) := by
        rw [Script.tail, Nat.sub_add_cancel hpos, Nat.add_sub_cancel]
      refine ⟨clock', ?_⟩
      rw [hagain, htries, hlast, triesEvents_succ options q model client doublings _ hpos,
        List.replicate_succ', List.append_assoc, Nat.add_right_comm doublings 1 left,
        Nat.add_assoc doublings 1 n, Nat.add_comm 1 n]
      simp only [Run.after, List.append_assoc]
      rfl

/-! ### A whole stage -/

/-- The client of a model that has one. -/
theorem Session.client_of_known {s : Session} {number : Nat}
    (h : s.clients.lookup model = some number) :
    s.client service model = ⟨.ok number, [], s⟩ := by
  simp only [client, h]

/-- A client that cannot be built. -/
theorem Session.client_of_fault {s : Session} {fault : Fault} (h : s.clients.lookup model = none)
    (hbuild : service.build model (s.builds.count model) = some fault) :
    s.client service model
      = ⟨.error fault, [.built model (some fault)], { s with builds := model :: s.builds }⟩ := by
  simp only [client, h, hbuild]

/-- A client that is built. -/
theorem Session.client_of_new {s : Session} (h : s.clients.lookup model = none)
    (hbuild : service.build model (s.builds.count model) = none) :
    s.client service model
      = ⟨.ok (s.builds.count model), [.built model none],
         { s with
           clients := (model, s.builds.count model) :: s.clients
           builds := model :: s.builds }⟩ := by
  simp only [client, h, hbuild]

/-- A client that is looked up or built is no call. -/
theorem Session.client_calls (s : Session) :
    (s.client service model).session.calls = s.calls := by
  cases hlookup : s.clients.lookup model with
  | some number => rw [client_of_known service model hlookup]
  | none =>
    cases hbuild : service.build model (s.builds.count model) with
    | some fault => rw [client_of_fault service model hlookup hbuild]
    | none => rw [client_of_new service model hlookup hbuild]

/-- The stage of a model whose client cannot be built. -/
theorem stage_of_unbuilt {s : Session} {fault : Fault}
    (h : (s.client service model).value = .error fault) :
    stage service options q model s
      = ⟨.error (.stage (.failed model 0 fault false)),
         (s.client service model).events ++ [.attempted ⟨model, 0, some fault.text⟩],
         (s.client service model).session⟩ := by
  rw [stage]
  simp only [h]

/-- The stage of a model that has a client. -/
theorem stage_of_built {s : Session} (h : (s.client service model).value = .ok client) :
    let n := (s.script service model).calls (tryBudget options)
    ∃ clock, stage service options q model s
      = ⟨ending model options.maxTries n (s.script service model (n - 1)),
         (s.client service model).events ++
           triesEvents options q model client 0 (s.script service model) n,
         { (s.client service model).session with
           calls := List.replicate n model ++ s.calls, clock := clock }⟩ := by
  obtain ⟨clock, htries⟩ := tries_eq service options q model client (options.maxTries - 1) 0
    (s.client service model).session (by omega)
  have hscript : (s.client service model).session.script service model
      = s.script service model := by
    funext i
    rw [Session.script, Session.client_calls, Session.script]
  have hmax : (options.maxTries : Nat) - 1 + 1 = options.maxTries :=
    Nat.sub_add_cancel options.maxTries.2
  refine ⟨clock, ?_⟩
  rw [stage]
  simp only [h]
  simp only [hscript, Session.client_calls, Nat.sub_zero, Nat.zero_add, hmax] at htries
  rw [htries]
  rfl

end

end FlowDraft.Model
