import FlowDraft.Draft.Drafter
import FlowDraft.Proofs.Model.Attempts
import FlowDraft.Proofs.Prompt.Shown
import FlowDraft.Proofs.Trace.Retention

/-!
# `FlowDraft.Proofs.Draft.Traces`: traces are the answered requests

Drafters that share a store of traces draft requests one after another. `DraftCall.run_cases` says
all that one request can do to the store: it fails for a reason and leaves the store as it was, or
it is answered and its record is put behind the others. So the store is the end of the list of the
records of all answered requests (`records_tracesAfter`, by induction on the requests).

`traces_of_calls` is the main statement. It does not depend on what a drafter has left from earlier
requests: of that only the traces are shared, and a call has a session of its own.
-/

set_option autoImplicit false

namespace FlowDraft

open Model Trace

/-! ### Requests in turn -/

/-- A request, with its drafter and what that drafter has left from earlier requests, apart from
the traces. -/
structure DraftCall where
  drafter : Drafter
  request : DraftRequest
  session : Session := {}
  conditionsNamed : Nat := 0

namespace DraftCall

/-- The prompt without the blanks around it. -/
def prompt (c : DraftCall) : String :=
  Text.trim c.request.prompt

/-- The references for the prompt. -/
def examples (c : DraftCall) : List Example :=
  (c.drafter.references c.prompt).examples

/-- The text that the models are asked with. -/
def sent (c : DraftCall) : String :=
  Prompt.compose c.prompt c.request.existing c.examples

/-- The asking of the models. -/
def chain (c : DraftCall) (options : ModelOptions) : Run (Except InvokeError Letters) :=
  askChain c.drafter.service options ⟨c.drafter.instruction, c.sent⟩ c.session

/-- The request, drafted with the traces of a store. -/
def run (c : DraftCall) (store : Store) : Drafted :=
  c.drafter.draft c.request ⟨c.session, c.conditionsNamed, store⟩

/-- Why a request is not answered: there are no models, or the prompt is blank, or the chain of
models gives no text. -/
inductive Fails (c : DraftCall) : DraftError → Prop where
  | notConfigured (hmodels : c.drafter.models = none) : Fails c .notConfigured
  | promptRequired {options : ModelOptions} (hmodels : c.drafter.models = some options)
      (hprompt : c.prompt = "") : Fails c .promptRequired
  | chain {options : ModelOptions} {e : InvokeError} (hmodels : c.drafter.models = some options)
      (hprompt : c.prompt ≠ "") (hchain : (c.chain options).value = .error e) :
      Fails c (.ofInvoke e)

end DraftCall

/-- A request that was answered. -/
structure Answered where
  call : DraftCall
  drafted : Drafted
  suggestion : Suggestion

/-- What a trace has to say of an answered request. -/
def Answered.record (a : Answered) : Record where
  id := a.suggestion.traceId.getD ""
  prompt := a.call.prompt
  summary := a.suggestion.summary
  exampleTitles := a.call.examples.map (·.title)
  attempts := Event.attempts a.drafted.events
  inputTokens := Text.tokenCount a.call.sent
  outputTokens := Letters.tokenCount a.suggestion.rawText
  latency := milliseconds a.call.session.clock a.drafted.desk.session.clock
  degraded := a.suggestion.degraded

/-- The store after requests in turn. -/
def tracesAfter (store : Store) (calls : List DraftCall) : Store :=
  calls.foldl (fun store c => (c.run store).desk.traces) store

/-- The answered ones among requests in turn, in order. -/
def answers : Store → List DraftCall → List Answered
  | _, [] => []
  | store, c :: calls =>
    let drafted := c.run store
    match drafted.outcome with
    | .error _ => answers drafted.desk.traces calls
    | .ok suggestion => ⟨c, drafted, suggestion⟩ :: answers drafted.desk.traces calls

/-- The references and the tries of an answered request are told in full: the titles that its record
has stand in the text that was sent, numbered in order, every model was called with this text, and
there is a try for each call and for each client that could not be built, in order. -/
structure Answered.ToldInFull (a : Answered) : Prop where
  shown : ∀ (i : Nat) e, a.call.examples[i]? = some e →
    Text.HasPart a.call.sent ("Example " ++ toString (i + 1) ++ ": " ++ e.title)
  asked : ∀ call ∈ Event.calls a.drafted.events, call.prompt = a.call.sent
  tries : (Event.attempts a.drafted.events).map Attempt.asking = Event.askings a.drafted.events

/-! ### One request -/

/-- A reply is kept as it is. -/
theorem Suggestion.rawText_parseFrom (names : Nat → String) (taken : Nat) (raw : Letters) :
    (parseFrom names taken raw).1.rawText = raw := by
  rw [parseFrom]
  cases object? raw <;> rfl

namespace Drafter

/-- Seeking references asks no model. -/
theorem filterMap_references {α : Type} {f : Event → Option α} (d : Drafter) (prompt : String)
    (hline : ∀ line, f (.logged line) = none) (hcount : ∀ count, f (.sought count) = none) :
    (d.references prompt).events.filterMap f = [] := by
  rw [references]
  cases d.source with
  | none => rfl
  | some source =>
    simp only [Retrieval.find]
    cases source.unavailable with
    | some fault => simp [Retrieval.failedLine, Event.log, hline]
    | none =>
      cases Retrieval.candidates source prompt
        (Retrieval.wanted d.retrieval none * d.retrieval.oversampling) with
      | error fault => simp [Retrieval.failedLine, Event.log, hline, hcount]
      | ok examples => simp [hcount]

/-- Reading a reply asks no model. -/
theorem filterMap_replyLines {α : Type} {f : Event → Option α} (s : Suggestion)
    (hline : ∀ line, f (.logged line) = none) : (replyLines s).filterMap f = [] := by
  rw [replyLines]
  split
  · simp [Event.log, hline]
  · rfl

/-- What becomes of a reply when there is room for its trace. -/
theorem finish_eq (d : Drafter) (prompt sent : String) (raw : Letters) (examples : List Example)
    (start : Float) (events : List Event) {desk : Desk} (h : 0 ≤ desk.traces.capacity) :
    let read := Suggestion.parseFrom d.conditionNames desk.conditionsNamed raw
    let r := record prompt sent raw examples (Event.attempts events)
      (milliseconds start desk.session.clock) read.1 (d.traceNames desk.traces.named)
    d.finish prompt sent raw examples start events desk
      = { outcome := .ok { read.1 with traceId := some r.id }
          events := events ++ replyLines read.1
          desk := { desk with
            conditionsNamed := read.2
            traces := { desk.traces with
              records := Store.evict desk.traces.capacity.toNat (desk.traces.records ++ [r])
              named := desk.traces.named + 1 } } } := by
  simp only [finish, Store.add_of_nonneg _ _ h]

end Drafter

namespace DraftCall

/-- The models are asked for a prompt that is not blank. -/
theorem run_of_models (c : DraftCall) (store : Store) {options : ModelOptions}
    (hmodels : c.drafter.models = some options) (hprompt : c.prompt ≠ "") :
    c.run store = match (c.chain options).value with
      | .error e =>
        ⟨.error (.ofInvoke e), (c.drafter.references c.prompt).events ++ (c.chain options).events,
          ⟨(c.chain options).session, c.conditionsNamed, store⟩⟩
      | .ok raw =>
        c.drafter.finish c.prompt c.sent raw c.examples c.session.clock
          ((c.drafter.references c.prompt).events ++ (c.chain options).events)
          ⟨(c.chain options).session, c.conditionsNamed, store⟩ := by
  have hblank : (Text.trim c.request.prompt).isEmpty = false := by simpa [prompt] using hprompt
  simp only [run, Drafter.draft, hmodels, hblank]
  rfl

section
variable (c : DraftCall) {store : Store} {options : ModelOptions} {raw : Letters}
  (hmodels : c.drafter.models = some options) (hprompt : c.prompt ≠ "")
  (hraw : (c.chain options).value = .ok raw) (hcapacity : 0 ≤ store.capacity)
include hmodels hprompt hraw hcapacity

/-- The models give a text, so it is read, and the trace goes into the store. -/
theorem run_of_text :
    let log := (c.drafter.references c.prompt).events ++ (c.chain options).events
    let read := Suggestion.parseFrom c.drafter.conditionNames c.conditionsNamed raw
    let r := Drafter.record c.prompt c.sent raw c.examples (Event.attempts log)
      (milliseconds c.session.clock (c.chain options).session.clock) read.1
      (c.drafter.traceNames store.named)
    c.run store
      = { outcome := .ok { read.1 with traceId := some r.id }
          events := log ++ Drafter.replyLines read.1
          desk := ⟨(c.chain options).session, read.2,
            { store with
              records := Store.evict store.capacity.toNat (store.records ++ [r])
              named := store.named + 1 }⟩ } := by
  have hrun := c.run_of_models store hmodels hprompt
  simp only [hraw] at hrun
  rw [hrun, Drafter.finish_eq _ _ _ _ _ _ _ hcapacity]

/-- Neither references nor the reading of a reply ask a model, so only the chain counts. -/
theorem filterMap_run_of_text {α : Type} {f : Event → Option α}
    (hline : ∀ line, f (.logged line) = none) (hcount : ∀ count, f (.sought count) = none) :
    (c.run store).events.filterMap f = (c.chain options).events.filterMap f := by
  rw [c.run_of_text hmodels hprompt hraw hcapacity]
  simp only [List.filterMap_append, Drafter.filterMap_references _ _ hline hcount,
    Drafter.filterMap_replyLines _ hline, List.nil_append, List.append_nil]

theorem toldInFull_of_text (s : Suggestion) : (Answered.mk c (c.run store) s).ToldInFull where
  shown i e he := Prompt.title_in_compose c.prompt c.request.existing he
  asked call hcall := by
    have hlog : Event.calls (c.run store).events = Event.calls (c.chain options).events :=
      c.filterMap_run_of_text hmodels hprompt hraw hcapacity (fun _ => rfl) fun _ => rfl
    rw [hlog] at hcall
    exact (askChain_calls c.drafter.service options _ c.session hcall).2
  tries := by
    have hattempts : Event.attempts (c.run store).events = Event.attempts (c.chain options).events :=
      c.filterMap_run_of_text hmodels hprompt hraw hcapacity (fun _ => rfl) fun _ => rfl
    have haskings : Event.askings (c.run store).events = Event.askings (c.chain options).events :=
      c.filterMap_run_of_text hmodels hprompt hraw hcapacity (fun _ => rfl) fun _ => rfl
    show (Event.attempts (c.run store).events).map Attempt.asking = Event.askings (c.run store).events
    rw [hattempts, haskings]
    exact askChain_attempts c.drafter.service options _ c.session

/-- A request whose models give a text is answered, and its record is put behind the others. -/
theorem answered_of_text :
    ∃ s, (c.run store).outcome = .ok s ∧
      let a : Answered := ⟨c, c.run store, s⟩
      s.traceId = some a.record.id ∧ a.ToldInFull ∧
      (c.run store).desk.traces
        = { store with
            records := Store.evict store.capacity.toNat (store.records ++ [a.record])
            named := store.named + 1 } := by
  have hrun := c.run_of_text hmodels hprompt hraw hcapacity
  let read := Suggestion.parseFrom c.drafter.conditionNames c.conditionsNamed raw
  let s : Suggestion := { read.1 with traceId := some (c.drafter.traceNames store.named) }
  refine ⟨s, congrArg Drafted.outcome hrun, rfl,
    c.toldInFull_of_text hmodels hprompt hraw hcapacity s, ?_⟩
  -- The record that the store was given is the one that the answer calls for.
  have hattempts : Event.attempts (c.run store).events
      = Event.attempts ((c.drafter.references c.prompt).events ++ (c.chain options).events) := by
    rw [hrun, Event.attempts, List.filterMap_append, Drafter.filterMap_replyLines _ fun _ => rfl,
      List.append_nil]
    rfl
  have hread : s.rawText = raw :=
    Suggestion.rawText_parseFrom c.drafter.conditionNames c.conditionsNamed raw
  have hclock : (c.run store).desk.session.clock = (c.chain options).session.clock := by rw [hrun]
  have hrecord : (Answered.mk c (c.run store) s).record
      = Drafter.record c.prompt c.sent raw c.examples
        (Event.attempts ((c.drafter.references c.prompt).events ++ (c.chain options).events))
        (milliseconds c.session.clock (c.chain options).session.clock) read.1
        (c.drafter.traceNames store.named) := by
    simp only [Answered.record, Drafter.record, hattempts, hread, hclock]
    rfl
  rw [hrecord, hrun]

end

/-- A request with a reason to fail fails with it and leaves the store as it was. -/
theorem run_of_fails (c : DraftCall) (store : Store) {e : DraftError} (h : c.Fails e) :
    (c.run store).outcome = .error e ∧ (c.run store).desk.traces = store := by
  cases h with
  | notConfigured hmodels => simp only [run, Drafter.draft, hmodels, and_self]
  | promptRequired hmodels hprompt =>
    have hblank : (Text.trim c.request.prompt).isEmpty = true := by simpa [prompt] using hprompt
    simp only [run, Drafter.draft, hmodels, if_pos hblank, and_self]
  | chain hmodels hprompt hchain =>
    have hrun := c.run_of_models store hmodels hprompt
    simp only [hchain] at hrun
    rw [hrun]
    exact ⟨rfl, rfl⟩

/-- **All that a request can do.** It fails for one of the reasons, or it is answered and the store
has its record behind the others. -/
theorem run_cases (c : DraftCall) {store : Store} (hcapacity : 0 ≤ store.capacity) :
    (∃ e, c.Fails e) ∨
    ∃ s, (c.run store).outcome = .ok s ∧
      let a : Answered := ⟨c, c.run store, s⟩
      s.traceId = some a.record.id ∧ a.ToldInFull ∧
      (c.run store).desk.traces
        = { store with
            records := Store.evict store.capacity.toNat (store.records ++ [a.record])
            named := store.named + 1 } := by
  cases hmodels : c.drafter.models with
  | none => exact .inl ⟨_, .notConfigured hmodels⟩
  | some options =>
    by_cases hprompt : c.prompt = ""
    · exact .inl ⟨_, .promptRequired hmodels hprompt⟩
    · cases hchain : (c.chain options).value with
      | error e => exact .inl ⟨_, .chain hmodels hprompt hchain⟩
      | ok raw => exact .inr (c.answered_of_text hmodels hprompt hchain hcapacity)

/-- A request fails exactly when there is a reason for it. -/
theorem outcome_eq_error_iff (c : DraftCall) {store : Store} (hcapacity : 0 ≤ store.capacity)
    (e : DraftError) : (c.run store).outcome = .error e ↔ c.Fails e := by
  constructor
  · intro he
    rcases c.run_cases hcapacity with ⟨e', hfails⟩ | ⟨s, hout, -⟩
    · obtain rfl : e' = e := Except.error.inj ((c.run_of_fails store hfails).1.symm.trans he)
      exact hfails
    · cases hout.symm.trans he
  · exact fun h => (c.run_of_fails store h).1

/-- The record of an answered request has the name that the request was given, and tells it in
full. -/
theorem record_of_outcome (c : DraftCall) {store : Store} {s : Suggestion}
    (hcapacity : 0 ≤ store.capacity) (hs : (c.run store).outcome = .ok s) :
    let a : Answered := ⟨c, c.run store, s⟩
    s.traceId = some a.record.id ∧ a.ToldInFull := by
  rcases c.run_cases hcapacity with ⟨e, hfails⟩ | ⟨s', hout, hid, htold, -⟩
  · cases (c.run_of_fails store hfails).1.symm.trans hs
  · obtain rfl : s' = s := Except.ok.inj (hout.symm.trans hs)
    exact ⟨hid, htold⟩

end DraftCall

/-! ### The store after requests -/

/-- The requests behind others are drafted with the store that those leave. -/
theorem answers_append (store : Store) (calls later : List DraftCall) :
    answers store (calls ++ later)
      = answers store calls ++ answers (tracesAfter store calls) later := by
  induction calls generalizing store with
  | nil => rfl
  | cons c calls ih =>
    rw [List.cons_append, answers, answers, tracesAfter, List.foldl_cons]
    cases (c.run store).outcome with
    | error e => exact ih _
    | ok s => exact congrArg _ (ih _)

/-- The store is the end of all records: those of a history that it was the end of before, and then
those of the requests that were answered. -/
theorem records_tracesAfter (calls : List DraftCall) {store : Store} {earlier : List Record}
    (hcapacity : 0 ≤ store.capacity)
    (hrecords : store.records = Store.evict store.capacity.toNat earlier) :
    (tracesAfter store calls).capacity = store.capacity ∧
      (tracesAfter store calls).records = Store.evict store.capacity.toNat
        (earlier ++ (answers store calls).map Answered.record) := by
  -- Each request changes the store and the history that it is the end of.
  induction calls generalizing store earlier with
  | nil => exact ⟨rfl, by rw [answers, List.map_nil, List.append_nil]; exact hrecords⟩
  | cons c calls ih =>
    rw [tracesAfter, List.foldl_cons, answers]
    rcases c.run_cases hcapacity with ⟨e, hfails⟩ | ⟨s, hout, -, -, hstore⟩
    · obtain ⟨hout, hstore⟩ := c.run_of_fails store hfails
      rw [hout, hstore]
      exact ih hcapacity hrecords
    · -- The record of the request is part of the history of those behind it.
      have hcapacity' : (c.run store).desk.traces.capacity = store.capacity := by rw [hstore]
      have hrecords' : (c.run store).desk.traces.records
          = Store.evict (c.run store).desk.traces.capacity.toNat
            (earlier ++ [(Answered.mk c (c.run store) s).record]) := by
        rw [hcapacity', ← Store.evict_append _ earlier, ← hrecords, hstore]
      obtain ⟨hcap, hrec⟩ := ih (hcapacity' ▸ hcapacity) hrecords'
      rw [hout]
      refine ⟨hcap.trans hcapacity', hrec.trans ?_⟩
      rw [hcapacity', List.map_cons, List.append_assoc, List.singleton_append]

/-- An answered request was drafted with a store that had room, and this drafting answered it. -/
theorem exists_run_of_mem_answers {calls : List DraftCall} {store : Store} {a : Answered}
    (hcapacity : 0 ≤ store.capacity) (ha : a ∈ answers store calls) :
    ∃ between : Store, 0 ≤ between.capacity ∧ a.drafted = a.call.run between ∧
      (a.call.run between).outcome = .ok a.suggestion := by
  induction calls generalizing store with
  | nil => exact absurd ha List.not_mem_nil
  | cons c calls ih =>
    rw [answers] at ha
    rcases c.run_cases hcapacity with ⟨e, hfails⟩ | ⟨s, hout, -, -, hstore⟩
    · obtain ⟨hout, hstore⟩ := c.run_of_fails store hfails
      rw [hout, hstore] at ha
      exact ih hcapacity ha
    · rw [hout] at ha
      rcases List.mem_cons.1 ha with rfl | ha
      · exact ⟨store, hcapacity, rfl, hout⟩
      · exact ih (by rw [hstore]; exact hcapacity) ha

/-- The record of an answered request has the name that the request was given. -/
theorem traceId_of_mem_answers {calls : List DraftCall} {store : Store} {a : Answered}
    (hcapacity : 0 ≤ store.capacity) (ha : a ∈ answers store calls) :
    a.suggestion.traceId = some a.record.id := by
  obtain ⟨between, hbetween, -, hout⟩ := exists_run_of_mem_answers hcapacity ha
  exact (a.call.record_of_outcome hbetween hout).1

/-- The record of an answered request is found under its name until as many later requests were
answered as the store has room for. -/
theorem get?_tracesAfter {calls : List DraftCall} {start : Store} {before after : List Answered}
    {a : Answered} (hcapacity : 0 ≤ start.capacity) (hempty : start.records = [])
    (hids : ((answers start calls).map (·.suggestion.traceId)).Nodup)
    (hanswers : answers start calls = before ++ a :: after) :
    (tracesAfter start calls).get? a.record.id
      = if after.length < start.capacity.toNat then some a.record else none := by
  let made := (answers start calls).map Answered.record
  have hrecords : (tracesAfter start calls).records = Store.evict start.capacity.toNat made :=
    (records_tracesAfter calls hcapacity (hempty.trans List.drop_nil.symm)).2
  have hnames : (made.map (·.id)).Nodup := by
    have hsome : (answers start calls).map (·.suggestion.traceId) = (made.map (·.id)).map some := by
      rw [List.map_map, List.map_map]
      exact List.map_congr_left fun a ha => traceId_of_mem_answers hcapacity ha
    exact List.Nodup.of_map some (hsome ▸ hids)
  have hmade : made = before.map Answered.record ++ a.record :: after.map Answered.record := by
    show (answers start calls).map Answered.record = _
    rw [hanswers, List.map_append, List.map_cons]
  have hplace : made[before.length]? = some a.record := by
    rw [hmade, List.getElem?_append_right (Nat.le_of_eq (List.length_map _)), List.length_map,
      Nat.sub_self]
    rfl
  have hlater : made.length - (before.length + 1) = after.length := by
    rw [hmade, List.length_append, List.length_cons, List.length_map, List.length_map]
    omega
  rw [Store.get?_of_history hrecords hnames hplace, hlater]

/-- **The traces are the answered requests.** Take a store that is empty at first, and requests
whose suggestions have different names. The store holds the records of the latest answered requests,
as many as it has room for, and its figures are those of these records. A request fails exactly when
there is a reason for it, and then it leaves the store as it was. One that is answered has the name
of its record, and the record is found under it until as many later requests were answered as the
store has room for. -/
theorem traces_of_calls (capacity : Nat) (calls : List DraftCall)
    (hids : ((answers { capacity := capacity } calls).map (·.suggestion.traceId)).Nodup) :
    let start : Store := { capacity := capacity }
    let store := tracesAfter start calls
    let made := (answers start calls).map Answered.record
    store.records = made.drop (made.length - capacity) ∧
    (store.metrics.requests = store.records.length ∧
      store.metrics.degraded = (store.records.filter (·.degraded)).length ∧
      store.metrics.inputTokens = (store.records.map (·.inputTokens)).sum ∧
      store.metrics.outputTokens = (store.records.map (·.outputTokens)).sum) ∧
    ∀ before c after, calls = before ++ c :: after →
      let drafted := c.run (tracesAfter start before)
      (∀ e, drafted.outcome = .error e ↔ c.Fails e) ∧
      (∀ e, drafted.outcome = .error e → drafted.desk.traces = tracesAfter start before) ∧
      ∀ s, drafted.outcome = .ok s →
        let a : Answered := ⟨c, drafted, s⟩
        s.traceId = some a.record.id ∧ a.ToldInFull ∧
        store.get? a.record.id
          = if (answers drafted.desk.traces after).length < capacity then some a.record
            else none := by
  intro start store made
  have hstart : 0 ≤ start.capacity := Int.natCast_nonneg capacity
  have hempty : start.records = Store.evict start.capacity.toNat [] := List.drop_nil.symm
  have hrecords : store.records = Store.evict capacity made :=
    (records_tracesAfter calls hstart hempty).2
  refine ⟨hrecords, Metrics.counts_ofRecords store.records, ?_⟩
  intro before c after hcalls drafted
  have hbefore : 0 ≤ (tracesAfter start before).capacity :=
    (records_tracesAfter before hstart hempty).1 ▸ hstart
  refine ⟨c.outcome_eq_error_iff hbefore, ?_, ?_⟩
  · intro e he
    exact (c.run_of_fails _ ((c.outcome_eq_error_iff hbefore e).1 he)).2
  · intro s hs a
    obtain ⟨hid, htold⟩ := c.record_of_outcome hbefore hs
    -- The history is cut at the request.
    have hanswers : answers start calls
        = answers start before ++ a :: answers drafted.desk.traces after := by
      rw [hcalls, answers_append, answers]
      simp only [show (c.run (tracesAfter start before)).outcome = .ok s from hs]
      rfl
    exact ⟨hid, htold, get?_tracesAfter hstart rfl hids hanswers⟩

/-- A drafter whose models always answer with the same sentence. -/
def sentenceDrafter : Drafter where
  models := some {}
  service :=
    { build := fun _ _ => none
      answer := fun _ _ => ⟨.ok "I cannot help with that.", 1.0⟩ }
  conditionNames := toString
  traceNames := toString

/-- Four requests. The second one is blank, and the third one has no models. -/
def sentenceCalls : List DraftCall :=
  [{ drafter := sentenceDrafter, request := { prompt := " Mail the report " } },
   { drafter := sentenceDrafter, request := { prompt := " " } },
   { drafter := { sentenceDrafter with models := none }, request := { prompt := "Mail it" } },
   { drafter := sentenceDrafter, request := { prompt := "Post it" } }]

/-- With room for one trace, that of the last of the four requests is kept, and the blank one fails
after the first one. -/
theorem traces_of_calls_with_room_for_one :
    let start : Store := { capacity := (1 : Nat) }
    let store := tracesAfter start sentenceCalls
    let blank : DraftCall := { drafter := sentenceDrafter, request := { prompt := " " } }
    ((answers start sentenceCalls).map (·.suggestion.traceId)).Nodup ∧
      store.records.map (·.prompt) = ["Post it"] ∧ store.metrics.requests = 1 ∧
      (blank.run (tracesAfter start (sentenceCalls.take 1))).outcome = .error .promptRequired := by
  intro start store blank
  have hids : ((answers { capacity := (1 : Nat) } sentenceCalls).map
      (·.suggestion.traceId)).Nodup := by decide +kernel
  have hprompts : (((answers { capacity := (1 : Nat) } sentenceCalls).map Answered.record).drop
      (((answers { capacity := (1 : Nat) } sentenceCalls).map Answered.record).length - 1)).map
        (·.prompt) = ["Post it"] := by decide +kernel
  obtain ⟨hrecords, ⟨hrequests, -⟩, hcalls⟩ := traces_of_calls 1 sentenceCalls hids
  have hkept : store.records.map (·.prompt) = ["Post it"] := by rw [← hprompts, ← hrecords]
  have hlength : store.records.length = 1 := by
    rw [← List.length_map (·.prompt), hkept]
    rfl
  have hblank : blank.Fails .promptRequired := .promptRequired rfl (by decide)
  obtain ⟨hfails, -⟩ := hcalls (sentenceCalls.take 1) blank (sentenceCalls.drop 2) rfl
  exact ⟨hids, hkept, hrequests.trans hlength, (hfails _).2 hblank⟩

end FlowDraft
