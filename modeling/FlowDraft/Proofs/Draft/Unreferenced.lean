import FlowDraft.Proofs.Draft.Traces

/-!
# `FlowDraft.Proofs.Draft.Unreferenced`: drafting without references

A drafter reads its source only through the references for the prompt. So drafters without
references draft alike: `Drafter.draft_of_unreferenced` says that a source that gives none adds
nothing to a draft but what happens while it is searched.

There are two ways to come by no references. A source that fails (`Source.FailsWith`) adds one
warning, and one that finds nothing (`Source.FindsNothing`) does not even add that. Either way the
draft is the one that a drafter without a source makes, which is the main statement,
`draft_of_failed_source`.
-/

set_option autoImplicit false

namespace FlowDraft

open Model Trace

namespace Source

/-- No references can be had from the source, for the reason that is given: it is not available, or
the search fails, or one of the documents that were found cannot be read. The first such document
gives the reason. -/
inductive FailsWith (source : Source) (query : String) (count : Int) : Fault → Prop where
  | unavailable {fault : Fault} (h : source.unavailable = some fault) :
      FailsWith source query count fault
  | search {fault : Fault} (havailable : source.unavailable = none)
      (h : source.search query count = .error fault) : FailsWith source query count fault
  | unreadable {fault : Fault} {documents : List Document} {later : List Hit}
      (havailable : source.unavailable = none)
      (h : source.search query count = .ok (documents.map .ok ++ .error fault :: later)) :
      FailsWith source query count fault

/-- The source is searched, and there are no documents for the query. -/
structure FindsNothing (source : Source) (query : String) (count : Int) : Prop where
  available : source.unavailable = none
  search : source.search query count = .ok []

/-- What happens before a source is found to have no references: it is searched, if it is there. -/
def seeking (source : Source) (count : Int) : List Event :=
  if source.unavailable.isSome then [] else [.sought count]

/-- A search is not logged. -/
theorem lines_seeking (source : Source) (count : Int) : Event.lines (source.seeking count) = [] := by
  rw [seeking]
  split
  · rfl
  · rfl

end Source

/-! ### What a search comes to -/

namespace Retrieval

/-- Documents are read up to the first one that cannot be read. -/
theorem mapM_hits_unreadable (documents : List Document) (fault : Fault) (later : List Hit) :
    (documents.map .ok ++ .error fault :: later : List Hit).mapM (fun hit =>
      hit.map Example.ofDocument) = .error fault := by
  induction documents with
  | nil => rfl
  | cons document documents ih =>
    rw [List.map_cons, List.cons_append, List.mapM_cons, ih]
    rfl

/-- A source that fails gives no references and one warning, whatever was read before it failed. -/
theorem find_of_failsWith (options : RetrievalOptions) {source : Source} {query : String}
    (topK : Option Int) {fault : Fault}
    (h : source.FailsWith query (wanted options topK * options.oversampling) fault) :
    find options source query topK
      = ⟨[], source.seeking (wanted options topK * options.oversampling) ++ [failedLine fault]⟩ := by
  cases h with
  | unavailable h => simp only [find, Source.seeking, h, Option.isSome_some, if_true, List.nil_append]
  | search havailable h =>
    have hread : candidates source query (wanted options topK * options.oversampling)
        = .error fault := by
      rw [candidates, h]
      rfl
    simp only [find, Source.seeking, havailable, hread]
    rfl
  | unreadable havailable h =>
    have hread : candidates source query (wanted options topK * options.oversampling)
        = .error fault := by
      rw [candidates, h]
      exact mapM_hits_unreadable _ fault _
    simp only [find, Source.seeking, havailable, hread]
    rfl

/-- Where no documents are found there are no references, and nothing is logged. -/
theorem find_of_findsNothing (options : RetrievalOptions) {source : Source} {query : String}
    (topK : Option Int)
    (h : source.FindsNothing query (wanted options topK * options.oversampling)) :
    find options source query topK
      = ⟨[], source.seeking (wanted options topK * options.oversampling)⟩ := by
  have hread : candidates source query (wanted options topK * options.oversampling) = .ok [] := by
    rw [candidates, h.search]
    rfl
  have hrank : ∀ k, Example.rank options.weights query k [] = [] := fun k => by
    have hsorted : ∀ score, sortFalling Example.floatLe score ([] : List Example) = [] :=
      fun score => (sortFalling_perm Example.floatLe score []).eq_nil
    rw [Example.rank, Example.rankBy, hsorted]
    exact List.take_nil
  simp only [find, Source.seeking, h.available, hread, hrank]
  rfl

end Retrieval

/-! ### Drafts -/

namespace Drafter

/-- How many documents are sought for a request. -/
def soughtCount (d : Drafter) : Int :=
  Retrieval.wanted d.retrieval none * d.retrieval.oversampling

/-- A drafter asks for a request when it has models and the prompt is not blank. -/
def Asks (d : Drafter) (request : DraftRequest) : Prop :=
  d.configured = true ∧ Text.trim request.prompt ≠ ""

/-- What happened before the models were asked stands before what happens to a reply. It is not part
of the trace, unless it has tries. -/
theorem finish_append (d : Drafter) (prompt sent : String) (raw : Letters) (examples : List Example)
    (start : Float) {before : List Event} (h : Event.attempts before = []) (events : List Event)
    (desk : Desk) :
    d.finish prompt sent raw examples start (before ++ events) desk
      = { d.finish prompt sent raw examples start events desk with
          events := before ++ (d.finish prompt sent raw examples start events desk).events } := by
  have hattempts : Event.attempts (before ++ events) = Event.attempts events := by
    rw [Event.attempts, List.filterMap_append, ← Event.attempts, h, List.nil_append,
      ← Event.attempts]
  simp only [finish, hattempts, List.append_assoc]

end Drafter

section
variable (d : Drafter) (source : Source) (request : DraftRequest) (desk : Desk)

/-- A request for which the models are not asked is refused before any references are sought. -/
theorem Drafter.draft_of_not_asks (h : ¬ d.Asks request) (source : Option Source) :
    { d with source }.draft request desk = { d with source := none }.draft request desk := by
  cases hmodels : d.models with
  | none => simp only [draft]
  | some options =>
    have hblank : (Text.trim request.prompt).isEmpty = true := by
      by_contra hne
      exact h ⟨by rw [configured, hmodels]; rfl, by simpa using hne⟩
    simp only [draft, hblank, if_true]

/-- **A source without references is no source.** It adds what happens while it is searched, and
nothing else. -/
theorem Drafter.draft_of_unreferenced (h : d.Asks request)
    (hnone : ({ d with source := some source }.references (Text.trim request.prompt)).examples = []) :
    let found := { d with source := some source }.references (Text.trim request.prompt)
    let plain := { d with source := none }.draft request desk
    { d with source := some source }.draft request desk
      = { plain with events := found.events ++ plain.events } := by
  intro found plain
  obtain ⟨hconfigured, hprompt⟩ := h
  obtain ⟨options, hmodels⟩ := Option.isSome_iff_exists.1 hconfigured
  let sourced : DraftCall :=
    ⟨{ d with source := some source }, request, desk.session, desk.conditionsNamed⟩
  let unsourced : DraftCall :=
    ⟨{ d with source := none }, request, desk.session, desk.conditionsNamed⟩
  have hexamples : sourced.examples = [] := hnone
  have hsought : Event.attempts found.events = [] :=
    filterMap_references _ _ (fun _ => rfl) fun _ => rfl
  -- Both calls send the prompt without references, so the chain answers both alike.
  have hsent : sourced.sent = unsourced.sent := by
    rw [DraftCall.sent, hexamples]
    rfl
  have hchain : sourced.chain options = unsourced.chain options := by
    rw [DraftCall.chain, hsent]
    rfl
  have hplain : plain = _ := unsourced.run_of_models desk.traces hmodels hprompt
  show sourced.run desk.traces = _
  rw [sourced.run_of_models desk.traces hmodels hprompt, hplain, hchain, hsent, hexamples]
  cases (unsourced.chain options).value with
  | error e => rfl
  | ok raw => exact d.finish_append _ _ _ _ _ hsought _ _

/-- Two drafts are told apart neither by those who asked for them, nor by the models, nor by what is
left for later requests. -/
structure Drafted.Alike (a b : Drafted) : Prop where
  outcome : a.outcome = b.outcome
  desk : a.desk = b.desk
  builds : Event.builds a.events = Event.builds b.events
  calls : Event.calls a.events = Event.calls b.events
  attempts : Event.attempts a.events = Event.attempts b.events
  waits : Event.waits a.events = Event.waits b.events

/-- Seeking references does not tell two drafts apart. -/
theorem Drafted.alike_append (a : Drafted) (d : Drafter) (prompt : String) :
    ({ a with events := (d.references prompt).events ++ a.events } : Drafted).Alike a := by
  have hskip : ∀ {α : Type} (f : Event → Option α), (∀ line, f (.logged line) = none) →
      (∀ count, f (.sought count) = none) →
      ((d.references prompt).events ++ a.events).filterMap f = a.events.filterMap f := by
    intro α f hline hcount
    rw [List.filterMap_append, d.filterMap_references prompt hline hcount, List.nil_append]
  exact ⟨rfl, rfl, hskip _ (fun _ => rfl) fun _ => rfl, hskip _ (fun _ => rfl) fun _ => rfl,
    hskip _ (fun _ => rfl) fun _ => rfl, hskip _ (fun _ => rfl) fun _ => rfl⟩

/-- A draft without references is like one without a source, whether the models are asked or not. -/
theorem Drafter.alike_of_unreferenced
    (hnone : ({ d with source := some source }.references (Text.trim request.prompt)).examples = []) :
    ({ d with source := some source }.draft request desk).Alike
      ({ d with source := none }.draft request desk) := by
  by_cases h : d.Asks request
  · rw [d.draft_of_unreferenced source request desk h hnone]
    exact Drafted.alike_append _ _ _
  · rw [d.draft_of_not_asks request desk h (some source)]
    exact ⟨rfl, rfl, rfl, rfl, rfl, rfl⟩

/-- What is logged while references are sought stands in front of what is logged without them. -/
theorem Drafter.lines_of_unreferenced (h : d.Asks request)
    (hnone : ({ d with source := some source }.references (Text.trim request.prompt)).examples = []) :
    Event.lines ({ d with source := some source }.draft request desk).events
      = Event.lines ({ d with source := some source }.references (Text.trim request.prompt)).events
        ++ Event.lines ({ d with source := none }.draft request desk).events := by
  rw [d.draft_of_unreferenced source request desk h hnone]
  exact List.filterMap_append

end

namespace DraftCall

/-- Every call is made with the instruction of the drafter and with the text that is sent. -/
theorem calls_run (c : DraftCall) (store : Store) {call : Call}
    (h : call ∈ Event.calls (c.run store).events) :
    call.instruction = c.drafter.instruction ∧ call.prompt = c.sent := by
  cases hmodels : c.drafter.models with
  | none =>
    rw [run, Drafter.draft, hmodels] at h
    exact absurd h List.not_mem_nil
  | some options =>
    by_cases hprompt : c.prompt = ""
    · have hfails : c.run store = ⟨.error .promptRequired, [], ⟨c.session, c.conditionsNamed, store⟩⟩ := by
        have hblank : (Text.trim c.request.prompt).isEmpty = true := by simpa [prompt] using hprompt
        simp only [run, Drafter.draft, hmodels, if_pos hblank]
      rw [hfails] at h
      exact absurd h List.not_mem_nil
    · -- The calls are those of the chain, whether it gives a text or not.
      have hsought : Event.calls (c.drafter.references c.prompt).events = [] :=
        Drafter.filterMap_references _ _ (fun _ => rfl) fun _ => rfl
      have hchain : call ∈ Event.calls (c.chain options).events := by
        rw [c.run_of_models store hmodels hprompt] at h
        cases hvalue : (c.chain options).value with
        | error e =>
          simp only [hvalue, Event.calls, List.filterMap_append] at h hsought ⊢
          rwa [hsought, List.nil_append] at h
        | ok raw =>
          have hread : Event.calls (Drafter.replyLines (Suggestion.parseFrom
              c.drafter.conditionNames c.conditionsNamed raw).1) = [] :=
            Drafter.filterMap_replyLines _ fun _ => rfl
          simp only [hvalue, Drafter.finish, Event.calls, List.filterMap_append] at h hsought hread ⊢
          rwa [hsought, hread, List.nil_append, List.append_nil] at h
      exact askChain_calls c.drafter.service options _ c.session hchain

/-- Only a store that has room for a trace lets a request be answered. -/
theorem capacity_of_outcome (c : DraftCall) {store : Store} {s : Suggestion}
    (h : (c.run store).outcome = .ok s) : 0 ≤ store.capacity := by
  by_contra hcapacity
  have hroom : store.capacity < 0 := by omega
  cases hmodels : c.drafter.models with
  | none =>
    rw [run, Drafter.draft, hmodels] at h
    cases h
  | some options =>
    by_cases hprompt : c.prompt = ""
    · rw [(c.run_of_fails store (.promptRequired hmodels hprompt)).1] at h
      cases h
    · rw [c.run_of_models store hmodels hprompt] at h
      cases hvalue : (c.chain options).value with
      | error e =>
        rw [hvalue] at h
        cases h
      | ok raw =>
        simp only [hvalue, Drafter.finish, Store.add, if_pos hroom] at h
        cases h

/-- The record of an answered request has the titles of the references that it was drafted with. -/
theorem exists_record_of_outcome (c : DraftCall) {store : Store} {s : Suggestion}
    (h : (c.run store).outcome = .ok s) :
    ∃ r, s.traceId = some r.id ∧ r.exampleTitles = c.examples.map (·.title) ∧
      (c.run store).desk.traces.records
        = Store.evict store.capacity.toNat (store.records ++ [r]) := by
  rcases c.run_cases (c.capacity_of_outcome h) with ⟨e, hfails⟩ | ⟨s', hs', hid, -, hstore⟩
  · cases (c.run_of_fails store hfails).1.symm.trans h
  · obtain rfl : s' = s := Except.ok.inj (hs'.symm.trans h)
    exact ⟨_, hid, rfl, by rw [hstore]⟩

end DraftCall

/-! ### Three drafts of one request -/

/-- **A source that fails is as good as none.** Take a request and draft it three times from the
same desk: with a source that fails, with one that finds nothing, and with none. The three drafts
are alike: they have the same outcome, they build and call the same models in the same way and wait
alike, and they leave the same desk, so that an answered request leaves the same trace, without
titles. No call shows a reference. If the models are asked at all, the source that fails is told of
by one warning, in front of what is logged otherwise. -/
theorem draft_of_failed_source (d : Drafter) (request : DraftRequest) (desk : Desk)
    {failing empty : Source} {fault : Fault}
    (hfails : failing.FailsWith (Text.trim request.prompt) d.soughtCount fault)
    (hempty : empty.FindsNothing (Text.trim request.prompt) d.soughtCount) :
    let failed := { d with source := some failing }.draft request desk
    let unfound := { d with source := some empty }.draft request desk
    let plain := { d with source := none }.draft request desk
    failed.Alike plain ∧ unfound.Alike plain ∧
    Event.lines unfound.events = Event.lines plain.events ∧
    (d.Asks request → Event.lines failed.events =
      ⟨.warning, "Example retrieval failed, continuing without references: " ++ fault.text⟩
        :: Event.lines plain.events) ∧
    (¬ d.Asks request → failed = plain ∧ unfound = plain) ∧
    (∀ call ∈ Event.calls failed.events, call.instruction = d.instruction ∧
      call.prompt = Prompt.compose (Text.trim request.prompt) request.existing []) ∧
    ∀ s, failed.outcome = .ok s → ∃ r, s.traceId = some r.id ∧ r.exampleTitles = [] ∧
      failed.desk.traces.records
        = Store.evict desk.traces.capacity.toNat (desk.traces.records ++ [r]) := by
  intro failed unfound plain
  have hfailing : { d with source := some failing }.references (Text.trim request.prompt)
      = ⟨[], failing.seeking d.soughtCount ++ [Retrieval.failedLine fault]⟩ :=
    Retrieval.find_of_failsWith d.retrieval none hfails
  have hfinding : { d with source := some empty }.references (Text.trim request.prompt)
      = ⟨[], empty.seeking d.soughtCount⟩ :=
    Retrieval.find_of_findsNothing d.retrieval none hempty
  have hfailed := congrArg Found.examples hfailing
  have hunfound := congrArg Found.examples hfinding
  have hrefused : ¬ d.Asks request → failed = plain ∧ unfound = plain := fun h =>
    ⟨d.draft_of_not_asks request desk h (some failing), d.draft_of_not_asks request desk h (some empty)⟩
  let call : DraftCall :=
    ⟨{ d with source := some failing }, request, desk.session, desk.conditionsNamed⟩
  refine ⟨d.alike_of_unreferenced failing request desk hfailed,
    d.alike_of_unreferenced empty request desk hunfound, ?_, ?_, hrefused, ?_, ?_⟩
  · by_cases h : d.Asks request
    · have hlines := d.lines_of_unreferenced empty request desk h hunfound
      rw [hfinding, Source.lines_seeking] at hlines
      exact hlines
    · rw [(hrefused h).2]
  · intro h
    have hlines := d.lines_of_unreferenced failing request desk h hfailed
    -- Of what happens while the source is searched, only the failure is logged.
    have hwarning : Event.lines (failing.seeking d.soughtCount ++ [Retrieval.failedLine fault])
        = [⟨.warning, "Example retrieval failed, continuing without references: " ++ fault.text⟩] := by
      rw [Event.lines, List.filterMap_append, ← Event.lines, Source.lines_seeking]
      rfl
    rw [hfailing, hwarning] at hlines
    exact hlines
  · intro asked hasked
    obtain ⟨hinstruction, hprompt⟩ := call.calls_run desk.traces hasked
    rw [DraftCall.sent, show call.examples = [] from hfailed] at hprompt
    exact ⟨hinstruction, hprompt⟩
  · intro s hs
    obtain ⟨r, hid, htitles, hrecords⟩ := call.exists_record_of_outcome hs
    rw [show call.examples = [] from hfailed] at htitles
    exact ⟨r, hid, htitles, hrecords⟩

/-- A source that finds two documents, the second of which cannot be read. -/
def tornSource : Source where
  search _ _ := .ok [.ok ⟨"Mail a report", []⟩, .error ⟨.value, "malformed payload", []⟩]

/-- With a source that cannot be read, the request is answered as without a source, and a warning
tells of the document. -/
theorem draft_of_torn_source :
    let request : DraftRequest := { prompt := " Mail the report " }
    let empty : Source := { search := fun _ _ => .ok [] }
    let fault : Fault := ⟨.value, "malformed payload", []⟩
    let failed := { sentenceDrafter with source := some tornSource }.draft request {}
    let plain := { sentenceDrafter with source := none }.draft request {}
    tornSource.FailsWith (Text.trim request.prompt) sentenceDrafter.soughtCount fault ∧
      empty.FindsNothing (Text.trim request.prompt) sentenceDrafter.soughtCount ∧
      failed.Alike plain ∧
      Event.lines failed.events =
        ⟨.warning, "Example retrieval failed, continuing without references: malformed payload"⟩
          :: Event.lines plain.events := by
  intro request empty fault failed plain
  have hsearch : tornSource.search (Text.trim request.prompt) sentenceDrafter.soughtCount
      = .ok ([⟨"Mail a report", []⟩].map .ok ++ .error fault :: []) := rfl
  have hfails : tornSource.FailsWith (Text.trim request.prompt) sentenceDrafter.soughtCount fault :=
    .unreadable rfl hsearch
  have hempty : empty.FindsNothing (Text.trim request.prompt) sentenceDrafter.soughtCount :=
    ⟨rfl, rfl⟩
  have hasks : sentenceDrafter.Asks request := ⟨rfl, by decide⟩
  obtain ⟨halike, -, -, hwarning, -⟩ := draft_of_failed_source sentenceDrafter request {} hfails hempty
  exact ⟨hfails, hempty, halike, hwarning hasks⟩

end FlowDraft
