import FlowDraft.Http.Router
import FlowDraft.Proofs.Draft.Outcome
import FlowDraft.Proofs.Json.Characters
import FlowDraft.Proofs.Json.Finite
import FlowDraft.Proofs.Reply.Normal

/-!
# `FlowDraft.Proofs.Http.Drafting`: drafts that are asked for by request

A draft can be asked for directly (`Drafter.suggest`), and by a request to a site. Both trim the
prompt, count it as blank or not, and tell of failures in ways of their own. `serve_mirrors_suggest`
says that a request is answered with what the draft comes to when it is asked for directly from the
same desk: the two refuse the same prompts, leave the same desk and come to the same suggestion or
failure. It is about any framework that does what a site relies on (`Framework.Lawful`), and
`Framework.plain` is one of them (`Framework.lawful_plain`).

There is one difference. A suggestion is drafted and traced before it is known whether its document
can be written. If one of its texts has the half of a pair, it cannot, and the response is that of
an error (`serve_of_unsent_suggestions`). Such texts are up to the model: the summary, the workflow
and the notes in a reply are taken over as they are.
-/

set_option autoImplicit false

namespace FlowDraft.Http

open Model Trace

/-! ### A plain framework -/

namespace Framework

/-- A plain framework does what a site relies on. -/
theorem lawful_plain : plain.Lawful where
  refused _ _ := ⟨rfl, rfl⟩
  raised := rfl
  returned body hfinite hrenders := by
    have hsame : body.toFinite = body :=
      Json.toFinite_of_throughout _ (Json.throughout_sendable_iff.2 (Json.isFinite_iff.1 hfinite))
    have hsend : Response.send body = .document 200 body :=
      (if_pos hrenders).trans (congrArg (Response.document 200) hsame)
    show (Response.send body).status = 200 ∧ (Response.send body).body? = some body
    rw [hsend]
    exact ⟨rfl, rfl⟩
  unwritten body hrenders := congrArg Response.status (if_neg hrenders)
  encoded body hrenders := by
    have hparts : Response.renders body = true := hrenders
    rw [Response.renders, Bool.and_eq_true] at hparts
    exact List.all_eq_true.1 hparts.1
  rendered body _ hwhole hlevels := by
    show Response.renders body = true
    rw [Response.renders, Bool.and_eq_true, decide_eq_true_eq]
    exact ⟨List.all_eq_true.2 hwhole, hlevels⟩

end Framework

/-- A request for a draft, as it is usually made. -/
def post (prompt : String) (existing : Json) : Request where
  method := "POST"
  target := { path := "/ai/workflow".toList }
  contentType := "application/json"
  body := Json.write .compact (.obj [("prompt", .str prompt), ("existingWorkflow", existing)])

section
variable (prompt : String) {existing : Json} (hplain : Json.isPlain existing = true)
  (hlevels : Json.levels existing < 999)
include hplain hlevels

theorem content_post :
    (post prompt existing).content
      = .ok (.document (.obj [("prompt", .str prompt), ("existingWorkflow", existing)])) := by
  let fields : Fields := [("prompt", .str prompt), ("existingWorkflow", existing)]
  obtain ⟨rest, hrest⟩ :
      ∃ rest, Json.dump .compact (.obj fields) = '\x7b' :: '"' :: 'p' :: 'r' :: rest := ⟨_, rfl⟩
  have hbody : (post prompt existing).body.toList = '\x7b' :: '"' :: 'p' :: 'r' :: rest :=
    String.toList_ofList.trans hrest
  have hread : Json.read (post prompt existing).body = .ok (.obj fields) := by
    refine Json.read_write rfl ?_ ?_
    · simp [Json.isPlain, Json.holdPlain, Fields.keys, hplain]
    · simp only [Json.levels, Json.fieldLevels, Json.maxDepth]
      omega
  have hempty : (post prompt existing).body.isEmpty = false := by
    rw [← Bool.not_eq_true, String.isEmpty_iff, ← String.toList_eq_nil_iff, hbody]
    exact List.cons_ne_nil _ _
  have hcarries : (post prompt existing).carriesDocument = true := by
    have hkind : Request.mediaType "application/json" = ("application".toList, "json".toList) := by
      decide
    simp only [Request.carriesDocument, post, hkind]
    decide
  -- A body that starts with ASCII characters is taken for UTF-8.
  have htext : (post prompt existing).bodyText? = some (post prompt existing).body := by
    rw [Request.bodyText?, hbody]
    rfl
  simp [Request.content, hempty, hcarries, htext, hread, fields]

/-- A plain framework can be asked for the draft of any prompt, for any workflow that can be written
and read again. -/
theorem route_post (hfields : existing = .null ∨ ∃ workflow, existing = .obj workflow) :
    Framework.plain.route (post prompt existing) = .ok (.draft ⟨prompt, existing⟩) := by
  have horder : DraftOrder.ofContent
      (.document (.obj [("prompt", .str prompt), ("existingWorkflow", existing)]))
        = .ok ⟨prompt, existing⟩ := by
    rcases hfields with rfl | ⟨workflow, rfl⟩ <;> rfl
  have hcall : Router.callOf (post prompt existing) .draft = .ok (.draft ⟨prompt, existing⟩) := by
    rw [Router.callOf, Router.orderOf, content_post prompt hplain hlevels]
    simp only [horder]
    rfl
  -- The path is that of a route, so nothing is sent on to another one.
  have hpath : Route.ofPath? "/ai/workflow".toList = some .draft := by decide
  have hmethod : Route.draft.methods.contains "POST" = true := by decide
  have hfollow : Router.follow (post prompt existing) Router.maxSendings
      (post prompt existing).target = .ok (.draft ⟨prompt, existing⟩) := by
    rw [Router.follow.eq_def]
    simp only [post, hpath, hmethod, if_true]
    exact hcall
  have hhead : (post prompt existing).method ≠ "HEAD" := by
    show "POST" ≠ "HEAD"
    decide
  rw [Framework.plain_route, Router.route, hfollow, if_neg hhead]
  rfl

end

/-! ### The two ways to a draft -/

section
variable (site : Site) (existing : Json) (desk : Desk) {prompt : String}

/-- A blank prompt is refused either way, and nothing happens. -/
theorem draft_of_blank (h : Text.trim prompt = "") :
    site.draft ⟨prompt, existing⟩ desk
        = .still desk (.refused 400 DraftError.promptRequiredMessage) ∧
      site.drafter.suggest prompt existing desk
        = ⟨.error (if site.drafter.configured then .promptRequired else .notConfigured), [],
            desk⟩ := by
  constructor
  · simp only [Site.draft, h]
    rfl
  · rw [Drafter.suggest, Drafter.draft, Drafter.configured]
    cases site.drafter.models with
    | none => rfl
    | some options =>
      simp only [h]
      rfl

section
variable (h : Text.trim prompt ≠ "")
include h

/-- The prompt is trimmed before it is passed on, which makes no difference to its draft. -/
theorem draft_eq_suggest :
    let drafted := site.drafter.suggest prompt existing desk
    site.draft ⟨prompt, existing⟩ desk = match drafted.outcome with
      | .ok s => ⟨.returned s.toResponse, drafted.events, drafted.desk⟩
      | .error e => ⟨.ofDraftError e, drafted.events ++ Site.failedLines e, drafted.desk⟩ := by
  have hblank : (Text.trim prompt).isEmpty = false := by simpa using h
  have htrim : site.drafter.suggest (Text.trim prompt) existing desk
      = site.drafter.suggest prompt existing desk := by
    simp only [Drafter.suggest, Drafter.draft, Text.trim_trim]
  simp only [Site.draft, hblank, htrim]
  rfl

theorem draft_of_suggestion {s : Suggestion}
    (hs : (site.drafter.suggest prompt existing desk).outcome = .ok s) :
    site.draft ⟨prompt, existing⟩ desk
      = ⟨.returned s.toResponse, (site.drafter.suggest prompt existing desk).events,
          (site.drafter.suggest prompt existing desk).desk⟩ := by
  rw [draft_eq_suggest site existing desk h, hs]

theorem draft_of_error {e : DraftError}
    (he : (site.drafter.suggest prompt existing desk).outcome = .error e) :
    site.draft ⟨prompt, existing⟩ desk
      = ⟨.ofDraftError e, (site.drafter.suggest prompt existing desk).events ++ Site.failedLines e,
          (site.drafter.suggest prompt existing desk).desk⟩ := by
  rw [draft_eq_suggest site existing desk h, he]

end

end

/-! ### Responses -/

/-- The texts of a response are those of its suggestion, and the names of two fields. -/
theorem texts_toResponse (s : Suggestion) :
    s.toResponse.texts = (["ok", "suggestion"].map Letters.ofString) ++ s.toJson.texts := by
  simp [Suggestion.toResponse, Json.texts, Json.fieldTexts]

theorem levels_toResponse (s : Suggestion) : s.toResponse.levels = s.toJson.levels + 1 := by
  simp only [Suggestion.toResponse, Json.levels, Json.fieldLevels]
  omega

theorem summary_mem_texts (s : Suggestion) : s.summary ∈ s.toJson.texts := by
  simp [Suggestion.toJson, Suggestion.fields, Json.texts, Json.fieldTexts]

/-- The workflow lies inside of the document form of its suggestion. -/
theorem levels_workflow_lt (s : Suggestion) : s.workflow.levels < s.toJson.levels := by
  simp only [Suggestion.toJson, Suggestion.fields, Json.levels, List.cons_append, List.nil_append,
    Json.fieldLevels]
  omega

theorem isFinite_toResponse {s : Suggestion} (h : s.toJson.isFinite = true) :
    s.toResponse.isFinite = true := by
  simpa [Suggestion.toResponse, Json.isFinite, Json.holdFinite] using h

namespace Framework

variable {web : Framework}

/-- A request for a draft is answered with what comes of the draft. -/
theorem serve_of_draft {site : Site} {desk : Desk} {request : web.Request} {order : DraftOrder}
    (h : web.route request = .ok (.draft order)) {served : Served Handled}
    (hdraft : site.draft order desk = served) :
    web.serve site request desk = ⟨web.respond served.answer, served.events, served.desk⟩ := by
  simp only [serve, h, Site.handle, hdraft]

namespace Lawful

variable (hweb : web.Lawful) {s : Suggestion}
include hweb

/-- A suggestion with finite numbers is rendered, if its texts have no halves and it does not go too
deep. -/
theorem renders_toResponse (hfinite : s.toJson.isFinite = true)
    (hwhole : ∀ t ∈ s.toJson.texts, t.isWhole = true) (hlevels : s.toJson.levels < web.depth) :
    web.renders s.toResponse := by
  refine hweb.rendered _ (isFinite_toResponse hfinite) ?_ ?_
  · rw [texts_toResponse, List.forall_mem_append]
    exact ⟨by decide, hwhole⟩
  · rw [levels_toResponse]
    exact hlevels

/-- A suggestion with a half of a pair in one of its texts is not rendered. -/
theorem not_renders_toResponse (h : ∃ t ∈ s.toJson.texts, t.isWhole = false) :
    ¬ web.renders s.toResponse := by
  intro hrenders
  obtain ⟨t, ht, hhalf⟩ := h
  have hmem : t ∈ s.toResponse.texts := by
    rw [texts_toResponse]
    exact List.mem_append_right _ ht
  rw [hweb.encoded _ hrenders t hmem] at hhalf
  cases hhalf

end Lawful

end Framework

/-- **A draft that is asked for by request is the draft that is asked for directly**, from the same
desk. A blank prompt is refused by both, and so is any prompt without models, and then nothing
happens. If every model fails, the response tells of the failure that the draft ends with. Otherwise
the response is the document form of the suggestion, if the framework can write it: not if one of
its texts has the half of a pair, but else if it does not go too deep. (A store of negative capacity
has no room for the trace, which fails either way.) Both leave the same desk, and the same happens
meanwhile but for a line in the log about a failure. -/
theorem serve_mirrors_suggest {web : Framework} (hweb : web.Lawful) (site : Site) (desk : Desk)
    {request : web.Request} {prompt : String} {existing : Json}
    (hroute : web.route request = .ok (.draft ⟨prompt, existing⟩))
    (htries : ∀ options, site.drafter.models = some options → (options.maxTries : Nat) ≤ 1025)
    (hfinite : site.drafter.service.FiniteReplies) :
    let served := web.serve site request desk
    let drafted := site.drafter.suggest prompt existing desk
    let call : DraftCall := ⟨site.drafter, ⟨prompt, Drafter.existingWorkflow existing⟩,
      desk.session, desk.conditionsNamed⟩
    (Text.trim prompt = "" →
      web.Says served.answer 400 (.obj [("detail", .str "Prompt is required.")]) ∧
      served.events = [] ∧ served.desk = desk ∧
      drafted
        = ⟨.error (if site.drafter.configured then .promptRequired else .notConfigured), [],
            desk⟩) ∧
    (Text.trim prompt ≠ "" → site.drafter.configured = false →
      web.Says served.answer 503 (.obj [("detail", .str DraftError.notConfiguredMessage)]) ∧
      served.events = [] ∧ served.desk = desk ∧ drafted = ⟨.error .notConfigured, [], desk⟩) ∧
    (site.drafter.Asks call.request → call.AllFail → ∃ failure,
      drafted.outcome = .error (.stage failure) ∧
      web.Says served.answer 500 (.obj [("detail", .str failure.message)]) ∧
      served.events
        = drafted.events ++ [.log .error ("Workflow generation failed: " ++ failure.message)] ∧
      served.desk = drafted.desk) ∧
    (site.drafter.Asks call.request → ¬ call.AllFail → 0 ≤ desk.traces.capacity → ∃ s,
      drafted.outcome = .ok s ∧ served.events = drafted.events ∧ served.desk = drafted.desk ∧
      let body := .obj [("ok", .bool true), ("suggestion", s.toJson)]
      (web.renders body → web.Says served.answer 200 body) ∧
      (¬ web.renders body → web.status served.answer = 500) ∧
      ((∀ t ∈ s.toJson.texts, t.isWhole = true) → s.toJson.levels < web.depth →
        web.renders body) ∧
      ((∃ t ∈ s.toJson.texts, t.isWhole = false) → ¬ web.renders body)) ∧
    (site.drafter.Asks call.request → ¬ call.AllFail → desk.traces.capacity < 0 →
      drafted.outcome = .error .noRoom ∧ web.status served.answer = 500 ∧
      served.events = drafted.events ∧ served.desk = drafted.desk) := by
  intro served drafted call
  refine ⟨?_, ?_, ?_, ?_, ?_⟩
  · intro hprompt
    obtain ⟨hdraft, hdrafted⟩ := draft_of_blank site existing desk hprompt
    have hserved : served = _ := Framework.serve_of_draft hroute hdraft
    rw [hserved]
    exact ⟨hweb.refused 400 _, rfl, rfl, hdrafted⟩
  · intro hprompt hmodels
    have hnone : site.drafter.models = none := by simpa [Drafter.configured] using hmodels
    have hdrafted : drafted = ⟨.error .notConfigured, [], desk⟩ := by
      simp only [drafted, Drafter.suggest, Drafter.draft, hnone]
    have hdraft := draft_of_error site existing desk hprompt (congrArg Drafted.outcome hdrafted)
    have hserved : served = _ := Framework.serve_of_draft hroute hdraft
    rw [hserved]
    refine ⟨hweb.refused 503 _, ?_, congrArg Drafted.desk hdrafted, hdrafted⟩
    exact (List.append_nil _).trans (congrArg Drafted.events hdrafted)
  · intro hasks hfail
    -- The failure that the draft ends with is the one that the response tells of.
    obtain ⟨failure, hout⟩ : ∃ failure, drafted.outcome = .error (.stage failure) :=
      call.outcome_of_allFail hasks.2 hfail
    have hserved : served = _ :=
      Framework.serve_of_draft hroute (draft_of_error site existing desk hasks.2 hout)
    rw [hserved]
    exact ⟨failure, hout, hweb.refused 500 _, rfl, rfl⟩
  · intro hasks hfail hcapacity
    obtain ⟨options, hmodels⟩ := Option.isSome_iff_exists.1 hasks.1
    obtain ⟨raw, hraw, model, i, hanswer⟩ := call.exists_text hmodels (htries options hmodels) hfail
    -- The numbers in the suggestion are those of the text that a model answered with.
    have hsendable := Suggestion.isFinite_parseFrom call.drafter.conditionNames call.conditionsNamed
      (some (call.drafter.traceNames desk.traces.named)) fun v => hfinite model i raw v hanswer
    have hout := call.outcome_of_text hmodels hasks.2 hraw hcapacity
    have hserved : served = _ :=
      Framework.serve_of_draft hroute (draft_of_suggestion site existing desk hasks.2 hout)
    rw [hserved]
    exact ⟨_, hout, rfl, rfl, hweb.returned _ (isFinite_toResponse hsendable), hweb.unwritten _,
      hweb.renders_toResponse hsendable, hweb.not_renders_toResponse⟩
  · intro hasks hfail hcapacity
    obtain ⟨options, hmodels⟩ := Option.isSome_iff_exists.1 hasks.1
    obtain ⟨raw, hraw, -⟩ := call.exists_text hmodels (htries options hmodels) hfail
    have hout : drafted.outcome = .error .noRoom :=
      call.outcome_of_noRoom hmodels hasks.2 hraw hcapacity
    have hserved : served = _ :=
      Framework.serve_of_draft hroute (draft_of_error site existing desk hasks.2 hout)
    rw [hserved]
    exact ⟨hout, hweb.raised, List.append_nil _, rfl⟩

/-! ### A model that answers with one text -/

/-- A drafter whose models always answer with the text. -/
def answeringDrafter (raw : Letters) : Drafter where
  models := some {}
  service := { build := fun _ _ => none, answer := fun _ _ => ⟨.ok raw, 1.0⟩ }
  conditionNames := toString
  traceNames := toString

/-- The request to that drafter. -/
def answeringCall (raw : Letters) : DraftCall :=
  { drafter := answeringDrafter raw, request := { prompt := "Add a step" } }

/-- An object without binary64 numbers has no infinite ones. -/
theorem finiteReplies_answeringDrafter {raw : Letters} {fields : Fields Letters}
    (hobject : Suggestion.object? raw = some (.obj fields))
    (hplain : Json.isPlain (.obj fields) = true) :
    (answeringDrafter raw).service.FiniteReplies := by
  intro model i raw' v hanswer hv x hx
  obtain rfl : raw = raw' := Except.ok.inj hanswer
  obtain rfl : Json.obj fields = v := Option.some.inj (hobject.symm.trans hv)
  cases Json.isPlain_of_inside hx hplain

theorem not_allFail_answeringCall (raw : Letters) : ¬ (answeringCall raw).AllFail := by
  rintro ⟨options, hoptions, hfails⟩
  obtain rfl : ({} : ModelOptions) = options := Option.some.inj hoptions
  have hfirst := hfails "gpt-4.1" (by decide)
  -- The first model of the chain answers.
  have hanswers : (stage (answeringCall raw).drafter.service {}
      ⟨(answeringCall raw).drafter.instruction, (answeringCall raw).sent⟩ "gpt-4.1"
      (answeringCall raw).session).value = .ok raw := by
    simp [stage, tries, Session.client, Session.call, answeringCall, answeringDrafter, Run.after]
  rw [stageFails, hanswers] at hfirst
  cases hfirst

theorem suggest_answeringDrafter (raw : Letters) :
    ((answeringDrafter raw).suggest "Add a step" .null {}).outcome
      = .ok { (Suggestion.parseFrom toString 0 raw).1 with traceId := some "0" } := by
  obtain ⟨raw', hraw, model, i, hanswer⟩ :=
    (answeringCall raw).exists_text rfl (by decide) (not_allFail_answeringCall raw)
  obtain rfl : raw = raw' := Except.ok.inj hanswer
  have hprompt : (answeringCall raw).prompt ≠ "" := by
    show Text.trim "Add a step" ≠ ""
    decide
  have hcapacity : 0 ≤ ({} : Store).capacity := by decide
  exact (answeringCall raw).outcome_of_text rfl hprompt hraw hcapacity

/-- A suggestion that is sent. -/
theorem serve_mirrors_suggest_for_summary :
    let web := Framework.plain
    let raw : String := "\x7b\"summary\": \"Adds a step\", \"workflow\": \x7b\"nodes\": []\x7d\x7d"
    let site : Site := { drafter := answeringDrafter raw }
    let request := post "Add a step" .null
    web.Lawful ∧ web.route request = .ok (.draft ⟨"Add a step", .null⟩) ∧
    site.drafter.service.FiniteReplies ∧
    ∃ s, (site.drafter.suggest "Add a step" .null {}).outcome = .ok s ∧
      s.summary = ("Adds a step" : Letters) ∧
      web.Says (web.serve site request {}).answer 200
        (.obj [("ok", .bool true), ("suggestion", s.toJson)]) := by
  intro web raw site request
  have hroute : web.route request = .ok (.draft ⟨"Add a step", .null⟩) :=
    route_post "Add a step" rfl (by decide) (.inl rfl)
  have htries :
      ∀ options, site.drafter.models = some options → (options.maxTries : Nat) ≤ 1025 := by
    intro options hoptions
    obtain rfl : ({} : ModelOptions) = options := Option.some.inj hoptions
    decide
  have hobject : Suggestion.object? raw = some (.obj
      [("summary", .str "Adds a step"), ("workflow", .obj [("nodes", .arr [])])]) := by
    subst raw
    rfl
  have hfinite : site.drafter.service.FiniteReplies := finiteReplies_answeringDrafter hobject rfl
  have hasks : site.drafter.Asks { prompt := "Add a step" } := ⟨rfl, by decide⟩
  obtain ⟨s, hs, -, -, hsays, -, hrenders, -⟩ :=
    (serve_mirrors_suggest Framework.lawful_plain site {} hroute htries hfinite).2.2.2.1 hasks
      (not_allFail_answeringCall raw) (by decide)
  obtain rfl : _ = s := Except.ok.inj ((suggest_answeringDrafter raw).symm.trans hs)
  have hparse : (Suggestion.parseFrom toString 0 raw).1
      = ⟨"Adds a step", .obj [("nodes", .arr [])], raw, none, [], false, none⟩ := by
    rw [Suggestion.parseFrom, hobject]
    rfl
  refine ⟨Framework.lawful_plain, hroute, hfinite, _, hs, ?_, hsays (hrenders ?_ ?_)⟩
  · rw [hparse]
  · rw [hparse]
    decide
  · rw [hparse]
    decide

/-! ### Suggestions that are not sent -/

/-- A list with as many lists inside each other in it. -/
def nested : Nat → Json Letters
  | 0 => .arr []
  | n + 1 => .arr [nested n]

@[simp] theorem levels_nested (n : Nat) : (nested n).levels = n := by
  induction n with
  | zero => rfl
  | succ n ih => simp [nested, Json.levels, Json.itemLevels, ih]

/-- The object in a reply whose workflow is such a list. -/
def nestedFields (n : Nat) : Fields Letters :=
  [("workflow", nested n)]

theorem isPlain_nestedFields (n : Nat) : Json.isPlain (.obj (nestedFields n)) = true := by
  have hnested : Json.isPlain (nested n) = true := by
    induction n with
    | zero => rfl
    | succ n ih => simp [nested, Json.isPlain, Json.arePlain, ih]
  simp [nestedFields, Json.isPlain, Json.holdPlain, Fields.keys, hnested]

theorem texts_nestedFields (n : Nat) :
    (Json.obj (nestedFields n)).texts = [Letters.ofString "workflow"] := by
  have hnested : (nested n).texts = [] := by
    induction n with
    | zero => rfl
    | succ n ih => simp [nested, Json.texts, Json.itemTexts, ih]
  simp [nestedFields, Json.texts, Json.fieldTexts, hnested]

/-- The reply with that object. -/
def nestedReply (n : Nat) : Letters :=
  Json.render .compact 0 (.obj (nestedFields n))

theorem object?_nestedReply {n : Nat} (h : n ≤ 399) :
    Suggestion.object? (nestedReply n) = some (.obj (nestedFields n)) := by
  have hlevels : (Json.obj (nestedFields n)).levels ≤ 400 := by
    simp only [nestedFields, Json.levels, Json.fieldLevels, levels_nested]
    omega
  refine Suggestion.object?_render (isPlain_nestedFields n) hlevels
    (Suggestion.not_holdsBlock_render ?_)
  rw [texts_nestedFields]
  decide

/-- A plain framework sends no document that goes too deep. -/
theorem not_renders_of_levels {body : Json Letters} (h : Response.maxLevels < body.levels) :
    ¬ Framework.plain.renders body := by
  show ¬ Response.renders body = true
  rw [Response.renders, Bool.and_eq_true, decide_eq_true_eq]
  exact fun hrenders => Nat.not_le.2 h hrenders.2

/-- Two replies whose suggestions are drafted but not sent. The summary of the first one names the
half of a pair, and there is no framework that can send it. The workflow of the second one is a list
with 255 lists inside each other, and a plain framework does not send it. -/
theorem serve_of_unsent_suggestions :
    let half : String := "\x7b\"summary\": \"\\ud800\", \"workflow\": \x7b\x7d\x7d"
    let site (raw : Letters) : Site := { drafter := answeringDrafter raw }
    let order : DraftOrder := ⟨"Add a step", .null⟩
    (site half).drafter.service.FiniteReplies ∧
    (∃ s, ((site half).drafter.suggest "Add a step" .null {}).outcome = .ok s ∧
      s.summary = [.half 0]) ∧
    (∀ (web : Framework) (request : web.Request), web.Lawful →
      web.route request = .ok (.draft order) →
        web.status (web.serve (site half) request {}).answer = 500) ∧
    (site (nestedReply 255)).drafter.service.FiniteReplies ∧
    (∃ s, ((site (nestedReply 255)).drafter.suggest "Add a step" .null {}).outcome = .ok s ∧
      s.workflow = nested 255) ∧
    Framework.plain.Lawful ∧
    Framework.plain.route (post "Add a step" .null) = .ok (.draft order) ∧
    Framework.plain.status
      (Framework.plain.serve (site (nestedReply 255)) (post "Add a step" .null) {}).answer
        = 500 := by
  intro half site order
  have hroute : Framework.plain.route (post "Add a step" .null) = .ok (.draft order) :=
    route_post "Add a step" rfl (by decide) (.inl rfl)
  have hhalf : Suggestion.object? half = some (.obj
      [("summary", .str [.half 0]), ("workflow", .obj [])]) := by
    subst half
    rfl
  have hdeep := object?_nestedReply (n := 255) (by decide)
  obtain ⟨s, hs, hsummary⟩ : ∃ s,
      ((answeringDrafter half).suggest "Add a step" .null {}).outcome = .ok s ∧
        s.summary = [.half 0] := by
    have hout := suggest_answeringDrafter half
    rw [Suggestion.parseFrom, hhalf] at hout
    exact ⟨_, hout, rfl⟩
  obtain ⟨t, ht, hworkflow⟩ : ∃ t,
      ((answeringDrafter (nestedReply 255)).suggest "Add a step" .null {}).outcome = .ok t ∧
        t.workflow = nested 255 := by
    have hout := suggest_answeringDrafter (nestedReply 255)
    rw [Suggestion.parseFrom, hdeep] at hout
    exact ⟨_, hout, rfl⟩
  refine ⟨finiteReplies_answeringDrafter hhalf rfl, ⟨s, hs, hsummary⟩, ?_,
    finiteReplies_answeringDrafter hdeep (isPlain_nestedFields 255), ⟨t, ht, hworkflow⟩,
    Framework.lawful_plain, hroute, ?_⟩
  · intro web request hweb hroute
    rw [Framework.serve_of_draft hroute
      (draft_of_suggestion (site half) .null {} (by decide) hs)]
    -- The half stands in the summary, and the laws say that it has no bytes.
    refine hweb.unwritten _ (hweb.not_renders_toResponse ⟨_, summary_mem_texts s, ?_⟩)
    rw [hsummary]
    rfl
  · rw [Framework.serve_of_draft hroute
      (draft_of_suggestion (site (nestedReply 255)) .null {} (by decide) ht)]
    -- The laws leave the depth open, so here it is that of the framework.
    have hlevels := levels_workflow_lt t
    rw [hworkflow, levels_nested] at hlevels
    refine Framework.lawful_plain.unwritten _ (not_renders_of_levels ?_)
    rw [levels_toResponse]
    exact Nat.lt_succ_of_lt hlevels

end FlowDraft.Http
