import FlowDraft.Draft.Drafter
import FlowDraft.Proofs.Json.Displayed
import FlowDraft.Proofs.Json.RoundTrip
import FlowDraft.Proofs.Text.Trimmed
import FlowDraft.Sample.Load

/-!
# `FlowDraft.Proofs.Sample.Catalogue`: the prompts of the catalogue

The prompt of an entry is the problem of its sample, or else its description, or else a request that
names its title. Which of them it is depends on what is empty, and only then it is trimmed. So a
problem of nothing but white space is taken, and it leaves a prompt that is blank. In a file that
samples are loaded from, `AsksNothing` tells such items apart, and no others have a blank prompt
(`isBlankText_request_iff`).
-/

set_option autoImplicit false

namespace FlowDraft

/-! ### Blank texts -/

namespace Json

/-- A text of nothing but white space, and at least some. -/
def IsWhiteSpace (v : Json) : Prop :=
  ∃ s, v = .str s ∧ s ≠ "" ∧ Text.isBlankText s = true

/-- Of the values that are not void, those of white space have a blank text. -/
theorem isBlankText_display_iff {v : Json} (h : v.isVoid = false) :
    Text.isBlankText v.display = true ↔ v.IsWhiteSpace := by
  rw [isBlankText_display]
  cases v with
  | str s =>
    have hs : s ≠ "" := by simpa [isVoid] using h
    constructor
    · exact fun hblank => ⟨s, rfl, hs, hblank⟩
    · rintro ⟨t, ht, -, hblank⟩
      cases ht
      exact hblank
  | _ => simp [text?, IsWhiteSpace]

theorem not_isWhiteSpace_of_isVoid {v : Json} (h : v.isVoid = true) : ¬ v.IsWhiteSpace := by
  rintro ⟨s, rfl, hs, -⟩
  exact hs (by simpa [isVoid] using h)

end Json

/-! ### Prompts that are refused -/

namespace Drafter

/-- No prompt is refused once the models are asked. -/
theorem outcome_draftWith_ne (d : Drafter) (options : ModelOptions) (prompt : String)
    (existing : Option Workflow.Snapshot) (desk : Desk) :
    (d.draftWith options prompt existing desk).outcome ≠ .error .promptRequired := by
  rw [draftWith]
  -- The models give no text, or they give one and there is room for its trace or not.
  split
  · next e _ => cases e <;> nofun
  · rw [finish]
    dsimp only
    split <;> nofun

/-- A drafter with models refuses the prompts that are blank. -/
theorem outcome_eq_promptRequired_iff (d : Drafter) (request : DraftRequest) (desk : Desk) :
    (d.draft request desk).outcome = .error .promptRequired ↔
      d.configured = true ∧ Text.isBlankText request.prompt = true := by
  rw [configured, draft, ← Text.trim_eq_empty_iff, ← String.isEmpty_iff]
  cases hmodels : d.models with
  | none => simp
  | some options =>
    dsimp only
    split
    · next hempty => simp [hempty]
    · next hempty =>
      refine iff_of_false (outcome_draftWith_ne d options _ _ desk) fun h => ?_
      exact hempty h.2

end Drafter

namespace Sample

/-! ### The request of a sample -/

/-- The item of a file has a problem of nothing but white space, or none and such a description. -/
def AsksNothing (item : Json) : Prop :=
  (item.field "problem").IsWhiteSpace ∨
    (item.field "problem").isVoid = true ∧ (item.field "description").IsWhiteSpace

/-- A value that is void is left out, and any other one is not empty. -/
theorem filled?_firstText? (v : Json) :
    filled? ((firstText? [v]).getD "") = if v.isVoid then none else some v.display := by
  rw [firstText?, List.find?_singleton]
  cases hvoid : v.isVoid with
  | true => rfl
  | false =>
    have hfilled : filled? v.display = some v.display := by
      rw [filled?, if_neg (by simpa using Json.display_ne_empty hvoid)]
    simpa using hfilled

/-- A request that names a title is not blank. -/
theorem isBlankText_titled (title : String) :
    Text.isBlankText ("Design an n8n workflow similar to \"" ++ title ++ "\".") = false := by
  have hstart : ("Design an n8n workflow similar to \"".toList.all Text.isBlank) = false := by
    decide
  rw [Text.isBlankText, String.toList_append, String.toList_append, List.all_append,
    List.all_append, hstart]
  rfl

/-- The samples whose request is blank are those of items that ask for nothing. -/
theorem isBlankText_request_iff {s : Sample} {item : Json}
    (hproblem : s.problem = (firstText? [item.field "problem"]).getD "")
    (hdescription : s.description = (firstText? [item.field "description"]).getD "") :
    Text.isBlankText s.request = true ↔ AsksNothing item := by
  rw [request, Text.isBlankText_trim, hproblem, hdescription, filled?_firstText?,
    filled?_firstText?, AsksNothing]
  -- The first of the two that is not void is taken, blank or not. The title never leaves a blank.
  cases hproblem : (item.field "problem").isVoid with
  | false => simpa using Json.isBlankText_display_iff hproblem
  | true =>
    have hno := Json.not_isWhiteSpace_of_isVoid hproblem
    cases hdescription : (item.field "description").isVoid with
    | false => simpa [hno] using Json.isBlankText_display_iff hdescription
    | true =>
      have hno' := Json.not_isWhiteSpace_of_isVoid hdescription
      simp [hno, hno', isBlankText_titled]

/-! ### Samples that are loaded -/

/-- The problem and the description of a sample are the texts of those fields, empty if the field is
void. -/
theorem ofJson_ok {position : Nat} {item : Json} {s : Sample} (h : ofJson position item = .ok s) :
    s.problem = (firstText? [item.field "problem"]).getD "" ∧
      s.description = (firstText? [item.field "description"]).getD "" := by
  cases item with
  | obj fields =>
    rw [ofJson] at h
    cases htags : tagsOf ((Json.obj fields).field "tags") with
    | error e =>
      rw [htags] at h
      cases h
    | ok tags =>
      rw [htags] at h
      cases h
      exact ⟨rfl, rfl⟩
  | _ => cases h

theorem listOfJson_cons_ok {position : Nat} {v : Json} {vs : List Json} {samples : List Sample}
    (h : listOfJson position (v :: vs) = .ok samples) :
    ∃ s rest, samples = s :: rest ∧ ofJson position v = .ok s ∧
      listOfJson (position + 1) vs = .ok rest := by
  rw [listOfJson] at h
  cases hs : ofJson position v with
  | error e =>
    rw [hs] at h
    cases h
  | ok s =>
    cases hrest : listOfJson (position + 1) vs with
    | error e =>
      rw [hs, hrest] at h
      cases h
    | ok rest =>
      rw [hs, hrest] at h
      cases h
      exact ⟨s, rest, rfl, rfl, rfl⟩

/-- Every item gives a sample, in order. -/
theorem listOfJson_ok {position : Nat} {items : List Json} {samples : List Sample}
    (h : listOfJson position items = .ok samples) :
    items.length = samples.length ∧ ∀ (i : Nat) item s, items[i]? = some item →
      samples[i]? = some s → ofJson (position + i) item = .ok s := by
  induction items generalizing position samples with
  | nil =>
    cases h
    exact ⟨rfl, nofun⟩
  | cons v vs ih =>
    obtain ⟨s, rest, rfl, hs, hrest⟩ := listOfJson_cons_ok h
    obtain ⟨hlength, hitems⟩ := ih hrest
    refine ⟨congrArg (· + 1) hlength, fun i item t hitem ht => ?_⟩
    cases i with
    | zero =>
      cases hitem
      cases ht
      exact hs
    | succ i =>
      rw [← Nat.succ_add_eq_add_succ]
      exact hitems i item t hitem ht

/-- The samples in a text are those of the items in a list. -/
theorem load_ok {source text : String} {samples : List Sample}
    (h : load source text = .ok samples) :
    ∃ items, Json.read text = .ok (.arr items) ∧ listOfJson 0 items = .ok samples := by
  rw [load] at h
  cases hread : Json.read text with
  | error cause =>
    rw [hread] at h
    cases h
  | ok v =>
    rw [hread] at h
    cases v with
    | arr items =>
      cases items with
      | nil => cases h
      | cons item items => exact ⟨item :: items, rfl, h⟩
    | _ => cases h

/-! ### The catalogue -/

theorem catalogue_length (samples : List Sample) :
    catalogue samples samples.length = samples.map toEntry := by
  rw [catalogue, Int.toNat_natCast, ← List.length_map (f := toEntry), List.take_length]

/-- A part of the catalogue is the start of it. -/
theorem catalogue_prefix (samples : List Sample) (limit : Int) :
    catalogue samples limit <+: samples.map toEntry :=
  List.take_prefix _ _

theorem length_catalogue (samples : List Sample) (limit : Int) :
    (catalogue samples limit).length = min (max 0 limit).toNat samples.length := by
  rw [catalogue, List.length_take, List.length_map]
  omega

/-- **The catalogue of samples that were loaded.** It has an entry for each sample in order, and a
limit leaves as many of the first entries as it says, or none. The prompt of an entry is blank
exactly when the item of the file asks for nothing: its problem is nothing but white space, or void
and its description is. These are the prompts that a drafter with models refuses as empty. -/
theorem catalogue_of_loaded {source text : String} {samples : List Sample}
    (h : load source text = .ok samples) :
    let all := catalogue samples samples.length
    (all.length = samples.length ∧ ∀ i : Nat, all[i]? = samples[i]?.map toEntry) ∧
      (∀ limit : Int, catalogue samples limit <+: all ∧
        (catalogue samples limit).length = min (max 0 limit).toNat samples.length) ∧
      ∃ items, Json.read text = .ok (.arr items) ∧ items.length = samples.length ∧
        ∀ (i : Nat) item entry, items[i]? = some item → all[i]? = some entry →
          (Text.isBlankText entry.prompt = true ↔ AsksNothing item) ∧
          ∀ (d : Drafter) existing desk,
            (d.draft ⟨entry.prompt, existing⟩ desk).outcome = .error .promptRequired ↔
              d.configured = true ∧ AsksNothing item := by
  intro all
  have hall : all = samples.map toEntry := catalogue_length samples
  obtain ⟨items, hread, hlist⟩ := load_ok h
  obtain ⟨hlength, hitems⟩ := listOfJson_ok hlist
  refine ⟨⟨by rw [hall, List.length_map], fun i => by rw [hall, List.getElem?_map]⟩,
    fun limit => ⟨hall ▸ catalogue_prefix samples limit, length_catalogue samples limit⟩,
    items, hread, hlength, fun i item entry hitem hentry => ?_⟩
  rw [hall, List.getElem?_map, Option.map_eq_some_iff] at hentry
  obtain ⟨s, hs, rfl⟩ := hentry
  obtain ⟨hproblem, hdescription⟩ := ofJson_ok (hitems i item s hitem hs)
  have hblank : Text.isBlankText s.toEntry.prompt = true ↔ AsksNothing item :=
    isBlankText_request_iff hproblem hdescription
  exact ⟨hblank, fun d existing desk => by rw [d.outcome_eq_promptRequired_iff, hblank]⟩

/-- A file of two samples: a problem with the white space of another script in front, and a title of
white space only. The first prompt is never refused as empty. -/
theorem catalogue_of_loaded_with_two_prompts :
    ∃ samples,
      load "samples.json"
          "[\x7b\"problem\": \"\u3000Sort my mail \"\x7d, \x7b\"title\": \" \"\x7d]"
        = .ok samples ∧
      (catalogue samples 10).map (·.prompt)
        = ["Sort my mail", "Design an n8n workflow similar to \" \"."] ∧
      (catalogue samples 1).length = min (max 0 1 : Int).toNat 2 ∧
      ∀ (d : Drafter) existing desk,
        (d.draft ⟨"Sort my mail", existing⟩ desk).outcome ≠ .error .promptRequired := by
  have hread : Json.read
      "[\x7b\"problem\": \"\u3000Sort my mail \"\x7d, \x7b\"title\": \" \"\x7d]"
      = .ok (.arr
        [.obj [("problem", .str "\u3000Sort my mail ")], .obj [("title", .str " ")]]) :=
    Json.read_of_readWithin rfl
  have hload : load "samples.json"
      "[\x7b\"problem\": \"\u3000Sort my mail \"\x7d, \x7b\"title\": \" \"\x7d]"
      = .ok [⟨"sample-0", "Untitled workflow", "", "\u3000Sort my mail ", [], [], none, []⟩,
          ⟨" ", " ", "", "", [], [], none, []⟩] := by
    rw [load, hread]
    rfl
  obtain ⟨-, hlimit, items, hread', -, hprompt⟩ := catalogue_of_loaded hload
  -- The items are those that the text was read as.
  obtain rfl := Json.arr.inj (Except.ok.inj (hread.symm.trans hread'))
  refine ⟨_, hload, by decide +kernel, (hlimit 1).2, fun d existing desk hrefused => ?_⟩
  obtain ⟨-, hasks⟩ := ((hprompt 0 _ _ rfl rfl).2 d existing desk).1 hrefused
  rcases hasks with ⟨s, hs, -, hblank⟩ | ⟨hvoid, -⟩
  · cases hs
    exact absurd hblank (by decide)
  · exact absurd hvoid (by decide)

/-- A problem that is a blank: the sample is loaded, and its prompt is empty and refused. -/
theorem catalogue_of_blank_problem :
    let text := "[\x7b\"title\": \"T\", \"problem\": \" \"\x7d]"
    ∃ samples, load "samples.json" text = .ok samples ∧
      (catalogue samples samples.length).map (·.prompt) = [""] ∧
      ∀ (d : Drafter) existing desk, d.configured = true →
        (d.draft ⟨"", existing⟩ desk).outcome = .error .promptRequired := by
  have hread : Json.read "[\x7b\"title\": \"T\", \"problem\": \" \"\x7d]"
      = .ok (.arr [.obj [("title", .str "T"), ("problem", .str " ")]]) :=
    Json.read_of_readWithin rfl
  have hload : load "samples.json" "[\x7b\"title\": \"T\", \"problem\": \" \"\x7d]"
      = .ok [⟨"T", "T", "", " ", [], [], none, []⟩] := by
    rw [load, hread]
    rfl
  refine ⟨_, hload, by decide +kernel, ?_⟩
  exact fun d existing desk hmodels => (d.outcome_eq_promptRequired_iff _ desk).2 ⟨hmodels, rfl⟩

end Sample

end FlowDraft
