import FlowDraft.Proofs.Sample.Catalogue

/-!
# `FlowDraft.Proofs.Sample.Loaded`: lists of objects that samples are loaded from

A void field takes its default, and a field of another kind than is asked for counts as missing
(`ShownBy`). So no item of a list of objects stands in the way of the others, were it not for the
tags: they are gone through whatever they are. A number other than zero or the value `true` cannot
be gone through (`IsUnlisted`), and then nothing is loaded (`load_of_objects`). A text falls into
its characters and an object into its names.
-/

set_option autoImplicit false

namespace FlowDraft

namespace Json

/-- The value has no parts to go through, and it is not void either. -/
def IsUnlisted : Json → Prop
  | .bool b => b = true
  | .int n => n ≠ 0
  | .float x => (x == 0.0) = false
  | _ => False

/-- The value is a list, or it is void. -/
def IsListed (v : Json) : Prop :=
  v.isVoid = true ∨ ∃ items, v = .arr items

/-- The texts of the items of a list. A value that is no list has none. -/
def listedTexts (v : Json) : List String :=
  (v.items?.getD []).map display

theorem IsListed.not_isUnlisted {v : Json} (h : v.IsListed) : ¬ v.IsUnlisted := by
  rcases h with h | ⟨items, rfl⟩
  · cases v <;> simp_all [IsUnlisted, isVoid]
  · exact id

end Json

namespace Sample

/-! ### Tags -/

theorem tagsOf_of_isUnlisted {v : Json} (h : v.IsUnlisted) : tagsOf v = .error .tagsNotListed := by
  cases v with
  | bool b => cases h; rfl
  | int n => simp [tagsOf, Json.isVoid, show n ≠ 0 from h]
  | float x => simp [tagsOf, Json.isVoid, show (x == 0.0) = false from h]
  | _ => cases h

theorem tagsOf_of_isVoid {v : Json} (h : v.isVoid = true) : tagsOf v = .ok [] := by
  unfold tagsOf
  rw [if_pos h]

theorem tagsOf_of_not_isUnlisted {v : Json} (h : ¬ v.IsUnlisted) : ∃ tags, tagsOf v = .ok tags := by
  by_cases hvoid : v.isVoid = true
  · exact ⟨[], tagsOf_of_isVoid hvoid⟩
  · unfold tagsOf
    rw [if_neg hvoid]
    cases v with
    | arr | str | obj => exact ⟨_, rfl⟩
    | null => exact absurd rfl hvoid
    | bool | int | float => simp_all [Json.IsUnlisted, Json.isVoid]

/-- The tags are the items of a list only if the value is a list or void. -/
theorem tagsOf_eq_listedTexts_iff {v : Json} : tagsOf v = .ok v.listedTexts ↔ v.IsListed := by
  by_cases hvoid : v.isVoid = true
  · have hnone : v.listedTexts = [] := by
      cases v with
      | arr items =>
        have hitems : items = [] := by simpa [Json.isVoid] using hvoid
        rw [hitems]
        rfl
      | _ => rfl
    rw [tagsOf_of_isVoid hvoid, hnone]
    exact iff_of_true rfl (.inl hvoid)
  · unfold tagsOf
    rw [if_neg hvoid]
    cases v with
    | arr items => exact iff_of_true rfl (.inr ⟨items, rfl⟩)
    | str s =>
      -- A text that is not empty has characters, and no items.
      refine iff_of_false (fun h => hvoid ?_) (by simp [Json.IsListed, hvoid])
      have hchars : s.toList.map String.singleton = [] := Except.ok.inj h
      simpa [Json.isVoid] using hchars
    | obj fields =>
      refine iff_of_false (fun h => hvoid ?_) (by simp [Json.IsListed, hvoid])
      have hnames : fields.map (·.1) = [] := Except.ok.inj h
      simpa [Json.isVoid] using hnames
    | _ => exact iff_of_false (fun h => by cases h) (by simp [Json.IsListed, hvoid])

/-! ### Samples and their items -/

/-- The sample shows its item. Fields that are void take defaults, and a workflow, integrations or
particulars of another kind than is asked for are passed over. -/
structure ShownBy (position : Nat) (item : Json) (s : Sample) : Prop where
  id : s.id = (firstText? [item.field "id", item.field "title"]).getD
    ("sample-" ++ toString position)
  title : s.title = (firstText? [item.field "title"]).getD Example.untitled
  description : s.description = (firstText? [item.field "description"]).getD ""
  problem : s.problem = (firstText? [item.field "problem"]).getD ""
  tags : tagsOf (item.field "tags") = .ok s.tags
  workflow : s.workflow = ((item.field "workflow").fields?).getD []
  complexity : s.complexity = firstText? [(item.field "metadata").field "complexity"]
  integrations : s.integrations = ((item.field "metadata").field "integrations").listedTexts

theorem shownBy_of_ofJson {position : Nat} {item : Json} {s : Sample}
    (h : ofJson position item = .ok s) : ShownBy position item s := by
  cases item with
  | obj fields =>
    rw [ofJson] at h
    cases htags : tagsOf ((Json.obj fields).field "tags") with
    | error e =>
      rw [htags] at h
      cases h
    | ok tags =>
      rw [htags] at h
      cases h
      exact ⟨rfl, rfl, rfl, rfl, htags, rfl, rfl, rfl⟩
  | _ => cases h

/-- A text that is taken from fields is not empty. -/
theorem firstText?_ne_empty {values : List Json} {text : String} (h : firstText? values = some text) :
    text ≠ "" := by
  obtain ⟨v, hv, rfl⟩ := Option.map_eq_some_iff.1 h
  exact Json.display_ne_empty (by simpa using List.find?_some hv)

theorem getD_firstText?_ne_empty {values : List Json} {fallback : String} (h : fallback ≠ "") :
    (firstText? values).getD fallback ≠ "" := by
  cases htext : firstText? values with
  | none => exact h
  | some text => exact firstText?_ne_empty htext

theorem ShownBy.id_ne_empty {position : Nat} {item : Json} {s : Sample}
    (h : ShownBy position item s) : s.id ≠ "" := by
  rw [h.id]
  exact getD_firstText?_ne_empty fun hempty => by
    rw [String.append_eq_empty_iff] at hempty
    exact absurd hempty.1 (by decide)

theorem ShownBy.title_ne_empty {position : Nat} {item : Json} {s : Sample}
    (h : ShownBy position item s) : s.title ≠ "" := by
  rw [h.title]
  exact getD_firstText?_ne_empty (by decide)

/-! ### Lists of objects -/

section
variable (position : Nat) {items : List Json}

theorem ofJson_of_isUnlisted {fields : Fields}
    (h : ((Json.obj fields).field "tags").IsUnlisted) :
    ofJson position (.obj fields) = .error .tagsNotListed := by
  rw [ofJson, tagsOf_of_isUnlisted h]
  rfl

theorem ofJson_of_not_isUnlisted {fields : Fields}
    (h : ¬ ((Json.obj fields).field "tags").IsUnlisted) :
    ∃ s, ofJson position (.obj fields) = .ok s := by
  obtain ⟨tags, htags⟩ := tagsOf_of_not_isUnlisted h
  rw [ofJson, htags]
  exact ⟨_, rfl⟩

/-- Every item has tags that can be gone through. -/
theorem exists_listOfJson (hobjects : ∀ item ∈ items, ∃ fields, item = .obj fields)
    (htags : ∀ item ∈ items, ¬ (item.field "tags").IsUnlisted) :
    ∃ samples, listOfJson position items = .ok samples := by
  induction items generalizing position with
  | nil => exact ⟨[], rfl⟩
  | cons item items ih =>
    rw [List.forall_mem_cons] at hobjects htags
    obtain ⟨fields, rfl⟩ := hobjects.1
    obtain ⟨s, hs⟩ := ofJson_of_not_isUnlisted position htags.1
    obtain ⟨rest, hrest⟩ := ih (position + 1) hobjects.2 htags.2
    rw [listOfJson, hs, hrest]
    exact ⟨s :: rest, rfl⟩

/-- Some item has tags that cannot be gone through. -/
theorem listOfJson_of_isUnlisted (hobjects : ∀ item ∈ items, ∃ fields, item = .obj fields)
    (htags : ∃ item ∈ items, (item.field "tags").IsUnlisted) :
    listOfJson position items = .error .tagsNotListed := by
  induction items generalizing position with
  | nil => simp at htags
  | cons item items ih =>
    rw [List.forall_mem_cons] at hobjects
    obtain ⟨fields, rfl⟩ := hobjects.1
    rw [listOfJson]
    by_cases hfirst : ((Json.obj fields).field "tags").IsUnlisted
    · rw [ofJson_of_isUnlisted position hfirst]
      rfl
    · -- The first item gives a sample, so the tags in question are further on.
      obtain ⟨s, hs⟩ := ofJson_of_not_isUnlisted position hfirst
      have hrest : ∃ item ∈ items, (item.field "tags").IsUnlisted := by
        simpa [hfirst] using htags
      rw [hs, ih (position + 1) hobjects.2 hrest]
      rfl

theorem listOfJson_eq_error_iff (hobjects : ∀ item ∈ items, ∃ fields, item = .obj fields) :
    listOfJson position items = .error .tagsNotListed ↔
      ∃ item ∈ items, (item.field "tags").IsUnlisted := by
  refine ⟨fun herror => ?_, listOfJson_of_isUnlisted position hobjects⟩
  by_contra hnone
  obtain ⟨samples, hsamples⟩ := exists_listOfJson position hobjects
    fun item hitem hunlisted => hnone ⟨item, hitem, hunlisted⟩
  rw [hsamples] at herror
  cases herror

theorem exists_listOfJson_iff (hobjects : ∀ item ∈ items, ∃ fields, item = .obj fields) :
    (∃ samples, listOfJson position items = .ok samples) ↔
      ∀ item ∈ items, ¬ (item.field "tags").IsUnlisted := by
  refine ⟨fun ⟨samples, hsamples⟩ item hitem hunlisted => ?_, exists_listOfJson position hobjects⟩
  rw [listOfJson_of_isUnlisted position hobjects ⟨item, hitem, hunlisted⟩] at hsamples
  cases hsamples

/-- The tags of the samples are the items of lists exactly if those of their items are lists or
void. -/
theorem tags_eq_listedTexts_iff {samples : List Sample}
    (h : listOfJson position items = .ok samples) :
    (∀ (i : Nat) item s, items[i]? = some item → samples[i]? = some s →
        s.tags = (item.field "tags").listedTexts) ↔
      ∀ item ∈ items, (item.field "tags").IsListed := by
  obtain ⟨hlength, heach⟩ := listOfJson_ok h
  constructor
  · intro htags item hitem
    obtain ⟨i, hi⟩ := List.getElem?_of_mem hitem
    have hbound : i < samples.length := hlength ▸ (List.getElem?_eq_some_iff.1 hi).1
    have hs := List.getElem?_eq_getElem hbound
    rw [← tagsOf_eq_listedTexts_iff, ← htags i item _ hi hs]
    exact (shownBy_of_ofJson (heach i item _ hi hs)).tags
  · intro hlisted i item s hitem hs
    have htags := (shownBy_of_ofJson (heach i item s hitem hs)).tags
    rw [tagsOf_eq_listedTexts_iff.2 (hlisted item (List.mem_of_getElem? hitem))] at htags
    exact (Except.ok.inj htags).symm

end

theorem load_of_read (source : String) {text : String} {items : List Json}
    (h : Json.read text = .ok (.arr items)) (hitems : items ≠ []) :
    load source text = listOfJson 0 items := by
  obtain ⟨item, rest, rfl⟩ := List.exists_cons_of_ne_nil hitems
  rw [load, h]
  rfl

/-- **Loading a list of objects.** Samples are loaded unless the tags of some object are a number
other than zero or `true`, and then it is reported that they are not listed. There is a sample for
each object, in order, and it has an id and a title that are not empty. Fields of another kind than
is asked for are passed over, with one exception: tags are the items of a list, and none for any
other value, exactly if the tags of every object are a list or void. -/
theorem load_of_objects (source : String) {text : String} {items : List Json}
    (hread : Json.read text = .ok (.arr items)) (hitems : items ≠ [])
    (hobjects : ∀ item ∈ items, ∃ fields, item = .obj fields) :
    (load source text = .error .tagsNotListed ↔ ∃ item ∈ items, (item.field "tags").IsUnlisted) ∧
      ((∃ samples, load source text = .ok samples) ↔
        ∀ item ∈ items, ¬ (item.field "tags").IsUnlisted) ∧
      (∀ samples, load source text = .ok samples → samples.length = items.length ∧
        ∀ (i : Nat) item s, items[i]? = some item → samples[i]? = some s →
          ShownBy i item s ∧ s.id ≠ "" ∧ s.title ≠ "") ∧
      ((∃ samples, load source text = .ok samples ∧
          ∀ (i : Nat) item s, items[i]? = some item → samples[i]? = some s →
            s.tags = (item.field "tags").listedTexts) ↔
        ∀ item ∈ items, (item.field "tags").IsListed) := by
  rw [load_of_read source hread hitems]
  refine ⟨listOfJson_eq_error_iff 0 hobjects, exists_listOfJson_iff 0 hobjects,
    fun samples hsamples => ?_, ⟨fun ⟨samples, hsamples, htags⟩ => ?_, fun hlisted => ?_⟩⟩
  · obtain ⟨hlength, heach⟩ := listOfJson_ok hsamples
    refine ⟨hlength.symm, fun i item s hitem hs => ?_⟩
    have hshown : ShownBy i item s := by
      rw [← Nat.zero_add i]
      exact shownBy_of_ofJson (heach i item s hitem hs)
    exact ⟨hshown, hshown.id_ne_empty, hshown.title_ne_empty⟩
  · exact (tags_eq_listedTexts_iff 0 hsamples).1 htags
  · obtain ⟨samples, hsamples⟩ := exists_listOfJson 0 hobjects
      fun item hitem => (hlisted item hitem).not_isUnlisted
    exact ⟨samples, hsamples, (tags_eq_listedTexts_iff 0 hsamples).2 hlisted⟩

set_option maxRecDepth 4000 in
/-- Two objects with fields of odd kinds: an id that is a number and a workflow that is a list, and
a title that is no text beside tags of which one is a number. -/
theorem load_of_objects_with_odd_fields :
    let text :=
      "[\x7b\"id\": 7, \"workflow\": [1]\x7d, \x7b\"title\": false, \"tags\": [\"a\", 1]\x7d]"
    ∃ items samples, Json.read text = .ok (.arr items) ∧ items ≠ [] ∧
      (∀ item ∈ items, ∃ fields, item = .obj fields) ∧ load "samples.json" text = .ok samples ∧
      samples.length = 2 ∧ samples.map (·.id) = ["7", "sample-1"] ∧
      samples.map (·.tags) = [[], ["a", "1"]] ∧ ∀ s ∈ samples, s.title ≠ "" := by
  have hread : Json.read
      "[\x7b\"id\": 7, \"workflow\": [1]\x7d, \x7b\"title\": false, \"tags\": [\"a\", 1]\x7d]"
      = .ok (.arr [.obj [("id", .int 7), ("workflow", .arr [.int 1])],
          .obj [("title", .bool false), ("tags", .arr [.str "a", .int 1])]]) :=
    Json.read_of_readWithin rfl
  obtain ⟨-, hloads, heach, -⟩ := load_of_objects "samples.json" hread (by simp) (by simp)
  obtain ⟨samples, hsamples⟩ := hloads.2 (by
    simp only [List.forall_mem_cons, List.not_mem_nil, false_imp_iff, implies_true, and_true]
    exact ⟨fun h => h, fun h => h⟩)
  obtain ⟨hlength, hshown⟩ := heach samples hsamples
  have htitles : ∀ s ∈ samples, s.title ≠ "" := by
    intro s hs
    obtain ⟨i, hi⟩ := List.getElem?_of_mem hs
    have hbound := hlength ▸ (List.getElem?_eq_some_iff.1 hi).1
    exact (hshown i _ s (List.getElem?_eq_getElem hbound) hi).2.2
  have hlist := (load_of_read "samples.json" hread (by simp)).symm.trans hsamples
  obtain rfl := Except.ok.inj hlist
  exact ⟨_, _, hread, by simp, by simp, hsamples, hlength, by decide +kernel, by decide +kernel,
    htitles⟩

set_option maxRecDepth 4000 in
/-- Tags that are a number: the one object of the file has an id and a title, and nothing is
loaded. -/
theorem load_of_numbered_tags :
    let text := "[\x7b\"id\": \"x\", \"title\": \"X\", \"tags\": 5\x7d]"
    ∃ items, Json.read text = .ok (.arr items) ∧ items ≠ [] ∧
      (∀ item ∈ items, ∃ fields, item = .obj fields) ∧
      load "samples.json" text = .error .tagsNotListed := by
  intro text
  have hread : Json.read "[\x7b\"id\": \"x\", \"title\": \"X\", \"tags\": 5\x7d]"
      = .ok (.arr [.obj [("id", .str "x"), ("title", .str "X"), ("tags", .int 5)]]) :=
    Json.read_of_readWithin rfl
  refine ⟨_, hread, by simp, by simp, ?_⟩
  rw [load, hread]
  rfl

end Sample

end FlowDraft
