import FlowDraft.Proofs.Binary64.Amount
import FlowDraft.Proofs.Draft.Unreferenced
import FlowDraft.Proofs.Example.Rank
import FlowDraft.Proofs.Label.Stored

/-!
# `FlowDraft.Proofs.Retrieval.Search`: what a search for references comes to

More documents are sought than references are wanted, and the references are the best of those that
were found. Which ones these are is told by their scores, so `zero_le_score` says first that scores
can be compared: a text has few labels of each category, and finite weights that are not below zero
add up to no NaN.

`find_of_readable` and `find_of_failsWith` say what becomes of a search. If all documents can be
read, ranking picks from them (`rank_eq_map_get`). If anything fails, there are no references, also
when some of the documents were read before: `exists_failsWith` finds the first of the ones that
cannot be read. `find_stable_top` is the main statement.
-/

set_option autoImplicit false

namespace FlowDraft

open Model Sorting

/-! ### Scores are numbers -/

/-- All weights are finite numbers that are not below zero. -/
def Weights.IsUsable (w : Weights Float) : Prop :=
  ∀ weight ∈ [w.industry, w.domain, w.channel, w.trigger], 0 ≤ weight ∧ weight.isFinite = true

instance (w : Weights Float) : Decidable w.IsUsable :=
  inferInstanceAs (Decidable (∀ weight ∈ [w.industry, w.domain, w.channel, w.trigger], _))

/-- A text has at most as many labels of a category as the table of the category. -/
theorem Label.length_matching_le (table : KeywordTable) (lowered : List Char) :
    (matching table lowered).toList.length ≤ table.length := by
  have hsub : (matching table lowered).toList.Subperm (table.map (·.1)) :=
    List.subperm_of_subset (LabelSet.nodup _) fun _ h => mem_of_mem_matching h
  simpa using hsub.length_le

namespace Example

/-- What a few labels of a category weigh is a number that is not below zero. -/
theorem zero_le_count_mul {n : Nat} (hn : n ≤ 9) {weight : Float}
    (h : 0 ≤ weight ∧ weight.isFinite = true) : 0 ≤ Float.ofNat n * weight := by
  have hcount : ∀ n ≤ 9, 0 ≤ Float.ofNat n ∧ (Float.ofNat n).isFinite = true := by decide
  exact Binary64.zero_le_mul (hcount n hn).1 h.1 (hcount n hn).2 h.2

/-- Scores are never below zero, and never NaN. -/
theorem zero_le_score {w : Weights Float} (h : w.IsUsable) (query : String) (e : Example) :
    0 ≤ score Float.ofNat w (classify query) e := by
  have hshared : ∀ (table : Label.KeywordTable) (lowered : List Char) (labels : LabelSet),
      table.length ≤ 9 → (Label.matching table lowered).shared labels ≤ 9 :=
    fun table lowered labels htable => (List.length_filter_le _ _).trans
      ((Label.length_matching_le table lowered).trans htable)
  have hzero : (0 : Float) ≤ 0 := by decide
  rw [score]
  cases e.profile with
  | none => exact hzero
  | some p =>
    -- A score adds up what the labels of each category weigh, and the weight of the trigger.
    have hindustry := zero_le_count_mul (hshared Label.industryKeywords
      (Text.lowerChars query.toList) p.industries (by decide)) (h w.industry (by simp))
    have hdomain := zero_le_count_mul (hshared Label.domainKeywords
      (Text.lowerChars query.toList) p.domains (by decide)) (h w.domain (by simp))
    have hchannel := zero_le_count_mul (hshared Label.channelKeywords
      (Text.lowerChars query.toList) p.channels (by decide)) (h w.channel (by simp))
    have hlabels := Binary64.zero_le_add
      (Binary64.zero_le_add (Binary64.zero_le_add hzero hindustry) hdomain) hchannel
    simp only [Profile.overlap]
    split
    · exact Binary64.zero_le_add hlabels (h w.trigger (by simp)).1
    · exact hlabels

/-- Ranking keeps the examples at the places that go first by their scores. -/
theorem rank_eq_map_get {w : Weights Float} (h : w.IsUsable) (query : String) (k : Nat)
    (examples : List Example) :
    ∃ places, TopPlaces floatLe (score Float.ofNat w (classify query)) examples k places ∧
      rank w query k examples = places.map examples.get := by
  rw [rank, rankBy, Slice.before_ofNat]
  exact take_sortFalling _ Binary64.floatLe_trans Binary64.floatLe_total
    (fun e _ => decide_eq_true (Binary64.le_self_of_zero_le (zero_le_score h query e))) k

end Example

/-! ### What a search comes to -/

namespace Source

/-- Either all documents that were found can be read, or some are read before one that cannot. -/
theorem hits_cases (hits : List Hit) :
    (∃ documents : List Document, hits = documents.map .ok) ∨
      ∃ (documents : List Document) (fault : Fault) (later : List Hit),
        hits = documents.map .ok ++ .error fault :: later := by
  induction hits with
  | nil => exact .inl ⟨[], rfl⟩
  | cons hit hits ih =>
    cases hit with
    | error fault => exact .inr ⟨[], fault, hits, rfl⟩
    | ok document =>
      rcases ih with ⟨documents, rfl⟩ | ⟨documents, fault, later, rfl⟩
      · exact .inl ⟨document :: documents, rfl⟩
      · exact .inr ⟨document :: documents, fault, later, rfl⟩

/-- A source that gives a document which cannot be read fails, wherever the document stands. -/
theorem exists_failsWith {source : Source} {query : String} {count : Int} {hits : List Hit}
    {fault : Fault} (havailable : source.unavailable = none)
    (h : source.search query count = .ok hits) (hfault : .error fault ∈ hits) :
    ∃ first, source.FailsWith query count first := by
  rcases hits_cases hits with ⟨documents, rfl⟩ | ⟨documents, first, later, rfl⟩
  · obtain ⟨document, -, hread⟩ := List.mem_map.1 hfault
    cases hread
  · exact ⟨first, .unreadable havailable h⟩

end Source

namespace Retrieval

/-- Documents that can be read are all read. -/
theorem mapM_hits_readable (documents : List Document) :
    (documents.map .ok : List Hit).mapM (fun hit => hit.map Example.ofDocument)
      = .ok (documents.map Example.ofDocument) := by
  induction documents with
  | nil => rfl
  | cons document documents ih =>
    rw [List.map_cons, List.mapM_cons, ih]
    rfl

section
variable (options : RetrievalOptions) {source : Source} {query : String} (topK : Option Int)

/-- Where all documents can be read, the references are the best of them. -/
theorem find_of_readable {documents : List Document} (havailable : source.unavailable = none)
    (h : source.search query (wanted options topK * options.oversampling)
      = .ok (documents.map .ok)) :
    find options source query topK
      = ⟨Example.rank options.weights query (wanted options topK)
            (documents.map Example.ofDocument),
          [.sought (wanted options topK * options.oversampling)]⟩ := by
  have hread : candidates source query (wanted options topK * options.oversampling)
      = .ok (documents.map Example.ofDocument) := by
    rw [candidates, h]
    exact mapM_hits_readable documents
  simp only [find, havailable, hread]

/-- A source that is available is searched once, and one that is not is not searched. -/
theorem searches_find (source : Source) (query : String) :
    Event.searches (find options source query topK).events
      = if source.unavailable.isSome then []
        else [wanted options topK * options.oversampling] := by
  rw [find]
  cases source.unavailable with
  | some fault => rfl
  | none =>
    cases candidates source query (wanted options topK * options.oversampling) with
    | error fault => rfl
    | ok examples => rfl

/-- As many references are wanted as are asked for, or else the usual number of them. -/
theorem wanted_pos (h : ∀ k, topK = some k → 1 ≤ k) :
    (∀ k, topK = some k → wanted options topK = k) ∧
      (topK = none → wanted options topK = options.topK) ∧ 1 ≤ wanted options topK := by
  cases topK with
  | none => exact ⟨nofun, fun _ => rfl, Int.ofNat_le.2 options.topK.2⟩
  | some k =>
    have hk : 1 ≤ k := h k rfl
    have hwanted : wanted options (some k) = k := if_neg (by omega)
    rw [hwanted]
    exact ⟨fun _ h => Option.some.inj h, nofun, hk⟩

end

/-- **The references are the best of more documents than are wanted.** A source that is there is
searched once, for the number of references that are wanted, times the factor. If all documents that
it gives can be read, the references are the ones of the highest scores among them: each comes from
another document, equal scores keep the order of the documents, and no document that is left out
should have gone before one that is kept. If no more documents are found than wanted, they are all
kept. If anything fails, be it any one of the documents, there are no references at all. -/
theorem find_stable_top (options : RetrievalOptions) (hweights : options.weights.IsUsable)
    (source : Source) (query : String) (topK : Option Int) (htop : ∀ k, topK = some k → 1 ≤ k) :
    let k := wanted options topK
    let count := k * options.oversampling
    let found := find options source query topK
    let score := Example.score Float.ofNat options.weights (classify query)
    (∀ n, topK = some n → k = n) ∧ (topK = none → k = options.topK) ∧ 1 ≤ k ∧
    (source.unavailable = none → Event.searches found.events = [count]) ∧
    (∀ documents : List Document, source.unavailable = none →
      source.search query count = .ok (documents.map .ok) →
      let read := documents.map Example.ofDocument
      (∃ places, TopPlaces Example.floatLe score read k.toNat places ∧
        found.examples = places.map read.get) ∧
      (found.examples.length : Int) ≤ k ∧
      ((documents.length : Int) ≤ k → found.examples.Perm read)) ∧
    (source.unavailable ≠ none → found.examples = []) ∧
    (∀ fault, source.search query count = .error fault → found.examples = []) ∧
    (∀ hits fault, source.search query count = .ok hits → .error fault ∈ hits →
      found.examples = []) := by
  intro k count found score
  obtain ⟨hgiven, husual, hpos⟩ := wanted_pos options topK htop
  have hfails : ∀ fault, source.FailsWith query count fault → found.examples = [] :=
    fun fault h => congrArg Found.examples (find_of_failsWith options topK h)
  refine ⟨hgiven, husual, hpos, fun havailable => ?_, ?_, fun h => ?_, fun fault h => ?_,
    fun hits fault h hfault => ?_⟩
  · rw [searches_find, havailable]
    rfl
  · intro documents havailable hsearch read
    have hfound : found.examples = Example.rank options.weights query (k.toNat : Int) read := by
      rw [Int.toNat_of_nonneg (Int.le_trans (by decide) hpos)]
      exact congrArg Found.examples (find_of_readable options topK havailable hsearch)
    obtain ⟨places, htop, hranked⟩ := Example.rank_eq_map_get hweights query k.toNat read
    have hlength : found.examples.length = min k.toNat read.length := by
      rw [hfound, hranked, List.length_map, htop.length]
    refine ⟨⟨places, htop, hfound.trans hranked⟩, ?_, fun hall => ?_⟩
    · omega
    · have hread : read.length = documents.length := List.length_map _
      rw [hfound, hranked]
      refine perm_map_get htop.nodup ?_
      rw [htop.length]
      omega
  · obtain ⟨fault, hfault⟩ := Option.ne_none_iff_exists'.1 h
    exact hfails fault (.unavailable hfault)
  · cases havailable : source.unavailable with
    | some other => exact hfails other (.unavailable havailable)
    | none => exact hfails fault (.search havailable h)
  · cases havailable : source.unavailable with
    | some other => exact hfails other (.unavailable havailable)
    | none =>
      obtain ⟨first, hfirst⟩ := Source.exists_failsWith havailable h hfault
      exact hfails first hfirst

/-- A document that was found first, and one that was found for chats. -/
def chatDocuments : List Document :=
  [⟨"Mail a report", []⟩,
   ⟨"Post a report", [("metadata", .obj [("channels", .ofTexts ["slack"])])]⟩]

/-- Of the two documents, the one that shares a channel with the request is the reference. With a
document that cannot be read, there is none. -/
theorem find_stable_top_of_chat :
    let source : Source := { search := fun _ _ => .ok (chatDocuments.map .ok) }
    let options : RetrievalOptions := {}
    options.weights.IsUsable ∧
    Event.searches (find options source "Slack" (some 1)).events = [3] ∧
    (find options source "Slack" (some 1)).examples
      = (chatDocuments.drop 1).map Example.ofDocument ∧
    (find options tornSource "Slack" (some 1)).examples = [] := by
  intro source options
  have hweights : options.weights.IsUsable := by decide
  have htop : ∀ k, some (1 : Int) = some k → 1 ≤ k := by
    rintro k ⟨⟩
    decide
  obtain ⟨-, -, -, hsearches, hreadable, -⟩ :=
    find_stable_top options hweights source "Slack" (some 1) htop
  obtain ⟨⟨places, hplaces, hfound⟩, -⟩ := hreadable chatDocuments rfl rfl
  obtain ⟨-, -, -, -, -, -, -, hunreadable⟩ :=
    find_stable_top options hweights tornSource "Slack" (some 1) htop
  refine ⟨hweights, hsearches rfl, hfound.trans ?_,
    hunreadable _ ⟨.value, "malformed payload", []⟩ rfl (by simp)⟩
  obtain ⟨place, rfl⟩ := List.length_eq_one_iff.1 (hplaces.length.trans rfl)
  -- If the first document were kept, its score would have to be at least that of the second one.
  have hsecond : place = ⟨1, by decide⟩ := by
    by_contra hne
    have hbest := (hplaces.best place List.mem_cons_self ⟨1, by decide⟩
      (by simpa using Ne.symm hne)).1
    have hfirst : place = ⟨0, by decide⟩ := by
      rcases place with ⟨_ | _ | n, hlt⟩
      · rfl
      · exact absurd rfl hne
      · exact absurd hlt (by simp [chatDocuments])
    rw [hfirst] at hbest
    revert hbest
    decide +kernel
  rw [hsecond]
  rfl

end Retrieval

end FlowDraft
