import FlowDraft.Example.Rank
import FlowDraft.Proofs.Sorting.Stable
import Mathlib.Algebra.Order.Ring.Rat
import Mathlib.Data.Finset.Card

/-!
# `FlowDraft.Proofs.Example.Rank`: ranking by exact scores

The laws of ranking are stated for scores that are exact numbers: `exactScore` and `exactRank` are
`score` and `rankBy` with rational weights. `exactScore_eq` says what the score of an example with a
profile counts, and `exactRank_eq_map_get` which examples a ranking keeps and in which order.
`exactRank_stable_top` is the main result.
-/

set_option autoImplicit false

namespace FlowDraft

/-! ### What profiles share -/

namespace LabelSet

/-- The members of a set stand in it once. -/
theorem nodup (s : LabelSet) : s.toList.Nodup := by
  refine s.increasing.imp fun hlt => ?_
  rintro rfl
  exact String.lt_irrefl _ hlt

/-- The number of shared labels is the size of the intersection. -/
theorem shared_eq_card (a b : LabelSet) :
    a.shared b = (a.toList.toFinset ∩ b.toList.toFinset).card := by
  have hfilter : (a.toList.filter b.contains).Nodup := a.nodup.filter _
  have hset : (a.toList.filter b.contains).toFinset = a.toList.toFinset ∩ b.toList.toFinset := by
    ext label
    simp [contains]
  rw [shared, ← List.toFinset_card_of_nodup hfilter, hset]

/-- What the labels that two sets share weigh, at `weight` for each of them. -/
def sharedWeight (weight : ℚ) (a b : LabelSet) : ℚ :=
  (a.toList.toFinset ∩ b.toList.toFinset).card * weight

/-- A set shares all its labels with itself. -/
theorem shared_self (a : LabelSet) : a.shared a = a.toList.length := by
  have hall : a.toList.filter a.contains = a.toList :=
    List.filter_eq_self.2 fun label hlabel => List.contains_iff_mem.2 hlabel
  rw [shared, hall]

/-- A set shares no more labels with another one than it has. -/
theorem shared_le_self (a b : LabelSet) : a.shared b ≤ a.shared a := by
  rw [shared_self, shared]
  exact List.length_filter_le _ _

end LabelSet

namespace Profile

/-- Both profiles have a trigger that is not empty, and the triggers are equal in small letters. -/
def TriggersAgree (a b : Profile) : Prop :=
  ∃ s t, a.trigger = some s ∧ b.trigger = some t ∧ s ≠ "" ∧ t ≠ "" ∧ Text.lower s = Text.lower t

theorem trigger?_eq_some_iff {p : Profile} {t : String} :
    p.trigger? = some t ↔ p.trigger = some t ∧ t ≠ "" := by
  rw [trigger?, Option.filter_eq_some_iff]
  simp

theorem sameTrigger_iff {a b : Profile} : a.sameTrigger b = true ↔ a.TriggersAgree b := by
  rw [sameTrigger]
  constructor
  · intro h
    split at h
    · next s t hs ht =>
      obtain ⟨hs, hsne⟩ := trigger?_eq_some_iff.1 hs
      obtain ⟨ht, htne⟩ := trigger?_eq_some_iff.1 ht
      exact ⟨s, t, hs, ht, hsne, htne, by simpa using h⟩
    · exact absurd h Bool.false_ne_true
  · rintro ⟨s, t, hs, ht, hsne, htne, hlower⟩
    rw [trigger?_eq_some_iff.2 ⟨hs, hsne⟩, trigger?_eq_some_iff.2 ⟨ht, htne⟩]
    simpa using hlower

end Profile

namespace Example

/-! ### Exact scores -/

/-- The comparison of exact numbers. -/
def exactLe (a b : ℚ) : Bool :=
  decide (a ≤ b)

/-- The score of an example for a request, as an exact number. -/
def exactScore (w : Weights ℚ) (request : String) (e : Example) : ℚ :=
  score Nat.cast w (classify request) e

/-- The examples that fit a request best by exact scores. -/
def exactRank (w : Weights ℚ) (request : String) (k : Int) (examples : List Example) :
    List Example :=
  rankBy Nat.cast exactLe w (classify request) k examples

theorem exactLe_iff {a b : ℚ} : exactLe a b = true ↔ a ≤ b :=
  decide_eq_true_iff

theorem exactLe_trans (a b c : ℚ) (hab : exactLe a b = true) (hbc : exactLe b c = true) :
    exactLe a c = true :=
  exactLe_iff.2 (le_trans (exactLe_iff.1 hab) (exactLe_iff.1 hbc))

theorem exactLe_self (a : ℚ) : exactLe a a = true :=
  exactLe_iff.2 le_rfl

theorem exactLe_total (a b : ℚ) : (exactLe a b || exactLe b a) = true := by
  rw [Bool.or_eq_true, exactLe_iff, exactLe_iff]
  exact le_total a b

/-- An example without a profile scores nothing. -/
theorem exactScore_of_none (w : Weights ℚ) (request : String) {e : Example}
    (h : e.profile = none) : exactScore w request e = 0 := by
  rw [exactScore, score, h]

/-- The weighted number of labels that two profiles share in the three categories. -/
def sharedWeight (w : Weights ℚ) (a b : Profile) : ℚ :=
  LabelSet.sharedWeight w.industry a.industries b.industries +
    LabelSet.sharedWeight w.domain a.domains b.domains +
    LabelSet.sharedWeight w.channel a.channels b.channels

/-- The score of an example with a profile: what its labels weigh, and the weight of the trigger if
the triggers agree. -/
theorem exactScore_eq (w : Weights ℚ) (request : String) {e : Example} {p : Profile}
    (h : e.profile = some p) :
    ((classify request).TriggersAgree p →
        exactScore w request e = sharedWeight w (classify request) p + w.trigger) ∧
      (¬ (classify request).TriggersAgree p →
        exactScore w request e = sharedWeight w (classify request) p) := by
  have hscore : exactScore w request e
      = if (classify request).sameTrigger p then
          sharedWeight w (classify request) p + w.trigger
        else sharedWeight w (classify request) p := by
    rw [exactScore, score, h]
    simp only [Profile.overlap, sharedWeight, LabelSet.sharedWeight, LabelSet.shared_eq_card,
      zero_add]
  constructor
  · intro hagree
    rw [hscore, if_pos (Profile.sameTrigger_iff.2 hagree)]
  · intro hagree
    rw [hscore, if_neg fun hsame => hagree (Profile.sameTrigger_iff.1 hsame)]

/-! ### Exact ranking -/

section
variable (w : Weights ℚ) (request : String)

theorem exactRank_eq_take (k : Nat) (examples : List Example) :
    exactRank w request k examples
      = (sortFalling exactLe (exactScore w request) examples).take k :=
  Slice.before_ofNat k _

/-- A ranking that leaves nothing out loses and invents nothing. -/
theorem exactRank_length_perm (examples : List Example) :
    (exactRank w request examples.length examples).Perm examples := by
  have hperm := sortFalling_perm exactLe (exactScore w request) examples
  rw [exactRank_eq_take, ← hperm.length_eq, List.take_length]
  exact hperm

/-- A ranking keeps the examples at the places that go first by their scores. -/
theorem take_exactRank (k : Nat) (examples : List Example) :
    ∃ places, Sorting.TopPlaces exactLe (exactScore w request) examples k places ∧
      exactRank w request k examples = places.map examples.get := by
  rw [exactRank_eq_take]
  exact take_sortFalling (exactScore w request) exactLe_trans (fun a b _ _ => exactLe_total a b)
    (fun _ _ => exactLe_self _) k

/-- Scores never rise along a ranking. -/
theorem pairwise_exactRank (k : Nat) (examples : List Example) :
    (exactRank w request k examples).Pairwise fun a b =>
      exactScore w request b ≤ exactScore w request a := by
  obtain ⟨places, htop, hranked⟩ := take_exactRank w request k examples
  rw [hranked]
  exact List.pairwise_map.2 (htop.ordered.imp fun h => exactLe_iff.1 h.1)

/-- Which examples a ranking keeps, and in which order: those at places of the list, every place at
most once, so that scores never rise, equal scores keep their order, and no place that is left out
should have gone before one that is kept. -/
theorem exactRank_eq_map_get (k : Nat) (examples : List Example) :
    let score := fun i : Fin examples.length => exactScore w request examples[i]
    ∃ places : List (Fin examples.length), places.Nodup ∧
      exactRank w request k examples = places.map examples.get ∧
      places.Pairwise (fun i j => score j ≤ score i) ∧
      places.Pairwise (fun i j => score i = score j → i < j) ∧
      ∀ i ∈ places, ∀ j, j ∉ places → score j ≤ score i ∧ (score j = score i → i < j) := by
  intro score
  obtain ⟨places, htop, hranked⟩ := take_exactRank w request k examples
  refine ⟨places, htop.nodup, hranked, ?_, ?_, ?_⟩
  · exact htop.ordered.imp fun h => exactLe_iff.1 h.1
  · exact htop.ordered.imp fun h heq => h.2 (exactLe_iff.2 (le_of_eq heq))
  · intro i hi j hj
    obtain ⟨hle, hlt⟩ := htop.best i hi j hj
    exact ⟨exactLe_iff.1 hle, fun heq => hlt (exactLe_iff.2 (le_of_eq heq.symm))⟩

/-- A ranking that is ranked again stays as it is, as long as nothing is cut off. -/
theorem exactRank_exactRank {j k : Nat} {examples : List Example}
    (h : (exactRank w request k examples).length ≤ j) :
    exactRank w request j (exactRank w request k examples) = exactRank w request k examples := by
  have hsorted := (pairwise_exactRank w request k examples).imp fun hle => exactLe_iff.2 hle
  rw [exactRank_eq_take w request j,
    sortFalling_of_pairwise _ (fun _ _ => exactLe_self _) hsorted, List.take_of_length_le h]

end

/-- **Ranking is the stable choice of the best examples.** The first `k` examples are those at
places of the list, every place at most once, with scores that never rise and equal scores in the
order of the list, and no place that is left out should have gone before one that is kept. So a
shorter ranking starts a longer one, and a ranking that is ranked again stays as it is. An example
without a profile scores nothing. One with a profile scores the weights of the labels that it shares
with the request, and the weight of the trigger where the triggers agree. -/
theorem exactRank_stable_top (w : Weights ℚ) (request : String) (examples : List Example)
    (k : Nat) :
    let score := exactScore w request
    let ranked := exactRank w request k examples
    ranked.length = min k examples.length ∧
      (∃ places : List (Fin examples.length), places.Nodup ∧ ranked = places.map examples.get ∧
        places.Pairwise (fun i j => score examples[j] ≤ score examples[i]) ∧
        places.Pairwise (fun i j => score examples[i] = score examples[j] → i < j) ∧
        ∀ i ∈ places, ∀ j, j ∉ places →
          score examples[j] ≤ score examples[i] ∧
            (score examples[j] = score examples[i] → i < j)) ∧
      (∀ j ≤ k, exactRank w request j examples <+: ranked) ∧
      (∀ j, ranked.length ≤ j → exactRank w request j ranked = ranked) ∧
      (∀ e : Example, e.profile = none → score e = 0) ∧
      ∀ (e : Example) (p : Profile), e.profile = some p →
        ((classify request).TriggersAgree p →
            score e = sharedWeight w (classify request) p + w.trigger) ∧
          (¬ (classify request).TriggersAgree p →
            score e = sharedWeight w (classify request) p) := by
  intro score ranked
  refine ⟨?_, exactRank_eq_map_get w request k examples, ?_, ?_, ?_, ?_⟩
  · have hlength := (sortFalling_perm exactLe score examples).length_eq
    show (exactRank w request k examples).length = _
    rw [exactRank_eq_take, List.length_take, hlength]
  · intro j hj
    show exactRank w request j examples <+: exactRank w request k examples
    rw [exactRank_eq_take, exactRank_eq_take]
    exact List.take_prefix_take_left hj
  · intro j hj
    exact exactRank_exactRank w request hj
  · intro e hnone
    show exactScore w request e = 0
    rw [exactScore, Example.score, hnone]
  · intro e p hprofile
    exact exactScore_eq w request hprofile

end Example

end FlowDraft
