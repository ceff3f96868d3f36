import FlowDraft.Example.Document
import FlowDraft.Slice
import FlowDraft.Sorting

/-!
# `FlowDraft.Example.Rank`: ranking examples by what they share with a request

The score of an example weighs the labels that its profile shares with the profile of the request.
Ranking puts higher scores first and keeps the order of examples with equal scores. Scores may be
of any kind of number: the program takes binary64 numbers, and laws are stated for exact ones.

`score` and `rank` are those of `MetadataOverlapReranker`.
-/

set_option autoImplicit false

namespace FlowDraft

/-- What a shared label of each category counts. -/
structure Weights (α : Type) where
  industry : α
  domain : α
  channel : α
  trigger : α

namespace Weights

/-- The weights that are taken when none are given. -/
def standard : Weights Float := ⟨3.0, 2.0, 1.5, 1.0⟩

end Weights

namespace Profile

/-- Both profiles have a trigger, and the triggers agree in small letters. -/
def sameTrigger (a b : Profile) : Bool :=
  match a.trigger?, b.trigger? with
  | some s, some t => Text.lower s == Text.lower t
  | _, _ => false

/-- The weighted number of labels that two profiles share. -/
def overlap {α : Type} [OfNat α 0] [Add α] [Mul α] (count : Nat → α) (w : Weights α)
    (a b : Profile) : α :=
  let shared := 0 + count (a.industries.shared b.industries) * w.industry +
    count (a.domains.shared b.domains) * w.domain +
    count (a.channels.shared b.channels) * w.channel
  if a.sameTrigger b then shared + w.trigger else shared

end Profile

namespace Example

/-- The score of an example for a request with the profile `query`. An example without a profile
scores nothing. -/
def score {α : Type} [OfNat α 0] [Add α] [Mul α] (count : Nat → α) (w : Weights α)
    (query : Profile) (e : Example) : α :=
  match e.profile with
  | none => 0
  | some p => query.overlap count w p

end Example

namespace Example

/-- The examples before position `k` when those with higher scores come first. -/
def rankBy {α : Type} [OfNat α 0] [Add α] [Mul α] (count : Nat → α) (le : α → α → Bool)
    (w : Weights α) (query : Profile) (k : Int) (examples : List Example) : List Example :=
  Slice.before k (sortFalling le (score count w query) examples)

/-- The comparison of binary64 numbers. -/
def floatLe (a b : Float) : Bool := a ≤ b

/-- The examples that fit a request best. -/
def rank (w : Weights Float) (request : String) (k : Int) (examples : List Example) :
    List Example :=
  rankBy Float.ofNat floatLe w (classify request) k examples

end Example

end FlowDraft
