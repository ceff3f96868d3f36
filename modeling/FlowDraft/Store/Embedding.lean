import FlowDraft.Store.Digest
import FlowDraft.Text.Blank
import FlowDraft.Text.Lower

/-!
# `FlowDraft.Store.Embedding`: texts as vectors

A text is embedded by its words in small letters. Each word has a place in the vector and a sign,
both read off its hash, and adds its sign at its place. The vector of the sums is then scaled to
length one, unless all sums cancel out.

`embed` is `HashingEmbedder.embed`, and `similarity` is `_cosine_similarity`.
-/

set_option autoImplicit false

namespace FlowDraft.Store

/-- The place of a word before it is brought into range, and whether it counts negatively. -/
structure WordHash where
  place : Nat
  negative : Bool

/-- The hash of a word: the place is the first four bytes of its digest, the sign the lowest bit of
the fifth. -/
def hashWord (word : List Char) : WordHash :=
  let d := (Digest.ofChars word).toNat
  ⟨d % 4294967296, (d >>> 32) % 2 == 1⟩

/-- Why a text is not embedded. -/
inductive EmbedError where
  /-- A vector without places has no place for a word. -/
  | noPlaces
  /-- A negative number of places is no size. -/
  | negativeSize
deriving Repr, DecidableEq

namespace Embedding

/-- The words that count: those of the text in small letters. -/
def bag (text : String) : List (List Char) :=
  Text.words (Text.lowerChars text.toList)

/-- One word added to the sums. -/
def addWord (hash : List Char → WordHash) (size : Nat) (sums : Array Int) (word : List Char) :
    Array Int :=
  let h := hash word
  sums.modify (h.place % size) (· + if h.negative then -1 else 1)

/-- The sums of the signs at each of `size` places. -/
def sums (hash : List Char → WordHash) (size : Nat) (bag : List (List Char)) : Array Int :=
  bag.foldl (addWord hash size) (Array.replicate size 0)

/-- The sum of numbers from left to right. -/
def total (xs : List Float) : Float :=
  xs.foldl (· + ·) 0.0

/-- The length of a vector. -/
def norm (xs : List Float) : Float :=
  (total (xs.map fun x => x * x)).sqrt

/-- A vector scaled to length one. A vector of length zero is left as it is. -/
def scale (xs : List Float) : List Float :=
  let n := norm xs
  if n == 0.0 then xs else xs.map (· / n)

/-- The vector of a text. -/
def vector (hash : List Char → WordHash) (size : Nat) (text : String) : List Float :=
  scale ((sums hash size (bag text)).toList.map Float.ofInt)

/-- The vector of a text for a size that may be none: only a text without words has one then. -/
def embed (size : Int) (text : String) : Except EmbedError (List Float) :=
  if 0 < size then .ok (vector hashWord size.toNat text)
  else if (bag text).isEmpty then .ok []
  else if size = 0 then .error .noPlaces
  else .error .negativeSize

/-- How alike two vectors are: the cosine of the angle between them. Vectors of different sizes
and vectors of length zero are not alike at all. -/
def similarity (a b : List Float) : Float :=
  if a.isEmpty || b.isEmpty || a.length != b.length then 0.0
  else
    let product := total (List.zipWith (· * ·) a b)
    let lengthA := norm a
    let lengthB := norm b
    if lengthA == 0.0 || lengthB == 0.0 then 0.0 else product / (lengthA * lengthB)

end Embedding

end FlowDraft.Store
