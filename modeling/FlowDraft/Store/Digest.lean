/-!
# `FlowDraft.Store.Digest`: the hash of a word

Words are hashed with BLAKE2b, without a key and with a digest of eight bytes. The digest is the
first word of the state, so it is kept as one number, whose lowest byte is the first of the digest.

It is the hash that `HashingEmbedder.embed` takes of a word.
-/

set_option autoImplicit false

namespace FlowDraft.Store.Digest

/-- The sixteen words that a round mixes. -/
abbrev Work := Vector UInt64 16

/-- The words that the state starts from. -/
def iv : Vector UInt64 8 :=
  #v[0x6a09e667f3bcc908, 0xbb67ae8584caa73b, 0x3c6ef372fe94f82b, 0xa54ff53a5f1d36f1,
     0x510e527fade682d1, 0x9b05688c2b3e6c1f, 0x1f83d9abfb41bd6b, 0x5be0cd19137e2179]

/-- The order in which each of ten rounds takes the words of a block. -/
def schedule : List (Vector (Fin 16) 16) :=
  [#v[0, 1, 2, 3, 4, 5, 6, 7, 8, 9, 10, 11, 12, 13, 14, 15],
   #v[14, 10, 4, 8, 9, 15, 13, 6, 1, 12, 0, 2, 11, 7, 5, 3],
   #v[11, 8, 12, 0, 5, 2, 15, 13, 10, 14, 3, 6, 7, 1, 9, 4],
   #v[7, 9, 3, 1, 13, 12, 11, 14, 2, 6, 5, 10, 4, 0, 15, 8],
   #v[9, 0, 5, 7, 2, 4, 10, 15, 14, 1, 11, 12, 6, 8, 3, 13],
   #v[2, 12, 6, 10, 0, 11, 8, 3, 4, 13, 7, 5, 15, 14, 1, 9],
   #v[12, 5, 1, 15, 14, 13, 4, 10, 0, 7, 6, 3, 9, 2, 8, 11],
   #v[13, 11, 7, 14, 12, 1, 3, 9, 5, 0, 15, 4, 8, 6, 2, 10],
   #v[6, 15, 14, 9, 11, 3, 0, 8, 12, 2, 13, 7, 1, 4, 10, 5],
   #v[10, 2, 8, 4, 7, 6, 1, 5, 15, 11, 9, 14, 3, 12, 13, 0]]

/-- There are twelve rounds: the first two orders come again at the end. -/
def rounds : List (Vector (Fin 16) 16) :=
  schedule ++ schedule.take 2

/-- A word turned to the right. -/
def rotateRight (x : UInt64) (n : UInt64) : UInt64 :=
  (x >>> n) ||| (x <<< (64 - n))

/-- Four words mixed with two words of the block. -/
def mix (v : Work) (a b c d : Fin 16) (x y : UInt64) : Work :=
  let v := v.set a (v[a] + v[b] + x)
  let v := v.set d (rotateRight (v[d] ^^^ v[a]) 32)
  let v := v.set c (v[c] + v[d])
  let v := v.set b (rotateRight (v[b] ^^^ v[c]) 24)
  let v := v.set a (v[a] + v[b] + y)
  let v := v.set d (rotateRight (v[d] ^^^ v[a]) 16)
  let v := v.set c (v[c] + v[d])
  v.set b (rotateRight (v[b] ^^^ v[c]) 63)

/-- One round: the columns are mixed, then the diagonals. -/
def round (m : Work) (v : Work) (s : Vector (Fin 16) 16) : Work :=
  let v := mix v 0 4 8 12 m[s[0]] m[s[1]]
  let v := mix v 1 5 9 13 m[s[2]] m[s[3]]
  let v := mix v 2 6 10 14 m[s[4]] m[s[5]]
  let v := mix v 3 7 11 15 m[s[6]] m[s[7]]
  let v := mix v 0 5 10 15 m[s[8]] m[s[9]]
  let v := mix v 1 6 11 12 m[s[10]] m[s[11]]
  let v := mix v 2 7 8 13 m[s[12]] m[s[13]]
  mix v 3 4 9 14 m[s[14]] m[s[15]]

/-- The state after a block. `count` is the number of bytes up to its end, and `last` says whether
it is the last block. -/
def compress (h : Vector UInt64 8) (m : Work) (count : Nat) (last : Bool) : Vector UInt64 8 :=
  let v : Work := (h ++ iv).cast rfl
  let v := v.set 12 (v[12] ^^^ count.toUInt64)
  let v := if last then v.set 14 (~~~v[14]) else v
  let v := rounds.foldl (round m) v
  Vector.ofFn fun i => h[i] ^^^ v[i.val] ^^^ v[i.val + 8]

/-- Eight bytes as a word, the first byte lowest. -/
def word (bytes : List UInt8) : UInt64 :=
  bytes.foldr (fun b w => (w <<< 8) ||| b.toUInt64) 0

/-- The words of a block of at most 128 bytes. Missing bytes are zero. -/
def blockWords (bytes : List UInt8) : Work :=
  Vector.ofFn fun i => word ((bytes.drop (8 * i.val)).take 8)

/-- The state after the blocks of a text, of which `count` bytes have been taken. There is always
a last block, and it is empty only for the empty text. -/
def absorb (h : Vector UInt64 8) (count : Nat) (bytes : List UInt8) : Vector UInt64 8 :=
  if bytes.length ≤ 128 then compress h (blockWords bytes) (count + bytes.length) true
  else
    absorb (compress h (blockWords (bytes.take 128)) (count + 128) false) (count + 128)
      (bytes.drop 128)
termination_by bytes.length
decreasing_by simp; omega

/-- The state that a text starts from: eight bytes of digest, no key, one text. -/
def start : Vector UInt64 8 :=
  iv.set 0 (iv[0] ^^^ 0x01010008)

/-- The digest of some bytes. -/
def ofBytes (bytes : List UInt8) : UInt64 :=
  (absorb start 0 bytes)[0]

/-- The digest of a word. -/
def ofChars (cs : List Char) : UInt64 :=
  ofBytes (String.ofList cs).toUTF8.toList

end FlowDraft.Store.Digest
