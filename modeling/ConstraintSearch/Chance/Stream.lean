/-!
A reproducible stream of 32-bit words: the ChaCha block function with four double rounds, keyed
by a 64-bit seed.
-/

namespace ConstraintSearch.Chance

abbrev Block := Vector UInt32 16

def rotateLeft (x n : UInt32) : UInt32 := x <<< n ||| x >>> (32 - n)

def quarterRound (a b c d : Fin 16) (s : Block) : Block :=
  let s := s.set a (s[a] + s[b])
  let s := s.set d (rotateLeft (s[d] ^^^ s[a]) 16)
  let s := s.set c (s[c] + s[d])
  let s := s.set b (rotateLeft (s[b] ^^^ s[c]) 12)
  let s := s.set a (s[a] + s[b])
  let s := s.set d (rotateLeft (s[d] ^^^ s[a]) 8)
  let s := s.set c (s[c] + s[d])
  s.set b (rotateLeft (s[b] ^^^ s[c]) 7)

/-- The four columns, then the four diagonals. -/
def doubleRound (s : Block) : Block :=
  let s := quarterRound 0 4 8 12 s
  let s := quarterRound 1 5 9 13 s
  let s := quarterRound 2 6 10 14 s
  let s := quarterRound 3 7 11 15 s
  let s := quarterRound 0 5 10 15 s
  let s := quarterRound 1 6 11 12 s
  let s := quarterRound 2 7 8 13 s
  quarterRound 3 4 9 14 s

/-- The words of one block: constants, key, a 64-bit block number and a zero nonce, mixed and
added to themselves. -/
def keyBlock (key : Vector UInt32 8) (number : UInt64) : Block :=
  let start : Block := #v[0x61707865, 0x3320646e, 0x79622d32, 0x6b206574,
    key[0], key[1], key[2], key[3], key[4], key[5], key[6], key[7],
    number.toUInt32, (number >>> 32).toUInt32, 0, 0]
  let mixed := doubleRound (doubleRound (doubleRound (doubleRound start)))
  start.zipWith (· + ·) mixed

def expandSeed (state : UInt64) : UInt64 × UInt32 :=
  let state := state * 6364136223846793005 + 11634580027462260723
  let word := (((state >>> 18) ^^^ state) >>> 27).toUInt32
  let turn := (state >>> 59).toUInt32
  (state, word >>> turn ||| word <<< ((32 - turn) % 32))

def keyWords : (count : Nat) → (state : UInt64) → List UInt32
  | 0, _ => []
  | count + 1, state =>
    let (state, word) := expandSeed state
    word :: keyWords count state

/-- A generator: the key, the number of the next block, and the words of the last block that
have not been drawn. -/
structure Generator where
  key : Vector UInt32 8
  block : UInt64
  words : List UInt32

namespace Generator

def ofSeed (seed : UInt64) : Generator :=
  let words := (keyWords 8 seed).toArray
  ⟨Vector.ofFn fun i => words.getD i 0, 0, []⟩

/-- The next word. An exhausted block makes room for the one after it. -/
def next32 (g : Generator) : UInt32 × Generator :=
  match g.words with
  | word :: words => (word, { g with words })
  | [] =>
    let fresh := keyBlock g.key g.block
    (fresh[0], { g with block := g.block + 1, words := fresh.toList.tail })

def next64 (g : Generator) : UInt64 × Generator :=
  let (low, g) := g.next32
  let (high, g) := g.next32
  (high.toUInt64 <<< 32 ||| low.toUInt64, g)

end Generator

end ConstraintSearch.Chance
