/-!
# The ChaCha keystream with twelve rounds

The generator behind a seeded source is the ChaCha block function with twelve rounds, a key of eight
words, a 64-bit block counter in words 12 and 13, and two zero words. Its output is the words of
block 0, then those of block 1, and so on.

The key grows out of a 64-bit seed by a linear congruential sequence, each of whose states gives one
word after a permutation.

## Main definitions

* `ChaCha.quarter`, `ChaCha.doubleRound`, `ChaCha.block` — the block function
* `ChaCha.word` — a word of the keystream, by its place
* `ChaCha.keyOfSeed` — the key that a seed grows into
-/

namespace CallExchange.ChaCha

/-- Sixteen words. -/
abbrev Block := Vector UInt32 16

/-- A word with its bits moved to the left, those that fall out coming back at the right. -/
def rotate (w : UInt32) (n : UInt32) : UInt32 := w <<< n ||| w >>> (32 - n)

/-- The quarter round on four words of a block. -/
def quarter (b : Block) (i j k l : Fin 16) : Block :=
  let b := b.set i (b[i] + b[j])
  let b := b.set l (rotate (b[l] ^^^ b[i]) 16)
  let b := b.set k (b[k] + b[l])
  let b := b.set j (rotate (b[j] ^^^ b[k]) 12)
  let b := b.set i (b[i] + b[j])
  let b := b.set l (rotate (b[l] ^^^ b[i]) 8)
  let b := b.set k (b[k] + b[l])
  b.set j (rotate (b[j] ^^^ b[k]) 7)

/-- One round over the columns of the block and one over its diagonals. -/
def doubleRound (b : Block) : Block :=
  let b := quarter b 0 4 8 12
  let b := quarter b 1 5 9 13
  let b := quarter b 2 6 10 14
  let b := quarter b 3 7 11 15
  let b := quarter b 0 5 10 15
  let b := quarter b 1 6 11 12
  let b := quarter b 2 7 8 13
  quarter b 3 4 9 14

/-- A key of eight words. -/
abbrev Key := Vector UInt32 8

/-- The block before its rounds: four constant words, the key, the counter, two zeros. -/
def input (key : Key) (counter : UInt64) : Block :=
  #v[0x61707865, 0x3320646e, 0x79622d32, 0x6b206574,
    key[0], key[1], key[2], key[3], key[4], key[5], key[6], key[7],
    counter.toUInt32, (counter >>> 32).toUInt32, 0, 0]

/-- A block of output: twelve rounds, then the input added word by word. -/
def block (key : Key) (counter : UInt64) : Block :=
  let start := input key counter
  let mixed := Nat.repeat doubleRound 6 start
  Vector.zipWith (· + ·) mixed start

/-- The word of the keystream at a place. -/
def word (key : Key) (place : Nat) : UInt32 :=
  (block key (UInt64.ofNat (place / 16))).get ⟨place % 16, Nat.mod_lt _ (by decide)⟩

/-- Two neighbouring words as one of 64 bits, the earlier one in the low half. -/
def doubleWord (key : Key) (place : Nat) : UInt64 :=
  (word key (2 * place + 1)).toUInt64 <<< 32 ||| (word key (2 * place)).toUInt64

/-- The next state of the sequence that a key grows out of. -/
def advance (state : UInt64) : UInt64 := state * 6364136223846793005 + 11634580027462260723

/-- The word that a state of the sequence gives. -/
def permute (state : UInt64) : UInt32 :=
  let mixed := (((state >>> 18) ^^^ state) >>> 27).toUInt32
  let n := (state >>> 59).toUInt32
  mixed >>> n ||| mixed <<< ((32 - n) % 32)

/-- The key that a seed grows into. -/
def keyOfSeed (seed : UInt64) : Key :=
  Vector.ofFn fun i => permute (Nat.repeat advance (i.val + 1) seed)

end CallExchange.ChaCha
