/-!
The 32-bit Mersenne twister: a pool of 624 words that is stirred as a whole whenever it has been
read through, and a tempering of each word on its way out. It is seeded from a number of any size,
whose words are mixed into the pool twice.
-/

namespace Arboretum.Chance

set_option autoImplicit false

/-- A pool of words and the position of the next word to read. -/
structure Twister where
  pool : Array UInt32
  position : Nat

namespace Twister

def poolSize : Nat := 624

def mixDistance : Nat := 397

def folded (word : UInt32) : UInt32 := word ^^^ (word >>> 30)

def poolFrom (word : UInt32) : Array UInt32 :=
  (List.range (poolSize - 1)).foldl
    (fun pool index =>
      pool.push (1812433253 * folded (pool.getD index 0) + UInt32.ofNat (index + 1)))
    #[word]

structure Mixing where
  pool : Array UInt32
  position : Nat
  keyPosition : Nat

/-- Moves on to the next word; past the last one, the last word becomes the first and the walk goes
on with the second. -/
def Mixing.advanced (mixing : Mixing) : Mixing :=
  if mixing.position + 1 < poolSize then
    { mixing with position := mixing.position + 1 }
  else
    { mixing with
      pool := mixing.pool.setIfInBounds 0 (mixing.pool.getD (poolSize - 1) 0)
      position := 1 }

def Mixing.addKey (key : Array UInt32) (mixing : Mixing) : Mixing :=
  let previous := folded (mixing.pool.getD (mixing.position - 1) 0)
  let word := (mixing.pool.getD mixing.position 0 ^^^ (previous * 1664525))
    + key.getD mixing.keyPosition 0 + UInt32.ofNat mixing.keyPosition
  Mixing.advanced
    { pool := mixing.pool.setIfInBounds mixing.position word
      position := mixing.position
      keyPosition := (mixing.keyPosition + 1) % key.size }

def Mixing.settle (mixing : Mixing) : Mixing :=
  let previous := folded (mixing.pool.getD (mixing.position - 1) 0)
  let word := (mixing.pool.getD mixing.position 0 ^^^ (previous * 1566083941))
    - UInt32.ofNat mixing.position
  Mixing.advanced { mixing with pool := mixing.pool.setIfInBounds mixing.position word }

def keyOf (seed : Nat) : Array UInt32 :=
  let count := max 1 ((seed.log2 + 32) / 32)
  ((List.range count).map fun index => UInt32.ofNat (seed >>> (32 * index))).toArray

def ofSeed (seed : Int) : Twister :=
  let key := keyOf seed.natAbs
  let added := Nat.repeat (Mixing.addKey key) (max poolSize key.size) ⟨poolFrom 19650218, 1, 0⟩
  let settled := Nat.repeat Mixing.settle (poolSize - 1) added
  ⟨settled.pool.setIfInBounds 0 0x80000000, poolSize⟩

/-- Stirs one word of the pool, using the upper bit of the word and the lower bits of the next. -/
def stirredAt (pool : Array UInt32) (index : Nat) : Array UInt32 :=
  let joined := (pool.getD index 0 &&& 0x80000000) |||
    (pool.getD ((index + 1) % poolSize) 0 &&& 0x7fffffff)
  let twist : UInt32 := if joined &&& 1 = 1 then 0x9908b0df else 0
  pool.setIfInBounds index
    (pool.getD ((index + mixDistance) % poolSize) 0 ^^^ (joined >>> 1) ^^^ twist)

def stirred (pool : Array UInt32) : Array UInt32 := (List.range poolSize).foldl stirredAt pool

def tempered (word : UInt32) : UInt32 :=
  let word := word ^^^ (word >>> 11)
  let word := word ^^^ ((word <<< 7) &&& 0x9d2c5680)
  let word := word ^^^ ((word <<< 15) &&& 0xefc60000)
  word ^^^ (word >>> 18)

def next (twister : Twister) : UInt32 × Twister :=
  if twister.position < poolSize then
    (tempered (twister.pool.getD twister.position 0),
      { twister with position := twister.position + 1 })
  else
    let pool := stirred twister.pool
    (tempered (pool.getD 0 0), ⟨pool, 1⟩)

def nextUnit (twister : Twister) : Float × Twister :=
  let (upper, twister) := twister.next
  let (lower, twister) := twister.next
  let steps : UInt64 := (upper >>> 5).toUInt64 * (67108864 : UInt64) + (lower >>> 6).toUInt64
  (steps.toFloat / 9007199254740992.0, twister)

/-- Draws the given number of bits until they are less than `count`. The limit is the number of
draws after which a pool can no longer refuse. -/
def nextBelow (count bits : Nat) : Nat → Twister → Option Nat × Twister
  | 0, twister => (none, twister)
  | limit + 1, twister =>
      let (word, twister) := twister.next
      let value := word.toNat >>> (32 - bits)
      if value < count then (some value, twister) else nextBelow count bits limit twister

end Twister

end Arboretum.Chance
