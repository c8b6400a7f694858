/-!
# Correlation ids

A generator of 64-bit correlation ids: the Mersenne twister with 624 words of state, seeded with a
whole number of any size. Two successive outputs make one id, the first its low half.
-/

namespace ScionEcho

/-- The state of a Mersenne twister: its words, and the number of the next word to give out. -/
structure Twister where
  words : Array UInt32
  next : Nat

namespace Twister

def size : Nat := 624

/-- How far apart the words that are mixed stand. -/
def shift : Nat := 397

private def word (words : Array UInt32) (i : Nat) : UInt32 := words.getD i 0

/-- A word folded onto itself, as seeding mixes it. -/
private def folded (w : UInt32) : UInt32 := w ^^^ (w >>> 30)

/-- The words grown from a single one. -/
def grow (seed : UInt32) : Array UInt32 :=
  (List.range (size - 1)).foldl
    (fun words i => words.push (1812433253 * folded (word words i) + UInt32.ofNat (i + 1)))
    #[seed]

/-- The words of 32 bits of a number, the lowest first; at least one. -/
def seedWords (n : Nat) : Array UInt32 :=
  (List.range (n.log2 / 32 + 1)).toArray.map fun i => UInt32.ofNat (n / Nat.pow 2 (32 * i))

/-- Goes on to the next word. After the last one its value is carried to the front. -/
private def advance (words : Array UInt32) (i : Nat) : Array UInt32 × Nat :=
  if i + 1 < size then (words, i + 1)
  else (words.setIfInBounds 0 (word words (size - 1)), 1)

/-- Mixes the words of a key into the state, `count` steps in all. -/
private def mixKey (key : Array UInt32) : Nat → Nat → Nat → Array UInt32 → Array UInt32 × Nat
  | 0, i, _, words => (words, i)
  | count + 1, i, j, words =>
    let mixed :=
      (word words i ^^^ (folded (word words (i - 1)) * 1664525)) + word key j + UInt32.ofNat j
    let (words, i) := advance (words.setIfInBounds i mixed) i
    mixKey key count i (if j + 1 < key.size then j + 1 else 0) words

/-- Mixes the numbers of the words into the state, `count` steps in all. -/
private def mixIndex : Nat → Nat → Array UInt32 → Array UInt32
  | 0, _, words => words
  | count + 1, i, words =>
    let mixed :=
      (word words i ^^^ (folded (word words (i - 1)) * 1566083941)) - UInt32.ofNat i
    let (words, i) := advance (words.setIfInBounds i mixed) i
    mixIndex count i words

/-- A generator seeded with a number; its sign does not matter. -/
def ofSeed (seed : Int) : Twister :=
  let key := seedWords seed.natAbs
  let (words, i) := mixKey key (max size key.size) 1 0 (grow 19650218)
  { words := (mixIndex (size - 1) i words).setIfInBounds 0 0x80000000, next := size }

def refill (words : Array UInt32) : Array UInt32 :=
  (List.range size).foldl
    (fun words i =>
      let y :=
        (word words i &&& 0x80000000) ||| (word words ((i + 1) % size) &&& 0x7fffffff)
      let flip : UInt32 := if y &&& 1 = 1 then 0x9908b0df else 0
      words.setIfInBounds i (word words ((i + shift) % size) ^^^ (y >>> 1) ^^^ flip))
    words

/-- Spreads the bits of a word before it is given out. -/
def temper (w : UInt32) : UInt32 :=
  let w := w ^^^ (w >>> 11)
  let w := w ^^^ ((w <<< 7) &&& 0x9d2c5680)
  let w := w ^^^ ((w <<< 15) &&& 0xefc60000)
  w ^^^ (w >>> 18)

def draw32 (t : Twister) : UInt32 × Twister :=
  let t := if t.next < size then t else ⟨refill t.words, 0⟩
  (temper (word t.words t.next), { t with next := t.next + 1 })

/-- The next id of 64 bits. -/
def draw64 (t : Twister) : Nat × Twister :=
  let (low, t) := t.draw32
  let (high, t) := t.draw32
  (low.toNat + 0x100000000 * high.toNat, t)

theorem draw64_lt (t : Twister) : t.draw64.1 < 0x10000000000000000 := by
  have hl := t.draw32.1.toNat_lt
  have hh := t.draw32.2.draw32.1.toNat_lt
  simp only [draw64]
  omega

end Twister

end ScionEcho
