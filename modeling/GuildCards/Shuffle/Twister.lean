/-!
The Mersenne twister with a state of 624 words of 32 bits, seeded from a key of any length, and whole
numbers below a bound drawn from it without bias.
-/
namespace GuildCards.Shuffle

structure Twister where
  words : Array UInt32
  /-- how many of the words have been handed out -/
  used : Nat

namespace Twister

def size : Nat := 624

def fold (x : UInt32) : UInt32 := x ^^^ (x >>> 30)

def fresh : Array UInt32 :=
  (List.range (size - 1)).foldl (fun w i =>
    w.push (1812433253 * fold (w.getD i 0) + UInt32.ofNat (i + 1))) #[19650218]

/-- Writes word `i`; the last word is also the one before the first. -/
def store (w : Array UInt32) (i : Nat) (x : UInt32) : Array UInt32 :=
  let w := w.setIfInBounds i x
  if i + 1 = size then w.setIfInBounds 0 x else w

/-- The place of step `k` of a pass that begins at place `start` and leaves out place zero. -/
def place (start k : Nat) : Nat := (start + k - 1) % (size - 1) + 1

def ofKey (key : Array UInt32) : Twister :=
  let steps := max size key.size
  let mixed := (List.range steps).foldl (fun w k =>
    let i := place 1 k
    let j := k % key.size
    store w i ((w.getD i 0 ^^^ (fold (w.getD (i - 1) 0) * 1664525)) + key.getD j 0 + UInt32.ofNat j))
    fresh
  let spread := (List.range (size - 1)).foldl (fun w k =>
    let i := place (place 1 steps) k
    store w i ((w.getD i 0 ^^^ (fold (w.getD (i - 1) 0) * 1566083941)) - UInt32.ofNat i))
    mixed
  ⟨spread.setIfInBounds 0 0x80000000, size⟩

/-- The next state of all words, each from itself, its successor and the word 397 places on. -/
def twist (w : Array UInt32) : Array UInt32 :=
  (List.range size).foldl (fun w i =>
    let y := (w.getD i 0 &&& 0x80000000) ||| (w.getD ((i + 1) % size) 0 &&& 0x7FFFFFFF)
    let x := w.getD ((i + 397) % size) 0 ^^^ (y >>> 1)
    w.setIfInBounds i (if y &&& 1 = 1 then x ^^^ 0x9908B0DF else x)) w

def temper (y : UInt32) : UInt32 :=
  let y := y ^^^ (y >>> 11)
  let y := y ^^^ ((y <<< 7) &&& 0x9D2C5680)
  let y := y ^^^ ((y <<< 15) &&& 0xEFC60000)
  y ^^^ (y >>> 18)

def next (t : Twister) : UInt32 × Twister :=
  let t := if t.used < size then t else ⟨twist t.words, 0⟩
  (temper (t.words.getD t.used 0), { t with used := t.used + 1 })

def bits (k : Nat) (t : Twister) : Nat × Twister :=
  let (y, t) := t.next
  (y.toNat >>> (32 - k), t)

/-- A number below `m`: numbers of as many bits as `m` are drawn until one fits. A draw fits with at
least even odds; after the given number of draws the remainder is taken. -/
def below (m : Nat) : Nat → Twister → Nat × Twister
  | 0, t => (0, t)
  | draws + 1, t =>
    let (x, t') := t.bits (m.log2 + 1)
    if x < m then (x, t')
    else if draws = 0 then (x % m, t')
    else below m draws t'

/-- How many draws are made for one number. -/
def patience : Nat := 10000

end Twister
end GuildCards.Shuffle
