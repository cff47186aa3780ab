import Montage.Number.Floating
import Montage.Number.Power

/-!
A stream of 32-bit words from a key: a block cipher of twelve rounds run over a counter.
-/

namespace Montage.Random

/-- Sixteen words. -/
abbrev Block := Vector UInt32 16

def rotateLeft (x : UInt32) (n : UInt32) : UInt32 :=
  (x <<< n) ||| (x >>> (32 - n))

/-- Mixes four words of the block in place. -/
def quarterRound (s : Block) (a b c d : Fin 16) : Block :=
  let s := s.set a (s[a] + s[b])
  let s := s.set d (rotateLeft (s[d] ^^^ s[a]) 16)
  let s := s.set c (s[c] + s[d])
  let s := s.set b (rotateLeft (s[b] ^^^ s[c]) 12)
  let s := s.set a (s[a] + s[b])
  let s := s.set d (rotateLeft (s[d] ^^^ s[a]) 8)
  let s := s.set c (s[c] + s[d])
  s.set b (rotateLeft (s[b] ^^^ s[c]) 7)

/-- One round over the columns and one over the diagonals. -/
def doubleRound (s : Block) : Block :=
  let s := quarterRound s 0 4 8 12
  let s := quarterRound s 1 5 9 13
  let s := quarterRound s 2 6 10 14
  let s := quarterRound s 3 7 11 15
  let s := quarterRound s 0 5 10 15
  let s := quarterRound s 1 6 11 12
  let s := quarterRound s 2 7 8 13
  quarterRound s 3 4 9 14

/-- The block before mixing: four constants, the key, a counter of two words and two zeros. -/
def initial (key : Vector UInt32 8) (counter : Nat) : Block :=
  #v[0x61707865, 0x3320646e, 0x79622d32, 0x6b206574,
    key[0], key[1], key[2], key[3], key[4], key[5], key[6], key[7],
    UInt32.ofNat counter, UInt32.ofNat (counter / pow2 32), 0, 0]

/-- The words of the stream at a counter: the mixed block added to the block before mixing. -/
def block (key : Vector UInt32 8) (counter : Nat) : Block :=
  let start := initial key counter
  (Nat.repeat doubleRound 6 start).zipWith (· + ·) start

def word (key : Vector UInt32 8) (index : Nat) : UInt32 :=
  (block key (index / 16)).get ⟨index % 16, Nat.mod_lt _ (by decide)⟩

/-!
Random numbers by feedback: each is the sum of two earlier ones, and its lowest bit is left out.
-/

/-- The 31 latest sums, the latest first. -/
abbrev Window := List UInt32

namespace Window

/-- The next sum. -/
def next (w : Window) : Window :=
  (w.getD 2 0 + w.getD 30 0) :: w.take 30

/-- The first sums are powers of a number modulo a prime, times the seed. Of these the first three
come last once more. -/
def ofSeed (seed : UInt32) : Window :=
  let first : Int := if seed = 0 then 1 else seed.toInt32.toInt
  let modulus : Nat := pow2 31 - 1
  let powers := (List.range 30).foldl (fun (powers : List Int) _ =>
    Int.emod (16807 * powers.headD 0) modulus :: powers) [first]
  let words : Window := powers.map fun n => UInt32.ofNat (Int.emod n (pow2 32)).toNat
  let begun := words.drop 28 ++ words.take 28
  (List.range 310).foldl (fun w _ => w.next) begun

/-- The random number that a sum stands for, below the half of all words. -/
def value (w : Window) : Nat :=
  (w.headD 0 >>> 1).toNat

end Window

/-!
Draws between 0 and 1 that depend on a seed alone.
-/

/-- The state after `n` steps of the generator that spreads a seed over a key. -/
def spread (seed : UInt64) : Nat → UInt64
  | 0 => seed
  | n + 1 => spread seed n * 6364136223846793005 + 11634580027462260723

/-- A key word from a state: its upper bits folded, then turned by its top five bits. -/
def keyWord (state : UInt64) : UInt32 :=
  let folded := (((state >>> 18) ^^^ state) >>> 27).toUInt32
  let turn := (state >>> 59).toUInt32
  (folded >>> turn) ||| (folded <<< ((32 - turn) % 32))

def key (seed : UInt64) : Vector UInt32 8 :=
  Vector.ofFn fun i => keyWord (spread seed (i + 1))

/-- The draw with the given number: 53 bits of the stream, as a fraction of one. -/
def draw (seed : UInt64) (index : Nat) : Binary64 :=
  let low := (word (key seed) (2 * index)).toNat
  let high := (word (key seed) (2 * index + 1)).toNat
  .ofRatio false ((low + high * pow2 32) / pow2 11) (pow2 53)

end Montage.Random
