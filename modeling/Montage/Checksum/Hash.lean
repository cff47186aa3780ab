import Montage.Number.Power
import Montage.Text.Utf8

/-!
Messages as blocks of words, which is how digests take them.
-/

namespace Montage.Checksum

/-- Which of the bytes of a number comes first. -/
inductive Order
  | highFirst
  | lowFirst

def Order.arrange (o : Order) (bytes : Text.Bytes) : Text.Bytes :=
  match o with
  | .highFirst => bytes
  | .lowFirst => bytes.reverse

/-- So many of the low bytes of a number. -/
def numberBytes (o : Order) (count n : Nat) : Text.Bytes :=
  o.arrange ((List.range count).reverse.map fun i => UInt8.ofNat (n / pow2 (8 * i)))

/-- The number that bytes stand for. -/
def numberOf (o : Order) (bytes : Text.Bytes) : Nat :=
  (o.arrange bytes).foldl (fun n b => n * 256 + b.toNat) 0

/-- The first pieces of some size. -/
def pieces (size : Nat) : Nat → Text.Bytes → List Text.Bytes
  | 0, _ => []
  | count + 1, bytes => bytes.take size :: pieces size count (bytes.drop size)

/-- A message with a mark after it, zeros, and its length in bits, which fills the last eighth of a
block. -/
def padded (o : Order) (size : Nat) (message : Text.Bytes) : Text.Bytes :=
  let zeros := (size - (message.length + 1 + size / 8) % size) % size
  message ++ 0x80 :: List.replicate zeros 0 ++ numberBytes o (size / 8) (8 * message.length)

/-- The blocks of a message, each of sixteen words. -/
def blocks (w : Nat) (o : Order) (message : Text.Bytes) : List (Array (BitVec w)) :=
  let bytes := padded o (2 * w) message
  (pieces (2 * w) (bytes.length / (2 * w)) bytes).map fun block =>
    ((pieces (w / 8) 16 block).map fun word => BitVec.ofNat w (numberOf o word)).toArray

/-- The bytes of some words. -/
def wordBytes {w : Nat} (o : Order) (words : List (BitVec w)) : Text.Bytes :=
  words.flatMap fun word => numberBytes o (w / 8) word.toNat

/-- The words of a block with more of them up to a length, each from those before it. -/
def extended {w : Nat} (next : Array (BitVec w) → BitVec w) (length : Nat)
    (block : Array (BitVec w)) : Array (BitVec w) :=
  (length - 16).repeat (fun words => words.push (next words)) block

/-- The word so many places before the end. -/
def fromEnd {w : Nat} (words : Array (BitVec w)) (places : Nat) : BitVec w :=
  words.getD (words.size - places) 0

/-!
Sums of bytes: the remainder of a division of polynomials, and sums of sixteen bits.
-/

/-- A remainder one bit further. -/
def shiftRemainder (r : UInt32) : UInt32 :=
  if r &&& 0x80000000 = 0 then r <<< 1 else (r <<< 1) ^^^ 0x04c11db7

/-- A remainder one byte further. -/
def addToRemainder (r : UInt32) (b : UInt8) : UInt32 :=
  Nat.repeat shiftRemainder 8 (r ^^^ (b.toUInt32 <<< 24))

/-- The bytes of a length, as many as it needs. -/
def lengthBytes (n : Nat) : Text.Bytes :=
  if n = 0 then [] else numberBytes .lowFirst (n.log2 / 8 + 1) n

/-- The complement of the remainder of a message with its length. -/
def cyclic (message : Text.Bytes) : UInt32 :=
  ~~~ ((message ++ lengthBytes message.length).foldl addToRemainder 0)

/-- A sum that is turned by one bit before each byte. -/
def turning (message : Text.Bytes) : Nat :=
  message.foldl (fun n b => (n / 2 + n % 2 * 0x8000 + b.toNat) % 0x10000) 0

/-- The sum of all bytes, with what is above sixteen bits added to what is below. -/
def plain (message : Text.Bytes) : Nat :=
  let sum := message.foldl (fun n b => n + b.toNat) 0 % pow2 32
  let folded := sum % 0x10000 + sum / 0x10000
  folded % 0x10000 + folded / 0x10000

end Montage.Checksum

/-!
The digest of sixteen bytes that is known as MD5.
-/

namespace Montage.Checksum.Md5

/-- The first bits of the sines of the numbers from one on, without their signs. -/
def sines : Array (BitVec 32) :=
  #[0xd76aa478, 0xe8c7b756, 0x242070db, 0xc1bdceee, 0xf57c0faf, 0x4787c62a,
    0xa8304613, 0xfd469501, 0x698098d8, 0x8b44f7af, 0xffff5bb1, 0x895cd7be,
    0x6b901122, 0xfd987193, 0xa679438e, 0x49b40821, 0xf61e2562, 0xc040b340,
    0x265e5a51, 0xe9b6c7aa, 0xd62f105d, 0x02441453, 0xd8a1e681, 0xe7d3fbc8,
    0x21e1cde6, 0xc33707d6, 0xf4d50d87, 0x455a14ed, 0xa9e3e905, 0xfcefa3f8,
    0x676f02d9, 0x8d2a4c8a, 0xfffa3942, 0x8771f681, 0x6d9d6122, 0xfde5380c,
    0xa4beea44, 0x4bdecfa9, 0xf6bb4b60, 0xbebfbc70, 0x289b7ec6, 0xeaa127fa,
    0xd4ef3085, 0x04881d05, 0xd9d4d039, 0xe6db99e5, 0x1fa27cf8, 0xc4ac5665,
    0xf4292244, 0x432aff97, 0xab9423a7, 0xfc93a039, 0x655b59c3, 0x8f0ccc92,
    0xffeff47d, 0x85845dd1, 0x6fa87e4f, 0xfe2ce6e0, 0xa3014314, 0x4e0811a1,
    0xf7537e82, 0xbd3af235, 0x2ad7d2bb, 0xeb86d391]

/-- How far each of four steps turns, in each of the four rounds. -/
def turns : Array Nat :=
  #[7, 12, 17, 22, 5, 9, 14, 20, 4, 11, 16, 23, 6, 10, 15, 21]

/-- Four words. -/
structure Chain where
  a : BitVec 32
  b : BitVec 32
  c : BitVec 32
  d : BitVec 32

def Chain.add (x y : Chain) : Chain :=
  ⟨x.a + y.a, x.b + y.b, x.c + y.c, x.d + y.d⟩

def start : Chain :=
  ⟨0x67452301, 0xefcdab89, 0x98badcfe, 0x10325476⟩

/-- What a step mixes, and the number of the word that it takes. -/
def choice (x : Chain) (i : Nat) : BitVec 32 × Nat :=
  match i / 16 with
  | 0 => ((x.b &&& x.c) ||| (~~~ x.b &&& x.d), i)
  | 1 => ((x.d &&& x.b) ||| (~~~ x.d &&& x.c), (5 * i + 1) % 16)
  | 2 => (x.b ^^^ x.c ^^^ x.d, (3 * i + 5) % 16)
  | _ => (x.c ^^^ (x.b ||| ~~~ x.d), 7 * i % 16)

def step (block : Array (BitVec 32)) (x : Chain) (i : Nat) : Chain :=
  let (mixed, place) := choice x i
  let sum := x.a + mixed + sines.getD i 0 + block.getD place 0
  ⟨x.d, x.b + sum.rotateLeft (turns.getD (i / 16 * 4 + i % 4) 0), x.b, x.c⟩

def takeBlock (x : Chain) (block : Array (BitVec 32)) : Chain :=
  x.add ((List.range 64).foldl (step block) x)

def digest (message : Text.Bytes) : Text.Bytes :=
  let x := (blocks 32 .lowFirst message).foldl takeBlock start
  wordBytes .lowFirst [x.a, x.b, x.c, x.d]

end Montage.Checksum.Md5

/-!
The digest of twenty bytes that is known as SHA-1.
-/

namespace Montage.Checksum.Sha1

/-- Five words. -/
structure Chain where
  a : BitVec 32
  b : BitVec 32
  c : BitVec 32
  d : BitVec 32
  e : BitVec 32

def Chain.add (x y : Chain) : Chain :=
  ⟨x.a + y.a, x.b + y.b, x.c + y.c, x.d + y.d, x.e + y.e⟩

def start : Chain :=
  ⟨0x67452301, 0xefcdab89, 0x98badcfe, 0x10325476, 0xc3d2e1f0⟩

/-- What a step mixes, with the constant of its round. -/
def choice (x : Chain) (i : Nat) : BitVec 32 × BitVec 32 :=
  match i / 20 with
  | 0 => ((x.b &&& x.c) ||| (~~~ x.b &&& x.d), 0x5a827999)
  | 1 => (x.b ^^^ x.c ^^^ x.d, 0x6ed9eba1)
  | 2 => ((x.b &&& x.c) ||| (x.b &&& x.d) ||| (x.c &&& x.d), 0x8f1bbcdc)
  | _ => (x.b ^^^ x.c ^^^ x.d, 0xca62c1d6)

def step (words : Array (BitVec 32)) (x : Chain) (i : Nat) : Chain :=
  let (mixed, constant) := choice x i
  ⟨x.a.rotateLeft 5 + mixed + x.e + constant + words.getD i 0, x.a, x.b.rotateLeft 30, x.c, x.d⟩

def next (words : Array (BitVec 32)) : BitVec 32 :=
  (fromEnd words 3 ^^^ fromEnd words 8 ^^^ fromEnd words 14 ^^^ fromEnd words 16).rotateLeft 1

def takeBlock (x : Chain) (block : Array (BitVec 32)) : Chain :=
  x.add ((List.range 80).foldl (step (extended next 80 block)) x)

def digest (message : Text.Bytes) : Text.Bytes :=
  let x := (blocks 32 .highFirst message).foldl takeBlock start
  wordBytes .highFirst [x.a, x.b, x.c, x.d, x.e]

end Montage.Checksum.Sha1

/-!
The digests that are known as SHA-2: of words of 32 or 64 bits, whole or cut off.
-/

namespace Montage.Checksum.Sha2

def isPrime (n : Nat) : Bool :=
  2 ≤ n && (List.range n).all fun d => d < 2 || n % d ≠ 0

/-- The first eighty primes. -/
def primes : List Nat :=
  (List.range 410).filter isPrime

/-- The largest number whose power is not above `n`, by its bits from the highest on. -/
def rootBits (degree n : Nat) : Nat → Nat → Nat
  | 0, root => root
  | bits + 1, root =>
    let more := root + pow2 bits
    rootBits degree n bits (if Nat.pow more degree ≤ n then more else root)

/-- The first 64 bits after the point of a root of a small number. -/
def rootFraction (degree n : Nat) : Nat :=
  rootBits degree (n * pow2 (64 * degree)) 72 0 % pow2 64

/-- The fractions of the cube roots of the primes. -/
def cubeRoots : Array Nat :=
  (primes.map (rootFraction 3)).toArray

/-- The fractions of the square roots of the first primes. -/
def squareRoots : List Nat :=
  (primes.take 16).map (rootFraction 2)

/-- How far a word is turned for each of three parts of a mix; the last of them may be shifted
instead. -/
structure Mix where
  first : Nat
  second : Nat
  third : Nat
  shifted : Bool

def Mix.apply {w : Nat} (m : Mix) (x : BitVec w) : BitVec w :=
  x.rotateRight m.first ^^^ x.rotateRight m.second ^^^
    if m.shifted then x >>> m.third else x.rotateRight m.third

/-- What tells the digests of one length of words from those of another. -/
structure Family (w : Nat) where
  rounds : Nat
  high : Mix
  low : Mix
  early : Mix
  late : Mix

def short : Family 32 :=
  ⟨64, ⟨2, 13, 22, false⟩, ⟨6, 11, 25, false⟩, ⟨7, 18, 3, true⟩, ⟨17, 19, 10, true⟩⟩

def long : Family 64 :=
  ⟨80, ⟨28, 34, 39, false⟩, ⟨14, 18, 41, false⟩, ⟨1, 8, 7, true⟩, ⟨19, 61, 6, true⟩⟩

/-- Eight words. -/
structure Chain (w : Nat) where
  a : BitVec w
  b : BitVec w
  c : BitVec w
  d : BitVec w
  e : BitVec w
  f : BitVec w
  g : BitVec w
  h : BitVec w

namespace Chain

variable {w : Nat}

def add (x y : Chain w) : Chain w :=
  ⟨x.a + y.a, x.b + y.b, x.c + y.c, x.d + y.d, x.e + y.e, x.f + y.f, x.g + y.g, x.h + y.h⟩

def words (x : Chain w) : List (BitVec w) :=
  [x.a, x.b, x.c, x.d, x.e, x.f, x.g, x.h]

/-- The chain of eight numbers. -/
def ofNumbers (ns : List Nat) : Chain w :=
  let word (i : Nat) : BitVec w := BitVec.ofNat w (ns.getD i 0)
  ⟨word 0, word 1, word 2, word 3, word 4, word 5, word 6, word 7⟩

end Chain

/-- The first bits of a fraction of 64 bits. -/
def firstBits (w n : Nat) : Nat :=
  n / pow2 (64 - w)

namespace Family

variable {w : Nat} (k : Family w)

def step (words : Array (BitVec w)) (x : Chain w) (i : Nat) : Chain w :=
  let chosen := (x.e &&& x.f) ^^^ (~~~ x.e &&& x.g)
  let most := (x.a &&& x.b) ^^^ (x.a &&& x.c) ^^^ (x.b &&& x.c)
  let constant := BitVec.ofNat w (firstBits w (cubeRoots.getD i 0))
  let sum := x.h + k.low.apply x.e + chosen + constant + words.getD i 0
  ⟨sum + k.high.apply x.a + most, x.a, x.b, x.c, x.d + sum, x.e, x.f, x.g⟩

def next (words : Array (BitVec w)) : BitVec w :=
  k.late.apply (fromEnd words 2) + fromEnd words 7 + k.early.apply (fromEnd words 15) +
    fromEnd words 16

def takeBlock (x : Chain w) (block : Array (BitVec w)) : Chain w :=
  x.add ((List.range k.rounds).foldl (k.step (extended k.next k.rounds block)) x)

def digest (start : Chain w) (message : Text.Bytes) : Text.Bytes :=
  wordBytes .highFirst ((blocks w .highFirst message).foldl k.takeBlock start).words

end Family

def digest224 (message : Text.Bytes) : Text.Bytes :=
  (short.digest (.ofNumbers (squareRoots.drop 8)) message).take 28

def digest256 (message : Text.Bytes) : Text.Bytes :=
  short.digest (.ofNumbers (squareRoots.map (firstBits 32))) message

def digest384 (message : Text.Bytes) : Text.Bytes :=
  (long.digest (.ofNumbers (squareRoots.drop 8)) message).take 48

def digest512 (message : Text.Bytes) : Text.Bytes :=
  long.digest (.ofNumbers squareRoots) message

end Montage.Checksum.Sha2
