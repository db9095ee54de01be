import Looplet.Text.Bytes

/-!
# Digests

A digest is a number of fixed size that depends on all bytes of a text. Words are natural numbers
below a power of two. The texts are filled up to whole blocks, and every block changes a state of
some words. The constants of the rounds are taken from roots of primes, or from the sine.
-/

namespace Looplet.Text.Digest

/-! ## Words -/

/-- The first number that is too large for a word. -/
def limit (width : Nat) : Nat := Nat.shiftLeft 1 width

/-- A word turned to the right. -/
def turnedRight (width x n : Nat) : Nat :=
  (Nat.shiftRight x n ||| Nat.shiftLeft x (width - n)) % limit width

/-- A word turned to the left. -/
def turnedLeft (width x n : Nat) : Nat := turnedRight width x (width - n)

/-- A word with all its bits turned over. -/
def inverted (width x : Nat) : Nat := limit width - 1 - x

/-- A number that is put together from bytes, the highest first. -/
def ofHighFirst (bytes : List Nat) : Nat := bytes.foldl (fun n b => 256 * n + b) 0

/-- The bytes of a number, the lowest first. -/
def lowFirst : Nat → Nat → List Nat
  | 0, _ => []
  | count + 1, n => n % 256 :: lowFirst count (n / 256)

/-- Lists of a size. -/
def groups (size : Nat) : Nat → List Nat → List (List Nat)
  | 0, _ => []
  | _ + 1, [] => []
  | fuel + 1, bytes => bytes.take size :: groups size fuel (bytes.drop size)

/-- A text filled up to whole blocks: a bit, zeros, and its length in bits at the end. -/
def filled (block lengthSize : Nat) (highFirst : Bool) (bytes : List Nat) : List Nat :=
  let size := bytes.length
  let zeros := (block - (size + 1 + lengthSize) % block) % block
  let length := lowFirst lengthSize (8 * size)
  bytes ++ [0x80] ++ List.replicate zeros 0 ++ (if highFirst then length.reverse else length)

/-- The words of the blocks of a text. -/
def blocksOf (block wordSize lengthSize : Nat) (highFirst : Bool) (bytes : List Nat) :
    List (Array Nat) :=
  let all := filled block lengthSize highFirst bytes
  let word (bs : List Nat) : Nat := ofHighFirst (if highFirst then bs else bs.reverse)
  (groups block (all.length + 1) all).map fun b =>
    ((groups wordSize (b.length + 1) b).map word).toArray

/-- Words in base sixteen. -/
def hexText (wordSize : Nat) (highFirst : Bool) (words : List Nat) : String :=
  let digits (b : Nat) : List Char := [Nat.digitChar (b / 16), Nat.digitChar (b % 16)]
  String.ofList (words.flatMap fun w =>
    let bytes := lowFirst wordSize w
    (if highFirst then bytes.reverse else bytes).flatMap digits)

/-- A word of an array. -/
def at_ (words : Array Nat) (i : Nat) : Nat := words.getD i 0

/-! ## Roots of primes -/

/-- Whether a number has no divisor above one and below it. -/
def isPrime (n : Nat) : Bool := 2 ≤ n && (List.range n).all fun d => d < 2 || n % d ≠ 0

/-- The first primes. -/
def primes : List Nat := (List.range 410).filter isPrime

/-- The largest number whose power is not above another one, found bit by bit. -/
def root (power n : Nat) : Nat → Nat → Nat
  | 0, found => found
  | bit + 1, found =>
    let next := found + Nat.shiftLeft 1 bit
    root power n bit (if Nat.pow next power ≤ n then next else found)

/-- The first bits behind the point of a root. -/
def rootBits (power width n : Nat) : Nat :=
  root power (Nat.shiftLeft n (power * width)) (width + 6) 0 % limit width

/-! ## Rounds that choose and vote -/

/-- How words are mixed: how often each is turned, or shifted in the end. -/
structure Mixing where
  first : Nat
  second : Nat
  third : Nat

/-- A family of digests: the size of its words, its rounds and its mixings. -/
structure Family where
  width : Nat
  rounds : Nat
  choice : Mixing
  vote : Mixing
  early : Mixing
  late : Mixing

/-- Words of 32 bits. -/
def Family.short : Family :=
  ⟨32, 64, ⟨6, 11, 25⟩, ⟨2, 13, 22⟩, ⟨7, 18, 3⟩, ⟨17, 19, 10⟩⟩

/-- Words of 64 bits. -/
def Family.long : Family :=
  ⟨64, 80, ⟨14, 18, 41⟩, ⟨28, 34, 39⟩, ⟨1, 8, 7⟩, ⟨19, 61, 6⟩⟩

/-- A word turned three times. -/
def Mixing.turned (m : Mixing) (width x : Nat) : Nat :=
  turnedRight width x m.first ^^^ turnedRight width x m.second ^^^ turnedRight width x m.third

/-- A word turned twice and shifted once. -/
def Mixing.shifted (m : Mixing) (width x : Nat) : Nat :=
  turnedRight width x m.first ^^^ turnedRight width x m.second ^^^ Nat.shiftRight x m.third

/-- The constants of the rounds. -/
def Family.constants (f : Family) : Array Nat :=
  ((primes.take f.rounds).map fun p => rootBits 3 f.width p).toArray

/-- The words for all rounds, from those of a block. -/
def Family.schedule (f : Family) (block : Array Nat) : Array Nat :=
  (List.range (f.rounds - 16)).foldl (fun ws k =>
    let t := k + 16
    ws.push ((f.late.shifted f.width (at_ ws (t - 2)) + at_ ws (t - 7)
      + f.early.shifted f.width (at_ ws (t - 15)) + at_ ws (t - 16)) % limit f.width)) block

/-- Does a round on eight words. -/
def Family.round (f : Family) (constant word : Nat) (s : Array Nat) : Array Nat :=
  let w := f.width
  let (a, b, c, d) := (at_ s 0, at_ s 1, at_ s 2, at_ s 3)
  let (e, g, h, i) := (at_ s 4, at_ s 5, at_ s 6, at_ s 7)
  let chosen := (e &&& g) ^^^ (inverted w e &&& h)
  let voted := (a &&& b) ^^^ (a &&& c) ^^^ (b &&& c)
  let first := i + f.choice.turned w e + chosen + constant + word
  let second := f.vote.turned w a + voted
  #[(first + second) % limit w, a, b, c, (d + first) % limit w, e, g, h]

/-- Changes a state by a block. -/
def Family.step (f : Family) (constants : Array Nat) (state block : Array Nat) : Array Nat :=
  let words := f.schedule block
  let after := (List.range f.rounds).foldl
    (fun s t => f.round (at_ constants t) (at_ words t) s) state
  (state.zip after).map fun (x, y) => (x + y) % limit f.width

/-- The digest of a text, from a state, with some words at the end. -/
def Family.digest (f : Family) (start : List Nat) (count : Nat) (bytes : List Nat) : String :=
  let size := f.width / 8
  let blocks := blocksOf (16 * size) size (2 * size) true bytes
  let constants := f.constants
  hexText size true ((blocks.foldl (f.step constants) start.toArray).toList.take count)

/-- The states that digests start from: roots of the first primes, or of the next ones. -/
def firstRoots (width : Nat) : List Nat := (primes.take 8).map (rootBits 2 width)

/-- The roots of the next primes. -/
def nextRoots (width : Nat) : List Nat := ((primes.drop 8).take 8).map (rootBits 2 width)

/-- A digest of 224 bits. -/
def bits224 (bytes : List Nat) : String :=
  Family.short.digest ((nextRoots 64).map (· % limit 32)) 7 bytes

/-- A digest of 256 bits. -/
def bits256 (bytes : List Nat) : String := Family.short.digest (firstRoots 32) 8 bytes

/-- A digest of 384 bits. -/
def bits384 (bytes : List Nat) : String := Family.long.digest (nextRoots 64) 6 bytes

/-- A digest of 512 bits. -/
def bits512 (bytes : List Nat) : String := Family.long.digest (firstRoots 64) 8 bytes

/-! ## Shorter digests -/

/-- The state that a digest of 160 bits starts from; the one of 128 bits starts from the first four
words. -/
def firstWords : List Nat := [0x67452301, 0xefcdab89, 0x98badcfe, 0x10325476, 0xc3d2e1f0]

/-- Does a round of the digest of 160 bits. -/
def round160 (words : Array Nat) (s : Array Nat) (t : Nat) : Array Nat :=
  let (a, b, c, d, e) := (at_ s 0, at_ s 1, at_ s 2, at_ s 3, at_ s 4)
  let (mixed, constant) :=
    if t < 20 then ((b &&& c) ||| (inverted 32 b &&& d), 0x5a827999)
    else if t < 40 then (b ^^^ c ^^^ d, 0x6ed9eba1)
    else if t < 60 then ((b &&& c) ||| (b &&& d) ||| (c &&& d), 0x8f1bbcdc)
    else (b ^^^ c ^^^ d, 0xca62c1d6)
  #[(turnedLeft 32 a 5 + mixed + e + constant + at_ words t) % limit 32, a, turnedLeft 32 b 30, c,
    d]

/-- Changes the state of the digest of 160 bits by a block. -/
def step160 (state block : Array Nat) : Array Nat :=
  let words := (List.range 64).foldl (fun ws k =>
    let t := k + 16
    ws.push (turnedLeft 32
      (at_ ws (t - 3) ^^^ at_ ws (t - 8) ^^^ at_ ws (t - 14) ^^^ at_ ws (t - 16)) 1)) block
  let after := (List.range 80).foldl (round160 words) state
  (state.zip after).map fun (x, y) => (x + y) % limit 32

/-- A digest of 160 bits. -/
def bits160 (bytes : List Nat) : String :=
  hexText 4 true ((blocksOf 64 4 8 true bytes).foldl step160 firstWords.toArray).toList

/-- The constant of a round of the digest of 128 bits. -/
def sineWord (t : Nat) : Nat :=
  ((Float.sin (Float.ofNat (t + 1))).abs * 4294967296).toUInt64.toNat

/-- How far a word is turned in a round of the digest of 128 bits. -/
def turnOf (t : Nat) : Nat :=
  let row := [[7, 12, 17, 22], [5, 9, 14, 20], [4, 11, 16, 23], [6, 10, 15, 21]].getD (t / 16) []
  row.getD (t % 4) 0

/-- Does a round of the digest of 128 bits. -/
def round128 (block : Array Nat) (s : Array Nat) (t : Nat) : Array Nat :=
  let (a, b, c, d) := (at_ s 0, at_ s 1, at_ s 2, at_ s 3)
  let (mixed, index) :=
    if t < 16 then ((b &&& c) ||| (inverted 32 b &&& d), t)
    else if t < 32 then ((d &&& b) ||| (inverted 32 d &&& c), (5 * t + 1) % 16)
    else if t < 48 then (b ^^^ c ^^^ d, (3 * t + 5) % 16)
    else (c ^^^ (b ||| inverted 32 d), (7 * t) % 16)
  let total := (mixed + a + sineWord t + at_ block index) % limit 32
  #[d, (b + turnedLeft 32 total (turnOf t)) % limit 32, b, c]

/-- Changes the state of the digest of 128 bits by a block. -/
def step128 (state block : Array Nat) : Array Nat :=
  let after := (List.range 64).foldl (round128 block) state
  (state.zip after).map fun (x, y) => (x + y) % limit 32

/-- A digest of 128 bits. -/
def bits128 (bytes : List Nat) : String :=
  hexText 4 false
    ((blocksOf 64 4 8 false bytes).foldl step128 (firstWords.take 4).toArray).toList

/-! ## Check sums -/

/-- A remainder after one more byte, in the division of polynomials over bits. -/
def remainderStep (r b : Nat) : Nat :=
  let start := r ^^^ Nat.shiftLeft b 24
  (List.range 8).foldl (fun x _ =>
    let doubled := (2 * x) % limit 32
    if Nat.shiftLeft 1 31 ≤ x then doubled ^^^ 0x04c11db7 else doubled) start

/-- The bytes of a length that count, the lowest first. -/
def lengthBytes : Nat → Nat → List Nat
  | 0, _ => []
  | fuel + 1, n => if n = 0 then [] else n % 256 :: lengthBytes fuel (n / 256)

/-- The remainder of a text and its length. -/
def remainder (bytes : List Nat) : Nat :=
  inverted 32 ((bytes ++ lengthBytes 16 bytes.length).foldl remainderStep 0)

/-- A sum of bytes that is turned after each of them. -/
def turningSum (bytes : List Nat) : Nat :=
  bytes.foldl (fun s b => (turnedRight 16 s 1 + b) % limit 16) 0

end Looplet.Text.Digest
