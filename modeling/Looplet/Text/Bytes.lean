/-!
# Texts of bytes

A shell works on bytes and knows no other characters. A text of bytes is a text whose characters
are all below 256 and stand for one byte each. `ofBytes` and `toBytes` go between the two;
`decoded` reads bytes as text, with a mark for every piece that is not text.
-/

namespace Looplet.Text

/-- The text of some bytes. -/
def ofBytes (bytes : ByteArray) : String :=
  String.ofList (bytes.toList.map fun b => Char.ofNat b.toNat)

/-- The bytes of a text of bytes. -/
def toBytes (s : String) : ByteArray :=
  ⟨(s.toList.map fun c => c.toNat.toUInt8).toArray⟩

/-- The text of the bytes of a text. -/
def encoded (s : String) : String := ofBytes s.toUTF8

/-- The mark for bytes that are not text. -/
def replacement : Char := '\uFFFD'

/-- Whether a byte lies in a range. -/
def isBetween (low high b : Nat) : Bool := low ≤ b && b ≤ high

/-- The range of the byte after a first byte, if there has to be one. -/
def secondRange? (b : Nat) : Option (Nat × Nat) :=
  if isBetween 0xc2 0xdf b || isBetween 0xe1 0xec b || isBetween 0xee 0xef b
      || isBetween 0xf1 0xf3 b then some (0x80, 0xbf)
  else if b = 0xe0 then some (0xa0, 0xbf)
  else if b = 0xed then some (0x80, 0x9f)
  else if b = 0xf0 then some (0x90, 0xbf)
  else if b = 0xf4 then some (0x80, 0x8f)
  else none

/-- How many bytes a character with a given first byte has. -/
def encodedLength (b : Nat) : Nat :=
  if b < 0xe0 then 2 else if b < 0xf0 then 3 else 4

/-- How many of the bytes after a first byte can belong to it, at most `limit`. -/
def followers (low high : Nat) : Nat → List Nat → Nat
  | 0, _ => 0
  | _ + 1, [] => 0
  | limit + 1, b :: bs => if isBetween low high b then 1 + followers 0x80 0xbf limit bs else 0

/-- The character of a first byte and all the bytes that follow it. -/
def combined (first : Nat) (rest : List Nat) : Char :=
  let head := if first < 0xe0 then first - 0xc0
    else if first < 0xf0 then first - 0xe0
    else first - 0xf0
  Char.ofNat (rest.foldl (fun n b => 64 * n + (b - 0x80)) head)

/-- Reads bytes as text. A first byte with too few followers is one mark together with them. -/
def decodedChars : Nat → List Nat → List Char
  | 0, _ => []
  | _ + 1, [] => []
  | fuel + 1, b :: bs =>
    if b < 0x80 then Char.ofNat b :: decodedChars fuel bs
    else
      match secondRange? b with
      | none => replacement :: decodedChars fuel bs
      | some (low, high) =>
        let n := followers low high (encodedLength b - 1) bs
        let c := if n + 1 = encodedLength b then combined b (bs.take n) else replacement
        c :: decodedChars fuel (bs.drop n)

/-- Bytes as text, with a mark for every piece that is not text. -/
def decoded (bytes : ByteArray) : String :=
  match String.fromUTF8? bytes with
  | some s => s
  | none => String.ofList (decodedChars bytes.size (bytes.toList.map UInt8.toNat))

/-! ## Whole characters -/

/-- The first character that stands for a byte which is not text. -/
def strayBase : Nat := 0x10ff00

/-- The characters of bytes. A byte that is not text has a character of its own, so that nothing is
lost. -/
def wideChars : Nat → List Nat → List Char
  | 0, _ => []
  | _ + 1, [] => []
  | fuel + 1, b :: bs =>
    if b < 0x80 then Char.ofNat b :: wideChars fuel bs
    else
      let stray := Char.ofNat (strayBase + b)
      match secondRange? b with
      | none => stray :: wideChars fuel bs
      | some (low, high) =>
        let n := followers low high (encodedLength b - 1) bs
        if n + 1 = encodedLength b then combined b (bs.take n) :: wideChars fuel (bs.drop n)
        else stray :: wideChars fuel bs

/-- The characters of a text of bytes, in a code of several bytes or not. -/
def wide (utf8 : Bool) (s : String) : List Char :=
  if !utf8 || s.toList.all fun c => c.toNat < 0x80 then s.toList
  else wideChars (s.length + 1) (s.toList.map Char.toNat)

/-- The text of bytes of characters. -/
def narrow (utf8 : Bool) (cs : List Char) : String :=
  if !utf8 || cs.all fun c => c.toNat < 0x80 then String.ofList cs
  else
    String.join (cs.map fun c =>
      if strayBase ≤ c.toNat then (Char.ofNat (c.toNat - strayBase)).toString
      else encoded c.toString)

end Looplet.Text
