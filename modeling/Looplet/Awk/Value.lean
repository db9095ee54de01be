import Std.Data.HashMap
import Looplet.Awk.Token
import Looplet.Shell.Format
import Looplet.Text.Regex.Reader

/-!
# Values, tables and texts

A value is a number or a text. A text that was read counts as a number where it looks like one.
Numbers become texts by a format, unless they are integers. Tables are listed in an order that
depends on their keys alone, but for keys that meet in one bucket.
-/

namespace Looplet.Awk

open Shell (Directive)
open Text (Regex)

/-- A value. -/
inductive Value where
  | unset
  | number (value : Float)
  | text (value : String)
  /-- A text that was read. -/
  | input (value : String)

/-! ## Numbers -/

/-- Whether a character may stand around a number. -/
def isSpace (c : Char) : Bool := c ∈ [' ', '\t', '\n', '\x0b', '\x0c', '\r']

/-- The number at the start of a text, or zero. -/
def numberIn (s : String) : Float :=
  match Text.leadingReal? .double (s.toList.dropWhile isSpace) with
  | some (x, _, _) => x.toFloat
  | none => 0

/-- The number that a text looks like. Bases other than ten do not count. -/
def numberLike? (s : String) : Option Float :=
  let cs := s.toList.dropWhile isSpace
  let body := match cs with
    | '-' :: ds => ds
    | '+' :: ds => ds
    | ds => ds
  match Text.leadingRatio? body with
  | some (_, rest) => if rest.all isSpace then some (numberIn s) else none
  | none => none

/-- A value as a number. -/
def Value.toNumber : Value → Float
  | unset => 0
  | number x => x
  | text s => numberIn s
  | input s => numberIn s

/-- Whether a value counts as true. -/
def Value.isTrue : Value → Bool
  | unset => false
  | number x => x != 0
  | text s => s ≠ ""
  | input s =>
    match numberLike? s with
    | some x => x != 0
    | none => s ≠ ""

/-- The value of a truth. -/
def Value.ofBool (b : Bool) : Value := number (if b then 1 else 0)

/-- The value of a count. -/
def Value.ofNat (n : Nat) : Value := number (Float.ofNat n)

/-- The first number that is too large for a word. -/
def wordLimit : Int := 18446744073709551616

/-- The first number that is too large for a word with a sign. -/
def signedLimit : Int := 9223372036854775808

/-- A number as an integer for a conversion with a sign. -/
def signedWord (x : Float) : Int :=
  match (Text.Real.ofFloat x).truncated? with
  | some n =>
    if wordLimit ≤ n then wordLimit - 1
    else if n < -signedLimit then 1 - signedLimit
    else n
  | none => if 0 < x then wordLimit - 1 else -signedLimit

/-- A number as an integer for a conversion without a sign. -/
def plainWord (x : Float) : Nat := (signedWord x % wordLimit).toNat

/-- An integer that a number is, if it has a short form. -/
def shortInteger? (x : Float) : Option Int :=
  match (Text.Real.ofFloat x).integer? with
  | some n =>
    if n < -signedLimit || wordLimit < n then none else some (if n = wordLimit then n - 1 else n)
  | none => none

/-- A number as an index: it is cut off, and large ones are all the same. -/
def indexOf (x : Float) : Int :=
  match (Text.Real.ofFloat x).truncated? with
  | some n => Shell.Format.clamped (-2147483648) 2147483647 n
  | none => 0

/-! ## Formats -/

/-- What a format has written, the arguments that are left, how many conversions were done, and what
is wrong. -/
structure Writing where
  output : String
  args : List Value
  count : Nat
  fault? : Option String

/-- The next argument. -/
def Writing.next (w : Writing) : Option Value × Writing :=
  match w.args with
  | a :: rest => (some a, { w with args := rest })
  | [] => (none, { w with fault? := some "not enough arguments passed to " })

/-- A width or a precision, which may be the next argument. -/
def Writing.amount (w : Writing) : Option Nat → Int × Writing
  | some n => (Int.ofNat n, w)
  | none =>
    let (v?, w) := w.next
    (indexOf ((v?.getD .unset).toNumber), w)

/-- The character that a value stands for: its code, or its first character. -/
def Value.character : Value → String
  | unset => "\x00"
  | number x => (Char.ofNat ((signedWord x) % 256).toNat).toString
  | text s => ((s.toList.head?).getD '\x00').toString
  | input s =>
    match numberLike? s with
    | some x => (Char.ofNat ((signedWord x) % 256).toNat).toString
    | none => ((s.toList.head?).getD '\x00').toString

/-- Writes a conversion of a value. `toText` gives the text of a value. -/
def conversionText (toText : Value → String) (flags : List Char) (width : Int)
    (precision? : Option Nat) (letter : Char) (v : Value) : Option String :=
  if letter = 's' then
    let s := toText v
    let s := match precision? with
      | some n => String.ofList (s.toList.take n)
      | none => s
    some (Shell.Format.padded flags width s)
  else if letter = 'c' then some (Shell.Format.padded flags width v.character)
  else if letter = 'd' || letter = 'i' then
    some (Shell.Format.signedNumber flags width precision? (signedWord v.toNumber))
  else if letter ∈ ['o', 'u', 'x', 'X'] then
    some (Shell.Format.unsignedNumber flags width precision? letter (plainWord v.toNumber))
  else if letter ∈ ['e', 'E', 'f', 'F', 'g', 'G'] then
    some (Shell.Format.realNumber .double flags width precision? letter
      (Text.Real.ofFloat v.toNumber))
  else none

/-- Whether a letter of size stands where it may not. -/
def hasWrongSize (written : String) (letter : Char) : Bool :=
  letter ∈ ['e', 'E', 'f', 'F', 'g', 'G', 's', 'c']
    && written.toList.any fun c => c ∈ ['h', 'l', 'j', 'z', 't', 'L']

/-- Writes a part of a format. -/
def Writing.step (toText : Value → String) (w : Writing) (d : Directive) : Writing :=
  if w.fault?.isSome then w
  else
    match d with
    | .text t => { w with output := w.output ++ t }
    | .convert written flags width? precision? letter =>
      let (width, w) := w.amount (width?.getD (some 0))
      let (precision?, w) := match precision? with
        | some p =>
          let (n, w) := w.amount p
          (if n < 0 then none else some n.toNat, w)
        | none => (none, w)
      let (v?, w) := w.next
      match v? with
      | none => w
      | some v =>
        let w := { w with count := w.count + 1 }
        let made := if hasWrongSize written letter then none
          else conversionText toText flags width precision? letter v
        match made with
        | some t => { w with output := w.output ++ t }
        | none =>
          { w with fault? := some ("improper conversion(number " ++ Nat.repr w.count ++ ") in ") }
    | .unfinished _ =>
      { w with fault? := some (if w.args.isEmpty then "not enough arguments passed to "
        else "improper conversion(number " ++ Nat.repr (w.count + 1) ++ ") in ") }
    | .stop => w

/-- The parts of a format, in which backslashes stand for themselves. -/
def directives : Nat → List Char → List Directive
  | 0, _ => []
  | _ + 1, [] => []
  | fuel + 1, '%' :: '%' :: cs => .text "%" :: directives fuel cs
  | fuel + 1, '%' :: cs =>
    let (d, rest) := Shell.Format.conversion true cs
    d :: directives fuel rest
  | fuel + 1, c :: cs =>
    let plain := (c :: cs).takeWhile (· ≠ '%')
    .text (String.ofList plain) :: directives fuel ((c :: cs).drop plain.length)

/-- Writes arguments by a format. -/
def formatted (toText : Value → String) (format : String) (args : List Value) : Writing :=
  (directives (format.length + 1) format.toList).foldl (Writing.step toText) ⟨"", args, 0, none⟩

/-- A number as a text. -/
def numberText (format : String) (x : Float) : String :=
  match shortInteger? x with
  | some n => if n < 0 then "-" ++ Nat.repr n.natAbs else Nat.repr n.natAbs
  | none => (formatted (fun _ => "") format [.number x]).output

/-- A value as a text. -/
def Value.toText (format : String) : Value → String
  | unset => ""
  | number x => numberText format x
  | text s => s
  | input s => s

/-! ## Comparison -/

/-- The number that counts when a value is compared, if it is not a text. -/
def Value.comparable? : Value → Option Float
  | unset => some 0
  | number x => some x
  | text _ => none
  | input s => numberLike? s

/-- Whether a comparison holds of numbers. -/
def Comparison.holds (c : Comparison) (x y : Float) : Bool :=
  match c with
  | .less => x < y
  | .lessOrEqual => x ≤ y
  | .equal => x == y
  | .unequal => x != y
  | .greater => y < x
  | .greaterOrEqual => y ≤ x

/-- Whether a comparison holds of texts. -/
def Comparison.holdsOfTexts (c : Comparison) (s t : String) : Bool :=
  match c with
  | .less => s < t
  | .lessOrEqual => !(t < s)
  | .equal => s = t
  | .unequal => s ≠ t
  | .greater => t < s
  | .greaterOrEqual => !(s < t)

/-- Compares two values: as numbers if both can be, as texts otherwise. -/
def compared (format : String) (c : Comparison) (v w : Value) : Bool :=
  match v.comparable?, w.comparable? with
  | some x, some y => c.holds x y
  | _, _ => c.holdsOfTexts (v.toText format) (w.toText format)

/-- The remainder of a division, which has the sign of the first number. -/
def remainderOf (x y : Float) : Float :=
  match Text.Real.ofFloat x, Text.Real.ofFloat y with
  | .finite negative r, .finite _ s =>
    if s.num = 0 then 0.0 / 0.0
    else
      let n := r.num * s.den % (s.num * r.den)
      (Text.Real.finite negative ⟨n, r.den * s.den⟩).toFloat
  | .finite _ _, .infinite _ => x
  | _, _ => 0.0 / 0.0

/-- Does an operation on numbers. -/
def Operation.apply (o : Operation) (x y : Float) : Float :=
  match o with
  | .add => x + y
  | .subtract => x - y
  | .multiply => x * y
  | .divide => x / y
  | .remainder => remainderOf x y
  | .power => Float.pow x y

/-! ## Tables -/

/-- A table of values. Every key has the number of the last time that it was used. -/
structure Table where
  entries : Std.HashMap String (Value × Nat)
  clock : Nat

/-- A table without values. -/
def Table.empty : Table := ⟨∅, 0⟩

/-- The value of a key. -/
def Table.get? (t : Table) (key : String) : Option Value := (t.entries.get? key).map Prod.fst

/-- Sets the value of a key. -/
def Table.put (t : Table) (key : String) (v : Value) : Table :=
  ⟨t.entries.insert key (v, t.clock), t.clock + 1⟩

/-- Takes out a key. -/
def Table.erase (t : Table) (key : String) : Table := { t with entries := t.entries.erase key }

/-- The number of a text that decides on its bucket. -/
def hashOf (s : String) : Nat :=
  s.toList.foldl (fun h c => ((h ^^^ c.toNat) * 16777619) % 4294967296) 2166136261

/-- How many buckets there are. -/
def bucketCount : Nat := 64

/-- The keys of a table, by buckets. In a bucket the key that was used last comes first. -/
def Table.keys (t : Table) : List String :=
  let items := t.entries.toList.map fun (k, _, stamp) => (hashOf k % bucketCount, stamp, k)
  (items.mergeSort fun a b => a.1 < b.1 || (a.1 = b.1 && b.2.1 ≤ a.2.1)).map fun i => i.2.2

/-! ## Regular expressions -/

/-- An expression in which a part that is repeated at least twice without a bound is repeated
exactly as often. -/
def bounded : Regex → Regex
  | .group i r => .group i (bounded r)
  | .both a b => .both (bounded a) (bounded b)
  | .either a b => .either (bounded a) (bounded b)
  | .repeated r least none => .repeated (bounded r) least (if 2 ≤ least then some least else none)
  | .repeated r least most? => .repeated (bounded r) least most?
  | r => r

/-- A regular expression with its escapes replaced. What they stand for is protected. -/
def withoutEscapes : Nat → List Char → List Char
  | 0, cs => cs
  | _ + 1, [] => []
  | fuel + 1, '\\' :: cs =>
    match escape? cs, cs with
    | some (c, rest), _ =>
      (if c.isAlphanum || c = '\n' then [c] else ['\\', c]) ++ withoutEscapes fuel rest
    | none, c :: rest => (if c.isAlphanum then [c] else ['\\', c]) ++ withoutEscapes fuel rest
    | none, [] => ['\\', '\\']
  | fuel + 1, c :: cs => c :: withoutEscapes fuel cs

/-- Whether an operator has nothing to work on. `before` is the character outside sets that comes
before the text. -/
def lacksOperand (before : Option Char) (box : Box) : List Char → Bool
  | [] => before = some '|'
  | '\\' :: _ :: rest => lacksOperand (some 'a') (box.after 'a') rest
  | c :: rest =>
    if box ≠ .outside then lacksOperand (some 'a') (box.after c) rest
    else
      let opened := before = some '(' || before = some '|'
      ((opened || before.isNone) && c ∈ ['*', '+', '?', '|']) || (opened && c = ')')
        || lacksOperand (some c) (box.after c) rest

/-- Whether an operator of repetition follows the sign for the start of a text. -/
def repeatsStart (box : Box) : List Char → Bool
  | [] => false
  | '\\' :: _ :: rest => repeatsStart (box.after 'a') rest
  | c :: rest =>
    (box = .outside && c = '^' && (rest.head? = some '*' || rest.head? = some '+'))
      || repeatsStart (box.after c) rest

/-- Reads a regular expression. Gives what is wrong with it otherwise. -/
def regexOf (source : String) : Except String Regex :=
  let cs := source.toList
  let failed (why : String) : Except String Regex :=
    .error ("regular expression compile failed (" ++ why ++ ")\n" ++ source)
  if lacksOperand none .outside cs then failed "missing operand"
  else if repeatsStart .outside cs then failed "syntax error ^* or ^+"
  else
    match Regex.ofChars ⟨true, true, false, true⟩ (withoutEscapes (cs.length + 1) cs) with
    | .ok r => .ok (bounded r)
    | .error .openParen => failed "missing ')'"
    | .error .closeParen => failed "missing '('"
    | .error .bracket => failed "bad class -- [], [^] or ["
    | .error .range => failed "bad class -- [], [^] or ["
    | .error _ => failed "missing operand"

/-- The first match in a text. -/
def firstMatch? (r : Regex) (s : String) : Option (Nat × Nat) :=
  let t := r.subject false false s.toList.toArray
  (r.search? t 0).map fun m => (m.first, m.last)

/-! ## Dividing texts -/

/-- What divides a text. -/
inductive Divider where
  | blanks
  | nothing
  | char (c : Char)
  | regex (r : Regex)

/-- The parts of a text between runs of blanks. -/
def blankParts : Nat → List Char → List (List Char)
  | 0, _ => []
  | fuel + 1, cs =>
    let isBlank (c : Char) : Bool := c = ' ' || c = '\t' || c = '\n'
    match cs.dropWhile isBlank with
    | [] => []
    | rest =>
      let part := rest.takeWhile fun c => !isBlank c
      part :: blankParts fuel (rest.drop part.length)

/-- The parts of a text between characters. -/
def charParts (c : Char) : List Char → List (List Char)
  | [] => [[]]
  | d :: cs =>
    match charParts c cs with
    | part :: more => if d = c then [] :: part :: more else (d :: part) :: more
    | [] => []

/-- The parts of a text between matches that are not empty. -/
def regexParts (r : Regex) (chars : Array Char) : Nat → Nat → Nat → List (List Char)
  | 0, start, _ => [(chars.extract start chars.size).toList]
  | fuel + 1, start, place =>
    match r.search? (r.subject false false chars) place with
    | none => [(chars.extract start chars.size).toList]
    | some m =>
      if m.first = m.last then
        if chars.size ≤ m.first then [(chars.extract start chars.size).toList]
        else regexParts r chars fuel start (m.first + 1)
      else (chars.extract start m.first).toList :: regexParts r chars fuel m.last m.last

/-- The parts of a text. An empty text has none. -/
def Divider.parts (d : Divider) (s : String) : List String :=
  let cs := s.toList
  if cs.isEmpty then []
  else
    let found := match d with
      | .blanks => blankParts (cs.length + 1) cs
      | .nothing => cs.map fun c => [c]
      | .char c => charParts c cs
      | .regex r => regexParts r cs.toArray (cs.length + 1) 0 0
    found.map String.ofList

/-! ## Records -/

/-- The next record of a text that is not empty, and what follows it. -/
def nextRecord (d : Divider) (cs : List Char) : List Char × List Char :=
  let upTo (c : Char) : List Char × List Char :=
    let first := cs.takeWhile (· ≠ c)
    (first, (cs.drop first.length).drop 1)
  match d with
  | .char c => upTo c
  | .blanks => upTo ' '
  | .nothing => paragraph (cs.length + 1) cs
  | .regex r =>
    let chars := cs.toArray
    match r.search? (r.subject false false chars) 0 with
    | some m => if m.first = m.last then (cs, []) else (cs.take m.first, cs.drop m.last)
    | none => (cs, [])
where
  /-- The text up to an empty line. -/
  paragraph : Nat → List Char → List Char × List Char
    | 0, cs => ([], cs)
    | fuel + 1, cs =>
      let line := cs.takeWhile (· ≠ '\n')
      match cs.drop line.length with
      | [] => (line, [])
      | _ :: '\n' :: rest => (line, rest.dropWhile (· = '\n'))
      | [_] => (line, [])
      | _ :: rest =>
        let (more, after) := paragraph fuel rest
        (line ++ '\n' :: more, after)

/-! ## Replacing -/

/-- A part of a replacement. -/
inductive Part where
  | char (c : Char)
  | found

/-- The parts of a replacement: an ampersand stands for what was found, unless a backslash protects
it. Two backslashes stand for one if an ampersand follows. -/
def replacementParts : Nat → List Char → List Part
  | 0, _ => []
  | _ + 1, [] => []
  | fuel + 1, '\\' :: cs =>
    let slashes := '\\' :: cs.takeWhile (· = '\\')
    match cs.dropWhile (· = '\\') with
    | '&' :: rest =>
      (slashes.take (slashes.length / 2)).map .char
        ++ (if slashes.length % 2 = 1 then .char '&' else .found) :: replacementParts fuel rest
    | rest => slashes.map .char ++ replacementParts fuel rest
  | fuel + 1, '&' :: cs => .found :: replacementParts fuel cs
  | fuel + 1, c :: cs => .char c :: replacementParts fuel cs

/-- A replacement for what was found. -/
def replacement (parts : List Part) (found : List Char) : List Char :=
  parts.flatMap fun
    | .char c => [c]
    | .found => found

/-- Replaces matches from a place on: all of them, or the first one. `last?` is where the match
before ended. Gives the new text and how many there were. -/
def replaced (r : Regex) (parts : List Part) (all : Bool) (chars : Array Char) :
    Nat → Nat → Option Nat → List Char × Nat
  | 0, place, _ => ((chars.extract place chars.size).toList, 0)
  | fuel + 1, place, last? =>
    match r.search? (r.subject false false chars) place with
    | none => ((chars.extract place chars.size).toList, 0)
    | some m =>
      let before := (chars.extract place m.first).toList
      let isEmpty := m.first = m.last
      if isEmpty && last? = some m.first then
        -- An empty match right after another one does not count.
        match chars[m.first]? with
        | none => (before, 0)
        | some c =>
          let (rest, n) := replaced r parts all chars fuel (m.first + 1) none
          (before ++ c :: rest, n)
      else
        let new := replacement parts (chars.extract m.first m.last).toList
        if !all then (before ++ new ++ (chars.extract m.last chars.size).toList, 1)
        else if isEmpty then
          match chars[m.first]? with
          | none => (before ++ new, 1)
          | some c =>
            let (rest, n) := replaced r parts all chars fuel (m.first + 1) none
            (before ++ new ++ c :: rest, n + 1)
        else
          let (rest, n) := replaced r parts all chars fuel m.last (some m.last)
          (before ++ new ++ rest, n + 1)

/-- A part of a text: from a place on, and at most so many characters. A place before the first one
adds to the length. -/
def partOf (s : String) (start : Int) (length? : Option Int) : String :=
  let cs := s.toList
  let length := (length?.getD (Int.ofNat cs.length)) + (if start < 0 then -start else 0)
  String.ofList ((cs.drop (start - 1).toNat).take length.toNat)

/-- Where a text is in another one, counted from one, or zero. -/
def positionOf (needle : List Char) : Nat → List Char → Nat
  | n, [] => if needle.isEmpty then n else 0
  | n, c :: cs => if needle.isPrefixOf (c :: cs) then n else positionOf needle (n + 1) cs

end Looplet.Awk
