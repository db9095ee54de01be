import Looplet.Utility.Lines

/-!
# Putting lines in order

Lines are compared by keys, which are parts of lines that are compared as texts or as numbers. Lines
with equal keys are compared as a whole, unless their order is to stay as it was.
-/

namespace Looplet.Utility

open Shell

/-- A place in a line: a field and a character in it, both counted from one. A character of zero
stands for the end of the field. -/
structure FieldPlace where
  field : Nat
  char : Nat

/-- A part of lines by which they are compared, and how. -/
structure SortKey where
  first : FieldPlace
  last? : Option FieldPlace
  flags : List Char
  /-- Whether blanks at the two ends are skipped. -/
  skipFirst : Bool
  skipLast : Bool

/-- The letters that say how keys are compared. -/
def sortFlags : List Char := ['b', 'd', 'f', 'g', 'h', 'i', 'M', 'n', 'r', 'V']

/-- Reads a place, and the letters after it. -/
def fieldPlace? (usual : Nat) (cs : List Char) : Option (FieldPlace × List Char) :=
  let field := cs.takeWhile Char.isDigit
  if field.isEmpty || (usual = 1 && Text.digitsValue field = 0) then none
  else
    match cs.drop field.length with
    | '.' :: rest =>
      let char := rest.takeWhile Char.isDigit
      some (⟨Text.digitsValue field, Text.digitsValue char⟩, rest.drop char.length)
    | rest => some (⟨Text.digitsValue field, usual⟩, rest)

/-- Reads a key such as `2,3nr`. -/
def sortKey? (s : String) : Option SortKey := do
  let (first, rest) ← fieldPlace? 1 s.toList
  let flags := rest.takeWhile (sortFlags.contains ·)
  match rest.drop flags.length with
  | [] => some ⟨first, none, flags, 'b' ∈ flags, false⟩
  | ',' :: more =>
    let (last, rest) ← fieldPlace? 0 more
    if rest.all (sortFlags.contains ·) then
      some ⟨first, some last, flags ++ rest, 'b' ∈ flags, 'b' ∈ rest⟩
    else none
  | _ => none

/-- Whether a character is a blank between fields. -/
def isFieldBlank (c : Char) : Bool := c = ' ' || c = '\t' || c = '\n'

/-- What follows a number of fields. A field holds the blanks before it, if no separator is
given. -/
def afterFields (separator? : Option Char) : Nat → List Char → List Char
  | 0, cs => cs
  | n + 1, cs =>
    match separator? with
    | some c => afterFields separator? n ((cs.dropWhile (· ≠ c)).drop 1)
    | none =>
      afterFields separator? n ((cs.dropWhile isFieldBlank).dropWhile fun c => !isFieldBlank c)

/-- How many characters stand before the end of a key. -/
def keyEnd (separator? : Option Char) (skip : Bool) (cs : List Char) : Option FieldPlace → Nat
  | none => cs.length
  | some place =>
    if place.char = 0 then
      let rest := afterFields separator? (place.field - 1) cs
      let field := match separator? with
        | some c => rest.takeWhile (· ≠ c)
        | none =>
          let blanks := rest.takeWhile isFieldBlank
          blanks ++ (rest.drop blanks.length).takeWhile fun c => !isFieldBlank c
      cs.length - rest.length + field.length
    else
      let rest := afterFields separator? (place.field - 1) cs
      let rest := if skip then rest.dropWhile isFieldBlank else rest
      cs.length - rest.length + min place.char rest.length

/-- The part of a line that a key means. -/
def SortKey.part (k : SortKey) (separator? : Option Char) (line : String) : List Char :=
  let cs := line.toList
  let rest := afterFields separator? (k.first.field - 1) cs
  let rest := if k.skipFirst then rest.dropWhile isFieldBlank else rest
  let start := cs.length - rest.length + (k.first.char - 1)
  (cs.take (keyEnd separator? k.skipLast cs k.last?)).drop start

/-- The number at the start of a text: whether it is negative, its digits before the point and
those after it. -/
def leadingDecimal (cs : List Char) : Int × List Char :=
  let cs := cs.dropWhile isFieldBlank
  let (negative, body) := match cs with
    | '-' :: ds => (true, ds)
    | ds => (false, ds)
  let whole := body.takeWhile Char.isDigit
  let places := match body.drop whole.length with
    | '.' :: ds => ds.takeWhile Char.isDigit
    | _ => []
  let places := (places ++ List.replicate 20 '0').take 20
  let n := Int.ofNat (Text.digitsValue (whole ++ places))
  (if negative then -n else n, body.drop whole.length)

/-- The power of a letter after a number that people read. -/
def humanPower (cs : List Char) : Nat :=
  match cs.dropWhile (fun c => c.isDigit || c = '.') with
  | c :: _ => match "KMGTPEZY".toList.idxOf? c.toUpper with
    | some i => i + 1
    | none => 0
  | [] => 0

/-- The number of a month that is named by its first letters. -/
def monthNumber (cs : List Char) : Nat :=
  let name := String.ofList (((cs.dropWhile isFieldBlank).take 3).map Char.toUpper)
  match ["JAN", "FEB", "MAR", "APR", "MAY", "JUN", "JUL", "AUG", "SEP", "OCT", "NOV",
      "DEC"].idxOf? name with
  | some i => i + 1
  | none => 0

/-- Runs of digits and of other characters in turn. -/
def versionRuns : Nat → List Char → List (Nat × List Char)
  | 0, _ => []
  | _ + 1, [] => []
  | fuel + 1, cs =>
    let text := cs.takeWhile fun c => !c.isDigit
    let rest := cs.drop text.length
    let digits := rest.takeWhile Char.isDigit
    (Text.digitsValue digits, text) :: versionRuns fuel (rest.drop digits.length)

/-- Where a character stands in the order of versions: a tilde before the end of a text, letters
before everything else. -/
def versionKey (c : Char) : Int :=
  if c = '~' then -1 else if c.isAlpha then Int.ofNat c.toNat else Int.ofNat (c.toNat + 256)

/-- A version without the endings that name the kind of a file. -/
def withoutEndings : Nat → List Char → List Char
  | 0, cs => cs
  | fuel + 1, cs =>
    let ending := (cs.reverse.takeWhile (· ≠ '.')).reverse
    let isPart (c : Char) : Bool := c.isAlphanum || c = '~'
    match ending, cs.length - ending.length with
    | c :: rest, n + 1 =>
      if n ≠ 0 && !c.isDigit && (c :: rest).all isPart then withoutEndings fuel (cs.take n) else cs
    | _, _ => cs

/-- Compares the starts of versions: nothing comes first, then what is hidden. -/
def compareHidden (a b : List Char) : Ordering :=
  let rank (cs : List Char) : Nat := match cs.head? with
    | none => 0
    | some '.' => 1
    | some _ => 2
  compare (rank a) (rank b)

/-- Compares texts in the order of versions. -/
def compareVersionTexts : List Char → List Char → Ordering
  | [], [] => .eq
  | [], b :: _ => compare 0 (versionKey b)
  | a :: _, [] => compare (versionKey a) 0
  | a :: as, b :: bs => (compare (versionKey a) (versionKey b)).then (compareVersionTexts as bs)

/-- Compares runs of versions: texts first, then numbers. -/
def compareVersions : List (Nat × List Char) → List (Nat × List Char) → Ordering
  | [], [] => .eq
  | [], _ :: _ => .lt
  | _ :: _, [] => .gt
  | (m, s) :: as, (n, t) :: bs =>
    (compareVersionTexts s t).then ((compare m n).then (compareVersions as bs))

/-- Compares two texts. -/
def compareTexts (flags : List Char) (a b : List Char) : Ordering :=
  let shape (cs : List Char) : List Char :=
    let cs := if 'd' ∈ flags then cs.filter fun c => c.isAlphanum || isFieldBlank c else cs
    let cs := if 'i' ∈ flags then cs.filter fun c => ' ' ≤ c && c ≤ '~' else cs
    if 'f' ∈ flags then cs.map Char.toUpper else cs
  let (a, b) := (shape a, shape b)
  if a < b then .lt else if b < a then .gt else .eq

/-- The sign and the size of the real number at the start of a text. -/
def leadingRealOf (cs : List Char) : Option (Int × Nat) :=
  let cs := cs.dropWhile isFieldBlank
  let (negative, body) := match cs with
    | '-' :: ds => (true, ds)
    | '+' :: ds => (false, ds)
    | ds => (false, ds)
  (Text.leadingRatio? body).map fun (r, _) =>
    (if negative then -Int.ofNat r.num else Int.ofNat r.num, r.den)

/-- Compares two texts as real numbers, which come after those that are none. -/
def compareReals (a b : List Char) : Ordering :=
  match leadingRealOf a, leadingRealOf b with
  | none, none => .eq
  | none, some _ => .lt
  | some _, none => .gt
  | some (m, p), some (n, q) => compare (m * Int.ofNat q) (n * Int.ofNat p)

/-- Compares parts of lines as letters say. -/
def compareParts (flags : List Char) (a b : List Char) : Ordering :=
  let order := if 'n' ∈ flags then compare (leadingDecimal a).1 (leadingDecimal b).1
    else if 'h' ∈ flags then
      let weight (cs : List Char) : Int :=
        (leadingDecimal cs).1 * Int.ofNat (Nat.pow 1024 (humanPower (cs.dropWhile isFieldBlank)))
      compare (weight a) (weight b)
    else if 'g' ∈ flags then compareReals a b
    else if 'M' ∈ flags then compare (monthNumber a) (monthNumber b)
    else if 'V' ∈ flags then
      let versions (a b : List Char) : Ordering :=
        compareVersions (versionRuns (a.length + 1) a) (versionRuns (b.length + 1) b)
      ((compareHidden a b).then
        (versions (withoutEndings a.length a) (withoutEndings b.length b))).then (versions a b)
    else compareTexts flags a b
  if 'r' ∈ flags then order.swap else order

/-- Compares lines by keys from left to right. -/
def compareByKeys (separator? : Option Char) (keys : List SortKey) (a b : String) : Ordering :=
  keys.foldl (fun order k =>
    if order = .eq then compareParts k.flags (k.part separator? a) (k.part separator? b)
    else order) .eq

/-- Compares lines: by keys, and then as a whole if that counts. -/
def compareLines (separator? : Option Char) (keys : List SortKey) (flags : List Char)
    (lastResort : Bool) (a b : String) : Ordering :=
  let order := if keys.isEmpty then
      compareParts flags (if 'b' ∈ flags then a.toList.dropWhile isFieldBlank else a.toList)
        (if 'b' ∈ flags then b.toList.dropWhile isFieldBlank else b.toList)
    else compareByKeys separator? keys a b
  if order = .eq && lastResort then
    let whole := compareTexts [] a.toList b.toList
    if 'r' ∈ flags then whole.swap else whole
  else order

/-- Lines without those that are equal to the one before them. -/
def withoutRepeats (same : String → String → Bool) : List String → List String
  | [] => []
  | a :: rest =>
    match withoutRepeats same rest with
    | [] => [a]
    | b :: more => if same a b then a :: more else a :: b :: more

/-- Puts lines in order. -/
def sort : Body :=
  withOptionsOr 2 "bdfghiMnrRVcCk:mo:sS:t:uzT:" [("reverse", 'r'), ("unique", 'u'), ("output", 'o'),
    ("numeric-sort", 'n'), ("key", 'k'), ("field-separator", 't'), ("ignore-case", 'f'),
    ("stable", 's'), ("check", 'c'), ("merge", 'm'), ("ignore-leading-blanks", 'b'),
    ("dictionary-order", 'd'), ("general-numeric-sort", 'g'), ("human-numeric-sort", 'h'),
    ("version-sort", 'V'), ("month-sort", 'M')] fun name c => do
    let flags := (c.options.map Prod.fst).filter (sortFlags.contains ·)
    match (c.values 'k').find? fun s => (sortKey? s).isNone with
    | some s =>
      let zero := s.toList.head? = some '0'
      complainAs name
        ((if zero then "field number is zero: invalid field specification "
          else "invalid number at field start: invalid count at start of ") ++ (← quote s))
      return 2
    | none =>
      let mark := (c.value? 't').getD ""
      if 1 < mark.length && mark ≠ "\\0" then
        complainAs name ("multi-character tab " ++ (← quote mark))
        return 2
      if c.value? 't' = some "" then
        complainAs name "empty tab"
        return 2
      let keys := ((c.values 'k').filterMap sortKey?).map fun k =>
        if k.flags.isEmpty then
          { k with flags := flags, skipFirst := 'b' ∈ flags, skipLast := 'b' ∈ flags }
        else k
      let separator? := (c.value? 't').bind fun s =>
        if s = "\\0" then some '\x00' else s.toList.head?
      if let some extra := if c.has 'c' || c.has 'C' then c.operands[1]? else none then
        complainAs name ("extra operand " ++ quoted extra ++ " not allowed with -"
          ++ if c.has 'C' then "C" else "c")
        return 2
      let mut lines : List String := []
      for path in c.inputs do
        match ← inputText path with
        | .ok text => lines := lines ++ linesOf text
        | .error e =>
          complainAs name ((if e = .isDirectory then "read failed: " else "cannot read: ")
            ++ quotedIfNeeded path ++ ": " ++ e.reason)
          return 2
      let order := compareLines separator? keys flags (!c.has 's' && !c.has 'u')
      if c.has 'c' || c.has 'C' then
        let bad (p : (String × String) × Nat) : Bool :=
          let o := order p.1.1 p.1.2
          o = .gt || (o = .eq && c.has 'u')
        match ((lines.zip (lines.drop 1)).zipIdx 2).find? bad with
        | some ((_, b), i) =>
          if !c.has 'C' then
            complainAs name (c.inputs.head?.getD "-" ++ ":" ++ Nat.repr i ++ ": disorder: " ++ b)
          return 1
        | none => return 0
      else
        let ordered := lines.mergeSort fun a b => order a b ≠ .gt
        let ordered := if c.has 'u' then withoutRepeats (fun a b => order a b = .eq) ordered
          else ordered
        let text := String.join (ordered.map (· ++ "\n"))
        match c.value? 'o' with
        | none =>
          say text
          return 0
        | some path =>
          match ← writeOutput false path text with
          | .ok () => return 0
          | .error e =>
            complainAs name ("open failed: " ++ quotedIfNeeded path ++ ": " ++ e.reason)
            return 2

end Looplet.Utility
