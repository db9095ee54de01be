import Looplet.Utility.Lines

/-!
# Programs on characters

Programs that read bytes one by one: they replace, remove and squeeze them, or write their codes.
-/

namespace Looplet.Utility

open Shell
open Text (classNames inNamedClass)

/-! ## Sets of characters -/

/-- All bytes. -/
def allBytes : List Char := (List.range 256).map Char.ofNat

/-- The characters of a named class, in order. -/
def classOf? (name : String) : Option (List Char) :=
  if name ∈ classNames then some (allBytes.filter (inNamedClass name)) else none

/-- A part of a set: characters in order, or one that is repeated a number of times, where zero
fills up the set. -/
inductive SetPart where
  | chars (chars : List Char)
  | filling (char : Char) (times : Nat)

/-- The character at the start of the text of a set, and what follows it. -/
def setChar : List Char → Option (Char × List Char)
  | [] => none
  | '\\' :: cs =>
    let (s, rest) := unescape .standard cs
    match s.toList, cs with
    | ['\\'], '\\' :: more => some ('\\', more)
    | ['\\'], c :: more => some (c, more)
    | c :: _, _ => some (c, rest)
    | [], _ => none
  | c :: cs => some (c, cs)

/-- What is wrong with the text of a set. -/
inductive SetFault where
  | unknownClass (name : String)
  | reversed (first last : Char)

/-- A fault in words. -/
def SetFault.text : SetFault → Run String
  | .unknownClass name => return "invalid character class " ++ (← quote name)
  | .reversed first last =>
    return "range-endpoints of '" ++ first.toString ++ "-" ++ last.toString
      ++ "' are in reverse collating sequence order"

/-- A part in brackets at the start of the text of a set, after its bracket, and what follows it. -/
def bracketPart? (cs : List Char) : Option (Except SetFault SetPart × List Char) :=
  match cs with
  | ':' :: rest =>
    let name := rest.takeWhile Char.isAlpha
    match rest.drop name.length with
    | ':' :: ']' :: after =>
      match classOf? (String.ofList name) with
      | some members => some (.ok (.chars members), after)
      | none => some (.error (.unknownClass (String.ofList name)), after)
    | _ => none
  | '=' :: c :: '=' :: ']' :: after => some (.ok (.chars [c]), after)
  | _ => do
    let (c, rest) ← setChar cs
    match rest with
    | '*' :: more =>
      let digits := more.takeWhile Char.isDigit
      match more.drop digits.length with
      | ']' :: after =>
        let n := if digits.head? = some '0' then Text.valueIn 8 digits
          else Text.digitsValue digits
        some (.ok (.filling c n), after)
      | _ => none
    | _ => none

/-- The parts of a set. -/
def setParts : Nat → List Char → Except SetFault (List SetPart)
  | 0, _ => .ok []
  | _ + 1, [] => .ok []
  | fuel + 1, cs =>
    let bracket := match cs with
      | '[' :: rest => bracketPart? rest
      | _ => none
    match bracket with
    | some (part, rest) => do return (← part) :: (← setParts fuel rest)
    | none =>
      match setChar cs with
      | none => .ok []
      | some (a, '-' :: rest) =>
        match setChar rest with
        | none => do return .chars [a] :: (← setParts fuel ('-' :: rest))
        | some (b, after) =>
          if b < a then .error (.reversed a b)
          else
            let run := (List.range (b.toNat + 1 - a.toNat)).map fun i => Char.ofNat (a.toNat + i)
            do return .chars run :: (← setParts fuel after)
      | some (a, rest) => do return .chars [a] :: (← setParts fuel rest)

/-- The characters of parts, of which one may be repeated to fill up a length. -/
def setOf (length : Nat) (parts : List SetPart) : List Char :=
  let fixed := parts.foldl (fun n part =>
    match part with
    | .chars cs => n + cs.length
    | .filling _ times => n + times) 0
  parts.flatMap fun
    | .chars cs => cs
    | .filling c 0 => List.replicate (length - fixed) c
    | .filling c times => List.replicate times c

/-- A text in which characters of a set are not repeated. -/
def squeezed (set : List Char) (cs : List Char) : List Char :=
  (cs.foldl (fun (out, last?) c =>
    if last? = some c && set.contains c then (out, last?) else (c :: out, some c))
    (([] : List Char), none)).1.reverse

/-- Replaces, removes or squeezes characters. -/
def tr : Body :=
  withOptions "+cCdst" [("delete", 'd'), ("complement", 'c'), ("squeeze-repeats", 's'),
    ("truncate-set1", 't')] fun name c => do
    let (deletes, squeezes) := (c.has 'd', c.has 's')
    let both := deletes = squeezes
    let advice (message hint : String) : Run Nat := do
      complainAs name message
      sayError (hint ++ "\n")
      pointToHelp name
      return 1
    match c.operands with
    | [] => misused name "missing operand"
    | first :: more =>
      if both && more.isEmpty then
        advice ("missing operand after " ++ (← quote first))
          (if deletes then "Two strings must be given when both deleting and squeezing repeats."
           else "Two strings must be given when translating.")
      else if deletes && !squeezes && 1 ≤ more.length then
        advice ("extra operand " ++ (← quote (more.head?.getD "")))
          "Only one string may be given when deleting without squeezing repeats."
      else if 2 ≤ more.length then misused name ("extra operand " ++ (← quote ((more[1]?).getD "")))
      else
        let second := more.head?.getD ""
        match setParts (first.length + 1) first.toList,
            setParts (second.length + 1) second.toList with
        | .error fault, _ => refused name (← fault.text)
        | _, .error fault => refused name (← fault.text)
        | .ok parts, .ok newParts =>
          let olds := setOf 0 parts
          let olds := if c.has 'c' || c.has 'C' then
              allBytes.filter fun ch => !olds.contains ch
            else olds
          let news := setOf olds.length newParts
          let text := (((← readAll 0).toOption).getD "").toList
          if deletes then
            let kept := text.filter fun ch => !olds.contains ch
            say (String.ofList (if squeezes then squeezed news kept else kept))
            return 0
          else if more.isEmpty then
            say (String.ofList (squeezed olds text))
            return 0
          else if news.isEmpty then
            refused name "when not truncating set1, string2 must be non-empty"
          else
            let last := news.getLast?.getD ' '
            let table := allBytes.map fun ch =>
              match (olds.zipIdx.filter fun (o, _) => o = ch).getLast? with
              | some (_, i) => if c.has 't' && news.length ≤ i then ch else (news[i]?).getD last
              | none => ch
            let table := table.toArray
            let changed := text.map fun ch => (table[ch.toNat]?).getD ch
            say (String.ofList (if squeezes then squeezed news changed else changed))
            return 0

/-! ## Codes -/

/-- How codes are written: in a base or as characters, some bytes together, in a width. -/
inductive CodeStyle where
  | number (base size width : Nat) (signed : Bool) (zeros : Bool)
  | character
  | name

/-- The style that a type such as `x1` stands for. -/
def codeStyle? (s : String) : Option CodeStyle :=
  match s.toList with
  | ['c'] => some .character
  | ['a'] => some .name
  | letter :: size =>
    let n := match size with
      | [] => some 4
      | ['C'] => some 1
      | ['S'] => some 2
      | ['I'] => some 4
      | ['L'] => some 8
      | _ => Text.natural? size
    match n with
    | some n =>
      if n ∉ [1, 2, 4, 8] then none
      else
        let digits := Nat.shiftLeft 1 (8 * n) - 1
        match letter with
        | 'x' => some (.number 16 n (2 * n) false true)
        | 'o' => some (.number 8 n (Nat.toDigits 8 digits).length false true)
        | 'u' => some (.number 10 n (Nat.toDigits 10 digits).length false false)
        | 'd' => some (.number 10 n ((Nat.toDigits 10 (digits / 2)).length + 1) true false)
        | _ => none
    | none => none
  | [] => none

/-- How many bytes a style puts together. -/
def CodeStyle.size : CodeStyle → Nat
  | .number _ size _ _ _ => size
  | _ => 1

/-- How wide a style is for a number of bytes put together. -/
def CodeStyle.width : CodeStyle → Nat
  | .number _ _ width _ _ => width
  | _ => 3

/-- The names of control characters. -/
def controlNames : List String :=
  ["nul", "soh", "stx", "etx", "eot", "enq", "ack", "bel", "bs", "ht", "nl", "vt", "ff", "cr", "so",
    "si", "dle", "dc1", "dc2", "dc3", "dc4", "nak", "syn", "etb", "can", "em", "sub", "esc", "fs",
    "gs", "rs", "us", "sp"]

/-- Bytes that stand together, as a style writes them. -/
def CodeStyle.text (style : CodeStyle) (bytes : List Nat) : String :=
  let filled (width : Nat) (fill : Char) (s : String) : String :=
    String.ofList (List.replicate (width - s.length) fill) ++ s
  match style with
  | .number base size width signed zeros =>
    let n := bytes.foldr (fun b n => 256 * n + b) 0
    let limit := Nat.shiftLeft 1 (8 * size)
    let size := if signed && limit / 2 ≤ n then limit - n else n
    let digits := String.ofList (Nat.toDigits base size)
    if zeros then filled width '0' digits
    else filled width ' ' (if signed && limit / 2 ≤ n then "-" ++ digits else digits)
  | .character =>
    let n := bytes.head?.getD 0
    let known := [(0, "\\0"), (7, "\\a"), (8, "\\b"), (9, "\\t"), (10, "\\n"), (11, "\\v"),
      (12, "\\f"), (13, "\\r")]
    filled 3 ' ' (match known.lookup n with
      | some s => s
      | none => if 32 ≤ n && n < 127 then (Char.ofNat n).toString else octalDigits 3 n)
  | .name =>
    let n := bytes.head?.getD 0 % 128
    filled 3 ' ' (if n = 127 then "del" else (controlNames[n]?).getD (Char.ofNat n).toString)

/-- Some bytes at a time. -/
def inGroups (size : Nat) : Nat → List Nat → List (List Nat)
  | 0, _ => []
  | _ + 1, [] => []
  | fuel + 1, bs => bs.take size :: inGroups size fuel (bs.drop size)

/-- An offset in a base, or nothing. -/
def offsetText (radix : Char) (n : Nat) : String :=
  let base := if radix = 'd' then 10 else if radix = 'x' then 16 else 8
  let digits := Nat.toDigits base n
  let width := if radix = 'x' then 6 else 7
  if radix = 'n' then ""
  else String.ofList (List.replicate (width - digits.length) '0' ++ digits)

/-- Writes a line of codes in all styles. -/
def writeCodes (radix : Char) (styles : List CodeStyle) (perLine offset : Nat) (bytes : List Nat) :
    Run Unit := do
  let unit := styles.foldl (fun n s => max n s.size) 1
  let room := styles.foldl (fun n s => max n ((s.width + 1) * (unit / s.size))) 0
  let mut first := true
  for style in styles do
    let start := if first then offsetText radix offset
      else String.ofList (List.replicate (offsetText radix offset).length ' ')
    first := false
    let groups := inGroups style.size (perLine + 1) bytes
    let fill := room / (unit / style.size) - style.width
    let texts := groups.map fun g =>
      String.ofList (List.replicate fill ' ') ++ style.text g
    say (start ++ String.join texts ++ "\n")

/-- Writes the codes of bytes. -/
def od : Body := fun name args =>
  withOptions "A:t:cbdxovN:j:w:" [("address-radix", 'A'), ("format", 't'),
      ("output-duplicates", 'v'),
    ("read-bytes", 'N'), ("skip-bytes", 'j'), ("width", 'w')] (fun name c => do
    let short := [('c', "c"), ('b', "o1"), ('d', "u2"), ('x', "x2"), ('o', "o2")]
    let types := c.options.flatMap fun (letter, value) =>
      if letter = 't' then [value] else (short.lookup letter).toList
    let types := if types.isEmpty then ["o2"] else types
    match types.mapM codeStyle? with
    | none => refused name ("invalid type string " ++ (← quote ((types.head?).getD "")))
    | some styles =>
      let (texts, status) ← allInputs name c
      let all := (String.join texts).toList.map Char.toNat
      let skip := ((c.value? 'j').bind sizeOf?).getD 0
      let all := all.drop skip
      let all := match (c.value? 'N').bind sizeOf? with
        | some n => all.take n
        | none => all
      let radix := ((c.value? 'A').bind fun s => s.toList.head?).getD 'o'
      let perLine := ((c.value? 'w').bind fun s => Text.natural? s.toList).getD 16
      let mut offset := skip
      let mut last : List Nat := []
      let mut starred := false
      for line in inGroups perLine (all.length + 1) all do
        if line = last && line.length = perLine && !c.has 'v' then
          if !starred then say "*\n"
          starred := true
        else
          writeCodes radix styles perLine offset line
          starred := false
        last := line
        offset := offset + line.length
      if radix ≠ 'n' then say (offsetText radix offset ++ "\n")
      return status) name args

end Looplet.Utility
