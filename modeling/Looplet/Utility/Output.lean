import Looplet.Shell.CountedCondition
import Looplet.Utility.Basic

/-!
# Programs that write

Programs that write their arguments in some shape, and those that only give a status.
-/

namespace Looplet.Utility

open Shell

/-! ## Arguments -/

/-- The style of formats of programs. -/
def programStyle (utf8 : Bool) : Style := ⟨true, true, utf8, .extended, quotedIfNeeded, false⟩

/-- Writes its arguments. -/
def echo : Body := fun _ args => do
  say (echoedPlainly (programStyle (← get).isUtf8) true false args)
  return 0

/-- Whether a format uses arguments. -/
def usesArguments (ds : List Directive) : Bool :=
  ds.any fun
    | .convert .. => true
    | _ => false

/-- Writes its arguments as a format says. -/
def printf : Body := fun name args => do
  match if args.head? = some "--" then args.drop 1 else args with
  | [] => misused name "missing operand"
  | format :: rest =>
    let style := programStyle (← get).isUtf8
    let s := Format.printed style format rest
    let mut place := 0
    for (next, c) in s.remarks do
      say (String.ofList ((s.output.toList.take next).drop place))
      place := next
      match c with
      | .partly arg => complainAs name ((← quote arg) ++ ": value not completely converted")
      | .notNumber arg => complainAs name ((← quote arg) ++ ": expected a numeric value")
      | .afterQuote rest =>
        complainAs name ("warning: " ++ rest
          ++ ": character(s) following character constant have been ignored")
      | .outOfRange arg => complainAs name ((← quote arg) ++ ": Numerical result out of range")
    say (String.ofList (s.output.toList.drop place))
    if !s.args.isEmpty && !s.ended
        && !usesArguments (Format.directives style (format.length + 1) format.toList) then
      complainAs name ("warning: ignoring excess arguments, starting with "
        ++ (← quote (s.args.head?.getD "")))
    match s.fault? with
    | some (.invalid written _) =>
      refused name (written ++ ": invalid conversion specification")
    | some (.unfinished written) =>
      refused name (written ++ ": invalid conversion specification")
    | none => return if s.complaints.all (fun c => c.isWarning) then 0 else 1

/-- What conditions of programs may ask. -/
def conditionTests (p : Process) : CountedCondition.Tests where
  unary := "-a" :: "-N" :: Condition.unaryOps
  binary := "==" :: Condition.binaryOps.filter fun op => op ≠ "<" && op ≠ ">"
  number := CountedCondition.number
  lengthBefore := ["-eq", "-ne", "-lt", "-le", "-gt", "-ge"]
  holds := fun op a =>
    if op = "-t" then do
      let _ ← CountedCondition.number a
      return false
    else .ok (p.pathHolds (if op = "-a" then "-e" else op) a)
  compare := fun op a b => p.comparePaths true op a b
  byLooks := true
  numeric := []

/-- The status of a condition. -/
def conditionResult (name : String) : Except CountedCondition.Fault Bool → Run Nat
  | .ok true => return 0
  | .ok false => return 1
  | .error fault => do
    let message ← match fault with
      | .notNumber a => do pure ("invalid integer " ++ (← quote a))
      | .notUnary a => do pure ((← quote a) ++ ": unary operator expected")
      | .notBinary a => do pure ((← quote a) ++ ": binary operator expected")
      | .missingAfter a => do pure ("missing argument after " ++ (← quote a))
      | .missingParen none => do pure ((← quote ")") ++ " expected")
      | .missingParen (some a) => do
        pure ((← quote ")") ++ " expected, found " ++ (← quote a))
      | .tooMany a => do pure ("extra argument " ++ (← quote a))
      | .missingBracket => do pure ("missing " ++ (← quote "]"))
    complainAs name message
    return 2

/-- Whether a condition holds. -/
def test : Body := fun name args => do
  conditionResult name (CountedCondition.holds (conditionTests (← get)) args)

/-- Whether a condition in brackets holds. -/
def bracket : Body := fun name args => do
  conditionResult name (CountedCondition.ofBracketed (conditionTests (← get)) args)

/-! ## Paths -/

/-- Shows the working directory. -/
def pwd : Body :=
  withOptions "LP" [("logical", 'L'), ("physical", 'P')] fun name c => do
    if !c.operands.isEmpty then complainAs name "ignoring non-option arguments"
    say (Text.encoded (← get).world.files.cwdPath ++ "\n")
    return 0

/-- A path without its directories and without an ending. -/
def withoutEnding (ending path : String) : String :=
  let base := lastPart path
  if base ≠ ending && base.endsWith ending then
    String.ofList (base.toList.take (base.length - ending.length))
  else base

/-- Shows the last parts of paths. -/
def basename : Body :=
  withOptions "+as:z" [("multiple", 'a'), ("suffix", 's'), ("zero", 'z')] fun name c => do
    let ending := if c.has 'z' then "\x00" else "\n"
    let several := c.has 'a' || c.has 's'
    match c.operands with
    | [] => misused name "missing operand"
    | [path] =>
      say (withoutEnding ((c.value? 's').getD "") path ++ ending)
      return 0
    | path :: suffix :: more =>
      if several then
        for path in c.operands do say (withoutEnding ((c.value? 's').getD "") path ++ ending)
        return 0
      else
        match more with
        | [] =>
          say (withoutEnding suffix path ++ ending)
          return 0
        | extra :: _ => misused name ("extra operand " ++ (← quote extra))

/-- A path without its last part. -/
def directoryOf (path : String) : String :=
  let cs := path.toList.reverse.dropWhile (· = '/')
  let start := if cs.isEmpty then path.toList else cs.dropWhile (· ≠ '/')
  match start.dropWhile (· = '/') with
  | [] => if path.toList.head? = some '/' then "/" else "."
  | rest => String.ofList rest.reverse

/-- Shows the directories of paths. -/
def dirname : Body :=
  withOptions "z" [("zero", 'z')] fun name c => do
    if c.operands.isEmpty then misused name "missing operand"
    else
      let ending := if c.has 'z' then "\x00" else "\n"
      for path in c.operands do say (directoryOf path ++ ending)
      return 0

/-! ## Numbers -/

/-- A decimal number: its digits without the point, and how many of them stand after it. -/
structure Decimal where
  value : Int
  places : Nat
  /-- How many characters it has before the point, with its sign. -/
  width : Nat

/-- Reads a decimal number. -/
def decimalOf? (s : String) : Option Decimal :=
  let cs := s.toList
  let (negative, body) := match cs with
    | '-' :: ds => (true, ds)
    | '+' :: ds => (false, ds)
    | ds => (false, ds)
  let whole := body.takeWhile Char.isDigit
  let rest := body.drop whole.length
  let (places, rest) := match rest with
    | '.' :: ds => (ds.takeWhile Char.isDigit, ds.dropWhile Char.isDigit)
    | _ => ([], rest)
  if whole.isEmpty && places.isEmpty then none
  else
    let (exponent, after) := Text.leadingExponent rest
    if !after.isEmpty then none
    else
      let n := Int.ofNat (Text.digitsValue (whole ++ places))
      let n := if negative then -n else n
      let width := (if negative then 1 else 0) + max 1 whole.length
      if exponent < 0 then
        some ⟨n, places.length + exponent.natAbs, width⟩
      else
        let raised := n * Int.ofNat (Nat.pow 10 (exponent.toNat - places.length))
        some ⟨raised, places.length - exponent.toNat, width⟩

/-- The value of a decimal number as a number of units of a given number of places. -/
def Decimal.units (d : Decimal) (places : Nat) : Int :=
  d.value * Int.ofNat (Nat.pow 10 (places - d.places))

/-- A number of units as a decimal number, filled with zeros to a width. -/
def unitsText (places width : Nat) (n : Int) : String :=
  let digits := Text.withPoint places false (Nat.repr n.natAbs)
  let sign := if n < 0 then "-" else ""
  sign ++ String.ofList (List.replicate (width - sign.length - digits.length) '0') ++ digits

/-- Numbers from one to another in steps. -/
def counted (step last : Int) : Nat → Int → List Int
  | 0, _ => []
  | fuel + 1, n =>
    if (0 ≤ step && last < n) || (step < 0 && n < last) then []
    else n :: counted step last fuel (n + step)

/-- Writes a sequence of decimal numbers. -/
def writeSequence (c : Call) (first step last : Decimal) : Run Nat := do
  let places := max first.places step.places
  let all := max places last.places
  let (a, d, b) := (first.units all, step.units all, last.units all)
  let numbers := counted d b ((b - a).natAbs / d.natAbs + 1) a
  let scale := Int.ofNat (Nat.pow 10 (all - places))
  let widthOf (x : Decimal) : Nat :=
    x.width + if places = 0 then 0 else places + 1
  let width := if c.has 'w' then max (widthOf first) (widthOf last) else 0
  let style := programStyle true
  let written := numbers.map fun n =>
    match c.value? 'f' with
    | some f => (Format.printed style f [unitsText all 0 n]).output
    | none => unitsText places width (n / scale)
  if !written.isEmpty then say (((c.value? 's').getD "\n").intercalate written ++ "\n")
  return 0

/-- Marks where the options end if a negative number stands there. -/
def markNumbers : List String → List String
  | [] => []
  | a :: rest =>
    match a.toList with
    | '-' :: c :: _ =>
      if c.isDigit || c = '.' then "--" :: a :: rest
      else if a ∈ ["-s", "-f", "--separator", "--format"] then
        match rest with
        | [] => [a]
        | value :: more => a :: value :: markNumbers more
      else if a = "--" then a :: rest
      else a :: markNumbers rest
    | _ => a :: rest

/-- Shows a sequence of numbers. -/
def seq : Body := fun name args =>
  let isNumber (a : String) : Bool := (decimalOf? a).isSome
  withOptions "+s:wf:" [("separator", 's'), ("equal-width", 'w'), ("format", 'f')] (fun name c => do
    match c.operands.find? fun a => !isNumber a with
    | some a => misused name ("invalid floating point argument: " ++ (← quote a))
    | none =>
      let one : Decimal := ⟨1, 0, 1⟩
      match c.operands.filterMap decimalOf? with
      | [] => misused name "missing operand"
      | [last] => writeSequence c one one last
      | [first, last] => writeSequence c first one last
      | [first, step, last] =>
        if step.value = 0 then
          misused name ("invalid Zero increment value: " ++ (← quote ((c.operands[1]?).getD "")))
        else writeSequence c first step last
      | _ => misused name ("extra operand " ++ (← quote ((c.operands[3]?).getD ""))))
    name (markNumbers args)

/-- The least divisor of a number from a candidate on. -/
def leastDivisor (n : Nat) : Nat → Nat → Nat
  | 0, _ => n
  | fuel + 1, d => if n < d * d then n else if n % d = 0 then d else leastDivisor n fuel (d + 1)

/-- The prime factors of a number. -/
def primeFactors : Nat → Nat → Nat → List Nat
  | 0, _, _ => []
  | fuel + 1, d, n =>
    if n < 2 then []
    else
      let p := leastDivisor n 1000000 d
      p :: primeFactors fuel p (n / p)

/-- Shows the prime factors of numbers. -/
def factor : Body := fun name args =>
  worst (fun a => do
    match Text.natural? a.toList with
    | some n =>
      say (a ++ ":" ++ String.join ((primeFactors 64 2 n).map fun p => " " ++ Nat.repr p) ++ "\n")
      return 0
    | none => refused name ((← quote a) ++ " is not a valid positive integer")) args

/-- Writes a line without end, which nobody can read to the end. -/
def yes : Body := fun _ args => do
  let line := (if args.isEmpty then "y" else " ".intercalate args) ++ "\n"
  let block := String.join (List.replicate (16384 / line.length + 1) line)
  for _ in [0:64] do say block
  throw (.signal 13)

/-! ## Facts about the machine -/

/-- Shows names and numbers of the user. -/
def id : Body :=
  withOptions "ugGnrz" [("user", 'u'), ("group", 'g'), ("groups", 'G'), ("name", 'n')]
    fun _ c => do
    say (match c.has 'n', c.has 'u', c.has 'g' || c.has 'G' with
      | true, true, _ => "nobody\n"
      | true, false, _ => "nogroup\n"
      | false, false, false => "uid=65534(nobody) gid=65534(nogroup) groups=65534(nogroup)\n"
      | _, _, _ => "65534\n")
    return 0

/-- Shows the name of the user. -/
def whoami : Body :=
  withOptions "" [] fun name c => do
    match c.operands with
    | [] =>
      say "nobody\n"
      return 0
    | extra :: _ => misused name ("extra operand " ++ (← quote extra))

/-- Shows what kind of machine this is. -/
def uname : Body :=
  withOptions "asnrvmpio" [("kernel-name", 's'), ("machine", 'm'), ("operating-system", 'o')]
    fun name c => do
    if let extra :: _ := c.operands then
      return ← misused name ("extra operand " ++ (← quote extra))
    let known := [('s', "Linux"), ('n', "localhost"), ('r', "6.1.0"), ('v', "#1 SMP"),
      ('m', "x86_64"), ('o', "GNU/Linux")]
    let asked := known.filter fun k => c.has k.1 || c.has 'a'
    let shown := if c.options.isEmpty then ["Linux"] else asked.map Prod.snd
    say (" ".intercalate shown ++ "\n")
    return 0

/-- Whether the standard input is a terminal, which it is not. -/
def tty : Body :=
  withOptionsOr 2 "s" [("silent", 's')] fun _ c => do
    if !c.has 's' then say "not a tty\n"
    return 1

/-- A time in thousandths of a second, with a letter for its unit. -/
def milliseconds? (s : String) : Option Nat :=
  let (cs, unit) := match s.toList.getLast? with
    | some 's' => (s.toList.dropLast, 1000)
    | some 'm' => (s.toList.dropLast, 60000)
    | some 'h' => (s.toList.dropLast, 3600000)
    | some 'd' => (s.toList.dropLast, 86400000)
    | _ => (s.toList, 1000)
  match Text.leadingRatio? cs with
  | some (r, []) => some (r.num * unit / max 1 r.den)
  | _ => none

/-- Whether a text is a time. -/
def isInterval (s : String) : Bool :=
  s = "inf" || s = "infinity" || (milliseconds? s).isSome

/-- Waits. -/
def sleep : Body :=
  withOptions "" [] fun name c => do
    match c.operands, c.operands.filter fun s => !isInterval s with
    | [], _ => misused name "missing operand"
    | times, [] =>
      let p ← get
      let wakes := times.foldl (fun t s => t + (milliseconds? s).getD 0) p.world.clock
      match p.deadline?.filter (· ≤ wakes) with
      | some stop =>
        changeWorld fun w => { w with clock := stop }
        throw (.signal 15)
      | none =>
        changeWorld fun w => { w with clock := wakes }
        return 0
    | _, wrong =>
      for s in wrong do complainAs name ("invalid time interval " ++ (← quote s))
      pointToHelp name
      return 1

end Looplet.Utility
