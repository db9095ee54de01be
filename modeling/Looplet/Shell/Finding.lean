import Looplet.Shell.Starting

/-!
# Looking for files

A walk goes through directories and everything below them, and does for each file what an expression
says: it tests the file, shows it, or runs a program on it. The words of an expression are read from
left to right; what stands beside each other has to hold together.
-/

namespace Looplet.Shell.Finding

open Utility

/-- How a number is compared. -/
inductive Bound where
  | exactly (n : Nat)
  | more (n : Nat)
  | less (n : Nat)
  deriving DecidableEq

/-- Whether a number is within a bound. -/
def Bound.holds (b : Bound) (n : Nat) : Bool :=
  match b with
  | .exactly m => n = m
  | .more m => m < n
  | .less m => n < m

/-- Reads a bound. -/
def Bound.ofChars? : List Char → Option Bound
  | '+' :: cs => (Text.natural? cs).map .more
  | '-' :: cs => (Text.natural? cs).map .less
  | cs => (Text.natural? cs).map .exactly

/-- What is asked of a file, or done with it. -/
inductive Expression where
  | yes
  | no
  | name (pattern : String) (ignoreCase : Bool)
  | path (pattern : String)
  | kind (letters : List Char)
  | empty
  | size (bound : Bound) (unit : Nat)
  | mode (mode : Nat)
  | links (bound : Bound)
  | print (ending : String)
  | printFacts (format : String)
  | exec (args : List String)
  /-- Runs a program on all files together, at the end. -/
  | execAll (args : List String)
  | delete
  | prune
  | quit
  | not (e : Expression)
  | both (first second : Expression)
  | either (first second : Expression)

/-- Whether an expression does something, so that files are not shown by themselves. -/
def Expression.acts : Expression → Bool
  | print _ => true
  | printFacts _ => true
  | exec _ => true
  | execAll _ => true
  | delete => true
  | quit => false
  | not e => e.acts
  | both a b => a.acts || b.acts
  | either a b => a.acts || b.acts
  | _ => false

/-- Whether an expression wants what is below a file before the file. -/
def Expression.deletes : Expression → Bool
  | delete => true
  | not e => e.deletes
  | both a b => a.deletes || b.deletes
  | either a b => a.deletes || b.deletes
  | _ => false

/-- How far a walk goes. -/
structure Limits where
  least : Nat
  most? : Option Nat
  depthFirst : Bool

/-! ## Reading -/

/-- What is left of the words, and the limits that were read. -/
structure Reading where
  words : List String
  limits : Limits

/-- What is wrong with an expression. A word that is quoted comes last. -/
structure Fault where
  message : String
  word? : Option String

/-- A reader, which may find a fault. -/
abbrev Parse := StateT Reading (Except Fault)

/-- Finds a fault. -/
def fail {α : Type} (message : String) : Parse α := throw ⟨message, none⟩

/-- The word after another one. -/
def argumentOf (word : String) : Parse String := do
  let r ← get
  match r.words with
  | a :: rest =>
    set { r with words := rest }
    return a
  | [] => fail ("missing argument to \x60" ++ word ++ "'")

/-- Reads a number that is a limit. -/
def limitOf (word : String) : Parse Nat := do
  let s ← argumentOf word
  match Text.natural? s.toList with
  | some n => return n
  | none =>
    throw ⟨"Expected a positive decimal integer argument to " ++ word ++ ", but got ", some s⟩

/-- The unit of a size. -/
def sizeUnit? : Char → Option Nat
  | 'b' => some 512
  | 'c' => some 1
  | 'w' => some 2
  | 'k' => some 1024
  | 'M' => some 1048576
  | 'G' => some 1073741824
  | _ => none

/-- Reads a size. -/
def sizeOf (s : String) : Option Expression :=
  let cs := s.toList
  match cs.getLast?.bind sizeUnit? with
  | some unit => (Bound.ofChars? cs.dropLast).map fun b => .size b unit
  | none => (Bound.ofChars? cs).map fun b => .size b 512

/-- The words of a program that is run, up to what ends them. -/
def programWords (word : String) : Parse Expression := do
  let r ← get
  let args := r.words.takeWhile (· ≠ ";")
  let together := r.words.takeWhile (· ≠ "+")
  if together.length < args.length && together.getLast? = some "\x7b\x7d" then
    set { r with words := r.words.drop (together.length + 1) }
    if (together.dropLast).any fun a => 1 < (a.splitOn "\x7b\x7d").length then
      fail "Only one instance of \x7b\x7d is supported with -exec ... +"
    return .execAll together.dropLast
  else if args.length = r.words.length || args.isEmpty then
    fail ("missing argument to \x60" ++ word ++ "'")
  else
    set { r with words := r.words.drop (args.length + 1) }
    return .exec args

/-- Reads a test or an action, after its word. -/
def primary (word : String) : Parse Expression := do
  match word with
  | "-true" => return .yes
  | "-false" => return .no
  | "-name" => return .name (← argumentOf word) false
  | "-iname" => return .name (← argumentOf word) true
  | "-path" | "-wholename" => return .path (← argumentOf word)
  | "-type" =>
    let s ← argumentOf word
    match (s.toList.filter (· ≠ ',')).find? fun c => c ∉ ['b', 'c', 'd', 'f', 'l', 'p', 's'] with
    | some c => fail ("Unknown argument to -type: " ++ c.toString)
    | none => return .kind s.toList
  | "-empty" => return .empty
  | "-size" =>
    let s ← argumentOf word
    match sizeOf s with
    | some e => return e
    | none => fail ("Invalid argument \x60" ++ s ++ "' to -size")
  | "-perm" =>
    let s ← argumentOf word
    if s ≠ "" && s.toList.all isOctal then return .mode (Text.valueIn 8 s.toList)
    else throw ⟨"invalid mode ", some s⟩
  | "-links" =>
    let s ← argumentOf word
    match Bound.ofChars? s.toList with
    | some b => return .links b
    | none => fail ("non-numeric argument to -links: '" ++ s ++ "'")
  | "-print" => return .print "\n"
  | "-print0" => return .print "\x00"
  | "-printf" => return .printFacts (← argumentOf word)
  | "-exec" => programWords word
  | "-delete" => return .delete
  | "-prune" => return .prune
  | "-quit" => return .quit
  | "-maxdepth" =>
    let n ← limitOf word
    modify fun r => { r with limits := { r.limits with most? := some n } }
    return .yes
  | "-mindepth" =>
    let n ← limitOf word
    modify fun r => { r with limits := { r.limits with least := n } }
    return .yes
  | "-depth" =>
    modify fun r => { r with limits := { r.limits with depthFirst := true } }
    return .yes
  | _ =>
    if word.startsWith "-" then fail ("unknown predicate \x60" ++ word ++ "'")
    else fail ("paths must precede expression: \x60" ++ word ++ "'")

/-- Whether a word ends what stands beside each other. -/
def endsRow (word : String) : Bool := word ∈ ["-o", "-or", ")", ","]

mutual

/-- Reads alternatives. -/
def alternatives (inGroup : Bool) : Nat → Parse Expression
  | 0 => fail "the expression is too long"
  | fuel + 1 => do
    let first ← row fuel none
    match (← get).words with
    | ")" :: _ => if inGroup then return first else fail "you have too many ')'"
    | _ :: rest =>
      modify fun r => { r with words := rest }
      return .either first (← alternatives inGroup fuel)
    | [] => return first

/-- Reads what stands beside each other. -/
def row : Nat → Option Expression → Parse Expression
  | 0, _ => fail "the expression is too long"
  | fuel + 1, before? => do
    match (← get).words, before? with
    | [], some e => return e
    | [], none => fail "invalid expression; expected to find an expression"
    | "-a" :: rest, some e => do
      modify fun r => { r with words := rest }
      row fuel (some e)
    | w :: _, some e =>
      if endsRow w then return e
      else
        let next ← single fuel
        row fuel (some (.both e next))
    | w :: _, none =>
      if w ∈ ["-o", "-or", "-a", "-and"] then
        fail ("invalid expression; you have used a binary operator '" ++ w
          ++ "' with nothing before it.")
      else
        let first ← single fuel
        row fuel (some first)

/-- Reads one test or action, or what stands in parentheses. -/
def single : Nat → Parse Expression
  | 0 => fail "the expression is too long"
  | fuel + 1 => do
    let r ← get
    match r.words with
    | [] => fail "expected an expression"
    | w :: rest =>
      set { r with words := rest }
      if w = "!" || w = "-not" then
        if rest.isEmpty then fail ("expected an expression after '" ++ w ++ "'")
        return .not (← single fuel)
      else if w = "(" then
        let e ← alternatives true fuel
        match (← get).words with
        | ")" :: rest =>
          modify fun r => { r with words := rest }
          return e
        | _ =>
          fail ("invalid expression; I was expecting to find a ')' somewhere but did not see "
            ++ "one.")
      else primary w

end

/-- Reads the words of an expression. Without an action, files are shown. -/
def readExpression (words : List String) : Except Fault (Expression × Limits) := do
  let first : Reading := ⟨words, ⟨0, none, false⟩⟩
  if words.isEmpty then return (.print "\n", first.limits)
  else
    let (e, r) ← (alternatives false (4 * words.length + 4)).run first
    let e' := if e.acts then e else .both e (.print "\n")
    return (e', { r.limits with depthFirst := r.limits.depthFirst || e.deletes })

/-! ## Walking -/

/-- What has become of a walk. -/
structure State where
  pruned : Bool
  stopped : Bool
  status : Nat
  /-- The files for programs that are run at the end. -/
  together : List (List String × List String)

/-- A walk. -/
abbrev Walk := StateT State Run

/-- A file on the way: its path, how deep it lies, its place and what it is. -/
structure Found where
  path : String
  depth : Nat
  place : Place
  entry : Entry

/-- Whether a pattern stands for a text. -/
def fits (pattern s : String) (ignoreCase : Bool) : Bool :=
  let fold (cs : List Char) : List Char := if ignoreCase then cs.map Char.toLower else cs
  let rec marked : List Char → List Marked
    | '\\' :: c :: cs => (c, true) :: marked cs
    | c :: cs => (c, false) :: marked cs
    | [] => []
  Pattern.matchesAll (Pattern.ofMarked ⟨true, false⟩ (marked (fold pattern.toList)))
    (fold s.toList)

/-- The letter of the kind of a file. -/
def kindLetter (e : Entry) : Char :=
  match e.content with
  | .directory => 'd'
  | .file _ => 'f'
  | .link _ => 'l'
  | .here => 'l'
  | .device (.queue _) => 'p'
  | .device _ => 'c'

/-- A fact about a file that a letter asks for. -/
def factFor (w : World) (f : Found) : Char → String
  | 'p' => f.path
  | 'f' => lastPart f.path
  | 'h' =>
    let dir := f.path.toList.reverse.dropWhile (· ≠ '/')
    if dir.isEmpty then "." else String.ofList (dir.drop 1).reverse
  | 's' => Nat.repr (sizeOfEntry f.entry)
  | 'd' => Nat.repr f.depth
  | 'y' => (kindLetter f.entry).toString
  | 'm' => String.ofList (Nat.toDigits 8 f.entry.mode)
  | c => factOf w f.path f.place f.entry c

/-- Runs a program on paths. Gives whether it was content. -/
def runOn (run : Runner) (name : String) (args : List String) : Run Bool := do
  match (← get).launchOf args with
  | .error e =>
    complainAs name ((← quote (args.head?.getD "")) ++ ": " ++ e.reason)
    return false
  | .ok launch =>
    match ← fork (run (.program launch)) with
    | .code 0 => return true
    | _ => return false

/-- Takes a file away. Gives whether that was possible. -/
def deleteFound (name : String) (f : Found) : Run Bool := do
  let w := (← get).world
  if f.path = "." then return true
  else if f.entry.isDirectory && !(w.files.names f.place).isEmpty then
    complainAs name ("cannot delete " ++ (← quote f.path) ++ ": " ++ SystemError.notEmpty.reason)
    return false
  else
    changeWorld fun w => w.remove f.place
    return true

/-- Does for a file what an expression says. Gives whether it holds. -/
def evaluate (run : Runner) (name : String) (f : Found) : Expression → Walk Bool
  | .yes => return true
  | .no => return false
  | .name pattern ignoreCase => return fits pattern (lastPart f.path) ignoreCase
  | .path pattern => return fits pattern f.path false
  | .kind letters => return letters.contains (kindLetter f.entry)
  | .empty => do
    let files := (← (get : Run Process)).world.files
    return if f.entry.isDirectory then (files.names f.place).isEmpty
      else f.entry.isFile && f.entry.bytes.isEmpty
  | .size bound unit => return bound.holds ((sizeOfEntry f.entry + unit - 1) / unit)
  | .mode m => return f.entry.mode = m
  | .links bound => do
    let w := (← (get : Run Process)).world
    return bound.holds (if f.entry.isDirectory then 2 else (w.placesOf f.place).length)
  | .print ending => do
    say (f.path ++ ending)
    return true
  | .printFacts format => do
    let w := (← (get : Run Process)).world
    say (factsText (factFor w f) (unescapedText .standard format).1.toList)
    return true
  | .exec args => runOn run name (args.map fun a => a.replace "\x7b\x7d" f.path)
  | .execAll args => do
    modify fun s =>
      match s.together.find? fun t => t.1 = args with
      | some _ =>
        { s with together := s.together.map fun t =>
            if t.1 = args then (t.1, t.2 ++ [f.path]) else t }
      | none => { s with together := s.together ++ [(args, [f.path])] }
    return true
  | .delete => do
    let gone ← deleteFound name f
    if !gone then modify fun s => { s with status := 1 }
    return gone
  | .prune => do
    modify fun s => { s with pruned := true }
    return true
  | .quit => do
    modify fun s => { s with stopped := true }
    return true
  | .not e => do return !(← evaluate run name f e)
  | .both a b => do
    if ← evaluate run name f a then
      if (← get).stopped then return true else evaluate run name f b
    else return false
  | .either a b => do
    if ← evaluate run name f a then return true
    else if (← get).stopped then return false
    else evaluate run name f b

/-- Goes through what is below a file, to a depth. -/
def walk (run : Runner) (name : String) (e : Expression) (limits : Limits) :
    Nat → Found → Walk Unit
  | 0, _ => pure ()
  | fuel + 1, f => do
    if (← get).stopped then return ()
    modify fun s => { s with pruned := false }
    let visit : Walk Unit := do
      if limits.least ≤ f.depth then let _ ← evaluate run name f e
    if !limits.depthFirst then visit
    let goesOn := f.entry.isDirectory && !(← get).pruned && limits.most?.all (f.depth < ·)
    if goesOn then
      let files := (← (get : Run Process)).world.files
      for item in files.names f.place do
        let place := f.place ++ [item]
        match files.get? place with
        | some entry =>
          walk run name e limits fuel
            ⟨inside f.path (Text.encoded item), f.depth + 1, place, entry⟩
        | none => pure ()
    if limits.depthFirst then visit

/-- How deep directories may lie in each other. -/
def depthLimit : Nat := 200

/-- Whether an argument starts the expression. -/
def startsExpression (a : String) : Bool :=
  (a.startsWith "-" && a ≠ "-") || a = "(" || a = "!"

/-- Looks for files. -/
def find : Starter := fun run name args => do
  let args := args.dropWhile fun a => a ∈ ["-P", "-H", "-L", "--"]
  let paths := args.takeWhile fun a => !startsExpression a
  let words := args.drop paths.length
  match readExpression words with
  | .error fault =>
    let word ← match fault.word? with
      | some s => quote s
      | none => pure ""
    complainAs name (fault.message ++ word)
    setStatus 1
  | .ok (e, limits) =>
    let whole : Walk Unit := do
      for path in if paths.isEmpty then ["."] else paths do
        match ← lookAtLink path with
        | .error err =>
          complainAs name ((← quote path) ++ ": " ++ err.reason)
          modify fun s => { s with status := 1 }
        | .ok (place, entry) => walk run name e limits depthLimit ⟨path, 0, place, entry⟩
      for (program, files) in (← get).together do
        if !(← runOn run name (program ++ files)) then
          modify fun s => { s with status := 1 }
    let ((), s) ← whole.run ⟨false, false, 0, []⟩
    setStatus s.status

end Looplet.Shell.Finding
