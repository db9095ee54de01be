import Looplet.Text.Bytes
import Looplet.Text.Regex.Reader

/-!
# Scripts that edit lines

A script is a list of commands that are done for every line, each only for the lines that its
addresses choose. `Edit.Script.ofText` reads a script. Jumps lead to places in the list, so a block
is a jump over the commands in it for the lines that it is not meant for.
-/

namespace Looplet.Utility.Edit

open Text (Regex)

/-- A regular expression, or the last one that was used. -/
structure Wanted where
  regex? : Option Regex
  ignoreCase : Bool
  byLines : Bool

/-- What chooses a line. -/
inductive Address where
  | line (number : Nat)
  | step (first step : Nat)
  | last
  | regex (wanted : Wanted)

/-- Where a range of lines ends. -/
inductive RangeEnd where
  | address (a : Address)
  | after (lines : Nat)
  | multiple (n : Nat)

/-- The lines that a command is meant for. -/
structure Choice where
  first? : Option Address
  last? : Option RangeEnd
  negated : Bool

/-- A change of case in a replacement: of all that follows, or of one character. -/
inductive CaseChange where
  | upper
  | lower
  | upperOne
  | lowerOne
  | none
  deriving DecidableEq

/-- A part of a replacement. -/
inductive Part where
  | text (chars : List Char)
  | group (index : Nat)
  | changeCase (change : CaseChange)

/-- What is replaced, and how. -/
structure Substitution where
  wanted : Wanted
  parts : List Part
  everywhere : Bool
  /-- The first match that is replaced, counted from one. -/
  number : Nat
  prints : Bool
  file? : Option String

/-- A command. -/
inductive Action where
  | nothing
  | enter (past : Nat)
  | jump (label : String)
  | jumpIfChanged (label : String)
  | jumpIfUnchanged (label : String)
  | append (text : String)
  | insert (text : String)
  | change (text : String)
  | substitute (s : Substitution)
  | exchangeChars (pairs : List (Char × Char))
  | delete
  | deleteFirst
  | print
  | printFirst
  | number
  | name
  | list (width? : Option Nat)
  | get
  | getMore
  | hold
  | holdMore
  | exchange
  | next
  | nextMore
  | quit (status : Nat)
  | quitSilently (status : Nat)
  | readFile (path : String)
  | readLine (path : String)
  | writeFile (path : String)
  | writeFirst (path : String)
  | empty
  | label (name : String)

/-- A command and the lines that it is meant for. -/
structure Command where
  choice : Choice
  action : Action

/-- A fault in a script, and how many characters had been read. -/
structure Fault where
  place : Nat
  message : String

/-- What is left of a script, and how much of it has been read. -/
structure Input where
  chars : List Char
  place : Nat

/-- How a script is read. -/
structure Style where
  extended : Bool
  utf8 : Bool

/-- Reads a part of a script. -/
abbrev Reader := StateT Input (Except Fault)

/-- Fails where the script is read. -/
def fail {α : Type} (message : String) : Reader α := fun input => .error ⟨input.place, message⟩

/-- The next character. -/
def next? : Reader (Option Char) := do
  let input ← get
  match input.chars with
  | [] => return none
  | c :: cs =>
    set (⟨cs, input.place + 1⟩ : Input)
    return some c

/-- Looks at the next character. -/
def peek? : Reader (Option Char) := do return (← get).chars.head?

/-- Takes characters of a class. -/
def takeWhile (p : Char → Bool) : Reader (List Char) := do
  let input ← get
  let taken := input.chars.takeWhile p
  set (⟨input.chars.drop taken.length, input.place + taken.length⟩ : Input)
  return taken

/-- Whether a character is a blank inside a line. -/
def isBlank (c : Char) : Bool := c = ' ' || c = '\t'

/-- Passes over blanks. -/
def skipBlanks : Reader Unit := do let _ ← takeWhile isBlank

/-- Passes over blanks and ends of commands. -/
def skipSpace : Reader Unit := do
  let _ ← takeWhile fun c => isBlank c || c = '\n' || c = ';'

/-! ## Escapes -/

/-- The value of a character as a digit in base sixteen. -/
def hexDigit? (c : Char) : Option Nat :=
  if c.isDigit then some (c.toNat - '0'.toNat)
  else if 'a' ≤ c && c ≤ 'f' then some (c.toNat - 'a'.toNat + 10)
  else if 'A' ≤ c && c ≤ 'F' then some (c.toNat - 'A'.toNat + 10)
  else none

/-- The character of an escape that all parts of a script know, and what follows it, after the
backslash. -/
def commonEscape? (cs : List Char) : Option (Char × List Char) :=
  match cs with
  | 'a' :: rest => some ('\x07', rest)
  | 'f' :: rest => some ('\x0c', rest)
  | 'n' :: rest => some ('\n', rest)
  | 'r' :: rest => some ('\r', rest)
  | 't' :: rest => some ('\t', rest)
  | 'v' :: rest => some ('\x0b', rest)
  | 'x' :: rest =>
    let digits := (rest.take 2).takeWhile fun c => (hexDigit? c).isSome
    if digits.isEmpty then none
    else
      some (Char.ofNat (digits.foldl (fun n c => 16 * n + (hexDigit? c).getD 0) 0),
        rest.drop digits.length)
  | 'd' :: rest =>
    let digits := (rest.take 3).takeWhile Char.isDigit
    if digits.length < 3 then none
    else some (Char.ofNat (Text.digitsValue digits % 256), rest.drop 3)
  | 'o' :: rest =>
    let digits := (rest.take 3).takeWhile fun c => '0' ≤ c && c ≤ '7'
    if digits.length < 3 then none
    else
      some (Char.ofNat (digits.foldl (fun n c => 8 * n + (c.toNat - '0'.toNat)) 0 % 256),
        rest.drop 3)
  | _ => none

/-- An expression with its escapes replaced. A character that an escape gives stands for itself. -/
def withoutEscapes : Nat → List Char → List Char
  | 0, cs => cs
  | _ + 1, [] => []
  | fuel + 1, '\\' :: cs =>
    match commonEscape? cs with
    | some (c, rest) =>
      let special := c ∈ ['.', '*', '[', ']', '^', '$', '\\', '/', '+', '?', '(', ')', '|', '\x7b',
        '\x7d']
      if special then '\\' :: c :: withoutEscapes fuel rest else c :: withoutEscapes fuel rest
    | none =>
      match cs with
      | c :: rest => '\\' :: c :: withoutEscapes fuel rest
      | [] => ['\\']
  | fuel + 1, c :: cs => c :: withoutEscapes fuel cs

/-- How many characters the rest of a set in brackets has, up to its closing bracket. -/
def setSize : Nat → List Char → Option Nat
  | 0, _ => none
  | fuel + 1, cs =>
    match cs with
    | [] => none
    | ']' :: _ => some 1
    | '[' :: ':' :: rest =>
      let name := rest.takeWhile (· ≠ ':')
      (setSize fuel (rest.drop name.length)).map (· + 2 + name.length)
    | _ :: rest => (setSize fuel rest).map (· + 1)

/-- How many characters a set in brackets has after its opening one. -/
def wholeSetSize (cs : List Char) : Option Nat :=
  let negation := if cs.head? = some '^' then 1 else 0
  let first := if (cs.drop negation).head? = some ']' then 1 else 0
  (setSize (cs.length + 1) (cs.drop (negation + first))).map (· + negation + first)

/-- Reads up to a mark that is not protected. In an expression a mark in brackets does not count.
A backslash before the mark goes away. -/
def upTo (mark : Char) (isRegex : Bool) (lacking : String) : Reader (List Char) := do
  let mut taken : List Char := []
  for _ in [0:(← get).chars.length + 1] do
    match ← next? with
    | none => fail lacking
    | some c =>
      if c = mark then return taken.reverse
      else if c = '\\' then
        match ← next? with
        | none => fail lacking
        | some d =>
          if d = mark then taken := d :: taken
          else if d = 'n' && isRegex then taken := '\n' :: taken
          else taken := d :: '\\' :: taken
      else if c = '[' && isRegex then
        let input ← get
        let size := (wholeSetSize input.chars).getD input.chars.length
        taken := (input.chars.take size).reverse ++ c :: taken
        set (⟨input.chars.drop size, input.place + size⟩ : Input)
      else if c = '\n' && isRegex then fail lacking
      else taken := c :: taken
  fail lacking

/-- Reads a regular expression that ends in a mark. -/
def regexOf (style : Style) (cs : List Char) : Reader (Option Regex) := do
  if cs.isEmpty then return none
  else
    let way : Regex.Style := if style.extended then .full else .basic
    match Regex.ofChars way (withoutEscapes (cs.length + 1) cs) with
    | .ok r => return some r
    | .error f => fail f.text

/-! ## Addresses -/

/-- Reads a number. -/
def number : Reader Nat := do return Text.digitsValue (← takeWhile Char.isDigit)

/-- Reads an address. -/
def address? (style : Style) : Reader (Option Address) := do
  match ← peek? with
  | none => return none
  | some c =>
    if c.isDigit then
      let first ← number
      skipBlanks
      if (← peek?) = some '~' then
        let _ ← next?
        return some (.step first (← number))
      else return some (.line first)
    else if c = '$' then
      let _ ← next?
      return some .last
    else if c = '/' || c = '\\' then
      let _ ← next?
      let mark ← if c = '/' then pure '/' else do
        match ← next? with
        | some m => pure m
        | none => fail "unexpected \x60,'"
      let cs ← upTo mark true "unterminated address regex"
      let flags ← takeWhile fun f => f = 'I' || f = 'M'
      return some (.regex ⟨← regexOf style cs, 'I' ∈ flags, 'M' ∈ flags⟩)
    else return none

/-- Reads the end of a range, after its comma. -/
def rangeEnd (style : Style) : Reader RangeEnd := do
  match ← peek? with
  | some '+' =>
    let _ ← next?
    return .after (← number)
  | some '~' =>
    let _ ← next?
    return .multiple (← number)
  | _ =>
    match ← address? style with
    | some a => return .address a
    | none =>
      let _ ← next?
      fail "unexpected \x60,'"

/-- Reads which lines a command is meant for. -/
def choice (style : Style) : Reader Choice := do
  let first? ← address? style
  skipBlanks
  let mut last? := none
  if first?.isSome && (← peek?) = some ',' then
    let _ ← next?
    skipBlanks
    last? := some (← rangeEnd style)
    skipBlanks
  let mut negated := false
  for _ in [0:(← get).chars.length + 1] do
    if (← peek?) = some '!' then
      let _ ← next?
      negated := true
      skipBlanks
    else break
  match first?, last? with
  | some (.line 0), some (.address (.regex _)) => pure ()
  | some (.line 0), _ =>
    let _ ← next?
    fail "invalid usage of line address 0"
  | _, _ => pure ()
  return ⟨first?, last?, negated⟩

/-! ## Arguments of commands -/

/-- Passes over the end of a command. -/
def endOfCommand : Reader Unit := do
  skipBlanks
  match ← peek? with
  | none => return ()
  | some c =>
    if c = '\n' || c = ';' then
      let _ ← next?
    else if c = '\x7d' || c = '#' then return ()
    else
      let _ ← next?
      fail "extra characters after command"

/-- Reads the name of a file or a label up to the end of the line. -/
def restOfLine : Reader String := do
  skipBlanks
  return String.ofList (← takeWhile (· ≠ '\n'))

/-- Reads a label that a jump leads to. -/
def labelName : Reader String := do
  skipBlanks
  let name ← takeWhile fun c => c ≠ '\n' && c ≠ ';' && c ≠ '\x7d'
  return String.ofList ((name.reverse.dropWhile isBlank).reverse)

/-- The lines of a text to add, with backslashes removed. A backslash before the end of a line goes
on with the next one. -/
def textLines : Nat → List Char → List Char × List Char
  | 0, cs => ([], cs)
  | _ + 1, [] => ([], [])
  | _ + 1, ['\\'] => ([], [])
  | fuel + 1, '\\' :: '\n' :: rest =>
    let (text, after) := textLines fuel rest
    ('\n' :: text, after)
  | fuel + 1, '\\' :: c :: rest =>
    match commonEscape? (c :: rest) with
    | some (d, rest) =>
      let (text, after) := textLines fuel rest
      (d :: text, after)
    | none =>
      let (text, after) := textLines fuel rest
      (c :: text, after)
  | _ + 1, '\n' :: rest => ([], rest)
  | fuel + 1, c :: rest =>
    let (text, after) := textLines fuel rest
    (c :: text, after)

/-- Reads the text of a command that adds lines. -/
def textArgument : Reader String := do
  skipBlanks
  match ← peek? with
  | none => fail "expected \\ after \x60a', \x60c' or \x60i'"
  | some '\\' =>
    let _ ← next?
    if (← peek?) = some '\n' then
      let _ ← next?
    else if (← peek?).isNone then return ""
  | some _ => pure ()
  let input ← get
  let (text, rest) := textLines (input.chars.length + 1) input.chars
  set (⟨rest, input.place + (input.chars.length - rest.length)⟩ : Input)
  return String.ofList text ++ "\n"

/-- The parts of a replacement. -/
def partsOf : Nat → List Char → List Part
  | 0, _ => []
  | _ + 1, [] => []
  | fuel + 1, '&' :: rest => .group 0 :: partsOf fuel rest
  | fuel + 1, '\\' :: c :: rest =>
    if c.isDigit then .group (c.toNat - '0'.toNat) :: partsOf fuel rest
    else
      match [('U', CaseChange.upper), ('L', .lower), ('u', .upperOne), ('l', .lowerOne),
          ('E', .none)].lookup c with
      | some change => .changeCase change :: partsOf fuel rest
      | none =>
        match commonEscape? (c :: rest) with
        | some (d, rest) => .text [d] :: partsOf fuel rest
        | none => .text [c] :: partsOf fuel rest
  | fuel + 1, c :: rest => .text [c] :: partsOf fuel rest

/-- The highest group that a replacement names. -/
def highestGroup (parts : List Part) : Nat :=
  parts.foldl (fun n p =>
    match p with
    | .group i => max n i
    | _ => n) 0

/-- Reads the flags of a substitution. -/
def substitutionFlags (parts : List Part) : Reader Substitution := do
  let mut s : Substitution := ⟨⟨none, false, false⟩, parts, false, 0, false, none⟩
  for _ in [0:(← get).chars.length + 1] do
    match ← peek? with
    | none => break
    | some c =>
      if c = 'g' then
        let _ ← next?
        if s.everywhere then fail "multiple \x60g' options to \x60s' command"
        s := { s with everywhere := true }
      else if c = 'p' then
        let _ ← next?
        if s.prints then fail "multiple \x60p' options to \x60s' command"
        s := { s with prints := true }
      else if c = 'i' || c = 'I' then
        let _ ← next?
        s := { s with wanted := { s.wanted with ignoreCase := true } }
      else if c = 'm' || c = 'M' then
        let _ ← next?
        s := { s with wanted := { s.wanted with byLines := true } }
      else if c.isDigit then
        if s.number ≠ 0 then fail "multiple number options to \x60s' command"
        let n ← number
        if n = 0 then fail "number option to \x60s' command may not be zero"
        s := { s with number := n }
      else if c = 'w' then
        let _ ← next?
        let path ← restOfLine
        if path = "" then fail "missing filename in r/R/w/W commands"
        s := { s with file? := some path }
        break
      else if c = '\n' || c = ';' then
        let _ ← next?
        break
      else if c = '\x7d' || c = '#' then break
      else if isBlank c then skipBlanks
      else
        let _ ← next?
        fail "unknown option to \x60s'"
  return s

/-- Reads a substitution, after its letter. -/
def substitution (style : Style) : Reader Substitution := do
  let lacking := "unterminated \x60s' command"
  match ← next? with
  | none => fail lacking
  | some mark =>
    if mark = '\n' || mark = '\\' then fail lacking
    let pattern ← upTo mark true lacking
    let replacement ← upTo mark false lacking
    let parts := partsOf (replacement.length + 1) replacement
    let s ← substitutionFlags parts
    let regex? ← regexOf style pattern
    let groups := (regex?.map Regex.groupCount).getD 9
    if groups < highestGroup parts then
      fail ("invalid reference \\" ++ Nat.repr (highestGroup parts) ++ " on \x60s' command's RHS")
    return { s with wanted := { s.wanted with regex? := regex? } }

/-- The characters of an exchange, where a backslash protects the next one. -/
def exchangeChars : Nat → List Char → List Char
  | 0, _ => []
  | _ + 1, [] => []
  | fuel + 1, '\\' :: c :: rest =>
    match commonEscape? (c :: rest) with
    | some (d, rest) => d :: exchangeChars fuel rest
    | none =>
      if c = '\\' then '\\' :: exchangeChars fuel rest
      else '\\' :: c :: exchangeChars fuel rest
  | fuel + 1, c :: rest => c :: exchangeChars fuel rest

/-- Reads an exchange of characters, after its letter. -/
def exchange : Reader Action := do
  let lacking := "unterminated \x60y' command"
  match ← next? with
  | none => fail lacking
  | some mark =>
    let a ← upTo mark false lacking
    let b ← upTo mark false lacking
    let (old, new) := (exchangeChars (a.length + 1) a, exchangeChars (b.length + 1) b)
    if old.length ≠ new.length then fail "strings for \x60y' command are different lengths"
    endOfCommand
    return .exchangeChars (old.zip new)

/-- Reads a number that may follow a command. -/
def optionalNumber : Reader (Option Nat) := do
  skipBlanks
  let digits ← takeWhile Char.isDigit
  return if digits.isEmpty then none else some (Text.digitsValue digits)

/-- Reads the name of a file. -/
def fileName : Reader String := do
  let path ← restOfLine
  if path = "" then fail "missing filename in r/R/w/W commands"
  let _ ← next?
  return path

/-- A command without arguments. -/
def simpleAction? : Char → Option Action
  | 'd' => some .delete
  | 'D' => some .deleteFirst
  | 'p' => some .print
  | 'P' => some .printFirst
  | '=' => some .number
  | 'F' => some .name
  | 'g' => some .get
  | 'G' => some .getMore
  | 'h' => some .hold
  | 'H' => some .holdMore
  | 'x' => some .exchange
  | 'n' => some .next
  | 'N' => some .nextMore
  | 'z' => some .empty
  | _ => none

/-- Reads a command, after its letter. -/
def action (style : Style) (c : Choice) (letter : Char) : Reader Action := do
  let oneAddress : Reader Unit :=
    if c.last?.isSome then fail "command only uses one address" else pure ()
  match simpleAction? letter with
  | some a =>
    endOfCommand
    return a
  | none =>
    match letter with
    | 'a' => do return .append (← textArgument)
    | 'i' => do return .insert (← textArgument)
    | 'c' => do return .change (← textArgument)
    | 's' => do return .substitute (← substitution style)
    | 'y' => exchange
    | 'b' => do
      let name ← labelName
      endOfCommand
      return .jump name
    | 't' => do
      let name ← labelName
      endOfCommand
      return .jumpIfChanged name
    | 'T' => do
      let name ← labelName
      endOfCommand
      return .jumpIfUnchanged name
    | ':' => do
      if c.first?.isSome then fail ": doesn't want any addresses"
      skipBlanks
      let name := String.ofList (← takeWhile fun ch => !isBlank ch && ch ≠ '\n' && ch ≠ ';')
      if name = "" then fail "\":\" lacks a label"
      return .label name
    | 'q' => do
      oneAddress
      let n? ← optionalNumber
      endOfCommand
      return .quit (n?.getD 0)
    | 'Q' => do
      oneAddress
      let n? ← optionalNumber
      endOfCommand
      return .quitSilently (n?.getD 0)
    | 'l' => do
      let n? ← optionalNumber
      endOfCommand
      return .list n?
    | 'r' => do return .readFile (← fileName)
    | 'R' => do return .readLine (← fileName)
    | 'w' => do return .writeFile (← fileName)
    | 'W' => do return .writeFirst (← fileName)
    | ch => fail ("unknown command: \x60" ++ ch.toString ++ "'")

/-- Closes the innermost block: its start learns where it ends. -/
def closeBlock (commands : Array Command) (start : Nat) : Array Command :=
  commands.modify start fun c => { c with action := .enter commands.size }

/-- Reads a script. -/
def script (style : Style) : Reader (Array Command) := do
  let mut commands : Array Command := #[]
  let mut blocks : List Nat := []
  for _ in [0:(← get).chars.length + 2] do
    skipSpace
    if (← peek?).isNone then
      match blocks with
      | [] => return commands
      | _ =>
        modify fun input => { input with place := 0 }
        fail "unmatched \x60\x7b'"
    let c ← choice style
    match ← next? with
    | none => fail "missing command"
    | some '#' =>
      if c.first?.isSome then fail "comments don't accept any addresses"
      let _ ← takeWhile (· ≠ '\n')
    | some '\x7b' =>
      blocks := commands.size :: blocks
      commands := commands.push ⟨c, .enter 0⟩
    | some '\x7d' =>
      match blocks with
      | [] => fail "unexpected \x60\x7d'"
      | start :: more =>
        if c.first?.isSome then fail "\x7d doesn't want any addresses"
        blocks := more
        commands := closeBlock commands start
        endOfCommand
    | some letter =>
      if letter = '\n' || letter = ';' then fail "missing command"
      commands := commands.push ⟨c, ← action style c letter⟩
  return commands

/-- Where a label is. -/
def labelPlace? (commands : Array Command) (name : String) : Option Nat :=
  commands.toList.findIdx? fun c =>
    match c.action with
    | .label n => n = name
    | _ => false

/-- A label that a jump leads to but that is nowhere. -/
def missingLabel? (commands : Array Command) : Option String :=
  commands.toList.findSome? fun c =>
    match c.action with
    | .jump n | .jumpIfChanged n | .jumpIfUnchanged n =>
      if n ≠ "" && (labelPlace? commands n).isNone then some n else none
    | _ => none

/-- Reads a whole script. -/
def ofText (style : Style) (text : String) : Except Fault (Array Command) :=
  match (script style).run ⟨Text.wide style.utf8 text, 0⟩ with
  | .ok (commands, _) => .ok commands
  | .error f => .error f

end Looplet.Utility.Edit
