import Looplet.Shell.Layout
import Looplet.Text.Bytes
import Looplet.Text.Decimal

/-!
# Reading words and symbols

A script is read from left to right. A backslash before a line feed joins two lines everywhere but
in single quotes. A here-document is taken out of the input as soon as its operator is read, and
its lines are counted when the line of the operator ends.

What a word may contain depends on where it stands (`Setting`), and commands may stand inside
words. Readers that need each other therefore get each other as an argument (`Grammar`).
-/

namespace Looplet.Shell

/-- A script that cannot be read: what is said about it, each with a line. Some faults spoil only
the line at hand: then `rest?` is what can still be read, with its line. -/
structure SyntaxError where
  messages : List (Nat × String)
  rest? : Option (List Char × Nat)
  deriving DecidableEq

/-- The line where the fault was found. -/
def SyntaxError.line (e : SyntaxError) : Nat := (e.messages.head?.map Prod.fst).getD 0

/-- A symbol of a script. -/
inductive Symbol where
  | ending
  | newline
  | semicolon
  | ampersand
  | andIf
  | orIf
  | bar
  | barBoth
  | openParen
  | closeParen
  | endCase (after : CaseEnd)
  | word (word : Word)
  | reserved (name : String)
  | redirect (fd : Nat) (mode : OpenMode)
  | duplicate (fd : Nat) (mayBeBoth reads : Bool)
  | document (fd : Nat) (strip : Bool)
  | quotedInput (fd : Nat)
  | bothOutputs (append : Bool)
  | named (name : String) (symbol : Symbol)

/-- How a message names a symbol. -/
def Symbol.describe : Symbol → String
  | ending => "end of file"
  | newline => "newline"
  | semicolon => "\";\""
  | ampersand => "\"&\""
  | andIf => "\"&&\""
  | orIf => "\"||\""
  | bar => "\"|\""
  | barBoth => "\"|&\""
  | openParen => "\"(\""
  | closeParen => "\")\""
  | endCase _ => "\";;\""
  | word _ => "word"
  | reserved name => "\"" ++ name ++ "\""
  | _ => "redirection"

/-- Where a symbol stands: what the script is before it and after it, and its line with what the
script is at the start of that. -/
structure Site where
  before : List Char
  after : List Char
  line : Nat
  lineStart : List Char

/-- A text between the quotes of messages. -/
def inMarks (s : String) : String := "\x60" ++ s ++ "'"

/-- The line at hand as a message. -/
def Site.lineText (site : Site) : Nat × String :=
  (site.line, inMarks (String.ofList (site.lineStart.takeWhile (· ≠ '\n'))))

/-- The text of a symbol. -/
def Site.text (site : Site) : String :=
  let text := String.ofList (site.before.take (site.before.length - site.after.length))
  if text = "\n" then "newline" else text

/-- What is wrong with a symbol that cannot stand where it does. -/
def Site.messages (site : Site) : List (Nat × String) :=
  [(site.line, "syntax error near unexpected token " ++ inMarks site.text), site.lineText]

/-- What remains of a script: its characters, the number of its next line, how many lines of
here-documents to count when the line ends, and a symbol that has been read ahead. Some shells
know a few more operators than others. A word may have another meaning: its `aliases` are texts
that are read in its place. While that text is read the word stands for itself, so an active word is
kept with how many characters there are after its text. -/
structure Input where
  chars : List Char
  line : Nat
  held : Nat
  ahead? : Option Symbol
  extended : Bool
  /-- Whether patterns may have alternatives in parentheses. -/
  alternatives : Bool
  /-- What the script is at the start of the line at hand. -/
  lineStart : List Char
  /-- Where the last symbol stands. -/
  site : Site
  /-- What is said although the script can be read. -/
  warnings : List (Nat × String)
  aliases : List (String × String)
  active : List (String × Nat)
  /-- Where the text of a word ends after which the next word may have another meaning too. -/
  chain? : Option Nat
  /-- Parts of the last symbol that are written in another way: how many characters there are from
  the start of a part on, how many after its end, and what is written. -/
  respelled : List (Nat × Nat × String)
  /-- Whether the commands in words are written as they are shown. -/
  settled : Bool

/-- The input at the start of a text. -/
def Input.ofText (text : String) (line : Nat) (extended alternatives : Bool)
    (aliases : List (String × String)) : Input where
  chars := text.toList
  line := line
  held := 0
  ahead? := none
  extended := extended
  alternatives := alternatives
  lineStart := text.toList
  site := ⟨text.toList, text.toList, line, text.toList⟩
  warnings := []
  aliases := aliases
  active := []
  chain? := none
  respelled := []
  settled := !extended

/-- Reads a part of the input. -/
abbrev Reader := StateT Input (Except SyntaxError)

/-- Where the pieces of a word stand, which decides what ends them and what they may contain. -/
inductive Setting where
  | word
  | quotes
  | braces (quoted : Bool)
  | document
  | arithmetic
  | subscript
  | regex
  | alternatives
  deriving DecidableEq

/-- Which end a list of commands has: the end of its line, or a symbol that cannot start a command
after at least one command, or after none. -/
inductive ListEnd where
  | line
  | block
  | clause
  deriving DecidableEq

/-- The readers that call themselves, and a bound on how often anything can be repeated. -/
structure Grammar where
  limit : Nat
  list : ListEnd → Reader Command
  pieces : Setting → Reader Word

namespace Reader

/-- Fails with messages for lines. -/
def failWith {α : Type} (messages : List (Nat × String)) : Reader α := throw ⟨messages, none⟩

/-- Fails because of the last symbol. -/
def unexpectedToken {α : Type} : Reader α := do failWith (← get).site.messages

/-- Fails because of the last symbol, after commands whose here-documents are read before that. -/
def unexpectedAfterDocuments {α : Type} : Reader α := do
  let input ← get
  let site := { input.site with line := input.site.line + input.held }
  failWith (input.warnings ++ site.messages)

/-- Fails because the script ends too soon. -/
def unexpectedEnd {α : Type} : Reader α := do
  let input ← get
  failWith (input.warnings ++ [(input.line, "syntax error: unexpected end of file")])

/-- Fails at the line at hand. -/
def fail {α : Type} (message : String) : Reader α := do
  let input ← get
  if input.extended then unexpectedToken
  else failWith [(input.line, "Syntax error: " ++ message)]

/-- Fails because something that was opened in a line is not closed by a sign. -/
def unclosed {α : Type} (line : Nat) (sign message : String) : Reader α := do
  let input ← get
  if input.extended then
    failWith (input.warnings
      ++ [(line, "unexpected EOF while looking for matching " ++ inMarks sign)])
  else failWith [(input.line, "Syntax error: " ++ message)]

/-- Fails because a symbol cannot stand where it does. A long message is cut off. -/
def unexpected {α : Type} (found : Symbol) (expected? : Option Symbol) : Reader α := do
  let message := found.describe ++ " unexpected" ++
    match expected? with
    | some s => " (expecting " ++ s.describe ++ ")"
    | none => ""
  match (← get).extended, found with
  | true, .ending => unexpectedEnd
  | _, _ => fail (String.ofList (message.toList.take 63))

/-- Characters without joined lines at their start, and how many lines were joined. -/
def joined : List Char → List Char × Nat
  | '\\' :: '\n' :: cs => let (rest, n) := joined cs; (rest, n + 1)
  | cs => (cs, 0)

/-- Joins the lines at hand. -/
def join : Reader Unit := modify fun input =>
  let (rest, n) := joined input.chars
  if n = 0 then input
  else { input with chars := rest, line := input.line + n, lineStart := rest }

/-- The next character as it stands. -/
def nextRaw : Reader (Option Char) := do
  let input ← get
  match input.chars with
  | [] => return none
  | c :: cs =>
    set { input with
      chars := cs,
      line := if c = '\n' then input.line + 1 + input.held else input.line,
      lineStart := if c = '\n' then cs else input.lineStart,
      held := if c = '\n' then 0 else input.held }
    return some c

/-- The next character after joining lines. -/
def next : Reader (Option Char) := do join; nextRaw

/-- The next character after joining lines; a line feed is not counted. -/
def nextUncounted : Reader (Option Char) := do
  join
  let input ← get
  match input.chars with
  | [] => return none
  | c :: cs =>
    set { input with chars := cs }
    return some c

/-- Looks at the next character. -/
def peek : Reader (Option Char) := do
  join
  return (← get).chars.head?

/-- Takes the next character if it is the given one. -/
def take (c : Char) : Reader Bool := do
  if (← peek) = some c then
    let _ ← next
    return true
  else return false

/-- Takes the next character if it is the given one and the shell knows more than the standard. -/
def takeExtended (c : Char) : Reader Bool := do
  if (← get).extended then take c else return false

/-- Looks at the character after the next one. -/
def peekSecond : Reader (Option Char) := do
  join
  return ((← get).chars.drop 1).head?

/-- Takes characters of a class. -/
def takeWhile (limit : Nat) (p : Char → Bool) : Reader String := do
  let mut taken := ""
  for _ in [0:limit] do
    match ← peek with
    | some c =>
      if p c then
        let _ ← next
        taken := taken.push c
      else return taken
    | none => return taken
  return taken

end Reader

open Reader

/-! ## Symbols -/

/-- Reads the rest of a redirection, after its first sign. -/
def redirection (fd? : Option Nat) (sign : Char) : Reader Symbol := do
  if sign = '>' then
    let fd := fd?.getD 1
    if ← take '>' then return .redirect fd .append
    else if ← take '|' then return .redirect fd .clobber
    else if ← take '&' then return .duplicate fd ((← get).extended && fd?.isNone) false
    else return .redirect fd .output
  else
    let fd := fd?.getD 0
    if ← take '<' then
      if ← takeExtended '<' then return .quotedInput fd
      else return .document fd (← take '-')
    else if ← take '&' then return .duplicate fd false true
    else if ← take '>' then return .redirect fd .both
    else return .redirect fd .input

/-- The name in a text of the form `\x7bname\x7d`. -/
def nameInBraces? (s : String) : Option String :=
  match s.toList with
  | '\x7b' :: cs =>
    let name := String.ofList cs.dropLast
    if cs.getLast? = some '\x7d' && isName name then some name else none
  | _ => none

/-- Reads a word, or a redirection that a digit or a name in braces starts. -/
def wordOrRedirection (g : Grammar) : Reader Symbol := do
  let w ← g.pieces .word
  match ← peek with
  | some c =>
    if c = '<' || c = '>' then
      match w, plain? w with
      | [], _ =>
        let _ ← next
        redirection none c
      | _, some s =>
        let extended := (← get).extended
        let name? := if extended then nameInBraces? s else none
        if s.length ≤ (if extended then 9 else 1) && s.toList.all Char.isDigit then
          let _ ← next
          redirection (some (Text.digitsValue s.toList)) c
        else if let some name := name? then
          let _ ← next
          return .named name (← redirection none c)
        else return .word w
      | _, none => return .word w
    else return .word w
  | none => return .word w

/-- Passes over blanks and comments. -/
def skipBlanks (limit : Nat) : Reader Unit := do
  for _ in [0:limit] do
    match ← peek with
    | some ' ' => let _ ← next
    | some '\t' => let _ ← next
    | some '#' =>
      modify fun input => { input with chars := input.chars.dropWhile (· ≠ '\n') }
      return
    | _ => return

/-- Reads the next symbol of the text, at which it starts. -/
def symbolHere (g : Grammar) : Reader Symbol := do
  match ← peek with
  | none => return .ending
  | some c =>
    if c = '\n' then
      let _ ← next
      return .newline
    else if c = '&' then
      let _ ← next
      if ← take '&' then return .andIf
      else if ← takeExtended '>' then return .bothOutputs (← take '>')
      else return .ampersand
    else if c = '|' then
      let _ ← next
      if ← take '|' then return .orIf
      else return if ← takeExtended '&' then .barBoth else .bar
    else if c = ';' then
      let _ ← next
      if ← take ';' then return .endCase (if ← takeExtended '&' then .lookOn else .stop)
      else return if ← takeExtended '&' then .endCase .fallThrough else .semicolon
    else if c = '(' then
      let _ ← next
      return .openParen
    else if c = ')' then
      let _ ← next
      return .closeParen
    else wordOrRedirection g

/-- Reads the next symbol of the text, and takes note of where it stands. -/
def symbolOfText (g : Grammar) : Reader Symbol := do
  skipBlanks g.limit
  modify fun input => { input with respelled := [] }
  let before ← get
  let s ← symbolHere g
  modify fun input => { input with
    site := ⟨before.chars, input.chars, before.line, before.lineStart⟩ }
  return s

/-- The next symbol, which may have been read ahead. -/
def anySymbol (g : Grammar) : Reader Symbol := do
  match (← get).ahead? with
  | some s =>
    modify fun input => { input with ahead? := none }
    return s
  | none => symbolOfText g

/-- A word that has a meaning of its own. -/
def Symbol.withReserved (extended : Bool) : Symbol → Symbol
  | .word w =>
    match plain? w with
    | some s =>
      if s ∈ reservedWords || (extended && s ∈ extraReservedWords) then .reserved s else .word w
    | none => .word w
  | s => s

/-- The next symbol where reserved words may stand. -/
def symbol (g : Grammar) : Reader Symbol := do
  return (← anySymbol g).withReserved (← get).extended

/-- The next symbol after ends of lines, where reserved words may stand. -/
def symbolAfterLines (g : Grammar) : Reader Symbol := do
  for _ in [0:g.limit] do
    match ← anySymbol g with
    | .newline => pure ()
    | s => return s.withReserved (← get).extended
  return .ending

/-- Gives a symbol back. -/
def giveBack (s : Symbol) : Reader Unit :=
  modify fun input => { input with ahead? := some s }

/-- Whether there is a backslash before a line feed. -/
def hasJoin : List Char → Bool
  | '\\' :: '\n' :: _ => true
  | _ :: cs => hasJoin cs
  | [] => false

/-- Characters with their lines joined. -/
def allJoined : List Char → List Char
  | '\\' :: '\n' :: cs => allJoined cs
  | '\\' :: c :: cs => '\\' :: c :: allJoined cs
  | c :: cs => c :: allJoined cs
  | [] => []

/-- Characters up to a number of those after them, with some parts written in another way. -/
def respelledText (parts : List (Nat × Nat × String)) (stop : Nat) : Nat → List Char → String
  | 0, _ => ""
  | _ + 1, [] => ""
  | fuel + 1, c :: cs =>
    let size := cs.length + 1
    if size ≤ stop then ""
    else
      match parts.find? fun part => part.1 = size with
      | some (_, after, text) => text ++ respelledText parts stop fuel (cs.drop (cs.length - after))
      | none =>
        let next := parts.foldl (fun n part => if part.1 < size then max n part.1 else n) stop
        String.ofList (allJoined ((c :: cs).take (size - next)))
          ++ respelledText parts stop fuel ((c :: cs).drop (size - next))

/-- Takes note that a part of the symbol at hand is written in another way, from where there were
some number of characters more up to here. -/
def respell (size : Nat) (text : String) : Reader Unit :=
  modify fun input => { input with
    respelled := input.respelled ++ [(size, input.chars.length, text)] }

/-- How the word is written that was read last. -/
def writtenWord : Reader String := do
  let input ← get
  let site := input.site
  return respelledText input.respelled site.after.length (2 * input.respelled.length + 2)
    site.before

/-! ## Aliases -/

/-- Puts the text that a word stands for in its place, if it stands for one. -/
def replaceAlias (w : Word) : Reader Bool := do
  let input ← get
  match plain? w with
  | none => return false
  | some name =>
    match input.aliases.lookup name with
    | none => return false
    | some value =>
      let left := input.chars.length
      let active := input.active.filter fun a => a.2 < left
      if active.any fun a => a.1 = name then return false
      else
        let ends := value.toList.getLast?
        set { input with
          chars := value.toList ++ input.chars,
          active := (name, left) :: active,
          chain? := if ends = some ' ' || ends = some '\t' then some left else none }
        return true

/-- Whether the word that has just been read follows a text that lets it have another meaning;
`before` is how many characters there were before it. -/
def followsAlias (before : Nat) : Reader Bool := do
  let input ← get
  match input.chain? with
  | some left => return left ≤ before && input.chars.length < left
  | none => return false

/-! ## Pieces -/

/-- Adds a piece to a word; texts of one kind grow together. -/
def addPiece (w : List Piece) (p : Piece) : List Piece :=
  match w.getLast?, p with
  | some (.text q s), .text q' s' =>
    if q = q' then w.dropLast ++ [.text q (s ++ s')] else w ++ [p]
  | _, _ => w ++ [p]

/-- The parameters that are named by one sign. -/
def specialNames : List Char := ['#', '?', '$', '!', '-', '*', '@']

/-- Whether a setting is quoted as a whole. -/
def Setting.isQuoted : Setting → Bool
  | .word => false
  | .subscript => false
  | .regex => false
  | .alternatives => false
  | .braces quoted => quoted
  | _ => true

/-- Reads the text of single quotes. -/
def singleQuoted (limit : Nat) : Reader String := do
  let line := (← get).line
  let mut text := ""
  for _ in [0:limit] do
    match ← nextRaw with
    | some '\'' => return text
    | some c => text := text.push c
    | none => unclosed line "'" "Unterminated quoted string"
  return text

/-- The escapes between quotes after a dollar sign that are single letters. -/
def letterEscapes : List (Char × Char) :=
  [('a', '\x07'), ('b', '\x08'), ('e', '\x1b'), ('f', '\x0c'), ('n', '\n'), ('r', '\r'),
    ('t', '\t'), ('v', '\x0b')]

/-- Takes up to a number of digits in a base. -/
def takeDigits (base limit : Nat) : Reader (List Char) := do
  let input ← get
  let digits := (input.chars.take limit).takeWhile (Text.isDigitIn base)
  set { input with chars := input.chars.drop digits.length }
  return digits

/-- The character that an escape between such quotes stands for, after its backslash. -/
def dollarEscape : Reader String := do
  match ← nextRaw with
  | none => return "\\"
  | some c =>
    match letterEscapes.lookup c with
    | some d => return d.toString
    | none =>
      if c ∈ ['\\', '\'', '"', '?'] then return c.toString
      else if c = 'E' then return "\x1b"
      else if '0' ≤ c && c ≤ '7' then
        let digits ← takeDigits 8 2
        return (Char.ofNat (Text.valueIn 8 (c :: digits) % 256)).toString
      else if c = 'x' then
        let digits ← takeDigits 16 2
        return if digits.isEmpty then "\\x" else (Char.ofNat (Text.valueIn 16 digits)).toString
      else if c = 'u' || c = 'U' then
        let digits ← takeDigits 16 (if c = 'u' then 4 else 8)
        return if digits.isEmpty then "\\" ++ c.toString
          else Text.encoded (Char.ofNat (Text.valueIn 16 digits)).toString
      else if c = 'c' then
        match ← nextRaw with
        | some d => return (Char.ofNat (d.toUpper.toNat % 32)).toString
        | none => return "\\c"
      else return "\\" ++ c.toString

/-- Reads the text of single quotes after a dollar sign, in which a backslash starts an escape. -/
def dollarQuoted (limit : Nat) : Reader String := do
  let line := (← get).line
  let mut text := ""
  for _ in [0:limit] do
    match ← nextRaw with
    | some '\'' => return text
    | some '\\' => text := text ++ (← dollarEscape)
    | some c => text := text.push c
    | none => unclosed line "'" "Unterminated quoted string"
  return String.ofList (text.toList.takeWhile (· ≠ '\x00'))

/-- Reads what stands between back quotes, without the backslashes that protect it. -/
def backQuoted (limit : Nat) (inQuotes : Bool) : Reader String := do
  let line := (← get).line
  let mut text := ""
  for _ in [0:limit] do
    match ← next with
    | some '\x60' => return text
    | some '\\' =>
      match ← nextRaw with
      | some c =>
        if c ∈ ['\\', '\x60', '$'] || (inQuotes && c = '"') then text := text.push c
        else text := (text.push '\\').push c
      | none => text := text.push '\\'
    | some c => text := text.push c
    | none => unclosed line "\x60" "EOF in backquote substitution"
  return text

/-- Reads the commands between back quotes. Their lines are counted anew. A shell that knows more
than the standard does not mind yet if they cannot be read; one of the standard does not mind what
follows them. -/
def backQuotedCommand (g : Grammar) (inQuotes : Bool) : Reader (Nat × Command) := do
  let text ← backQuoted g.limit inQuotes
  let here ← get
  let inner := Input.ofText text 1 here.extended here.alternatives here.aliases
  let body : Reader (Command × Symbol) := do
    let c ← g.list .clause
    return (c, ← symbol g)
  match body.run inner with
  | .ok ((c, .ending), _) => return (1, c)
  | .ok ((c, _), _) => return (1, if here.extended then .kept text else c)
  | .error e => if here.extended then return (1, .kept text) else throw e

/-- Reads a number to be computed, if the parenthesis at hand starts one: the parentheses at its end
must stand together where the shell knows more than the standard. Gives how it is written too. -/
def arithmetic? (g : Grammar) : Reader (Option (Word × String)) := do
  if (← peek) ≠ some '(' then return none
  else
    let here ← get
    let read : Reader Word := do
      let _ ← next
      g.pieces .arithmetic
    match read.run here with
    | .ok (e, rest) =>
      set rest
      let size := here.chars.length - rest.chars.length
      return some (e, String.ofList (((here.chars.take size).drop 1).take (size - 3)))
    | .error e => if e.messages.isEmpty then return none else throw e

/-- Reads the commands after a sign and a parenthesis, and the parenthesis after them. -/
def parenthesised (g : Grammar) : Reader Command := do
  let c ← g.list .clause
  match ← symbol g with
  | .closeParen => return c
  | .ending => do unclosed (← get).line ")" (Symbol.ending.describe
      ++ " unexpected (expecting \")\")")
  | t => unexpected t (some .closeParen)

/-- Reads the commands after a sign and a parenthesis, and the parenthesis after them. Gives their
first line too. They are written anew when they are shown, and the lines of that text count where
commands are kept as text until they are run. -/
def substitution (g : Grammar) : Reader (Nat × Command) := do
  let before ← get
  let c ← parenthesised g
  let text := substitutedText c
  modify fun input => { input with respelled := before.respelled }
  respell before.chars.length text
  if before.settled then return (before.line, c)
  else
    let shown := { Input.ofText text 1 before.extended before.alternatives [] with settled := true }
    match (g.list .clause).run shown with
    | .ok (c, _) => return (1, c)
    | .error _ => return (before.line, c)

/-- A name, with a subscript after it where the shell knows those. -/
def subscripted (g : Grammar) : Reader Parameter := do
  let name ← takeWhile g.limit isNameChar
  if ← takeExtended '[' then
    let subscript ← g.pieces .subscript
    match plain? subscript with
    | some "@" => return .all name false
    | some "*" => return .all name true
    | _ => return .element name subscript
  else return .plain name

/-- A parameter whose value names what is meant, after the sign that says so. -/
def indirectName (g : Grammar) : Reader Parameter := do
  match ← peek with
  | some c =>
    if isNameStart c then
      match ← subscripted g with
      | .all name joined => return .keys name joined
      | .plain name =>
        match ← peek, ← peekSecond with
        | some '*', some '\x7d' =>
          let _ ← next
          return .names name true
        | some '@', some '\x7d' =>
          let _ ← next
          return .names name false
        | _, _ => return .indirect (.plain name)
      | p => return .indirect p
    else if c.isDigit then return .indirect (.plain (← takeWhile g.limit Char.isDigit))
    else if c ∈ ['#', '@', '*', '?', '-'] then
      let _ ← next
      return .indirect (.plain c.toString)
    else return .plain "!"
  | none => return .plain "!"

/-- The parameter in braces and whether its length is meant; nothing if there is no name. -/
def bracedName (g : Grammar) : Reader (Option Parameter × Bool) := do
  let number : Reader Parameter := do return .plain (← takeWhile g.limit Char.isDigit)
  match ← peek with
  | none => return (none, false)
  | some c =>
    if isNameStart c then return (some (← subscripted g), false)
    else if c.isDigit then return (some (← number), false)
    else if c = '\x7d' then return (none, false)
    else
      let _ ← next
      if c = '#' then
        match ← peek with
        | none => return (some (.plain "#"), false)
        | some d =>
          if isNameChar d then
            if d.isDigit then return (some (← number), true)
            else return (some (← subscripted g), true)
          else
            let before ← get
            let _ ← next
            if d ≠ '\x7d' && (← peek) = some '\x7d' && d ∈ specialNames then
              return (some (.plain d.toString), true)
            else
              set before
              return (some (.plain "#"), false)
      else if c = '!' && (← get).extended then return (some (← indirectName g), false)
      else if c ∈ specialNames then return (some (.plain c.toString), false)
      else return (none, false)

/-- Reads the rest of braces that are written wrongly. -/
def wrongUse (g : Grammar) (quoted : Bool) : Reader Use := do
  let _ ← g.pieces (.braces quoted)
  return .wrong ""

/-- Reads an operator on a parameter in braces that depends on whether the parameter is set. -/
def settingUse (g : Grammar) (quoted orEmpty : Bool) (c : Char) : Reader Use := do
  let w ← g.pieces (.braces quoted)
  if c = '-' then return .default orEmpty w
  else if c = '=' then return .assign orEmpty w
  else if c = '?' then return .require orEmpty w
  else if c = '+' then return .replace orEmpty w
  else return .wrong ""

/-- Divides the pieces of a word at the first place of a character in its text, which may be quoted
or not. -/
def divideAt (alsoQuoted : Bool) (c : Char) : Word → Word × Option Word
  | [] => ([], none)
  | .text quoted s :: rest =>
    if s.toList.contains c && (alsoQuoted || !quoted) then
      let before := s.toList.takeWhile (· ≠ c)
      ([.text quoted (String.ofList before)],
        some (.text quoted (String.ofList (s.toList.drop (before.length + 1))) :: rest))
    else
      let (first, second?) := divideAt alsoQuoted c rest
      (.text quoted s :: first, second?)
  | piece :: rest =>
    let (first, second?) := divideAt alsoQuoted c rest
    (piece :: first, second?)

/-- Reads the rest of a replacement in braces. The pattern may start with the sign that says where
it is looked for, which is then no part of it. -/
def replacementUse (g : Grammar) : Reader Use := do
  let spread : Spread ← if ← take '/' then pure .everywhere
    else if ← take '#' then pure .atStart
    else if ← take '%' then pure .atEnd
    else pure .once
  let (pattern, replacement?) := divideAt false '/' (← g.pieces (.braces false))
  return .substitute spread pattern (replacement?.getD [])

/-- Reads an operator on a parameter in braces that not all shells know. -/
def extendedUse? (g : Grammar) (quoted : Bool) (c : Char) : Reader (Option Use) := do
  if !(← get).extended then return none
  else
    match [('^', CaseChange.upper), (',', .lower), ('~', .turned)].lookup c with
    | some change =>
      let all ← take c
      return some (.changeCase change all (← g.pieces (.braces false)))
    | none =>
      if c = '/' then return some (← replacementUse g)
      else if c = '@' then
        match ← peek, ← peekSecond with
        | some d, some '\x7d' =>
          let _ ← next
          let _ ← next
          return some (if d ∈ "QEPAKaUuLk".toList then .transform d else .wrong "")
        | _, _ => return none
      else if c = ':' then
        match ← peek with
        | some d =>
          if d ∈ ['-', '=', '?', '+'] then return none
          else
            let (offset, length?) := divideAt true ':' (← g.pieces (.braces quoted))
            return some (.slice offset length?)
        | none => return none
      else return none

/-- Reads what is done with a parameter in braces, up to the closing brace. -/
def bracedUse (g : Grammar) (quoted : Bool) : Reader Use := do
  match ← nextUncounted with
  | none => wrongUse g quoted
  | some '\x7d' => return .value false
  | some '%' =>
    let longest ← take '%'
    return .trim true longest (← g.pieces (.braces false))
  | some '#' =>
    let longest ← take '#'
    return .trim false longest (← g.pieces (.braces false))
  | some c =>
    match ← extendedUse? g quoted c with
    | some use => return use
    | none =>
      if c = ':' then
        match ← next with
        | some d => settingUse g quoted true d
        | none => wrongUse g quoted
      else settingUse g quoted false c

/-- Reads a parameter in braces, after the opening one. -/
def bracedParameter (g : Grammar) (quoted : Bool) : Reader Piece := do
  let start := (← get).chars
  let piece : Piece ← match ← bracedName g with
    | (none, _) => do pure (.param quoted (.plain "") (← wrongUse g quoted))
    | (some target, true) => do
      let rest ← g.pieces (.braces quoted)
      let fits := rest.isEmpty || !(← get).extended
      pure (.param quoted target (if fits then .length else .wrong ""))
    | (some target, false) => do pure (.param quoted target (← bracedUse g quoted))
  match piece with
  | .param q target (.wrong _) =>
    let written := start.take (start.length - (← get).chars.length)
    return .param q target (.wrong ("$\x7b" ++ String.ofList written))
  | p => return p

/-- Reads an expansion, after its dollar sign. -/
def expansion (g : Grammar) (quoted : Bool) : Reader Piece := do
  match ← peek with
  | none => return .text quoted "$"
  | some c =>
    if c = '(' then
      let _ ← next
      match ← arithmetic? g with
      | some (e, _) => return .number quoted e
      | none =>
        let (first, c) ← substitution g
        return .output quoted first c
    else if c = '[' && (← get).extended then
      let _ ← next
      return .number quoted (← g.pieces .subscript)
    else if c = '\x7b' then
      let _ ← next
      bracedParameter g quoted
    else if isNameStart c then
      return .param quoted (.plain (← takeWhile g.limit isNameChar)) (.value true)
    else if c.isDigit || c ∈ specialNames then
      let _ ← next
      return .param quoted (.plain c.toString) (.value false)
    else return .text quoted "$"

/-- What a backslash and the character after it stand for between quotes. -/
def escapedInQuotes (setting : Setting) (c : Char) : String :=
  let plain := c = '\\' || c = '\x60' || c = '$' || (c = '"' && setting ≠ .document)
    || (c = '\x7d' && setting = .braces true)
  if plain then c.toString else "\\" ++ c.toString

/-- Reads the character after a backslash. -/
def escape (setting : Setting) : Reader Piece := do
  match ← nextRaw with
  | none => return .text true "\\"
  | some c =>
    return .text true (if setting.isQuoted then escapedInQuotes setting c else c.toString)

/-- The sign that a word lacks which does not end, and its fault. -/
def Setting.unended : Setting → Option (String × String)
  | .word => none
  | .document => none
  | .regex => none
  | .quotes => some ("\"", "Unterminated quoted string")
  | .braces true => some ("\x7d", "Unterminated quoted string")
  | .braces false => some ("\x7d", "Missing '\x7d'")
  | .arithmetic => some (")", "Missing '))'")
  | .subscript => some ("]", "Missing ']'")
  | .alternatives => some (")", "Missing ')'")

/-- The characters that end a word. -/
def wordEnds : List Char := [' ', '\t', '\n', ';', '&', '|', '<', '>', '(', ')']

/-- A quoted word that is the list of arguments stands for no field when there are no arguments,
so it is not marked as quoted. -/
def quotedPieces : Word → Word
  | [.param true (.plain "@") use] => [.param true (.plain "@") use]
  | [.param true (.all name false) use] => [.param true (.all name false) use]
  | [.param true (.keys name false) use] => [.param true (.keys name false) use]
  | w => .text true "" :: w

/-- The signs before parentheses that hold alternatives of a pattern. -/
def alternativeSigns : List Char := ['?', '*', '+', '@', '!']

/-- Whether a subscript with blanks starts here: one that is closed before the value of an
assignment. -/
def hasBlankSubscript (cs : List Char) : Bool :=
  match closeBracket 0 [] (cs.takeWhile (· ≠ '\n')) with
  | some (inside, after) =>
    inside.any isSpaceChar && ("=".toList.isPrefixOf after || "+=".toList.isPrefixOf after)
  | none => false

/-- Whether a word is a name so far. -/
def isNameSoFar (w : Word) : Bool := (plain? w).any isName

/-- Whether a character ends a word in a setting. -/
def Setting.isEnd (setting : Setting) (depth : Nat) (c : Char) : Bool :=
  match setting with
  | .word => c ∈ wordEnds
  | .regex => if depth = 0 then c ∈ [' ', '\t', '\n', ';', '&', '<', '>', ')'] else c = '\n'
  | _ => false

/-- Whether a character opens something in a setting that has to be closed. -/
def Setting.opens (setting : Setting) (c : Char) : Bool :=
  match setting with
  | .arithmetic => c = '('
  | .regex => c = '('
  | .alternatives => c = '('
  | .subscript => c = '['
  | _ => false

/-- Whether a character closes something in a setting. -/
def Setting.closes (setting : Setting) (c : Char) : Bool :=
  match setting with
  | .arithmetic => c = ')'
  | .regex => c = ')'
  | .alternatives => c = ')'
  | .subscript => c = ']'
  | .braces _ => c = '\x7d'
  | _ => false

/-- Reads the pieces of a word. Between parentheses or brackets `depth` counts those that are
open. -/
def pieces (g : Grammar) (setting : Setting) : Reader Word := do
  let line := (← get).line
  let extended := (← get).extended
  let mut w : List Piece := []
  let mut depth := 0
  for _ in [0:g.limit] do
    match ← peek with
    | none =>
      match setting.unended with
      | some (sign, message) => unclosed line sign message
      | none => return w
    | some c =>
      if extended && (setting = .word || setting = .regex) && (c = '<' || c = '>') then
        if (← peekSecond) = some '(' then
          let _ ← next
          let _ ← next
          let (first, command) ← substitution g
          w := w ++ [.channel (c = '<') first command]
          continue
      if setting.isEnd depth c then return w
      let _ ← next
      if c = '\\' then w := addPiece w (← escape setting)
      else if c = '$' then
        let quoted := setting.isQuoted
        if ← if !quoted || setting = .braces true then takeExtended '\'' else pure false then
          let size := (← get).chars.length + 2
          let text ← dollarQuoted g.limit
          respell size (if quoted then text else Quoting.single text)
          w := addPiece w (.text true text)
        else if !quoted && extended && (← peek) = some '"' then
          respell ((← get).chars.length + 1) ""
        else w := addPiece w (← expansion g quoted)
      else if c = '\x60' then
        let (first, c) ← backQuotedCommand g setting.isQuoted
        w := w ++ [.output setting.isQuoted first c]
      else if c = '\'' && !setting.isQuoted then
        let size := (← get).chars.length + 1
        let text ← singleQuoted g.limit
        if hasJoin text.toList then respell size ("'" ++ text ++ "'")
        w := addPiece w (.text true text)
      else if c = '"' && setting ≠ .document then
        if setting = .quotes then return w
        else if setting = .arithmetic then
          if !extended then w := addPiece w (.text true "\"")
        else if !setting.isQuoted then w := (quotedPieces (← g.pieces .quotes)).foldl addPiece w
      else if setting.opens c then
        depth := depth + 1
        w := addPiece w (.text setting.isQuoted c.toString)
      else if setting.closes c then
        if depth = 0 then
          if setting ≠ .arithmetic then return w
          else if ← take ')' then return w
          else if extended then failWith []
        else depth := depth - 1
        w := addPiece w (.text setting.isQuoted c.toString)
      else if c ∈ alternativeSigns && (setting = .word || setting = .alternatives)
          && (← get).alternatives && (← peek) = some '(' then
        let _ ← next
        w := addPiece w (.text false (c.toString ++ "("))
        w := (← g.pieces .alternatives).foldl addPiece w
        w := addPiece w (.text false ")")
      else if c = '[' && setting = .word && extended && isNameSoFar w
          && hasBlankSubscript (← get).chars then
        w := addPiece w (.text false "[")
        w := (← g.pieces .subscript).foldl addPiece w
        w := addPiece w (.text false "]")
      else w := addPiece w (.text setting.isQuoted c.toString)
  return w

/-! ## Here-documents -/

/-- Whether a line ends in a backslash that joins it to the next one. -/
def joinsNext (line : List Char) : Bool :=
  (line.reverse.takeWhile (· = '\\')).length % 2 = 1

/-- Lines up to the one that ends a here-document, what follows them, how many lines there were, and
whether the end was found. If lines may be `joinable`, one that is `joined` to the line before it
ends nothing. -/
def documentLines (mark : List Char) (strip joinable : Bool) (joined : Bool) :
    Nat → List Char → List Char × List Char × Nat × Bool
  | 0, cs => ([], cs, 0, false)
  | _ + 1, [] => ([], [], 0, false)
  | limit + 1, cs =>
    let line := cs.takeWhile (· ≠ '\n')
    let rest := (cs.dropWhile (· ≠ '\n')).drop 1
    let line := if strip && !joined then line.dropWhile (· = '\t') else line
    if line = mark && !joined then ([], rest, 1, true)
    else
      let joins := joinable && joinsNext line
      let (text, rest, n, found) := documentLines mark strip joinable joins limit rest
      (line ++ '\n' :: text, rest, n + 1, found)

/-- The text that a word stands for when nothing is expanded. -/
def literalText (w : Word) : String :=
  String.join (w.map fun
    | .text _ s => s
    | .param _ (.plain name) _ => "$" ++ name
    | _ => "")

/-- Takes a here-document out of the lines after the one at hand. Expansions are left alone if the
mark is quoted. Gives its lines too. -/
def document (g : Grammar) (mark : Word) (strip : Bool) : Reader (Word × String) := do
  let input ← get
  let here := input.chars.takeWhile (· ≠ '\n')
  match input.chars.dropWhile (· ≠ '\n') with
  | [] => return ([], "")
  | newline :: after =>
    let marked := isQuoted mark
    let (text, rest, n, found) :=
      documentLines (literalText mark).toList strip (!marked) false g.limit after
    let warning := (input.line + n, "warning: here-document at line " ++ Nat.repr input.line
      ++ " delimited by end-of-file (wanted " ++ inMarks (literalText mark) ++ ")")
    set { input with
      chars := here ++ newline :: rest,
      held := input.held + n,
      warnings := if found then input.warnings else input.warnings ++ [warning] }
    let lines := String.ofList text
    if marked then return ([.text true lines], lines)
    else
      let inside := { input with chars := text, line := input.line + 1, settled := true }
      match (g.pieces .document).run inside with
      | .ok (w, _) => return (w, lines)
      | .error e => throw e

end Looplet.Shell
