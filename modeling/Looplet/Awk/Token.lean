import Looplet.Awk.Syntax
import Looplet.Text.Binary
import Looplet.Text.CharSet

/-!
# The symbols of a program

`scan` divides the text of a program into symbols. What some characters mean depends on what comes
before them: a slash divides after an operand and starts an expression elsewhere, and a sign after
`print` leads the output elsewhere unless it is in parentheses. A brace that closes a block first
ends the statement before it.
-/

namespace Looplet.Awk

/-- A symbol. -/
inductive Token where
  | number (value : Float) (written : String)
  | text (value : String)
  | regex (source : String)
  | name (name : String)
  /-- The name of a function of the program. -/
  | function (name : String)
  /-- The name of a function of the language. -/
  | builtin (name : String)
  | keyword (word : String)
  | sign (written : String)
  | output (way : Way)
  | newline
  /-- The end of a statement before a brace. -/
  | close
  | ended
  /-- Something that is no symbol, with what is said about it. -/
  | fault (message : String)

/-- A symbol in words. -/
def Token.shown : Token → String
  | number _ written => written
  | text value => value
  | regex source => "/" ++ source ++ "/"
  | name s => s
  | function s => s
  | builtin s => s
  | keyword s => s
  | sign s => s
  | output .file => ">"
  | output .append => ">>"
  | output .command => "|"
  | newline => "end of line"
  | close => "\x7d"
  | ended => "end of file"
  | fault message => message

/-- Whether a slash after a symbol divides. -/
def Token.isOperand : Token → Bool
  | number _ _ => true
  | text _ => true
  | regex _ => true
  | name _ => true
  | keyword "getline" => true
  | sign s => s ∈ [")", "]", "++", "--"]
  | _ => false

/-- Whether nothing of a statement is open after a symbol. -/
def Token.endsStatement : Token → Bool
  | newline => true
  | close => true
  | sign s => s = ";" || s = "\x7d"
  | _ => false

/-- A symbol and the line that it is in. -/
structure Lexeme where
  token : Token
  line : Nat

/-- The words with a meaning of their own. -/
def keywords : List String :=
  ["BEGIN", "END", "function", "print", "printf", "if", "else", "while", "do", "for", "in",
    "break", "continue", "next", "nextfile", "exit", "return", "delete", "getline"]

/-- The functions of the language. -/
def builtins : List String :=
  ["length", "index", "substr", "split", "sub", "gsub", "match", "sprintf", "sin", "cos", "atan2",
    "exp", "log", "sqrt", "int", "rand", "srand", "toupper", "tolower", "system", "close",
    "fflush", "systime", "mktime", "strftime"]

/-- The signs of several characters, the longer ones first. -/
def longSigns : List String :=
  ["++", "--", "+=", "-=", "*=", "%=", "^=", "==", "!=", "<=", ">=", "&&", "||", "!~"]

/-- The signs of one character. -/
def shortSigns : List Char :=
  ['+', '-', '*', '%', '^', '=', '!', '<', '>', '|', '?', ':', '~', '$', ',', ';', '(', ')', '[',
    ']', '\x7b', '\x7d']

/-- What has been read of a program. -/
structure Lexer where
  rest : List Char
  line : Nat
  last : Token
  /-- Whether output may be led elsewhere. -/
  printing : Bool
  parens : Nat
  braces : Nat
  /-- The names that have been seen, and whether they are functions. -/
  names : List (String × Bool)

/-! ## Blanks -/

/-- Whether a character may start a name. -/
def isNameStart (c : Char) : Bool := c.isAlpha || c = '_'

/-- Whether a character divides symbols and does nothing else. -/
def isGap (c : Char) : Bool := c ∈ [' ', '\t', '\x0b', '\x0c', '\r']

/-- Leaves out blanks, comments and lines that go on. -/
def skipGaps : Nat → List Char → Nat → List Char × Nat
  | 0, cs, line => (cs, line)
  | fuel + 1, cs, line =>
    match cs with
    | '#' :: rest => skipGaps fuel (rest.dropWhile (· ≠ '\n')) line
    | '\\' :: '\n' :: rest => skipGaps fuel rest (line + 1)
    | c :: rest => if isGap c then skipGaps fuel rest line else (cs, line)
    | [] => ([], line)

/-- Leaves out blanks, comments and ends of lines. -/
def skipLines : Nat → List Char → Nat → List Char × Nat
  | 0, cs, line => (cs, line)
  | fuel + 1, cs, line =>
    match skipGaps (cs.length + 1) cs line with
    | ('\n' :: rest, line) => skipLines fuel rest (line + 1)
    | r => r

/-- A text after ends of lines. -/
def Lexer.pastLines (l : Lexer) : Lexer :=
  let (rest, line) := skipLines (l.rest.length + 1) l.rest l.line
  { l with rest := rest, line := line }

/-- A text after a semicolon, if one follows. -/
def Lexer.pastSemicolon (l : Lexer) : Lexer :=
  match l.rest.dropWhile isGap with
  | ';' :: rest => { l with rest := rest }
  | _ => l

/-! ## Texts -/

/-- The character of a letter after a backslash. -/
def escapedLetter? (c : Char) : Option Char :=
  [('"', '"'), ('\\', '\\'), ('a', '\x07'), ('b', '\x08'), ('f', '\x0c'), ('n', '\n'), ('r', '\r'),
    ('t', '\t'), ('v', '\x0b')].lookup c

/-- Whether a character is an octal digit. -/
def isOctal (c : Char) : Bool := '0' ≤ c && c ≤ '7'

/-- What an escape stands for, after its backslash, and what follows it. -/
def escape? (cs : List Char) : Option (Char × List Char) :=
  let octal := (cs.take 3).takeWhile isOctal
  if !octal.isEmpty then some (Char.ofNat (Text.valueIn 8 octal % 256), cs.drop octal.length)
  else
    match cs with
    | 'x' :: rest =>
      let digits := Text.hexDigits (rest.take 2)
      if digits.isEmpty then none
      else some (Char.ofNat (Text.valueIn 16 digits), rest.drop digits.length)
    | c :: rest => (escapedLetter? c).map fun d => (d, rest)
    | [] => none

/-- A text with its escapes replaced. Other backslashes stay. -/
def unescaped : Nat → List Char → List Char
  | 0, cs => cs
  | _ + 1, [] => []
  | fuel + 1, '\\' :: cs =>
    match escape? cs, cs with
    | some (c, rest), _ => c :: unescaped fuel rest
    | none, c :: rest => '\\' :: c :: unescaped fuel rest
    | none, [] => ['\\']
  | fuel + 1, c :: cs => c :: unescaped fuel cs

/-- A whole text with its escapes replaced. -/
def unescapedText (s : String) : String := String.ofList (unescaped (s.length + 1) s.toList)

/-- A text up to its closing quote, what follows it, and how many lines it goes on for. Without a
closing quote it gives what there is. -/
def quotedBody : List Char → Except (List Char) (List Char × List Char × Nat)
  | [] => .error []
  | '\n' :: _ => .error []
  | '"' :: rest => .ok ([], rest, 0)
  | '\\' :: '\n' :: rest =>
    match quotedBody rest with
    | .ok (body, after, lines) => .ok (body, after, lines + 1)
    | .error body => .error body
  | '\\' :: c :: rest =>
    match quotedBody rest with
    | .ok (body, after, lines) => .ok ('\\' :: c :: body, after, lines)
    | .error body => .error ('\\' :: c :: body)
  | c :: rest =>
    match quotedBody rest with
    | .ok (body, after, lines) => .ok (c :: body, after, lines)
    | .error body => .error (c :: body)

/-- Where a set of characters is, in a regular expression. -/
inductive Box where
  | outside
  | opened
  | inside
  deriving DecidableEq

/-- Where a set is after a character. A bracket that comes first in a set belongs to it. -/
def Box.after (b : Box) (c : Char) : Box :=
  match b with
  | .outside => if c = '[' then .opened else .outside
  | .opened => if c = '^' then .opened else .inside
  | .inside => if c = ']' then .outside else .inside

/-- A regular expression up to its closing slash, and what follows it. -/
def slashedBody (box : Box) : List Char → Except (List Char) (List Char × List Char)
  | [] => .error []
  | '\n' :: _ => .error []
  | '\\' :: '/' :: rest => add '/' (slashedBody (box.after '/') rest)
  | '\\' :: '\n' :: rest => slashedBody box rest
  | '\\' :: c :: rest => add '\\' (add c (slashedBody (box.after '/') rest))
  | '/' :: rest =>
    if box = .outside then .ok ([], rest) else add '/' (slashedBody (box.after '/') rest)
  | c :: rest => add c (slashedBody (box.after c) rest)
where
  /-- Puts a character before what was read. -/
  add (c : Char) : Except (List Char) (List Char × List Char) →
      Except (List Char) (List Char × List Char)
    | .ok (body, after) => .ok (c :: body, after)
    | .error body => .error (c :: body)

/-! ## Symbols -/

/-- A lexer after a symbol. -/
def Lexer.take (l : Lexer) (t : Token) (rest : List Char) : Lexeme × Lexer :=
  (⟨t, l.line⟩, { l with rest := rest, last := t })

/-- What is said about something in a line. -/
def inLine (line : Nat) (message : String) : String := "line " ++ Nat.repr line ++ ": " ++ message

/-- The number that digits stand for. -/
def numberOf (r : Text.Ratio) : Float :=
  match r.nearest? .double with
  | some near => (Text.Real.finite false near).toFloat
  | none => (Text.Real.infinite false).toFloat

/-- Reads a word. -/
def Lexer.word (l : Lexer) : Lexeme × Lexer :=
  let cs := l.rest.takeWhile fun c => isNameStart c || c.isDigit
  let s := String.ofList cs
  let rest := l.rest.drop cs.length
  if s ∈ keywords then
    { l with printing := l.printing || s = "print" || s = "printf" }.take (.keyword s) rest
  else if s ∈ builtins then l.take (.builtin s) rest
  else
    let defined := match l.last with
      | .keyword "function" => true
      | _ => false
    let called := match l.names.lookup s with
      | some isFunction => isFunction || defined
      | none => defined || rest.head? = some '('
    { l with names := (s, called) :: l.names }.take (if called then .function s else .name s) rest

/-- The sign at the start of a text. -/
def signAt? (cs : List Char) : Option String :=
  match longSigns.find? fun s => s.toList.isPrefixOf cs with
  | some s => some s
  | none => (cs.head?.filter (· ∈ shortSigns)).map Char.toString

/-- Reads a sign. -/
def Lexer.sign (l : Lexer) (s : String) : Lexeme × Lexer :=
  let rest := l.rest.drop s.length
  let free := l.printing && l.parens = 0
  match s with
  | ">" | ">=" =>
    if free then
      let l := { l with printing := false }
      match l.rest with
      | '>' :: '>' :: rest => l.take (.output .append) rest
      | _ => l.take (.output .file) (l.rest.drop 1)
    else l.take (.sign s) rest
  | "|" =>
    if free then { l with printing := false }.take (.output .command) rest
    else l.take (.sign s) rest
  | "(" => { l with parens := l.parens + 1 }.take (.sign s) rest
  | ")" =>
    if l.parens = 0 then l.take (.fault (inLine l.line "extra ')'")) rest
    else { l with parens := l.parens - 1 }.take (.sign s) rest
  | "\x7b" =>
    let (t, l) := { l with braces := l.braces + 1 }.take (.sign s) rest
    (t, l.pastLines)
  | "\x7d" =>
    if l.braces = 0 then l.take (.fault (inLine l.line "extra '\x7d'")) rest
    else if l.last.endsStatement then
      let (t, l) := { l with braces := l.braces - 1 }.take (.sign s) rest
      (t, (if l.braces = 0 then l.pastSemicolon else l).pastLines)
    else { l with printing := false }.take .close l.rest
  | _ =>
    let l := if s = ";" then { l with printing := false } else l
    let (t, l) := l.take (.sign s) rest
    (t, if s ∈ [";", ",", "&&", "||"] then l.pastLines else l)

/-- Reads what starts with a slash. -/
def Lexer.slash (l : Lexer) (rest : List Char) : Lexeme × Lexer :=
  let after := rest.drop 1
  if l.last.isOperand then
    if rest.head? = some '=' then l.take (.sign "/=") after else l.take (.sign "/") rest
  else
    match slashedBody .outside rest with
    | .ok (body, after) => l.take (.regex (String.ofList body)) after
    | .error body =>
      let start := String.ofList (body.take 10)
      l.take (.fault (inLine l.line ("runaway regular expression /" ++ start ++ " ..."))) []

/-- Reads the next symbol. -/
def Lexer.next (l : Lexer) : Lexeme × Lexer :=
  let (rest, line) := skipGaps (l.rest.length + 1) l.rest l.line
  let l := { l with rest := rest, line := line }
  match rest with
  | [] => l.take .ended []
  | '\n' :: after =>
    let (t, l) := { l with printing := false }.take .newline after
    (t, { l with line := l.line + 1 }.pastLines)
  | '"' :: after =>
    match quotedBody after with
    | .ok (body, after, lines) =>
      let (t, l) := l.take (.text (String.ofList (unescaped (body.length + 1) body))) after
      (t, { l with line := l.line + lines })
    | .error body =>
      let start := String.ofList (body.take 10)
      l.take (.fault (inLine l.line ("runaway string constant \"" ++ start ++ " ..."))) []
  | '/' :: after => l.slash after
  | c :: after =>
    let digit := c.isDigit || (c = '.' && (after.head?.map Char.isDigit).getD false)
    match if digit then Text.leadingRatio? rest else none with
    | some (r, after) =>
      let written := String.ofList (rest.take (rest.length - after.length))
      l.take (.number (numberOf r) written) after
    | none =>
      if isNameStart c then l.word
      else
        match signAt? rest with
        | some s => l.sign s
        | none =>
          let message := Nat.repr line ++ ": unexpected character '" ++ c.toString ++ "'"
          l.take (.fault message) after

/-- The symbols from a place on. -/
def lexemes : Nat → Lexer → List Lexeme
  | 0, _ => []
  | fuel + 1, l =>
    let (t, l) := l.next
    match t.token with
    | .ended => [t]
    | .fault _ => [t]
    | _ => t :: lexemes fuel l

/-- The symbols of a program. A line feed follows its text. -/
def scan (text : String) : List Lexeme :=
  let first : Lexer := ⟨text.toList ++ ['\n'], 1, .newline, false, 0, 0, []⟩
  lexemes (2 * text.length + 4) first.pastLines

end Looplet.Awk
