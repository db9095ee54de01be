/-!
# The language of the shell

A script is a tree of commands. A word is a list of pieces, so that quoting and expansion stay
apart: a quoted piece is neither divided into fields nor read as a pattern. Next to its words a
command keeps how they were written, because commands can be shown.
-/

namespace Looplet.Shell

/-- How a redirection opens its file. -/
inductive OpenMode where
  | input
  | output
  | clobber
  | append
  | both
  deriving DecidableEq

/-- How letters change: to capital ones, to small ones, or each to the other kind. -/
inductive CaseChange where
  | upper
  | lower
  | turned
  deriving DecidableEq

/-- Where a pattern is looked for in a text. -/
inductive Spread where
  | once
  | everywhere
  | atStart
  | atEnd
  deriving DecidableEq

/-- What comes after the commands of a case: nothing, the commands of the next case, or another
search for a case. -/
inductive CaseEnd where
  | stop
  | fallThrough
  | lookOn
  deriving DecidableEq

/-- Where a text comes from that a command reads: from lines up to a mark, or from a word. -/
inductive DocumentSource where
  | lines (mark : String) (quoted strip : Bool) (lines : String)
  | word (written : String)
  deriving DecidableEq

mutual

/-- A piece of a word: text, a parameter, the output of commands that start in a line, a number that
is computed, the path of a channel to or from commands, or values between parentheses. -/
inductive Piece where
  | text (quoted : Bool) (text : String)
  | param (quoted : Bool) (target : Parameter) (use : Use)
  | output (quoted : Bool) (first : Nat) (command : Command)
  | number (quoted : Bool) (expression : List Piece)
  | channel (reads : Bool) (line : Nat) (command : Command)
  | items (items : List Item)

/-- What a parameter names: a variable, one of its values, all of its values or their keys, the
parameter that another one names, or the names of variables. What names several things may join
them when it is quoted. -/
inductive Parameter where
  | plain (name : String)
  | element (name : String) (subscript : List Piece)
  | all (name : String) (joined : Bool)
  | indirect (target : Parameter)
  | keys (name : String) (joined : Bool)
  | names (start : String) (joined : Bool)

/-- What is done with the value of a parameter. In the four cases with `orEmpty` a word is used
depending on whether the parameter is set, or set and not empty. A `bare` name has no braces, so
that it takes in the letters that come to stand after it. -/
inductive Use where
  | value (bare : Bool)
  | length
  | default (orEmpty : Bool) (word : List Piece)
  | assign (orEmpty : Bool) (word : List Piece)
  | require (orEmpty : Bool) (word : List Piece)
  | replace (orEmpty : Bool) (word : List Piece)
  | trim (atEnd longest : Bool) (pattern : List Piece)
  | changeCase (change : CaseChange) (all : Bool) (pattern : List Piece)
  | slice (offset : List Piece) (length? : Option (List Piece))
  | substitute (spread : Spread) (pattern replacement : List Piece)
  | transform (letter : Char)
  | wrong (written : String)

/-- A value between parentheses, which may have a key. -/
inductive Item where
  | plain (word : List Piece)
  | keyed (subscript : List Piece) (adds : Bool) (word : List Piece)

/-- A condition on words. -/
inductive Test where
  | nonempty (word : List Piece) (written : String)
  | unary (op : String) (word : List Piece) (written : String)
  | binary (op : String) (first second : List Piece) (written : String × String)
  | group (test : Test)
  | negation (test : Test)
  | both (first second : Test)
  | either (first second : Test)

/-- A change to the open files of a command. A duplicate may stand for both outputs if its target is
no descriptor. -/
inductive Redirect where
  | file (fd : Nat) (mode : OpenMode) (target : List Piece) (written : String)
  | duplicate (fd : Nat) (mayBeBoth reads : Bool) (target : List Piece) (written : String)
  | document (fd : Nat) (text : List Piece) (source : DocumentSource)
  | bothOutputs (append : Bool) (target : List Piece) (written : String)
  /-- A variable gets the number of a new descriptor, or has the number of one to be closed. -/
  | named (name : String) (redirect : Redirect)

/-- A variable that is set, or one of its values; `adds` says that the value is added to the old
one. -/
inductive Assignment where
  | set (name : String) (subscript? : Option (List Piece)) (adds : Bool) (value : List Piece)

/-- One of the cases of a choice. -/
inductive Case where
  | clause (patterns : List (List Piece)) (written : List String) (body : Command)
      (after : CaseEnd)

/-- A command. The line is the one that its messages name. Commands of a sequence may be divided by
the end of a line. Those that cannot be read are kept as text until they are run. -/
inductive Command where
  | nothing
  | simple (line : Nat) (assignments : List Assignment) (words : List (List Piece))
      (redirects : List Redirect) (written : List String)
  | pipeline (parts : List Command)
  | negation (command : Command)
  | timed (briefly : Bool) (command : Command)
  | both (first second : Command)
  | either (first second : Command)
  | sequence (first second : Command) (byLine : Bool)
  | background (command : Command)
  | group (body : Command)
  | subshell (line : Nat) (body : Command) (redirects : List Redirect)
  | redirected (line : Nat) (body : Command) (redirects : List Redirect)
  | conditional (test yes no : Command)
  | loop (untilTrue : Bool) (test body : Command)
  | each (line : Nat) (name : String) (words : List (List Piece)) (body : Command)
      (written : List String)
  | count (line : Nat) (start test step : List Piece) (body : Command) (written : List String)
  | select (line : Nat) (name : String) (words : List (List Piece)) (body : Command)
      (written : List String)
  | choice (line : Nat) (subject : List Piece) (cases : List Case) (written : String)
  | test (line : Nat) (test : Test)
  | arithmetic (line : Nat) (expression : List Piece) (written : String)
  | function (line : Nat) (name : String) (body : Command)
  | kept (text : String)

end

/-- The pieces of a word. -/
abbrev Word := List Piece

/-- A word that is one text without quotes. -/
def plain? : Word → Option String
  | [.text false s] => some s
  | _ => none

/-- Whether some of a word is quoted text. -/
def isQuoted (w : Word) : Bool :=
  w.any fun
    | .text true _ => true
    | _ => false

/-- The words with a meaning of their own. -/
def reservedWords : List String :=
  ["!", "case", "do", "done", "elif", "else", "esac", "fi", "for", "if", "in", "then", "until",
    "while", "\x7b", "\x7d"]

/-- The words with a meaning of their own that only some shells know. -/
def extraReservedWords : List String := ["[[", "function", "select", "time"]

/-- Whether a character may start a name. -/
def isNameStart (c : Char) : Bool := c.isAlpha || c == '_'

/-- Whether a character may stand in a name. -/
def isNameChar (c : Char) : Bool := isNameStart c || c.isDigit

/-- Whether a text is a name. -/
def isName (s : String) : Bool :=
  match s.toList with
  | [] => false
  | c :: cs => isNameStart c && cs.all isNameChar

/-- Whether a character separates words. -/
def isSpaceChar (c : Char) : Bool := c = ' ' || c = '\t' || c = '\n'

/-- The name and the value of a word that sets a variable: a name and an equals sign outside
quotes, then anything. -/
def assignment? : Word → Option Assignment
  | .text false s :: rest =>
    let name := String.ofList (s.toList.takeWhile (· ≠ '='))
    match s.toList.dropWhile (· ≠ '=') with
    | [] => none
    | _ :: value =>
      if isName name then some (.set name none false (.text false (String.ofList value) :: rest))
      else none
  | _ => none

/-- Divides a word at the bracket that closes the one at its start, where `depth` more are open.
Only text outside quotes has brackets. -/
def closeBracket (depth : Nat) : List Char → List Char → Option (List Char × List Char)
  | _, [] => none
  | before, ']' :: rest =>
    if depth = 0 then some (before.reverse, rest) else closeBracket (depth - 1) (']' :: before) rest
  | before, '[' :: rest => closeBracket (depth + 1) ('[' :: before) rest
  | before, c :: rest => closeBracket depth (c :: before) rest

/-- The pieces of a subscript, after its opening bracket, and what follows the closing one. -/
def subscriptOf? : Word → Option (Word × Word)
  | [] => none
  | .text false s :: rest =>
    match closeBracket 0 [] s.toList with
    | some (inside, after) =>
      some ([.text false (String.ofList inside)], .text false (String.ofList after) :: rest)
    | none => (subscriptOf? rest).map fun (inside, after) => (.text false s :: inside, after)
  | piece :: rest => (subscriptOf? rest).map fun (inside, after) => (piece :: inside, after)

/-- The value of an assignment at the start of a word, and whether it adds. -/
def assignedValue? : Word → Option (Bool × Word)
  | .text false s :: rest =>
    match s.toList with
    | '=' :: value => some (false, .text false (String.ofList value) :: rest)
    | '+' :: '=' :: value => some (true, .text false (String.ofList value) :: rest)
    | _ => none
  | _ => none

/-- What a word sets where values may have keys and may be added. -/
def richAssignment? : Word → Option Assignment
  | .text false s :: rest =>
    let name := s.toList.takeWhile isNameChar
    if !isName (String.ofList name) then none
    else
      let after := s.toList.drop name.length
      match after with
      | '[' :: more => do
        let (subscript, value) ← subscriptOf? (.text false (String.ofList more) :: rest)
        let (adds, value) ← assignedValue? value
        some (.set (String.ofList name) (some subscript) adds value)
      | _ => do
        let (adds, value) ← assignedValue? (.text false (String.ofList after) :: rest)
        some (.set (String.ofList name) none adds value)
  | _ => none

end Looplet.Shell
