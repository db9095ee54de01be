import Looplet.Shell.Reader

/-!
# Reading commands

Commands are read by recursive descent. The readers call each other through a `Grammar`, which is
built up to the depth that the length of the text allows. `readLine` reads the commands of one
line, and of the lines after it that belong to them.
-/

namespace Looplet.Shell

open Reader

/-- Expects a given reserved word. -/
def expect (g : Grammar) (name : String) : Reader Unit := do
  match ← symbol g with
  | .reserved s => if s = name then return () else unexpected (.reserved s) (some (.reserved name))
  | s => unexpected s (some (.reserved name))

/-! ## Redirections -/

/-- Reads the word after the sign of a redirection. Gives how it is written too. -/
def redirectWord (g : Grammar) : Reader (Word × String) := do
  match ← anySymbol g with
  | .word w => return (w, ← writtenWord)
  | s => unexpected s none

/-- Reads the operand of a redirection, after the symbol that starts it. -/
def redirect? (g : Grammar) : Symbol → Reader (Option Redirect)
  | .redirect fd mode => do
    let (w, written) ← redirectWord g
    return some (.file fd mode w written)
  | .duplicate fd mayBeBoth reads => do
    let (w, written) ← redirectWord g
    return some (.duplicate fd mayBeBoth reads w written)
  | .document fd strip => do
    let (mark, _) ← redirectWord g
    let (text, lines) ← document g mark strip
    return some (.document fd text (.lines (literalText mark) (isQuoted mark) strip lines))
  | .quotedInput fd => do
    let (w, written) ← redirectWord g
    return some (.document fd (w ++ [.text true "\n"]) (.word written))
  | .bothOutputs append => do
    let (w, written) ← redirectWord g
    return some (.bothOutputs append w written)
  | .named name s => do return (← redirect? g s).map (.named name)
  | _ => return none

/-- Reads the redirections after a command. -/
def redirects (g : Grammar) : Reader (List Redirect) := do
  let mut rs := []
  for _ in [0:g.limit] do
    let s ← symbol g
    match ← redirect? g s with
    | some r => rs := rs ++ [r]
    | none =>
      giveBack s
      return rs
  return rs

/-- A command with the redirections after it. -/
def withRedirects (line : Nat) (c : Command) (rs : List Redirect) : Command :=
  match c with
  | .subshell l body _ => .subshell l body rs
  | _ => if rs.isEmpty then c else .redirected line c rs

/-- A command whose error output goes where its output goes. -/
def withErrors (c : Command) : Command :=
  let r := Redirect.duplicate 2 false false [.text false "1"] "1"
  match c with
  | .simple line assignments words rs written => .simple line assignments words (rs ++ [r]) written
  | c => .redirected 0 c [r]

/-! ## Functions -/

/-- The commands of the shell whose names no function may have. -/
def specialBuiltins : List String :=
  [".", ":", "break", "continue", "eval", "exec", "exit", "export", "local", "readonly", "return",
    "set", "shift", "times", "trap", "unset"]

/-- The words that start a command with parts. -/
def compoundWords : List String :=
  ["if", "while", "until", "for", "case", "\x7b", "[[", "select"]

/-- Reads the body of a function. Where the shell knows more than the standard it must be a command
with parts. -/
def functionBody (g : Grammar) (command : Reader Command) : Reader Command := do
  let s ← symbolAfterLines g
  giveBack s
  if (← get).extended then
    match s with
    | .openParen => command
    | .reserved name => if name ∈ compoundWords then command else unexpected s none
    | _ => unexpected s none
  else command

/-- Reads the rest of the definition of a function, after the opening parenthesis. The name has been
`written` in a certain way. -/
def functionDefinition (g : Grammar) (command : Reader Command) (name : Word) (written : String) :
    Reader Command := do
  match ← anySymbol g with
  | .closeParen => pure ()
  | s => unexpected s (some .closeParen)
  if (← get).extended then
    let line := (← get).line
    return .function line written (← functionBody g command)
  else
    match plain? name with
    | some n =>
      if !isName n || n ∈ specialBuiltins then fail "Bad function name"
      else return .function 0 n (← functionBody g command)
    | none => fail "Bad function name"

/-- Reads the definition of a function that a word introduces. Parentheses may follow its name. -/
def namedFunction (g : Grammar) (again : Reader Command) : Reader Command := do
  let _ ← redirectWord g
  let input ← get
  match ← symbol g with
  | .openParen =>
    match ← anySymbol g with
    | .closeParen => pure ()
    | _ => set input
  | s => giveBack s
  return .function input.line (input.site.text) (← functionBody g again)

/-! ## Simple commands -/

/-- The commands that may set variables to several values. -/
def declaringCommands : List String := ["declare", "typeset", "local", "export", "readonly"]

/-- What a word between parentheses sets, where it may have a key. -/
def itemOf (w : Word) : Item :=
  let keyed? : Option Item :=
    match w with
    | .text false s :: rest =>
      match s.toList with
      | '[' :: more => do
        let (subscript, value) ← subscriptOf? (.text false (String.ofList more) :: rest)
        let (adds, value) ← assignedValue? value
        some (.keyed subscript adds value)
      | _ => none
    | _ => none
  keyed?.getD (.plain w)

/-- Fails because of values between parentheses, which spoils only the line at hand. -/
def spoil {α : Type} (messages : List (Nat × String)) : Reader α := do
  let input ← get
  let rest := (input.chars.dropWhile (· ≠ '\n')).drop 1
  throw ⟨messages, some (rest, input.line + 1)⟩

/-- Reads values up to a parenthesis. Gives how they are written too. -/
def itemsInParens (g : Grammar) : Reader (List Item × List String) := do
  let line := (← get).line
  let mut items := []
  let mut written := []
  for _ in [0:g.limit] do
    match ← anySymbol g with
    | .word w =>
      items := items ++ [itemOf w]
      written := written ++ [← writtenWord]
    | .newline => pure ()
    | .closeParen => return (items, written)
    | .ending => spoil [(line, "unexpected EOF while looking for matching " ++ inMarks ")")]
    | _ =>
      let site := (← get).site
      spoil [(site.line, "syntax error near unexpected token " ++ inMarks (site.text)),
        site.lineText]
  return (items, written)

/-- A word with the values in parentheses after it, if it sets a variable to several values. Gives
how it is written too. -/
def withItems (g : Grammar) (w : Word) (written : String) : Reader (Word × String) := do
  match (← get).chars.head?, richAssignment? w with
  | some '(', some (.set _ _ _ [.text false ""]) =>
    let _ ← next
    let (items, inside) ← itemsInParens g
    return (w ++ [.items items], written ++ "(" ++ " ".intercalate inside ++ ")")
  | _, _ => return (w, written)

/-- Reads a simple command: assignments, words and redirections. Where the shell knows more than the
standard, its line is the one where its second symbol ends. -/
def simpleCommand (g : Grammar) (command : Reader Command) : Reader Command := do
  let extended := (← get).extended
  let mut line := (← get).line
  let mut assignments := []
  let mut words : List Word := []
  let mut rs := []
  let mut replaced := false
  let mut written : List String := []
  for i in [0:g.limit] do
    let before := (← get).chars.length
    let s ← anySymbol g
    let here ← get
    if extended && i ≤ 1 then
      line := match s with
        | .newline => here.line - 1
        | _ => here.line
    match s with
    | .word w =>
      if ← (if words.isEmpty || replaced then pure true else followsAlias before) then
        replaced ← replaceAlias w
        if replaced then continue
      let source ← writtenWord
      let first := (words.head?.bind plain?).getD ""
      let (w, source) ← if extended && (words.isEmpty || first ∈ declaringCommands) then
          withItems g w source
        else pure (w, source)
      written := written ++ [source]
      if extended && i ≤ 1 then line := (← get).line
      let set? := if !words.isEmpty then none
        else if extended then richAssignment? w
        else assignment? w
      match set? with
      | some a => assignments := assignments ++ [a]
      | none => words := words ++ [w]
    | .openParen =>
      match words, assignments, rs with
      | [name], [], [] =>
        return (← functionDefinition g command name (written.getLast?.getD ""))
      | _, _, _ =>
        giveBack s
        return .simple line assignments words rs written
    | _ =>
      match ← redirect? g s with
      | some r => rs := rs ++ [r]
      | none =>
        giveBack s
        return .simple line assignments words rs written
  return .simple line assignments words rs written

/-! ## Commands with parts -/

/-- Reads a conditional, after its first word. -/
def conditional (g : Grammar) : Reader Command := do
  let mut clauses : List (Command × Command) := []
  let mut last := Command.nothing
  for _ in [0:g.limit] do
    let test ← g.list .block
    expect g "then"
    let yes ← g.list .block
    clauses := clauses ++ [(test, yes)]
    let s ← symbol g
    match s with
    | .reserved "elif" => continue
    | .reserved "else" =>
      last ← g.list .block
      expect g "fi"
      break
    | _ =>
      giveBack s
      expect g "fi"
      break
  return clauses.foldr (fun (test, yes) no => .conditional test yes no) last

/-- Reads a loop, after its first word. -/
def loop (g : Grammar) (untilTrue : Bool) : Reader Command := do
  let test ← g.list .block
  expect g "do"
  let body ← g.list .block
  expect g "done"
  return .loop untilTrue test body

/-- Reads the words of a loop over words, with how they are written. -/
def loopWords (g : Grammar) : Reader (List (Word × String)) := do
  let mut words := []
  for _ in [0:g.limit] do
    match ← anySymbol g with
    | .word w => words := words ++ [(w, ← writtenWord)]
    | .newline => return words
    | .semicolon => return words
    | s => unexpected s none
  return words

/-- Reads the body of a loop over values. Some shells take braces too. -/
def loopBody (g : Grammar) : Reader Command := do
  let s ← symbolAfterLines g
  match s, (← get).extended with
  | .reserved "\x7b", true =>
    let body ← g.list .block
    expect g "\x7d"
    return body
  | _, _ =>
    giveBack s
    expect g "do"
    let body ← g.list .block
    expect g "done"
    return body

/-- The name of the variable of a loop. Some shells look at it only when the loop is run. -/
def loopName (g : Grammar) : Reader String := do
  let s ← anySymbol g
  let input ← get
  match s with
  | .word w =>
    if input.extended then return input.site.text
    else
      match plain? w with
      | some name => if isName name then return name else fail "Bad for loop variable"
      | none => fail "Bad for loop variable"
  | _ => fail "Bad for loop variable"

/-- The words of a loop over words if none are given: all arguments. -/
def allArguments : List (Word × String) := [([.param true (.plain "@") (.value false)], "\"$@\"")]

/-- Reads the words of a loop, or nothing if there are none. -/
def loopWords? (g : Grammar) : Reader (List (Word × String)) := do
  match ← symbolAfterLines g with
  | .reserved "in" => loopWords g
  | .semicolon => return allArguments
  | s =>
    giveBack s
    return allArguments

/-- The parts of an expression that semicolons divide. -/
def expressionParts : Nat → Word → List Word
  | 0, w => [w]
  | fuel + 1, w =>
    match divideAt true ';' w with
    | (first, some rest) => first :: expressionParts fuel rest
    | (first, none) => [first]

/-- An expression, or a number in its place if it is empty. -/
def orOne (e : Word) : Word :=
  let isBlank (piece : Piece) : Bool :=
    match piece with
    | .text _ s => s.toList.all isSpaceChar
    | _ => false
  if e.all isBlank then [.text true "1"] else e

/-- Reads a loop that counts, after its first parentheses. -/
def countLoop (g : Grammar) (line : Nat) (e : Word) (source : String) : Reader Command := do
  match expressionParts 4 e with
  | [start, test, step] =>
    let s ← symbol g
    match s with
    | .semicolon => pure ()
    | _ => giveBack s
    let written := (source.splitOn ";").map fun part =>
      let text := part.toList.dropWhile isSpaceChar
      if text.isEmpty then "1" else String.ofList text
    return .count line (orOne start) (orOne test) (orOne step) (← loopBody g) written
  | _ =>
    let written := inMarks ("((" ++ literalText e ++ "))")
    failWith [(line, "syntax error: arithmetic expression required"),
      (line, "syntax error: " ++ written)]

/-- Reads a loop over values, after its first word. -/
def eachLoop (g : Grammar) (line : Nat) : Reader Command := do
  skipBlanks g.limit
  let start ← get
  let e? ← if start.extended && (← take '(') then arithmetic? g else pure none
  match e? with
  | some (e, source) => countLoop g line e source
  | none =>
    set start
    let name ← loopName g
    let words ← loopWords? g
    return .each line name (words.map Prod.fst) (← loopBody g) (words.map Prod.snd)

/-- Reads a loop over a menu, after its first word. -/
def selectLoop (g : Grammar) (line : Nat) : Reader Command := do
  let name ← loopName g
  let words ← loopWords? g
  return .select line name (words.map Prod.fst) (← loopBody g) (words.map Prod.snd)

/-- Reads the patterns of a case, the first of which has been read, with how they are written. A
shell of the standard does not look at what stands there, and takes the last word that it has read
for any symbol. -/
def casePatterns (g : Grammar) (first : Symbol) : Reader (List (Word × String)) := do
  let mut patterns := []
  let mut s := first
  for _ in [0:g.limit] do
    match s with
    | .word w => patterns := patterns ++ [(w, ← writtenWord)]
    | .reserved name => patterns := patterns ++ [([.text false name], name)]
    | _ =>
      if (← get).extended then unexpected s (some .closeParen)
      patterns := patterns ++ [([.text false "in"], "in")]
    match ← anySymbol g with
    | .bar => s ← anySymbol g
    | .closeParen => return patterns
    | t => unexpected t (some .closeParen)
  return patterns

/-- Reads a choice, after its first word. -/
def choice (g : Grammar) (line : Nat) : Reader Command := do
  match ← anySymbol g with
  | .word subject =>
    let written ← writtenWord
    match ← symbolAfterLines g with
    | .reserved "in" =>
      let mut cases := []
      for _ in [0:g.limit] do
        match ← symbolAfterLines g with
        | .reserved "esac" => return .choice line subject cases written
        | s =>
          let first ← match s with
            | .openParen => anySymbol g
            | _ => pure s
          let patterns ← casePatterns g first
          let body ← g.list .clause
          let clause (after : CaseEnd) : Case :=
            .clause (patterns.map Prod.fst) (patterns.map Prod.snd) body after
          match ← symbolAfterLines g with
          | .endCase after => cases := cases ++ [clause after]
          | .reserved "esac" => return .choice line subject (cases ++ [clause .stop]) written
          | t => unexpected t (some (.endCase .stop))
      return .choice line subject cases written
    | s => unexpected s (some (.reserved "in"))
  | s => unexpected s (some (.word []))

/-! ## Conditions on words -/

/-- The operators between two words of a condition that are words. -/
def testOps : List String :=
  ["=", "==", "!=", "=~", "-eq", "-ne", "-lt", "-le", "-gt", "-ge", "-nt", "-ot", "-ef"]

/-- The operator that stands between two words, if one does. -/
def testOp? : Symbol → Option String
  | .word w => (plain? w).filter fun s => s ∈ testOps
  | .redirect 0 .input => some "<"
  | .redirect 1 .output => some ">"
  | _ => none

/-- The operators before one word of a condition. -/
def unaryTestOps : List String :=
  "abcdefghknoprstuvwxzGLNORS".toList.map fun c => String.ofList ['-', c]

/-- Fails because of the last symbol of a condition; `reason?` says more. -/
def badTest {α : Type} (line : Nat) (reason? : Option String) : Reader α := do
  let site := (← get).site
  failWith ((reason?.map fun r => (line, r)).toList
    ++ [(site.line, "syntax error near " ++ inMarks (site.text)), site.lineText])

/-- Fails because a condition does not end. -/
def endlessTest {α : Type} (line : Nat) : Reader α := do
  failWith [(line, "unexpected EOF while looking for " ++ inMarks "]]"),
    ((← get).line, "syntax error: unexpected end of file")]

/-- Reads the word after an operator of a condition. Gives how it is written too. -/
def testOperand (g : Grammar) (line : Nat) (kind : String) (setting : Setting) :
    Reader (Word × String) := do
  skipBlanks g.limit
  let before ← get
  if setting = .regex then
    let w ← g.pieces .regex
    modify fun input => { input with
      site := ⟨before.chars, input.chars, before.line, before.lineStart⟩ }
    if w.isEmpty || plain? w = some "]]" then misplaced else return (w, ← writtenWord)
  else
    set { before with alternatives := true }
    let s ← anySymbol g
    modify fun input => { input with alternatives := before.alternatives }
    match s with
    | .word w => if plain? w = some "]]" then misplaced else return (w, ← writtenWord)
    | .ending => endlessTest line
    | _ => misplaced
where
  /-- Fails because there is no operand. -/
  misplaced : Reader (Word × String) := do
    let text := (← get).site.text
    badTest line (some ("unexpected argument " ++ inMarks text ++ " to conditional " ++ kind
      ++ " operator"))

/-- Whether a symbol may come after a condition that is a single word. -/
def endsTest : Symbol → Bool
  | .andIf => true
  | .orIf => true
  | .closeParen => true
  | .word w => plain? w = some "]]"
  | _ => false

/-- Reads a condition without connectives, whose first word is given. -/
def simpleTest (g : Grammar) (line : Nat) (w : Word) : Reader Test := do
  let name := (plain? w).getD ""
  let written ← writtenWord
  if name ∈ unaryTestOps then
    let (operand, source) ← testOperand g line "unary" .word
    return .unary name operand source
  else
    let s ← anySymbol g
    match testOp? s, s with
    | some op, _ =>
      let (second, source) ←
        testOperand g line "binary" (if op = "=~" then .regex else .word)
      return .binary op w second (written, source)
    | none, .ending => endlessTest line
    | none, .word v =>
      if plain? v = some "]]" then
        giveBack s
        return .nonempty w written
      else badTest line (some "conditional binary operator expected")
    | none, _ =>
      if endsTest s then
        giveBack s
        return .nonempty w written
      else
        let text := (← get).site.text
        badTest line (some ("unexpected token " ++ inMarks text
          ++ ", conditional binary operator expected"))

/-- Reads a condition. Of its connectives, those of `either` bind least. -/
def testOf (g : Grammar) (line : Nat) : Nat → Reader Test
  | 0 => fail "too deep"
  | fuel + 1 => do
    let first ← operand fuel
    match ← symbolAfterLines g with
    | .andIf =>
      match ← testOf g line fuel with
      | .either a b => return .either (.both first a) b
      | t => return .both first t
    | .orIf => return .either first (← testOf g line fuel)
    | s =>
      giveBack s
      return first
where
  /-- Reads a condition that is negated, in parentheses, or without connectives. -/
  operand (fuel : Nat) : Reader Test := do
    match ← symbolAfterLines g with
    | .openParen =>
      let t ← testOf g line fuel
      match ← symbolAfterLines g with
      | .closeParen => return .group t
      | .ending => endlessTest line
      | _ =>
        let text := (← get).site.text
        badTest line (some ("unexpected token " ++ inMarks text ++ ", expected " ++ inMarks ")"))
    | .reserved "!" =>
      match fuel with
      | 0 => fail "too deep"
      | fuel + 1 => return .negation (← operand fuel)
    | .reserved name => simpleTest g line [.text false name]
    | .word w => if plain? w = some "]]" then badTest line none else simpleTest g line w
    | .ending => endlessTest line
    | _ =>
      let text := (← get).site.text
      badTest line (some ("unexpected token " ++ inMarks text ++ " in conditional command"))

/-- Reads a condition up to its closing brackets. -/
def bracketedTest (g : Grammar) (line : Nat) : Reader Command := do
  let t ← testOf g line g.limit
  match ← anySymbol g with
  | .word w =>
    if plain? w = some "]]" then
      let line := (← get).line
      return .test line t
    else badTest line (some "syntax error in conditional expression")
  | .ending => endlessTest line
  | _ =>
    let text := (← get).site.text
    badTest line (some ("syntax error in conditional expression: unexpected token "
      ++ inMarks text))

/-! ## Commands -/

/-- Reads a command that starts with the given reserved word. -/
def compound (g : Grammar) (line : Nat) : String → Reader Command
  | "if" => conditional g
  | "while" => loop g false
  | "until" => loop g true
  | "for" => eachLoop g line
  | "case" => choice g line
  | "select" => selectLoop g line
  | "[[" => bracketedTest g line
  | "\x7b" => do
    let c ← g.list .block
    expect g "\x7d"
    return .group c
  | name => unexpected (.reserved name) none

/-- Whether a symbol starts a redirection. -/
def startsRedirect : Symbol → Bool
  | .redirect _ _ => true
  | .duplicate _ _ _ => true
  | .document _ _ => true
  | .quotedInput _ => true
  | .bothOutputs _ => true
  | .named _ _ => true
  | _ => false

/-- Reads a command; `again` reads the body of a function. -/
def commandWith (g : Grammar) (again : Reader Command) : Reader Command := do
  let line := (← get).line
  let s ← symbol g
  match s with
  | .reserved "function" => namedFunction g again
  | .reserved name =>
    let c ← compound g line name
    return withRedirects line c (← redirects g)
  | .openParen =>
    match ← if (← get).extended then arithmetic? g else pure none with
    | some (e, source) =>
      let last := (← get).line
      return withRedirects line (.arithmetic last e source) (← redirects g)
    | none =>
      let body ← g.list .block
      match ← symbol g with
      | .closeParen => return withRedirects line (.subshell line body []) (← redirects g)
      | t => unexpected t (some .closeParen)
  | .word w =>
    if ← replaceAlias w then again
    else
      giveBack s
      simpleCommand g again
  | _ =>
    if startsRedirect s then
      giveBack s
      simpleCommand g again
    else unexpected s none

/-- Reads a command. Definitions of functions may be nested up to a depth. -/
def command (g : Grammar) : Nat → Reader Command
  | 0 => fail "Bad function name"
  | depth + 1 => commandWith g (command g depth)

/-- Reads the words before a pipeline: whether it is negated, and whether it is timed, and then
briefly or not. Some shells take several of them. -/
def pipelineWords (g : Grammar) : Reader (Bool × Option Bool) := do
  let mut negated := false
  let mut timed := none
  for i in [0:g.limit] do
    let s ← symbol g
    let more := i = 0 || (← get).extended
    match s with
    | .reserved "!" =>
      if more then negated := !negated
      else
        giveBack s
        return (negated, timed)
    | .reserved "time" =>
      timed := some false
      let t ← anySymbol g
      match t with
      | .word w => if plain? w = some "-p" then timed := some true else giveBack t
      | _ => giveBack t
    | _ =>
      giveBack s
      return (negated, timed)
  return (negated, timed)

/-- Whether a symbol may follow a pipeline that is empty. -/
def mayFollowNothing : Symbol → Bool
  | .newline => true
  | .semicolon => true
  | .ending => true
  | _ => false

/-- Reads a command or commands that are joined by pipes. -/
def pipeline (g : Grammar) : Reader Command := do
  let (negated, timed) ← pipelineWords g
  let finish (c : Command) : Command :=
    let c := match timed with
      | some briefly => .timed briefly c
      | none => c
    if negated then .negation c else c
  let s ← symbol g
  giveBack s
  if (← get).extended && (negated || timed.isSome) && mayFollowNothing s then
    return finish (.simple (← get).site.line [] [] [] [])
  else
    let mut parts := [← command g g.limit]
    for _ in [0:g.limit] do
      match ← symbol g with
      | .bar =>
        giveBack (← symbolAfterLines g)
        parts := parts ++ [← command g g.limit]
      | .barBoth =>
        giveBack (← symbolAfterLines g)
        parts := (match parts.getLast? with
          | some c => parts.dropLast ++ [withErrors c]
          | none => parts) ++ [← command g g.limit]
      | t =>
        giveBack t
        break
    return finish (match parts with
      | [c] => c
      | _ => .pipeline parts)

/-- Reads pipelines that are joined by conditions. -/
def conditions (g : Grammar) : Reader Command := do
  let mut c ← pipeline g
  for _ in [0:g.limit] do
    match ← symbol g with
    | .andIf =>
      giveBack (← symbolAfterLines g)
      c := .both c (← pipeline g)
    | .orIf =>
      giveBack (← symbolAfterLines g)
      c := .either c (← pipeline g)
    | s =>
      giveBack s
      return c
  return c

/-- A command after others. -/
def followedBy (byLine : Bool) : Command → Command → Command
  | .nothing, c => c
  | c, d => .sequence c d byLine

/-- Whether a symbol can only end a list of commands. -/
def endsList : Symbol → Bool
  | .ending => true
  | .closeParen => true
  | .endCase _ => true
  | .reserved name => name ∈ ["do", "done", "elif", "else", "esac", "fi", "then", "\x7d"]
  | _ => false

/-- Reads a list of commands. -/
def commandList (g : Grammar) (listEnd : ListEnd) : Reader Command := do
  let mut c := Command.nothing
  let mut byLine := false
  let mut mayEnd : Bool := listEnd = .clause
  for _ in [0:g.limit] do
    let s ← if listEnd = .line then symbol g else symbolAfterLines g
    match s with
    | .newline => return c
    | .ending =>
      giveBack s
      return c
    | _ =>
      giveBack s
      if endsList s then
        if mayEnd then return c
        else if listEnd = .line && (← get).extended then unexpectedAfterDocuments
      mayEnd := listEnd ≠ .line
      let next ← conditions g
      let t ← symbol g
      match t with
      | .ampersand => c := followedBy byLine c (.background next)
      | .semicolon => c := followedBy byLine c next
      | .newline =>
        c := followedBy byLine c next
        giveBack t
      | .ending =>
        c := followedBy byLine c next
        giveBack t
      | _ =>
        if listEnd = .line then
          if (← get).extended then unexpectedAfterDocuments else unexpected t none
        else
          giveBack t
          return followedBy byLine c next
      byLine := match t with
        | .newline => true
        | _ => false
  return c

/-- The grammar up to a depth of nesting. -/
def grammar (limit : Nat) : Nat → Grammar
  | 0 => ⟨limit, fun _ => fail "too deep", fun _ => fail "too deep"⟩
  | depth + 1 =>
    ⟨limit, fun e => commandList (grammar limit depth) e, fun s => pieces (grammar limit depth) s⟩

/-- Reads the commands of the next line. Gives nothing at the end of the input. -/
def readLine (input : Input) : Except SyntaxError (Option Command × Input) :=
  let size := input.chars.length + 2
  let g := grammar size size
  match (symbol g).run input with
  | .error e => .error e
  | .ok (.ending, rest) => .ok (none, rest)
  | .ok (s, rest) =>
    match (commandList g .line).run { rest with ahead? := some s } with
    | .error e => .error e
    | .ok (c, rest) => .ok (some c, rest)

end Looplet.Shell
