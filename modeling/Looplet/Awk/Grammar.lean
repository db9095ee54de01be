import Looplet.Awk.Value

/-!
# Reading programs

Operators bind from weak to strong: the choice with a question mark, `||`, `&&`, `in`, matching,
comparison, joining, sums, products, signs and negation, reading from a command, powers, steps by
one, and fields. An assignment may stand wherever a joined operand may. `Inner` holds the readers
that an expression needs for what is inside it; they are tied together by a depth.
-/

namespace Looplet.Awk

/-- What is left of a program, and what is known of it. -/
structure Reading where
  rest : List Lexeme
  line : Nat
  /-- The names that are values, and those that are tables. -/
  kinds : List (String × Bool)
  /-- The parameters of the function at hand. -/
  params? : Option (List String)
  loops : Nat
  /-- Whether records are at hand. -/
  onRecords : Bool
  /-- The functions that are called: how many arguments they get, and where. -/
  calls : List (String × Nat × Nat)
  parens : Nat

/-- A reader, which may find a fault. -/
abbrev Parse := StateT Reading (Except String)

/-- The symbol at hand. -/
def peek : Parse Token := do
  match (← get).rest with
  | l :: _ => return l.token
  | [] => return .ended

/-- The symbol after the one at hand. -/
def peekSecond : Parse Token := do
  match (← get).rest with
  | _ :: l :: _ => return l.token
  | _ => return .ended

/-- Goes on by one symbol. -/
def advance : Parse Unit :=
  modify fun r =>
    match r.rest with
    | l :: rest =>
      let parens := match l.token with
        | .sign "(" => r.parens + 1
        | .sign ")" => r.parens - 1
        | _ => r.parens
      { r with rest := if rest.isEmpty then [l] else rest, line := l.line, parens := parens }
    | [] => r

/-- Finds a fault in the line of the symbol at hand. -/
def failWith {α : Type} (message : String) : Parse α := do
  let r ← get
  throw (inLine ((r.rest.head?.map Lexeme.line).getD r.line) message)

/-- Finds a fault in the line of the last symbol. -/
def failBefore {α : Type} (message : String) : Parse α := do
  throw (inLine (← get).line message)

/-- Finds that the symbol at hand does not fit. -/
def unexpected {α : Type} : Parse α := do
  let t ← peek
  let inParens := 0 < (← get).parens
  match t with
  | .fault message => throw message
  | .close => failWith (if inParens then "missing ) near \x7d" else "syntax error at or near \x7d")
  | .newline | .sign ";" =>
    failWith ((if inParens then "missing ) near " else "syntax error at or near ") ++ t.shown)
  | .ended => failWith "missing \x7d near end of file"
  | _ => failWith ("syntax error at or near " ++ t.shown)

/-- Whether the symbol at hand is a sign. -/
def atSign (s : String) : Parse Bool := do
  match ← peek with
  | .sign t => return s = t
  | _ => return false

/-- Whether the symbol at hand is a word. -/
def atKeyword (s : String) : Parse Bool := do
  match ← peek with
  | .keyword t => return s = t
  | _ => return false

/-- Goes past a sign that has to be there. -/
def expectSign (s : String) : Parse Unit := do
  if ← atSign s then advance else unexpected

/-- Goes past ends of lines. -/
def pastNewlines : Parse Unit := do
  for _ in (← get).rest do
    match ← peek with
    | .newline => advance
    | _ => break

/-- A name that has to be there. -/
def expectName : Parse String := do
  match ← peek with
  | .name s =>
    advance
    return s
  | _ => unexpected

/-- Takes note that a name is used as a table or as a value. -/
def noteKind (name : String) (isTable : Bool) : Parse Unit := do
  let r ← get
  if (r.params?.getD []).contains name then return ()
  match r.kinds.lookup name with
  | some known =>
    if known != isTable then
      failBefore ("illegal reference to " ++ (if known then "array " else "variable ") ++ name)
  | none => set { r with kinds := (name, isTable) :: r.kinds }

/-- An expression, and whether it is a place that may be assigned to. -/
structure Parsed where
  expr : Expr
  isPlace : Bool

/-- The readers for what is inside an expression. -/
structure Inner where
  expr : Parse Expr
  /-- What signs and negation apply to. -/
  unary : Parse Expr

/-- Readers that find everything too deep. -/
def Inner.none : Inner := ⟨unexpected, unexpected⟩

/-! ## Operands -/

/-- Expressions with commas between them. -/
def separated (item : Parse Expr) : Nat → Parse (List Expr)
  | 0 => return []
  | fuel + 1 => do
    let first ← item
    if ← atSign "," then
      advance
      return first :: (← separated item fuel)
    else return [first]

/-- How many symbols are left. -/
def symbolsLeft : Parse Nat := do return (← get).rest.length

/-- Expressions up to a closing sign, of which there may be none. -/
def listUpTo (i : Inner) (closing : String) : Parse (List Expr) := do
  if ← atSign closing then
    advance
    return []
  else
    let es ← separated i.expr (← symbolsLeft)
    expectSign closing
    return es

/-- Takes note of the name in an expression that is used as a value. -/
def noteValue (e : Expr) : Parse Unit := do
  match e with
  | .name s => noteKind s false
  | _ => return ()

/-- The place that a name stands for, which may be an element of a table. -/
def namedPlace (i : Inner) (name : String) : Parse Expr := do
  if ← atSign "[" then
    noteKind name true
    advance
    let keys ← separated i.expr (← symbolsLeft)
    expectSign "]"
    return .element name keys
  else return .name name

/-- A field, after its sign. -/
def fieldPlace (i : Inner) (primary : Parse Parsed) : Parse Expr := do
  match ← peek with
  | .name s =>
    advance
    let e ← namedPlace i s
    noteValue e
    return .field e
  | .sign "-" | .sign "+" | .sign "!" => return .field (← i.unary)
  | _ => return .field (← primary).expr

/-- A place, or nothing if none is at hand. -/
def place? (i : Inner) (primary : Parse Parsed) : Parse (Option Expr) := do
  match ← peek with
  | .name s =>
    advance
    let e ← namedPlace i s
    noteValue e
    return some e
  | .sign "$" =>
    advance
    return some (← fieldPlace i primary)
  | _ => return none

/-- How many arguments a function of the language may have. -/
def argumentCounts : List (String × Nat × Nat) :=
  [("index", 2, 2), ("substr", 2, 3), ("sprintf", 1, 255), ("sin", 1, 1), ("cos", 1, 1),
    ("atan2", 2, 2), ("exp", 1, 1), ("log", 1, 1), ("sqrt", 1, 1), ("int", 1, 1), ("rand", 0, 0),
    ("srand", 0, 1), ("toupper", 1, 1), ("tolower", 1, 1), ("system", 1, 1), ("close", 1, 1),
    ("fflush", 0, 1), ("systime", 0, 0), ("mktime", 1, 1), ("strftime", 0, 3), ("length", 0, 1)]

/-- The arguments of a function of the language, after its name. -/
def builtinCall (i : Inner) (primary : Parse Parsed) (name : String) : Parse Expr := do
  if name = "length" && !(← atSign "(") then return .builtin name []
  expectSign "("
  match name with
  | "split" =>
    let e ← i.expr
    expectSign ","
    let t ← expectName
    noteKind t true
    if ← atSign "," then
      advance
      let divider ← i.expr
      expectSign ")"
      return .builtin name [e, .name t, divider]
    else
      expectSign ")"
      return .builtin name [e, .name t]
  | "sub" | "gsub" =>
    let pattern ← i.expr
    expectSign ","
    let new ← i.expr
    if ← atSign "," then
      advance
      let grouped ← atSign "("
      let target? ← if grouped then pure none else place? i primary
      match target? with
      | some target =>
        expectSign ")"
        return .builtin name [pattern, new, target]
      | none => unexpected
    else
      expectSign ")"
      return .builtin name [pattern, new, .field (.number 0)]
  | "match" =>
    let e ← i.expr
    expectSign ","
    let pattern ← i.expr
    expectSign ")"
    return .builtin name [e, pattern]
  | _ =>
    let args ← listUpTo i ")"
    let (least, most) := (argumentCounts.lookup name).getD (0, 255)
    if args.length < least || most < args.length then
      failBefore ("wrong number of arguments in call to " ++ name)
    else
      if name ≠ "length" then for e in args do noteValue e
      return .builtin name args

/-- What stands in parentheses. Several expressions are the keys of an element that is looked
for. -/
def grouped (i : Inner) : Parse Parsed := do
  expectSign "("
  let es ← separated i.expr (← symbolsLeft)
  expectSign ")"
  match es with
  | [.field e] => return ⟨.field e, true⟩
  | [e] => return ⟨e, false⟩
  | _ =>
    if ← atKeyword "in" then
      advance
      let t ← expectName
      noteKind t true
      return ⟨.has t es, false⟩
    else unexpected

/-- An operand without anything after it. -/
def primary (i : Inner) : Nat → Parse Parsed
  | 0 => unexpected
  | fuel + 1 => do
    match ← peek with
    | .number x _ =>
      advance
      return ⟨.number x, false⟩
    | .text s =>
      advance
      return ⟨.text s, false⟩
    | .regex s =>
      advance
      match regexOf s with
      | .ok _ => return ⟨.regex s, false⟩
      | .error message => failBefore message
    | .name s =>
      advance
      return ⟨← namedPlace i s, true⟩
    | .function s =>
      let line := (← get).line
      advance
      expectSign "("
      let args ← listUpTo i ")"
      modify fun r => { r with calls := (s, args.length, max line r.line) :: r.calls }
      return ⟨.call s args, false⟩
    | .builtin s =>
      advance
      return ⟨← builtinCall i (primary i fuel) s, false⟩
    | .sign "$" =>
      advance
      return ⟨← fieldPlace i (primary i fuel), true⟩
    | .sign "(" => grouped i
    | .sign "++" | .sign "--" =>
      let up ← atSign "++"
      advance
      match ← place? i (primary i fuel) with
      | some target => return ⟨.step target up false, false⟩
      | none => unexpected
    | .keyword "getline" =>
      advance
      let target ← place? i (primary i fuel)
      if ← atSign "<" then
        advance
        let source ← primary i fuel
        noteValue source.expr
        return ⟨.read .file [source.expr] target.toList, false⟩
      else return ⟨.read .main [] target.toList, false⟩
    | _ => unexpected

/-- An operand with a step by one after it. -/
def stepped (i : Inner) : Parse Parsed := do
  let p ← primary i (← symbolsLeft)
  let up ← atSign "++"
  let down ← atSign "--"
  if p.isPlace && (up || down) then
    noteValue p.expr
    advance
    return ⟨.step p.expr up true, false⟩
  else return p

/-- Whether the symbol at hand is a sign before an operand. -/
def atUnary : Parse Bool := do
  match ← peek with
  | .sign s => return s ∈ ["-", "+", "!"]
  | _ => return false

/-- A power. Powers group from the right. -/
def power (i : Inner) : Nat → Parse Parsed
  | 0 => unexpected
  | fuel + 1 => do
    let base ← stepped i
    if ← atSign "^" then
      noteValue base.expr
      advance
      let exponent ← if ← atUnary then i.unary else do
        let p ← power i fuel
        noteValue p.expr
        pure p.expr
      return ⟨.compute .power base.expr exponent, false⟩
    else return base

/-- Reads records from a command again and again. -/
def piped (i : Inner) : Nat → Parsed → Parse Parsed
  | 0, p => return p
  | fuel + 1, p => do
    if ← atSign "|" then
      match ← peekSecond with
      | .keyword "getline" =>
        noteValue p.expr
        advance
        advance
        let target ← place? i (primary i (← symbolsLeft))
        piped i fuel ⟨.read .command [p.expr] target.toList, false⟩
      | _ =>
        advance
        unexpected
    else return p

/-- An operand with signs before it. -/
def signed (i : Inner) : Parse Parsed := do
  match ← peek with
  | .sign "-" =>
    advance
    return ⟨.negate (← i.unary), false⟩
  | .sign "+" =>
    advance
    return ⟨.affirm (← i.unary), false⟩
  | .sign "!" =>
    advance
    return ⟨.not (← i.unary), false⟩
  | _ =>
    let n ← symbolsLeft
    piped i n (← power i n)

/-! ## Operators -/

/-- Takes note of an operand that is matched, and finds out whether it can be. -/
def notePattern (e : Expr) : Parse Unit := do
  match e with
  | .text s =>
    match regexOf s with
    | .ok _ => return ()
    | .error message => failBefore message
  | _ => noteValue e

/-- Operands with operators between them, which group from the left. -/
def chain (operand : Parse Parsed) (operator? : Token → Option (Expr → Expr → Expr))
    (note : Expr → Parse Unit) : Nat → Parsed → Parse Parsed
  | 0, p => return p
  | fuel + 1, p => do
    match operator? (← peek) with
    | some f =>
      noteValue p.expr
      advance
      let q ← operand
      note q.expr
      chain operand operator? note fuel ⟨f p.expr q.expr, false⟩
    | none => return p

/-- A whole row of operands. -/
def row (operand : Parse Parsed) (operator? : Token → Option (Expr → Expr → Expr)) :
    Parse Parsed := do
  let first ← operand
  chain operand operator? noteValue (← symbolsLeft) first

/-- The operators of products. -/
def productOperator? : Token → Option (Expr → Expr → Expr)
  | .sign "*" => some (.compute .multiply)
  | .sign "/" => some (.compute .divide)
  | .sign "%" => some (.compute .remainder)
  | _ => none

/-- The operators of sums. -/
def sumOperator? : Token → Option (Expr → Expr → Expr)
  | .sign "+" => some (.compute .add)
  | .sign "-" => some (.compute .subtract)
  | _ => none

/-- The operators of comparison. -/
def comparisonOperator? : Token → Option (Expr → Expr → Expr)
  | .sign "<" => some (.compare .less)
  | .sign "<=" => some (.compare .lessOrEqual)
  | .sign "==" => some (.compare .equal)
  | .sign "!=" => some (.compare .unequal)
  | .sign ">" => some (.compare .greater)
  | .sign ">=" => some (.compare .greaterOrEqual)
  | _ => none

/-- The operators of matching. -/
def matchOperator? : Token → Option (Expr → Expr → Expr)
  | .sign "~" => some (.matching false)
  | .sign "!~" => some (.matching true)
  | _ => none

/-- The operators that assign. -/
def assignOperator? : Token → Option (Option Operation)
  | .sign "=" => some none
  | .sign "+=" => some (some .add)
  | .sign "-=" => some (some .subtract)
  | .sign "*=" => some (some .multiply)
  | .sign "/=" => some (some .divide)
  | .sign "%=" => some (some .remainder)
  | .sign "^=" => some (some .power)
  | _ => none

/-- Whether a symbol may start an operand that is joined to the one before it. -/
def startsJoined : Token → Bool
  | .number _ _ => true
  | .text _ => true
  | .regex _ => true
  | .name _ => true
  | .function _ => true
  | .builtin _ => true
  | .keyword "getline" => true
  | .sign s => s ∈ ["$", "(", "!", "++", "--"]
  | _ => false

/-- A sum. -/
def sum (i : Inner) : Parse Parsed := row (row (signed i) productOperator?) sumOperator?

/-- Operands that are joined. -/
def joined (i : Inner) : Nat → Parsed → Parse Parsed
  | 0, p => return p
  | fuel + 1, p => do
    if startsJoined (← peek) then
      noteValue p.expr
      let q ← sum i
      noteValue q.expr
      joined i fuel ⟨.join p.expr q.expr, false⟩
    else return p

/-- Joined operands, or an assignment. -/
def operand (i : Inner) : Parse Parsed := do
  let first ← sum i
  let p ← joined i (← symbolsLeft) first
  let t ← peek
  match if p.isPlace then assignOperator? t else none with
  | some operation? =>
    noteValue p.expr
    advance
    let value ← i.expr
    noteValue value
    return ⟨.assign p.expr operation? value, false⟩
  | none => return p

/-- Looks for keys in tables. -/
def membership : Nat → Parsed → Parse Parsed
  | 0, p => return p
  | fuel + 1, p => do
    if ← atKeyword "in" then
      noteValue p.expr
      advance
      let t ← expectName
      noteKind t true
      membership fuel ⟨.has t [p.expr], false⟩
    else return p

/-- An operand of `&&`. -/
def tested (i : Inner) : Parse Parsed := do
  let comparison := row (operand i) comparisonOperator?
  let first ← comparison
  let p ← chain comparison matchOperator? notePattern (← symbolsLeft) first
  membership (← symbolsLeft) p

/-- A whole expression. A name alone may still be a table. -/
def whole (i : Inner) : Parse Expr := do
  let conjunction := row (tested i) fun
    | .sign "&&" => some .and
    | _ => none
  let c ← row conjunction fun
    | .sign "||" => some .or
    | _ => none
  if ← atSign "?" then
    noteValue c.expr
    advance
    let a ← i.expr
    noteValue a
    expectSign ":"
    let b ← i.expr
    noteValue b
    return .choose c.expr a b
  else return c.expr

/-- The readers for what is inside an expression, to a depth. -/
def inner : Nat → Inner
  | 0 => .none
  | depth + 1 =>
    let i := inner depth
    ⟨whole i, do
      let p ← signed i
      noteValue p.expr
      return p.expr⟩

/-- How deep expressions and statements may lie inside each other. -/
def readingDepth : Nat := 400

/-- Reads an expression, whose value counts. -/
def expression : Parse Expr := do
  let e ← (inner readingDepth).expr
  noteValue e
  return e

/-! ## Statements -/

/-- Whether a statement ends at the symbol at hand. -/
def atSeparator : Parse Bool := do
  match ← peek with
  | .newline | .close | .sign ";" => return true
  | _ => return false

/-- Goes past the end of a statement. -/
def separator : Parse Unit := do
  if ← atSeparator then advance else unexpected

/-- Expressions with commas between them, whose values count. -/
def values : Parse (List Expr) := do
  let es ← separated (inner readingDepth).expr (← symbolsLeft)
  for e in es do noteValue e
  return es

/-- The arguments of `print` in parentheses, if nothing else follows them. -/
def groupedArgs : Parse (List Expr) := do
  expectSign "("
  let es ← if ← atSign ")" then pure [] else values
  expectSign ")"
  match ← peek with
  | .newline | .close | .sign ";" | .output _ => return es
  | _ => unexpected

/-- Tries one reader, then another one. -/
def orElse {α : Type} (first second : Parse α) : Parse α := fun r =>
  match first r with
  | .ok found => .ok found
  | .error _ => second r

/-- The arguments of `print`. -/
def printArgs : Parse (List Expr) := do
  match ← peek with
  | .newline | .close | .sign ";" | .output _ => return []
  | .sign "(" => orElse groupedArgs values
  | _ => values

/-- Where the output of `print` goes. -/
def printOutput : Parse (Option (Way × Expr)) := do
  match ← peek with
  | .output way =>
    advance
    return some (way, ← expression)
  | _ => return none

/-- A condition in parentheses. -/
def condition : Parse Expr := do
  expectSign "("
  let e ← expression
  expectSign ")"
  pastNewlines
  return e

/-- Reads something inside a loop. -/
def inLoop {α : Type} (body : Parse α) : Parse α := do
  modify fun r => { r with loops := r.loops + 1 }
  let a ← body
  modify fun r => { r with loops := r.loops - 1 }
  return a

/-- Whether a loop over the keys of a table follows, after the parenthesis. -/
def atEach : Parse Bool := do
  match (← get).rest with
  | ⟨.name _, _⟩ :: ⟨.keyword "in", _⟩ :: ⟨.name _, _⟩ :: ⟨.sign ")", _⟩ :: _ => return true
  | _ => return false

/-- Reads a loop, after its word. -/
def forLoop (statement : Parse Statement) : Parse Statement := do
  expectSign "("
  if ← atEach then
    let name ← expectName
    noteKind name false
    advance
    let table ← expectName
    noteKind table true
    expectSign ")"
    pastNewlines
    return .each name table (← inLoop statement)
  else
    let first ← if ← atSign ";" then pure [] else do pure [← expression]
    expectSign ";"
    let test ← if ← atSign ";" then pure none else do pure (some (← expression))
    expectSign ";"
    let step ← if ← atSign ")" then pure [] else do pure [← expression]
    expectSign ")"
    pastNewlines
    let body ← inLoop statement
    return .block (first.map .expr ++ [.loop test step body])

/-- A word that is a whole statement. -/
def plainStatement (s : Statement) (fits : Bool) (message : String) : Parse Statement := do
  if fits then
    advance
    separator
    return s
  else failWith message

/-- An expression, if a statement does not end before it. -/
def optionalValue : Parse (Option Expr) := do
  if ← atSeparator then return none else return some (← expression)

/-- Statements up to the closing brace. -/
def statementsIn (statement : Parse Statement) : Nat → Parse (List Statement)
  | 0 => unexpected
  | fuel + 1 => do
    if ← atSign "\x7d" then
      advance
      return []
    else
      let s ← statement
      return s :: (← statementsIn statement fuel)

/-- Statements in braces. -/
def block (statement : Parse Statement) : Parse Statement := do
  expectSign "\x7b"
  return .block (← statementsIn statement (← symbolsLeft))

/-- Reads a statement. -/
def statement : Nat → Parse Statement
  | 0 => unexpected
  | depth + 1 => do
    let r ← get
    match ← peek with
    | .sign "\x7b" => block (statement depth)
    | .newline | .close | .sign ";" =>
      advance
      return .block []
    | .keyword "if" =>
      advance
      let c ← condition
      let yes ← statement depth
      if ← atKeyword "else" then
        advance
        pastNewlines
        return .choice c yes [← statement depth]
      else return .choice c yes []
    | .keyword "while" =>
      advance
      let c ← condition
      return .loop (some c) [] (← inLoop (statement depth))
    | .keyword "do" =>
      advance
      pastNewlines
      let body ← inLoop (statement depth)
      if ← atKeyword "while" then
        advance
        expectSign "("
        let c ← expression
        expectSign ")"
        separator
        return .loopOnce body c
      else unexpected
    | .keyword "for" =>
      advance
      forLoop (statement depth)
    | .keyword "break" => plainStatement .leave (0 < r.loops) "break statement outside of loop"
    | .keyword "continue" =>
      plainStatement .again (0 < r.loops) "continue statement outside of loop"
    | .keyword "next" => plainStatement .next r.onRecords "improper use of next"
    | .keyword "nextfile" => plainStatement .nextFile r.onRecords "improper use of nextfile"
    | .keyword "exit" =>
      advance
      let e ← optionalValue
      separator
      return .exit e
    | .keyword "return" =>
      if r.params?.isNone then failWith "return outside function body"
      advance
      let e ← optionalValue
      separator
      return .giveBack e
    | .keyword "delete" =>
      advance
      let t ← expectName
      match ← namedPlace (inner readingDepth) t with
      | .element _ keys =>
        separator
        return .erase t (some keys)
      | _ =>
        noteKind t true
        separator
        return .erase t none
    | .keyword "print" =>
      advance
      let args ← printArgs
      let output? ← printOutput
      separator
      return .print args output?
    | .keyword "printf" =>
      advance
      let args ← printArgs
      if args.isEmpty then failWith "no arguments in call to printf"
      let output? ← printOutput
      separator
      return .printf args output?
    | _ =>
      let e ← expression
      separator
      return .expr e

/-! ## Rules and functions -/

/-- Reads an action. -/
def action : Parse Statement := block (statement readingDepth)

/-- Writes the record. -/
def printRecord : Statement := .print [] none

/-- The parameters of a function. -/
def parameters : Nat → List String → Parse (List String)
  | 0, found => return found
  | fuel + 1, found => do
    let p ← expectName
    if found.contains p then failBefore (p ++ " is duplicated in argument list")
    if ← atSign "," then
      advance
      parameters fuel (found ++ [p])
    else
      expectSign ")"
      return found ++ [p]

/-- Reads a function, after its word. -/
def functionRule (known : List Function) : Parse Function := do
  match ← peek with
  | .function name =>
    if known.any fun f => f.name = name then failWith ("redefinition of " ++ name)
    if ((← get).kinds.lookup name).isSome then
      failWith ("illegal reference to variable " ++ name)
    advance
    expectSign "("
    let params ← if ← atSign ")" then do
        advance
        pure []
      else parameters (← symbolsLeft) []
    pastNewlines
    modify fun r => { r with params? := some params, onRecords := false }
    let body ← action
    modify fun r => { r with params? := none }
    return ⟨name, params, body, []⟩
  | _ => unexpected

/-- Reads a rule. -/
def rule : Parse Rule := do
  let begins ← atKeyword "BEGIN"
  let ends ← atKeyword "END"
  modify fun r => { r with onRecords := !(begins || ends), loops := 0 }
  if begins || ends then
    advance
    return ⟨if begins then .before else .after, ← action⟩
  else if ← atSign "\x7b" then return ⟨.always, ← action⟩
  else
    let e ← expression
    let pattern ← if ← atSign "," then do
        advance
        pure (Pattern.range e (← expression))
      else pure (Pattern.when e)
    if ← atSign "\x7b" then return ⟨pattern, ← action⟩
    else
      separator
      return ⟨pattern, printRecord⟩

/-- Reads rules and functions up to the end. -/
def readRules : Nat → Program → Parse Program
  | 0, p => return p
  | fuel + 1, p => do
    match ← peek with
    | .ended => return p
    | .keyword "function" =>
      advance
      let f ← functionRule p.functions
      readRules fuel { p with functions := p.functions ++ [f] }
    | _ =>
      let r ← rule
      readRules fuel { p with rules := p.rules ++ [r] }

/-- The names that are known from the start. -/
def firstKinds : List (String × Bool) :=
  [("ENVIRON", true), ("ARGV", true)] ++
    (["NR", "FNR", "NF", "FS", "RS", "OFS", "ORS", "SUBSEP", "RSTART", "RLENGTH", "FILENAME",
      "ARGC",
      "CONVFMT", "OFMT"].map fun s => (s, false))

/-- What is wrong with the calls of functions. -/
def callFaults (p : Program) (calls : List (String × Nat × Nat)) (last : Nat) : List String :=
  calls.filterMap fun (name, count, line) =>
    match p.functions.find? fun f => f.name = name with
    | none => some (inLine last ("function " ++ name ++ " never defined"))
    | some f =>
      if f.params.length < count then
        some (inLine line ("too many arguments in call to " ++ name))
      else none

/-- Reads a program. Gives what is wrong with it otherwise. -/
def Program.ofText (text : String) : Except (List String) Program :=
  let symbols := scan text
  let first : Reading := ⟨symbols, 1, firstKinds, none, 0, true, [], 0⟩
  match (readRules (symbols.length + 1) ⟨[], []⟩).run first with
  | .error message => .error [message]
  | .ok (p, r) =>
    let last := (r.rest.head?.map Lexeme.line).getD r.line
    let faults := callFaults p r.calls last
    if faults.isEmpty then .ok { p with functions := withTables p.functions } else .error faults

end Looplet.Awk
