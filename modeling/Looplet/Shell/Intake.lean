import Looplet.Shell.Toggles

/-!
# Reading input into variables

`read` takes one line, or a number of characters, and divides it among variables. `mapfile` takes
many lines into the values of one variable. What is taken is found by looking at all that is there,
and only that much is taken from the input.
-/

namespace Looplet.Shell

/-- How much of the input is read: up to a mark, or up to a number of characters, at which the mark
may count or not. A backslash is plain or protects the character after it. -/
structure Extent where
  mark : Char
  limit? : Option Nat
  exact : Bool
  raw : Bool
  utf8 : Bool

/-- Whether a byte continues a character. -/
def continues (utf8 : Bool) (c : Char) : Bool := utf8 && 0x80 ≤ c.toNat && c.toNat < 0xc0

/-- A backslash at the end of an input, where there is nothing to escape. -/
def strayEscape : Cell := .char '\x01' true false

/-- The text of the cells of a field. A backslash at the end counts only if it is alone. -/
def fieldText (cells : List Cell) : String :=
  if cells = [strayEscape] then textOf cells
  else textOf (if cells.getLast? = some strayEscape then cells.dropLast else cells)

/-- What is read of an input: its cells, how many bytes that takes, and whether it ends as it
should. -/
def Extent.scan (e : Extent) : Nat → Nat → List Char → List Cell × Nat × Bool
  | 0, _, _ => ([], 0, false)
  | fuel + 1, count, cs =>
    let atEnd := e.limit?.any (· ≤ count) && !(cs.head?.any (continues e.utf8))
    if atEnd then ([], 0, true)
    else
      let cell (size : Nat) (c : Char) (quoted : Bool) (rest : List Char) :
          List Cell × Nat × Bool :=
        let count := if continues e.utf8 c && 0 < count then count else count + 1
        let (cells, used, ended) := e.scan fuel count rest
        (.char c quoted (!quoted) :: cells, used + size, ended)
      let skip (size : Nat) (rest : List Char) : List Cell × Nat × Bool :=
        let (cells, used, ended) := e.scan fuel count rest
        (cells, used + size, ended)
      match cs with
      | [] => ([], 0, false)
      | ['\\'] => if e.raw then cell 1 '\\' false [] else ([strayEscape], 1, false)
      | '\\' :: '\n' :: rest => if e.raw then cell 1 '\\' false ('\n' :: rest) else skip 2 rest
      | '\\' :: c :: rest => if e.raw then cell 1 '\\' false (c :: rest) else cell 2 c true rest
      | c :: rest =>
        if c = e.mark && !e.exact then ([], 1, true)
        else if c = '\x00' || (c = '\\' && !e.raw) then skip 1 rest
        else cell 1 c false rest

/-- Reads from a descriptor. Gives the cells and whether the input ends as it should. -/
def Extent.read (e : Extent) (fd : Nat) : Run (List Cell × Bool) := do
  let scanned (text : String) : List Cell × Nat × Bool := e.scan (text.length + 1) 0 text.toList
  match ← readFrom fd (fun bytes => (scanned (Text.ofBytes bytes)).2.1) with
  | .error e => failWithStatus 1 ("read error: " ++ Nat.repr fd ++ ": " ++ e.reason)
  | .ok text =>
    let (cells, _, ended) := scanned text
    return (cells, ended || e.limit? = some 0)

/-- All fields of a line. -/
def allFields (separators : List Char) : Nat → List Cell → List String
  | 0, _ => []
  | fuel + 1, cells =>
    match cells.dropWhile (isBlankCell separators) with
    | [] => []
    | cells =>
      let field := cells.takeWhile fun c => !isSeparatorCell separators c
      let after := (cells.drop field.length).dropWhile (isBlankCell separators)
      let after := match after with
        | c :: more => if isSeparatorCell separators c then more else after
        | [] => []
      fieldText field :: allFields separators fuel after

/-- Sets the variable that a text names, which may have a subscript. -/
def setNamed (target value : String) : Run Unit := do
  let (name, subscript?) := splitSubscript target
  if isName name then setValue name subscript? false value
  else failWithStatus 1 (notIdentifier target)

/-- Cells without the blanks at their end. -/
def withoutLastBlanks (separators : List Char) (cells : List Cell) : List Cell :=
  (cells.reverse.dropWhile (isBlankCell separators)).reverse

/-- The last field of a line: all that is left. If that is one field, its separator goes too. -/
def lastField (separators : List Char) (cells : List Cell) : List Cell :=
  let cells := withoutLastBlanks separators cells
  match cells.getLast? with
  | some c =>
    let field := withoutLastBlanks separators cells.dropLast
    if isSeparatorCell separators c && !field.any (isSeparatorCell separators) then field else cells
  | none => cells

/-- Divides a line among variables. -/
def setFields (separators : List Char) : List String → List Cell → Run Unit
  | [], _ => return ()
  | [name], cells =>
    setNamed name (fieldText (lastField separators (cells.dropWhile (isBlankCell separators))))
  | name :: rest, cells => do
    let cells := cells.dropWhile (isBlankCell separators)
    let field := cells.takeWhile fun c => !isSeparatorCell separators c
    let after := (cells.drop field.length).dropWhile (isBlankCell separators)
    let after := match after with
      | c :: more =>
        if isSeparatorCell separators c then more.dropWhile (isBlankCell separators) else after
      | [] => []
    setNamed name (fieldText field)
    setFields separators rest after

/-- The descriptor that an option names. -/
def descriptorOf (given? : Option String) : Run Nat := do
  match given? with
  | none => return 0
  | some s =>
    match Text.natural? s.toList with
    | none => failWithStatus 1 (s ++ ": invalid file descriptor specification")
    | some fd =>
      if ((← get).descriptors.lookup fd).isSome then return fd
      else failWithStatus 1 (s ++ ": invalid file descriptor: Bad file descriptor")

/-- Whether a text is a number of seconds. -/
def isTimeout (s : String) : Bool :=
  match s.splitOn "." with
  | [whole] => (Text.natural? whole.toList).isSome
  | [whole, part] =>
    (whole ++ part) ≠ "" && (whole ++ part).toList.all Char.isDigit
  | _ => false

/-- Reads a line into variables. -/
def richReadBuiltin : BuiltinBody := fun _ args => do
  let (opts, names) ← options "ersa:d:i:n:N:p:t:u:" args
  let value? (c : Char) : Option String := opts.reverse.lookup c
  let p ← get
  let size? ← match (value? 'N').orElse fun _ => value? 'n' with
    | none => pure none
    | some s =>
      match Text.natural? s.toList with
      | some n => pure (some n)
      | none => failWithStatus 1 (s ++ ": invalid number")
  if let some t := value? 't' then
    if !isTimeout t then failWithStatus 1 (t ++ ": invalid timeout specification")
  let fd ← descriptorOf (value? 'u')
  let first := names.head?.getD "REPLY"
  if !isName (splitSubscript first).1 then failWithStatus 1 (notIdentifier first)
  if value? 't' = some "0" then return if (p.descriptors.lookup fd).isSome then 0 else 1
  let exact := (value? 'N').isSome
  let mark := ((value? 'd').map fun s => s.toList.head?.getD '\x00').getD '\n'
  let extent : Extent := ⟨mark, size?, exact, (value? 'r').isSome, p.isUtf8⟩
  let (cells, ended) ← extent.read fd
  let separators := p.separators.toList
  match value? 'a' with
  | some name =>
    let fields := allFields separators (cells.length + 1) cells
    changeVariable (p.target name) fun v => { v with
      table? := if v.table?.any fun t => t.keys = .texts then none else v.table? }
    setItems name false (fields.map fun f => ⟨none, false, f⟩)
  | none =>
    if names.isEmpty then setVariable "REPLY" (fieldText cells)
    else if exact then
      setNamed first (fieldText cells)
      for name in names.drop 1 do setNamed name ""
    else setFields separators names cells
  return if ended then 0 else 1

/-! ## Many lines -/

/-- A text divided after every mark. -/
def piecesAfter (mark : Char) : List Char → List (List Char)
  | [] => []
  | c :: cs =>
    match piecesAfter mark cs with
    | [] => [[c]]
    | piece :: pieces => if c = mark then [c] :: piece :: pieces else (c :: piece) :: pieces

/-- A number that an option gives, or a complaint about it. -/
def countOf (given? : Option String) (other : Nat) (what : String) : Run Nat := do
  match given? with
  | none => return other
  | some s =>
    match Text.natural? s.toList with
    | some n => return n
    | none => failWithStatus 1 (s ++ ": invalid " ++ what)

/-- Reads lines into the values of a variable. -/
def mapfileBuiltin : BuiltinBody := fun run args => do
  let (opts, names) ← options "d:n:O:s:tu:C:c:" args
  let value? (c : Char) : Option String := opts.reverse.lookup c
  let fd ← descriptorOf (value? 'u')
  let limit ← countOf (value? 'n') 0 "line count"
  let origin ← countOf (value? 'O') 0 "array origin"
  let skipped ← countOf (value? 's') 0 "line count"
  let quantum ← countOf (value? 'c') 5000 "callback quantum"
  let name := names.head?.getD "MAPFILE"
  if !isName name then failWithStatus 1 (notIdentifier name)
  if (← get).isReadOnly name then readOnlyError name
  let mark := ((value? 'd').map fun s => s.toList.head?.getD '\x00').getD '\n'
  let wanted (lines : List (List Char)) : List (List Char) :=
    if limit = 0 then lines else lines.take (skipped + limit)
  let text := ((← readFrom fd fun bytes =>
    ((wanted (piecesAfter mark (Text.ofBytes bytes).toList)).map List.length).foldl (· + ·) 0)
      |>.toOption).getD ""
  let lines := (wanted (piecesAfter mark text.toList)).drop skipped
  let fresh := (value? 'O').isNone
  changeVariable name fun v => { v with
    text? := none, declaredOnly := false,
    table? := some (if fresh then .empty .numbers else v.table) }
  for (line, i) in lines.zipIdx do
    let stripped := if (value? 't').isSome && line.getLast? = some mark then line.dropLast else line
    let value := String.ofList (stripped.filter (· ≠ '\x00'))
    let index := origin + i
    if let some callback := value? 'C' then
      if (i + 1) % (max 1 quantum) = 0 then
        let call := callback ++ " " ++ Nat.repr index ++ " " ++ Quoting.single value
        let saved := (← get).builtin?
        modify fun p => { p with builtin? := none }
        run (.text call .none .inner)
        modify fun p => { p with builtin? := saved }
    putValue name (some (Nat.repr index)) value
  return 0

end Looplet.Shell
