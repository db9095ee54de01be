import Looplet.Shell.Braces
import Looplet.Shell.Calculation
import Looplet.Shell.View

/-!
# Expansion of words

A word is first turned into cells: characters that are quoted or not, and that may divide fields
or not. Then the cells are divided into fields, and a field that is a pattern is replaced by the
paths that it stands for.
-/

namespace Looplet.Shell

/-- What expansion makes of a word before it is divided. A character is soft if it comes from an
expansion outside quotes, so that it may divide fields. An edge always divides fields. A mark
stands for quotes, so that there is a field even if it is empty. -/
inductive Cell where
  | char (char : Char) (quoted soft : Bool)
  | edge
  | mark
  deriving DecidableEq

/-- What a word is expanded for. -/
inductive Purpose where
  | fields
  | assignment
  | text
  | pattern
  | document
  deriving DecidableEq

/-- The cells of a text. -/
def cellsOf (quoted soft : Bool) (s : String) : List Cell :=
  s.toList.map fun c => .char c quoted soft

/-- The text of cells. -/
def textOf (cells : List Cell) : String :=
  String.ofList (cells.filterMap fun
    | .char c _ _ => some c
    | _ => none)

/-- The characters of cells, with their quoting. -/
def markedOf (cells : List Cell) : List Marked :=
  cells.filterMap fun
    | .char c quoted _ => some (c, quoted)
    | _ => none

/-! ## Fields -/

/-- What ended the last field, if nothing has come since. -/
inductive Gap where
  | nothing
  | blank
  | separator
  deriving DecidableEq

/-- Fields that are complete, and the one at hand. -/
structure Fields where
  complete : List (List Marked)
  current : List Marked
  exists_ : Bool
  gap : Gap

namespace Fields

/-- Ends the field at hand. -/
def close (f : Fields) (gap : Gap) : Fields := ⟨f.complete ++ [f.current.reverse], [], false, gap⟩

/-- Adds a cell. -/
def add (separators : String) (f : Fields) : Cell → Fields
  | .mark => { f with exists_ := true, gap := .nothing }
  | .edge => if f.exists_ then f.close .nothing else f
  | .char c quoted soft =>
    if soft && separators.toList.contains c then
      if c = ' ' || c = '\t' || c = '\n' then if f.exists_ then f.close .blank else f
      else if f.gap = .blank && !f.exists_ then { f with gap := .separator }
      else f.close .separator
    else { f with current := (c, quoted) :: f.current, exists_ := true, gap := .nothing }

/-- The fields of cells. -/
def ofCells (separators : String) (cells : List Cell) : List (List Marked) :=
  let f := cells.foldl (add separators) ⟨[], [], false, .nothing⟩
  if f.exists_ then (f.close .nothing).complete else f.complete

end Fields

/-! ## Cells of values -/

/-- The cells of values that are fields of their own. -/
def separateCells (quoted : Bool) (values : List String) : List Cell :=
  let each := values.map fun s =>
    (if quoted then [Cell.mark] else []) ++ cellsOf quoted (!quoted) s
  List.flatten (each.intersperse [.edge])

/-- The cells of all arguments. They stay apart where fields are made, unless they are quoted as
one. In a shell that knows more than the standard a separator stands between them outside quotes. -/
def Process.argumentCells (p : Process) (star quoted : Bool) (purpose : Purpose)
    (values : List String) : List Cell :=
  if purpose = .fields && !(star && quoted) then
    if p.extended && !quoted && p.joint true ≠ "" then
      cellsOf false true ((p.joint true).intercalate values)
    else separateCells quoted values
  else
    let joined := star || !p.extended
    cellsOf quoted (!quoted) ((p.joint joined).intercalate values)

/-- The cells of what a parameter stands for, after a change to every text. -/
def Process.viewCells (p : Process) (purpose : Purpose) (quoted : Bool) (view : View)
    (change : String → String) : List Cell :=
  match view with
  | .one value? => cellsOf quoted (!quoted) (change (value?.getD ""))
  | .several star items =>
    p.argumentCells star quoted purpose (items.map fun item => change item.2)

/-- The text of a word that gives up because a parameter has no value. -/
def missing {α : Type} (name : String) (orEmpty : Bool) (message : String) : Run α := do
  let extended := (← get).extended
  let text := if message ≠ "" then message
    else if !orEmpty then "parameter not set"
    else if extended then "parameter null or not set"
    else "parameter not set or null"
  if extended then endWith (name ++ ": " ++ text) else fatal (name ++ ": " ++ text)

/-- Gives up because a parameter has no value. -/
def unbound {α : Type} (name : String) : Run α := do
  let isLetter := name.length = 1 && !isName name
  if (← get).extended then
    endWith ((if isLetter then "$" else "") ++ name ++ ": unbound variable")
  else missing name false ""

/-! ## Tildes -/

/-- The home directory of a user, where it is known. -/
def Process.home? (p : Process) (user : String) : Option String :=
  if user = "" then
    if p.extended then some ((p.value? "HOME").getD "/nonexistent") else p.value? "HOME"
  else if user = "root" then some "/root"
  else if user = "nobody" then some "/nonexistent"
  else if p.extended && user = "+" then p.value? "PWD"
  else if p.extended && user = "-" then p.value? "OLDPWD"
  else none

/-- Replaces a tilde at the start of a text by a home directory. The name of a user must be written
plainly: up to one of some characters, or to the end of the word if the text is `closed` by it. -/
def Process.withoutTilde (p : Process) (ends : List Char) (soft closed : Bool) (s : String) :
    List Cell :=
  match s.toList with
  | '~' :: cs =>
    let user := cs.takeWhile fun c => !ends.contains c
    match if user.length < cs.length || closed then p.home? (String.ofList user) else none with
    | some home =>
      (if p.extended then [.mark] else []) ++ cellsOf true false home
        ++ cellsOf false soft (String.ofList (cs.drop user.length))
    | none => cellsOf false soft s
  | _ => cellsOf false soft s

/-- The cells of a part of a value that a variable is set to, where a tilde may also follow a
colon. -/
def Process.valueCells (p : Process) (soft first closed : Bool) (s : String) : List Cell :=
  let parts := s.splitOn ":"
  let cellsAt : Nat × String → List Cell := fun (i, part) =>
    if first || 0 < i then p.withoutTilde ['/'] soft (closed || i + 1 < parts.length) part
    else cellsOf false soft part
  let all := parts.zipIdx.map fun (part, i) => cellsAt (i, part)
  List.flatten (all.intersperse [.char ':' false soft])

/-- How many characters of a text name a variable that is set to what follows. -/
def targetLength (s : String) : Nat :=
  let target := s.toList.takeWhile (· ≠ '=')
  let plain := if target.getLast? = some '+' then target.dropLast else target
  if target.length < s.length && isName (splitSubscript (String.ofList plain)).1 then
    target.length + 1
  else 0

/-- Whether a word is the value of a variable. In a shell that knows more than the standard, so is
all after the first sign in a word that looks like an assignment. -/
def Process.givesValue (p : Process) (purpose : Purpose) (w : Word) : Bool :=
  match purpose, w with
  | .assignment, _ => true
  | .fields, .text false s :: _ => p.extended && 0 < targetLength s
  | _, _ => false

/-- The cells of a text outside quotes, at the `first` place of a word or later, and before other
pieces unless it is `closed`. -/
def Process.textCells (p : Process) (purpose : Purpose) (soft value first closed : Bool)
    (s : String) : List Cell :=
  if value then
    let size := if first && purpose = .fields then targetLength s else 0
    cellsOf false soft (String.ofList (s.toList.take size))
      ++ p.valueCells soft first closed (String.ofList (s.toList.drop size))
  else if first then p.withoutTilde (if p.extended then ['/', ':'] else ['/']) soft closed s
  else cellsOf false soft s

/-! ## Numbers and output -/

/-- The value of a variable in an expression. -/
def lookupNumber (name : String) : Run Int64 := do
  let p ← get
  match p.value? name with
  | none => return 0
  | some s =>
    match Arithmetic.wordOf? s with
    | some n => if Text.fitsWord n then return Int64.ofInt n else fatal ("Illegal number: " ++ s)
    | none => fatal ("Illegal number: " ++ s)

/-- The value of an expression of the standard. -/
def standardValue (s : String) : Run Int64 := do
  let give {α : Type} (reason : String) : Run α :=
    fatal ("arithmetic expression: " ++ reason ++ ": \"" ++ s ++ "\"")
  Arithmetic.valueOf ⟨lookupNumber, fun name n => setVariable name (Text.ofWord n), give,
    throw (.signal 8)⟩ s

/-- The value of an expression. A message about it begins with what it belongs to. -/
def evaluate (start s : String) : Run Int64 := do
  if (← get).extended then calculated start s else standardValue s

/-- How the words inside a word are expanded: for a purpose, and with text outside quotes that is
soft or not. -/
abbrev Expander := Purpose → Bool → Word → Run (List Cell)

/-- The file whose content is the output of a command that only opens it. -/
def fileOnly? : Command → Option Word
  | .simple _ [] [] [.file 0 .input target _] _ => some target
  | _ => none

/-- What a forked computation writes to its output. -/
def writtenBy (body : Run Unit) : Run (ExitStatus × String) := do
  let p ← get
  let (reading, writing, w) := p.world.addPipe
  set { p with world := w }
  let ended ← fork do
    setDescriptor 1 (some writing)
    body
  match (← get).world.read reading ByteArray.size with
  | .error _ => return (ended, "")
  | .ok (bytes, w) =>
    modify fun p => { p with world := w }
    return (ended, Text.ofBytes bytes)

/-- Copies a file to the output. -/
def copyFile (path : String) : Run Unit := do
  match (← get).world.files.read (pathOf path) with
  | .ok bytes =>
    say (Text.ofBytes bytes)
    setStatus 0
  | .error e =>
    complain (path ++ ": " ++ e.reason)
    setStatus 1

/-- The output of a command that starts in a line, without the line feeds at its end. -/
def outputOf (run : Runner) (expand : Expander) (first : Nat) (c : Command) : Run String := do
  let p ← get
  let shift := if p.extended then Int.ofNat p.line - Int.ofNat first else 0
  let (ended, text) ← writtenBy do
    modify fun q => { q with
      options := if p.extended && !p.hasToggle "inherit_errexit" then q.options.filter (· ≠ 'e')
        else q.options,
      extras := { q.extras with shift := shift, level := q.extras.level + 1 } }
    match if p.extended then fileOnly? c else none with
    | some target => copyFile (textOf (← expand .text false target))
    | none => run (.life c false)
  if p.extended then setStatus (statusOf ended) else reportEnd ended
  modify fun p => { p with substituted? := some (statusOf ended) }
  let cs := text.toList.filter (· ≠ '\x00')
  if p.extended && cs.length < text.length then
    complain "warning: command substitution: ignored null byte in input"
  return String.ofList (cs.reverse.dropWhile (· = '\n')).reverse

/-- The highest descriptor for channels. -/
def lastChannel : Nat := 63

/-- The path of a channel from which the output of a command is read, or to which its input is
written. A command that reads waits until the command at hand is done. -/
def channelPath (run : Runner) (reads : Bool) (first : Nat) (c : Command) : Run String := do
  let p ← get
  let shift := Int.ofNat p.line - Int.ofNat first
  let (reading, writing, w) := p.world.addPipe
  set { p with world := w }
  let used := p.descriptors.map Prod.fst
  let fd := (((List.range (lastChannel + 1)).reverse).find? fun n => n ∉ used).getD lastChannel
  if reads then
    let _ ← fork do
      setDescriptor 1 (some writing)
      modify fun q => { q with
        extras := { q.extras with shift := shift, level := q.extras.level + 1 } }
      run (.life c false)
    setDescriptor fd (some reading)
  else
    let waiting := ⟨c, shift, reading, p.descriptors⟩
    modify fun q => { q with
      extras := { q.extras with readers := q.extras.readers ++ [waiting] } }
    setDescriptor fd (some writing)
  return "/dev/fd/" ++ Nat.repr fd

/-! ## Parameters -/

/-- What one of the values of a variable stands for. -/
def elementView (name subscript : String) : Run View := do
  let t := (← get).table name
  if t.keys = .texts then
    if subscript = "" then complain (name ++ ": bad array subscript")
    return .one (t.get? subscript)
  else
    let n := (← calculated "" subscript).toInt
    let n := if n < 0 then n + Int.ofNat t.nextNumber else n
    if n < 0 then
      complain (name ++ ": bad array subscript")
      return .one none
    else return .one (t.get? (Nat.repr n.toNat))

/-- What a text stands for as the name of a parameter. -/
def namedView (text : String) : Run View := do
  let p ← get
  match splitSubscript text with
  | (name, some "@") => return .several false (p.table name).items
  | (name, some "*") => return .several true (p.table name).items
  | (name, some subscript) => elementView name subscript
  | (name, none) =>
    if isName name || (Text.natural? name.toList).isSome
        || name ∈ specialNames.map Char.toString then
      return p.plainView name
    else giveUp (name ++ ": invalid variable name")

/-- What a parameter stands for, and how messages call it. -/
def viewOf (expand : Expander) : Parameter → Run (String × View)
  | .plain name => do
    let p ← get
    if p.extended then
      if name = "RANDOM" then set p.withChance
      let target := p.target name
      if target.toList.contains '[' then return (name, ← namedView target)
    return (name, (← get).plainView name)
  | .element name subscript => do
    let text := textOf (← expand .text false subscript)
    return (name ++ "[" ++ text ++ "]", ← elementView name text)
  | .all name joined => do
    return (name ++ (if joined then "[*]" else "[@]"),
      .several joined ((← get).table name).items)
  | .keys name joined => do
    return (name, .several joined (((← get).table name).items.map fun item => (item.1, item.1)))
  | .names start joined => do
    return (start, .several joined (((← get).namesWith start).map fun n => (n, n)))
  | .indirect target => do
    let p ← get
    let reference? := match target with
      | .plain name => (p.binding? name).filter Variable.reference
      | _ => none
    match reference? with
    | some v => return (v.name, .one v.text?)
    | none =>
      let (name, view) ← viewOf expand target
      match view with
      | .one none => giveUp (name ++ ": invalid indirect expansion")
      | _ =>
        let text := (p.joint true).intercalate view.values
        return (text, ← namedView text)

/-- The variable that a parameter names. -/
def Process.named? (p : Process) : Parameter → Option Variable
  | .plain name => p.variableOf? name
  | .element name _ => p.variableOf? name
  | .all name _ => p.variableOf? name
  | _ => none

/-- Whether the texts of a view are found by numbers. -/
def Process.isNumbered (p : Process) : Parameter → Bool
  | .plain _ => true
  | target => ((p.named? target).bind Variable.table?).all fun t => t.keys = .numbers

/-- A part of what a parameter stands for. -/
def slicedView (target : Parameter) (view : View) (offset : Int) (length? : Option (String × Int)) :
    Run View := do
  let p ← get
  let bad {α : Type} : Run α :=
    giveUp (((length?.map Prod.fst).getD "") ++ ": substring expression < 0")
  match view with
  | .several star items =>
    let items := match target with
      | .plain _ => ("0", p.name) :: items
      | _ => items
    if length?.any fun l => l.2 < 0 then bad
    else
      return .several star (sliceItems (p.isNumbered target) items offset (length?.map Prod.snd))
  | .one value? =>
    let cs := p.chars (value?.getD "")
    let (start, stop) := rangeOf cs.length offset (length?.map Prod.snd)
    if start ≤ Int.ofNat cs.length && 0 ≤ start && stop < start then bad
    else return .one (some (p.textOfChars (sliceOf cs offset (length?.map Prod.snd))))

/-- The words of a declaration. -/
def declarationWords (text : String) : List String :=
  match text.splitOn " " with
  | first :: second :: rest => [first, second, " ".intercalate rest]
  | words => words

/-- How a variable is set to the value that it has, in words. -/
def Process.assignmentOf (p : Process) (target : Parameter) (view : View) : List String :=
  let utf8 := p.isUtf8
  match p.named? target, view with
  | some v, .several _ _ => declarationWords (v.declaration utf8)
  | some v, .one value? =>
    let start := if v.flags = "" then [] else ["declare", "-" ++ v.flags]
    match value? with
    | some value => start ++ [v.name ++ "=" ++ Quoting.shown utf8 value]
    | none => if start.isEmpty then [] else start ++ [v.name]
  | none, .several _ items => "set" :: "--" :: items.map fun item => Quoting.shown utf8 item.2
  | none, .one _ => []

/-- How something is set to the value that it has. If its values stand apart, so do the words, as
far as blanks divide fields. -/
def Process.assignmentView (p : Process) (target : Parameter) (view : View) : View :=
  let words := p.assignmentOf target view
  let blank := p.separators = "" || p.separators.toList.contains ' '
  match view with
  | .several false _ =>
    if blank then .several false (words.map fun w => ("", w))
    else .one (some (" ".intercalate words))
  | _ => .one (some (" ".intercalate words))

/-- What a parameter stands for after a transformation that a letter names. -/
def Process.transformed (p : Process) (letter : Char) (target : Parameter) (view : View) : View :=
  let utf8 := p.isUtf8
  let each (f : String → String) : View := match view with
    | .one value? => .one (value?.map f)
    | .several star items => .several star (items.map fun item => (item.1, f item.2))
  let letters (change : CaseChange) (all : Bool) (s : String) : String :=
    p.textOfChars (changedCase change all [] (p.chars s))
  match letter with
  | 'Q' => each (Quoting.shown utf8)
  | 'E' => each escapesRead
  | 'U' => each (letters .upper true)
  | 'u' => each (letters .upper false)
  | 'L' => each (letters .lower true)
  | 'A' => p.assignmentView target view
  | 'a' =>
    let flags := ((p.named? target).map Variable.flags).getD ""
    if view.isSeveral then each fun _ => flags else .one (some flags)
  | 'K' =>
    match view with
    | .several star items =>
      let text := " ".intercalate
        (items.map fun item => item.1 ++ " " ++ Quoting.declared utf8 item.2)
      .several star [("", text ++ if p.isNumbered target || items.isEmpty then "" else " ")]
    | .one value? => .one (value?.map (Quoting.shown utf8))
  | 'k' =>
    match view with
    | .several star items =>
      .several star (items.flatMap fun item => [("", item.1), ("", item.2)])
    | .one value? => .one (value?.map (Quoting.shown utf8))
  | _ => view

/-- A replacement, in which an ampersand outside quotes stands for what was found. -/
def replacementOf (amps : Bool) (new : List Marked) (found : List Char) : List Char :=
  new.flatMap fun (c, quoted) => if amps && c = '&' && !quoted then found else [c]

/-- A text in which what a pattern stands for is replaced. -/
def replaced (spread : Spread) (pattern : List Atom) (new : List Char → List Char)
    (cs : List Char) : List Char :=
  let within (all : Bool) : List Char :=
    if pattern.isEmpty then cs
    else if cs.isEmpty then if Pattern.matchesAll pattern [] then new [] else []
    else Pattern.substituted pattern new all (cs.length + 1) cs
  match spread with
  | .once => within false
  | .everywhere => within true
  | .atStart =>
    match Pattern.longestStart? pattern cs with
    | some n => new (cs.take n) ++ cs.drop n
    | none => cs
  | .atEnd =>
    match (List.range (cs.length + 1)).find? fun n => Pattern.matchesAll pattern (cs.drop n) with
    | some n => cs.take n ++ new (cs.drop n)
    | none => cs

/-- Sets what a parameter names. -/
def assignParameter (expand : Expander) (target : Parameter) (value : String) : Run Unit := do
  match target with
  | .plain name =>
    if isName name then setVariable name value
    else if (← get).extended then giveUp ("$" ++ name ++ ": cannot assign in this way")
    else fatal (name ++ ": bad variable name")
  | .element name subscript =>
    setValue name (some (textOf (← expand .text false subscript))) false value
  | .all name joined =>
    giveUp (name ++ (if joined then "[*]" else "[@]") ++ ": bad array subscript")
  | _ => giveUp "bad substitution"

/-- Whether a parameter is all arguments. -/
def Parameter.isArguments : Parameter → Bool
  | plain name => name = "*"
  | _ => false

/-- The cells of a parameter. All arguments have blanks between them in a here-document. -/
def paramCells (expand : Expander) (purpose : Purpose) (quoted : Bool) (target : Parameter)
    (use : Use) : Run (List Cell) := do
  if let .wrong written := use then
    if (← get).extended then giveUp (written ++ ": bad substitution")
    else fatal "Bad substitution"
  let (name, view) ← viewOf expand target
  let p ← get
  let view := if purpose = .document && target.isArguments then view.apart else view
  let value? : Option String := match view with
    | .one v? => v?
    | .several _ items =>
      if items.isEmpty then none
      else some ((p.joint true).intercalate view.values)
  let isMissing := fun (orEmpty : Bool) => value?.isNone || (orEmpty && value? = some "")
  let whole := p.viewCells purpose quoted view
  let checkSet : Run Unit :=
    if !view.isSeveral && value?.isNone && 'u' ∈ p.options then unbound name else return ()
  let mapped (f : List Char → List Char) : List Cell :=
    whole fun s => p.textOfChars (f (p.chars s))
  let patternFor (w : Word) : Run (List Atom) := do
    let marked := markedOf (← expand .pattern false w)
    return (← get).patternOf marked
  match use with
  | .value _ => do
    checkSet
    return whole id
  | .length => do
    checkSet
    let size := if view.isSeveral && p.extended then view.values.length
      else (p.chars (value?.getD "")).length
    return cellsOf quoted (!quoted) (Nat.repr size)
  | .default orEmpty w =>
    if isMissing orEmpty then expand purpose (!quoted) w else return whole id
  | .replace orEmpty w =>
    if isMissing orEmpty then return [] else expand purpose (!quoted) w
  | .assign orEmpty w =>
    if !isMissing orEmpty then return whole id
    else
      let value := textOf (← expand .text false w)
      assignParameter expand target value
      return cellsOf quoted (!quoted) value
  | .require orEmpty w =>
    if isMissing orEmpty then missing name orEmpty (textOf (← expand .text false w))
    else return whole id
  | .trim atEnd longest w => do
    checkSet
    let pattern ← patternFor w
    return mapped (Pattern.trim atEnd longest pattern)
  | .changeCase change all w => do
    checkSet
    let pattern ← patternFor w
    return mapped (changedCase change all pattern)
  | .slice offset length? => do
    checkSet
    if value?.isNone && !view.isSeveral then return whole id
    let start := (← evaluate (name ++ ": ") (textOf (← expand .text false offset))).toInt
    let size? ← match length? with
      | some w => do
        let text := textOf (← expand .text false w)
        pure (some (text, (← evaluate (name ++ ": ") text).toInt))
      | none => pure none
    let part ← slicedView target view start size?
    return (← get).viewCells purpose quoted part id
  | .substitute spread w replacement => do
    checkSet
    let pattern ← patternFor w
    let new := Pattern.wideMarked p.isWide (markedOf (← expand .pattern false replacement))
    let amps := p.hasToggle "patsub_replacement"
    if value?.isNone then return whole id
    return mapped (replaced spread pattern (replacementOf amps new))
  | .transform letter => do
    checkSet
    return p.viewCells purpose quoted (p.transformed letter target view) id
  | .wrong _ => return []

/-! ## Words -/

/-- The cells of a piece. -/
def pieceCells (run : Runner) (expand : Expander) (purpose : Purpose)
    (soft value first closed : Bool) : Piece → Run (List Cell)
  | .text true s => return .mark :: cellsOf true false s
  | .text false s => do return (← get).textCells purpose soft value first closed s
  | .output quoted line c => do
    return cellsOf quoted (!quoted) (← outputOf run expand line c)
  | .number quoted e => do
    let n ← evaluate "" (textOf (← expand .text false e))
    return cellsOf quoted (!quoted) (Text.ofWord n)
  | .param quoted target use => paramCells expand purpose quoted target use
  | .channel reads first c => do return cellsOf true false (← channelPath run reads first c)
  | .items _ => return []

/-- The cells of pieces from left to right. -/
def piecesCells (run : Runner) (expand : Expander) (purpose : Purpose) (soft value first : Bool) :
    List Piece → Run (List Cell)
  | [] => return []
  | piece :: rest => do
    let here ← pieceCells run expand purpose soft value first rest.isEmpty piece
    let there ← piecesCells run expand purpose soft value false rest
    return here ++ there

/-- The cells of a word in which expansions are nested up to a depth. -/
def cells (run : Runner) : Nat → Expander
  | 0 => fun _ _ _ => throw .exhausted
  | depth + 1 => fun purpose soft w => do
    let value := (← get).givesValue purpose w
    piecesCells run (cells run depth) purpose soft value true w

/-- How deep expansions may be nested. -/
def expansionDepth : Nat := 1000

/-- The cells of a whole word. -/
def wordCells (run : Runner) (purpose : Purpose) (w : Word) : Run (List Cell) :=
  cells run expansionDepth purpose false w

/-- What a field stands for. A pattern that matches no path stands for itself, unless the shell is
told otherwise. -/
def pathsOf (field : List Marked) : Run (List String) := do
  let p ← get
  match p.pathsOf? field with
  | some paths => return paths
  | none =>
    let plain := String.ofList (field.map Prod.fst)
    if p.hasToggle "failglob" then giveUp ("no match: " ++ plain)
    else return if p.hasToggle "nullglob" then [] else [plain]

/-- The fields of a word. -/
def fieldsOf (run : Runner) (w : Word) : Run (List String) := do
  let cells ← wordCells run .fields w
  let fields := Fields.ofCells (← get).separators cells
  return (← fields.mapM pathsOf).flatten

/-- The text of a word that is not divided. -/
def textOfWord (run : Runner) (purpose : Purpose) (w : Word) : Run String := do
  return textOf (← wordCells run purpose w)

end Looplet.Shell
