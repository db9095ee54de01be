import Looplet.Shell.SimpleCommand
import Looplet.Text.Regex.Reader

/-!
# Running commands

Every kind of command is run in terms of a `Runner`, which runs the commands inside it. `runText`
reads the commands of a text line by line and runs each line before the next one is read.
-/

namespace Looplet.Shell

/-- Does what a command that failed asks for: there may be an action for it, and it may end the
shell. -/
def checkFailure (run : Runner) (tested : Bool) : Run Unit := do
  let p ← get
  if !tested && p.status ≠ 0 then
    runExtraAction run errorMark
    if 'e' ∈ (← get).options then throw .finish

/-- Takes note of how the parts of a pipeline ended. -/
def notePipe (statuses : List Nat) : Run Unit :=
  modify fun p => { p with extras := { p.extras with pipeStatus := statuses } }

/-- Does what has to be done after a command: signals are heeded, and its status is looked at. -/
def concluding (run : Runner) (tested : Bool) (statuses? : Option (List Nat)) : Run Unit := do
  notePipe (statuses?.getD [(← get).status])
  heedSignals run
  checkFailure run tested

/-! ## Other processes -/

/-- The status of a pipeline that fails if one of its parts does: that of the last one that failed.
-/
def lastFailure (statuses : List Nat) : Nat :=
  (statuses.reverse.find? (· ≠ 0)).getD 0

/-- Takes no note any more of the loops around a process of its own, in a shell that knows more than
the standard. -/
def leaveLoops : Run Unit := modify fun p => if p.extended then { p with loops := 0 } else p

/-- Runs a command as all that a process does. A simple command counts as part of the shell that
started it. -/
def runAlone (run : Runner) (tested : Bool) (c : Command) : Run Unit := do
  match c with
  | .simple .. =>
    modify fun p => { p with extras := { p.extras with depth := p.extras.depth - 1 } }
  | _ => leaveLoops
  run (.life c tested)

/-- The line of a command. -/
def lineOf? : Command → Option Nat
  | .simple line .. => some line
  | .subshell line .. => some line
  | .each line .. => some line
  | .choice line .. => some line
  | .test line .. => some line
  | .arithmetic line .. => some line
  | .group body => lineOf? body
  | _ => none

/-- Looks for the program of a command ahead of time, in a shell of the standard, if its name is
written plainly. The command is run in another process, which could not keep in mind where it is. -/
def findAhead (c : Command) : Run Unit := do
  match c with
  | .simple _ _ (w :: _) _ _ =>
    match plain? w with
    | some name => if isName name && !(← get).extended then let _ ← findCommand {} name
    | none => pure ()
  | _ => pure ()

/-- Runs commands that are joined by pipes, each in a process of its own; the last one may be run by
the shell itself. Gives how they ended. -/
def runPipeline (run : Runner) (tested : Bool) (input? : Option Nat) :
    List Command → Run (List Nat)
  | [] => return []
  | c :: rest => do
    findAhead c
    let p ← get
    if p.hasToggle "lastpipe" && rest.isEmpty then
      keeping [0] p.descriptors do
        setDescriptor 0 input?
        run (.command c ⟨tested, false⟩)
      return [(← get).status]
    else
      let (reading, writing, w) := p.world.addPipe
      if !rest.isEmpty then set { p with world := w }
      let ended ← fork do
        match input? with
        | some index => setDescriptor 0 (some index)
        | none => pure ()
        if !rest.isEmpty then setDescriptor 1 (some writing)
        runAlone run tested c
      if p.extended && !rest.isEmpty then setStatus (statusOf ended) else finishChild false ended
      if !rest.isEmpty then setStatus p.status
      let more ← runPipeline run tested (some reading) rest
      return statusOf ended :: more

/-- Runs a command in the background. -/
def runBackground (run : Runner) (c : Command) : Run Unit := do
  match c with
  | .pipeline parts => for part in parts do findAhead part
  | _ => pure ()
  let id := (← get).world.processes
  let ended ← fork do
    install 0 ⟨.null, true, true⟩
    runAlone run false c
  modify fun p => { p with background? := some id, jobs := (id, ended) :: p.jobs }
  setStatus 0

/-- Runs a command in a process of its own. -/
def runSubshell (run : Runner) (duty : Duty) (line : Nat) (body : Command)
    (redirects : List Redirect) : Run Unit := do
  atLine line
  let openings ← openingsOf run redirects
  let ended ← fork do
    leaveLoops
    if ← performAll false [] openings then run (.life body duty.tested)
  finishChild duty.last ended

/-- Runs a command with other open files. -/
def runRedirected (run : Runner) (tested : Bool) (line : Nat) (body : Command)
    (redirects : List Redirect) : Run Unit := do
  if line ≠ 0 then atLine line
  let openings ← openingsOf run redirects
  withOpenings (return ()) (run (.command body ⟨tested, false⟩)) [] openings

/-- A time in minutes and seconds. -/
def minutesText (milliseconds : Nat) : String :=
  let part := Nat.repr (milliseconds % 1000)
  Nat.repr (milliseconds / 60000) ++ "m" ++ Nat.repr (milliseconds / 1000 % 60) ++ "."
    ++ String.ofList (List.replicate (3 - part.length) '0') ++ part ++ "s"

/-- Runs a command and tells how long that took. -/
def runTimed (run : Runner) (duty : Duty) (c : Command) : Run Unit := do
  let start := (← get).world.clock
  run (.command c ⟨duty.tested, false⟩)
  let passed := (← get).world.clock - start
  sayError ("\nreal\t" ++ minutesText passed ++ "\nuser\t0m0.000s\nsys\t0m0.000s\n")

/-! ## Loops -/

/-- Whether a loop goes on after a part of it. A jump that leads further passes through. -/
def goesOn : Except Stop Unit → Run Bool
  | .ok () => return true
  | .error (.leave (n + 2)) => throw (.leave (n + 1))
  | .error (.leave _) => return false
  | .error (.again (n + 2)) => throw (.again (n + 1))
  | .error (.again _) => return true
  | .error stop => throw stop

/-- Runs a computation with one more loop around it. -/
def insideLoop (body : Run Unit) : Run (Except Stop Unit) := do
  let loops := (← get).loops
  modify fun p => { p with loops := loops + 1 }
  let r ← outcome body
  modify fun p => { p with loops := loops }
  return r

/-- How often a loop may be repeated. -/
def loopLimit : Nat := 10000000

/-- Repeats a command as long as a test succeeds, or until it does. -/
def runLoop (run : Runner) (tested untilTrue : Bool) (test body : Command) : Run Unit := do
  let mut status := 0
  for _ in [0:loopLimit] do
    match ← insideLoop (run (.command test ⟨true, false⟩)) with
    | .ok () =>
      if ((← get).status = 0) = untilTrue then
        setStatus status
        return ()
      if !(← goesOn (← insideLoop (run (.command body ⟨tested, false⟩)))) then return ()
      status := (← get).status
    | r => if !(← goesOn r) then return ()
  throw .exhausted

/-- Sets the variable of a loop. Gives whether that succeeds. -/
def setLoopVariable (name value : String) : Run Bool := do
  let p ← get
  if p.extended && p.isReadOnly (p.target name) then
    complain (p.target name ++ ": readonly variable")
    setStatus 1
    return false
  else
    setVariable name value
    return true

/-- Repeats a command for every value of a variable; `shown` is the loop as it is written. -/
def runEach (run : Runner) (tested : Bool) (shown name : String) (body : Command) :
    List String → Run Unit
  | [] => return ()
  | value :: rest => do
    traceText run shown
    runExtraAction run debugMark
    if ← setLoopVariable name value then
      if ← goesOn (← insideLoop (run (.command body ⟨tested, false⟩))) then
        runEach run tested shown name body rest

/-- Runs a loop over the values of words. -/
def runEachOf (run : Runner) (tested : Bool) (name : String) (words : List Word)
    (body : Command) (written : List String) : Run Unit := do
  let p ← get
  if p.extended && !isName name then
    complain (notIdentifier name)
    setStatus 1
  else
    let values ← expandWords run [] words
    if values.isEmpty then setStatus 0
    runEach run tested ("for " ++ name ++ " in " ++ " ".intercalate written) name body values

/-- The value of one of the expressions of a loop. There is none if it cannot be computed. -/
def loopValue? (run : Runner) (e : Word) : Run (Option Int64) := do
  let text ← textOfWord run .text e
  traceText run ("((" ++ (if text.startsWith " " then "" else " ") ++ text
    ++ (if text.endsWith " " then "" else " ") ++ "))")
  match ← calculate text with
  | .ok n => return some n
  | .error message =>
    complainFault "((: " message
    return none

/-- Repeats a command as an expression tells, and evaluates another one after every round. -/
def runCount (run : Runner) (tested : Bool) (line : Nat) (start test step : Word)
    (body : Command) : Run Unit := do
  if (← loopValue? run start).isNone then return ()
  let mut status := 0
  for _ in [0:loopLimit] do
    atLine line
    match ← loopValue? run test with
    | none => return ()
    | some n =>
      if n = 0 then
        setStatus status
        return ()
      setStatus 0
      if !(← goesOn (← insideLoop (run (.command body ⟨tested, false⟩)))) then return ()
      status := (← get).status
      atLine line
      if (← loopValue? run step).isNone then return ()
  throw .exhausted

/-! ## Menus -/

/-- Blanks from one column to another, as few as tabs allow. -/
def indentation : Nat → Nat → Nat → String
  | 0, _, _ => ""
  | fuel + 1, here, there =>
    if there ≤ here then ""
    else if here / 8 < there / 8 then "\t" ++ indentation fuel (here + 8 - here % 8) there
    else " " ++ indentation fuel (here + 1) there

/-- A number with blanks before it up to a width. -/
def numberOfWidth (width n : Nat) : String :=
  let digits := Nat.repr n
  String.ofList (List.replicate (width - digits.length) ' ') ++ digits

/-- A numbered list in columns that fit into a width. -/
def menuText (width : Nat) (items : List String) : String :=
  let size := items.length
  let indexWidth := (Nat.repr size).length
  let cell := (items.map String.length).foldl max 0 + indexWidth + 4
  let columns := max 1 (width / cell)
  let rows := (size + columns - 1) / columns
  let columns := (size + rows - 1) / rows
  let (rows, columns) := if rows = 1 then (columns, 1) else (rows, columns)
  let row (r : Nat) : String :=
    let places := (List.range columns).filterMap fun c =>
      (items[c * rows + r]?).map fun item => (c, c * rows + r, item)
    let one := fun ((c, i, item) : Nat × Nat × String) =>
      let indexWidth := if c = 0 then (Nat.repr rows).length else indexWidth
      let text := numberOfWidth indexWidth (i + 1) ++ ") " ++ item
      let isLast := size ≤ i + rows
      text ++ if isLast then "" else
        indentation (cell + 1) (c * cell + text.length) ((c + 1) * cell)
    String.join (places.map one) ++ "\n"
  if items.isEmpty then "\n" else String.join ((List.range rows).map row)

/-- Asks for one of some items until there is an answer. Gives nothing at the end of the input. -/
def askFor (items : List String) : Nat → Bool → Run (Option String)
  | 0, _ => throw .exhausted
  | fuel + 1, showMenu => do
    let p ← get
    let asked := (p.value? "COLUMNS").bind fun s => Text.natural? s.toList
    let width := (asked.filter (0 < ·)).getD 80
    if showMenu then sayError (menuText width items)
    sayError ((p.value? "PS3").getD "#? ")
    let (cells, ended) ← (Extent.mk '\n' none false false p.isUtf8).read 0
    setVariable "REPLY" (fieldText cells)
    if !ended then
      say "\n"
      return none
    else if cells.isEmpty then askFor items fuel true
    else
      match wordNumber? (fieldText cells) with
      | some n => return some (if n < 1 then "" else (items[n.toNat - 1]?).getD "")
      | none => return some ""

/-- Repeats a command for the answers to a menu. -/
def runSelect (run : Runner) (tested : Bool) (name : String) (items : List String)
    (body : Command) : Run Unit := do
  let mut showMenu := true
  for _ in [0:loopLimit] do
    match ← askFor items 10000 showMenu with
    | none =>
      setStatus 1
      return ()
    | some item =>
      if !(← setLoopVariable name item) then return ()
      setStatus 0
      if !(← goesOn (← insideLoop (run (.command body ⟨tested, false⟩)))) then return ()
      showMenu := (← get).value? "REPLY" = some ""
  throw .exhausted


/-! ## Choices and conditions -/

/-- A text as patterns see it. -/
def Process.subject (p : Process) (text : String) : List Char :=
  let cs := p.chars text
  if p.hasToggle "nocasematch" then cs.map smallLetter else cs

/-- The pattern of a word that a whole text is compared with. It may have alternatives in
parentheses if the shell is told so, or if they are `grouped` in any case. -/
def subjectPattern (run : Runner) (grouped : Bool) (w : Word) : Run (List Atom) := do
  let marked := markedOf (← wordCells run .pattern w)
  let p ← get
  let folded := if p.hasToggle "nocasematch" then marked.map fun m => (smallLetter m.1, m.2)
    else marked
  return p.patternIn { p.dialect with groups := grouped || p.dialect.groups } folded

/-- Whether a text matches one of some patterns. -/
def matchesOne (run : Runner) (text : List Char) : List Word → Run Bool
  | [] => return false
  | w :: rest => do
    if Pattern.matchesAll (← subjectPattern run false w) text then return true
    else matchesOne run text rest

/-- How the next case comes to be looked at: no case was run yet, or the last one that was run leads
to the next one, or to the next one that a text matches. -/
inductive CaseStart where
  | fresh
  | entered
  | looking
  deriving DecidableEq

/-- Runs the first case that a text matches, and those that it leads to. -/
def runChoice (run : Runner) (duty : Duty) (text : List Char) (start : CaseStart) :
    List Case → Run Unit
  | [] => if start = .fresh then setStatus 0 else return ()
  | .clause patterns _ body after :: rest => do
    let isMatch ← if start = .entered then pure true else matchesOne run text patterns
    if isMatch then
      if let .nothing := body then setStatus 0
      match after with
      | .stop => run (.command body duty)
      | .fallThrough =>
        run (.command body ⟨duty.tested, false⟩)
        runChoice run duty text .entered rest
      | .lookOn =>
        run (.command body ⟨duty.tested, false⟩)
        runChoice run duty text .looking rest
    else runChoice run duty text start rest

/-- The characters of a regular expression, in which quotes take the meaning of characters away. -/
def expressionChars (marked : List Marked) : List Char :=
  marked.flatMap fun (c, quoted) =>
    if quoted && c ∈ "\\.[]*^$+?()|\x7b\x7d".toList then ['\\', c] else [c]

/-- The status of a condition that holds or not. -/
def truthStatus (holds : Bool) : Nat := if holds then 0 else 1

/-- Tells by a status whether a part of a text matches a regular expression, or that there is no
such expression. What it and its groups have found is kept in a variable. -/
def regexStatus (run : Runner) (a : String) (w : Word) : Run Nat := do
  let cells ← wordCells run .pattern w
  let p ← get
  let pattern := p.chars (String.ofList (expressionChars (markedOf cells)))
  match Text.Regex.ofChars .full pattern with
  | .error _ => return 2
  | .ok r =>
    let t := r.subject (p.hasToggle "nocasematch") false (p.chars a).toArray
    let found := match r.search? t 0 with
      | none => []
      | some m => (List.range (r.groupCount + 1)).map fun i =>
        p.textOfChars ((m.group? t i).getD [])
    changeVariable "BASH_REMATCH" fun v => { v with
      text? := none, table? := some (Table.ofValues 0 found) }
    return truthStatus !found.isEmpty

/-- The number that an operand of a condition stands for, if it can be computed. -/
def operandNumber? (s : String) : Run (Option Int) := do
  match ← calculate s with
  | .ok n => return some n.toInt
  | .error message =>
    complainFault "[[: " message
    return none

/-- Shows a condition before it is tested. Nothing is shown as quotes. -/
def traceTest (run : Runner) (negated : Bool) (words : List String) : Run Unit :=
  let shown := words.map fun s => if s = "" then "''" else s
  traceText run ("[[ " ++ (if negated then "! " else "") ++ " ".intercalate shown ++ " ]]")

/-- A word as the second operand of a comparison is shown: a quoted character has a backslash before
it. -/
def shownPattern (marked : List Marked) : String :=
  String.ofList (marked.flatMap fun (c, quoted) => if quoted then ['\\', c] else [c])

/-- Whether two words are related as an operator says, which compares them as texts, as paths or as
numbers. -/
def relationHolds (op a b : String) : Run Bool := do
  match op with
  | "<" => return a.toList < b.toList
  | ">" => return b.toList < a.toList
  | "-nt" | "-ot" | "-ef" => return (← get).comparePaths true op a b
  | _ =>
    match ← operandNumber? a with
    | none => return false
    | some m =>
      match ← operandNumber? b with
      | none => return false
      | some n =>
        match op with
        | "-eq" => return m = n
        | "-ne" => return m ≠ n
        | "-lt" => return m < n
        | "-le" => return m ≤ n
        | "-gt" => return m > n
        | _ => return m ≥ n

/-- The status of a condition on words. A condition that cannot be tested has one of its own. -/
def testStatus (run : Runner) (negated : Bool) : Test → Run Nat
  | .nonempty w _ => do
    let s ← textOfWord run .text w
    traceTest run negated ["-n", s]
    return truthStatus (s ≠ "")
  | .unary op w _ => do
    let s ← textOfWord run .text w
    let p ← get
    traceTest run negated [op, s]
    match op with
    | "-z" => return truthStatus (s = "")
    | "-n" => return truthStatus (s ≠ "")
    | _ => return truthStatus (p.richHolds op s)
  | .binary op first second _ => do
    let a ← textOfWord run .text first
    if op ∈ ["=", "==", "!=", "=~"] then
      if 'x' ∈ (← get).options then
        traceTest run negated [a, op, shownPattern (markedOf (← wordCells run .pattern second))]
      if op = "=~" then regexStatus run a second
      else
        let pattern ← subjectPattern run true second
        return truthStatus (Pattern.matchesAll pattern ((← get).subject a) != (op = "!="))
    else
      let b ← textOfWord run .text second
      traceTest run negated [a, op, b]
      return truthStatus (← relationHolds op a b)
  | .group t => testStatus run false t
  | .negation t => do return truthStatus ((← testStatus run true t) ≠ 0)
  | .both first second => do
    let status ← testStatus run false first
    if status = 0 then testStatus run false second else return status
  | .either first second => do
    if (← testStatus run false first) = 0 then return 0 else testStatus run false second

/-- Tests a condition on words. -/
def runTest (run : Runner) (t : Test) : Run Unit := do
  match ← outcome (testStatus run false t) with
  | .ok status => setStatus status
  | .error .failure => return ()
  | .error stop => throw stop

/-- Evaluates an expression for its status. -/
def runArithmetic (run : Runner) (e : Word) : Run Unit := do
  let text ← textOfWord run .text e
  traceText run ("(( " ++ text ++ " ))")
  match ← calculate text with
  | .ok n => setStatus (if n = 0 then 1 else 0)
  | .error message => complainFault "((: " message

/-! ## All commands -/

/-- Runs commands that are kept as text. -/
def runKept (run : Runner) (duty : Duty) (text : String) : Run Unit := do
  let line := (← get).line
  modify fun p => { p with extras := { p.extras with shift := 0 } }
  run (.text text duty ⟨line, false, "command substitution: "⟩)

/-- Runs a command of any kind. -/
def runAny (run : Runner) (duty : Duty) : Command → Run Unit
  | .nothing => return ()
  | .simple line assignments words redirects written => do
    runSimple run duty line assignments words redirects written
    concluding run duty.tested none
  | .pipeline parts => do
    let statuses ← runPipeline run duty.tested none parts
    match parts.getLast?.bind lineOf? with
    | some line => if (← get).extended then atLine line
    | none => pure ()
    if pipefailMark ∈ (← get).options then setStatus (lastFailure statuses)
    concluding run duty.tested (some statuses)
  | .negation c => do
    run (.command c ⟨true, false⟩)
    modify fun p => { p with status := if p.status = 0 then 1 else 0 }
  | .timed _ c => runTimed run duty c
  | .both first second => do
    run (.command first ⟨true, false⟩)
    if (← get).status = 0 then run (.command second duty)
  | .either first second => do
    run (.command first ⟨true, false⟩)
    if (← get).status ≠ 0 then run (.command second duty)
  | .sequence first second _ => do
    run (.command first ⟨duty.tested, false⟩)
    run (.command second duty)
  | .background c => do
    runBackground run c
    heedSignals run
  | .group body => run (.command body duty)
  | .subshell line body redirects => do
    withChannels run false (runSubshell run duty line body redirects)
    concluding run duty.tested none
  | .redirected line body redirects =>
    withChannels run false (runRedirected run duty.tested line body redirects)
  | .conditional test yes no => do
    run (.command test ⟨true, false⟩)
    if (← get).status = 0 then run (.command yes duty)
    else
      if let .nothing := no then setStatus 0
      run (.command no duty)
  | .loop untilTrue test body => runLoop run duty.tested untilTrue test body
  | .each line name words body written => do
    atLine line
    withChannels run false (runEachOf run duty.tested name words body written)
  | .count line start test step body _ => do
    atLine line
    runCount run duty.tested line start test step body
  | .select line name words body written => do
    atLine line
    traceText run ("select " ++ name ++ " in " ++ " ".intercalate written)
    let items ← expandWords run [] words
    setStatus 0
    if !items.isEmpty then runSelect run duty.tested name items body
  | .choice line subject cases written => do
    atLine line
    runExtraAction run debugMark
    traceText run ("case " ++ written ++ " in")
    let text ← textOfWord run .text subject
    runChoice run duty ((← get).subject text) .fresh cases
  | .test line t => do
    atLine line
    runExtraAction run debugMark
    withChannels run false (runTest run t)
    concluding run duty.tested none
  | .kept text => runKept run duty text
  | .arithmetic line e _ => do
    atLine line
    runExtraAction run debugMark
    runArithmetic run e
    concluding run duty.tested none
  | .function line name body => do
    if name.toList.any fun c => c ∈ "'\"$\x60\\".toList then
      atLine line
      complain (notIdentifier name)
      setStatus 1
    else
      let p ← get
      let known? := p.functions.lookup name
      if known?.any Function.readOnly then
        complain (name ++ ": readonly function")
        setStatus 1
      else
        let f : Function := {
          body := body, source := p.source, shift := p.extras.shift,
          exported := known?.any Function.exported || (p.extended && 'a' ∈ p.options) }
        set { p with
          functions := (name, f) :: p.functions.filter fun f => f.1 ≠ name,
          tracked := p.tracked.filter fun t => t.name ≠ name, status := 0 }

/-- Runs a command, unless commands are only read. -/
def runCommand (run : Runner) (duty : Duty) (c : Command) : Run Unit := do
  if 'n' ∉ (← get).options then runAny run duty c

/-! ## Texts -/

/-- The characters up to the end of a line. -/
def upToLine : Nat → List Char → List Char
  | 0, _ => []
  | _ + 1, [] => []
  | n + 1, c :: cs => c :: if c = '\n' then upToLine n cs else upToLine (n + 1) cs

/-- Shows what has been read, if that is asked for. -/
def showInput (shown : Bool) (cs : List Char) : Run Unit := do
  if shown && 'v' ∈ (← get).options then sayError (String.ofList cs)

/-- Says what is wrong with the lines of a text, or what is strange about them. -/
def complainLines (label : String) (messages : List (Nat × String)) : Run Unit := do
  let p ← get
  for (line, message) in messages do
    sayError (p.source ++ ": " ++ label ++ "line " ++ Nat.repr line ++ ": " ++ message ++ "\n")

/-- A text that is not empty ends with the end of a line. -/
def withLastLine (text : String) : String :=
  if text = "" || text.endsWith "\n" then text else text ++ "\n"

/-- Runs the commands of a line. What gives them up does not give up the next line, in a shell that
knows more than the standard. -/
def runLine (run : Runner) (duty : Duty) (c : Command) : Run Unit := do
  match ← outcome (run (.command c duty)) with
  | .ok () => return ()
  | .error .discard => return ()
  | .error stop => throw stop

/-- Runs the commands of a text. One without commands succeeds. -/
def runText (run : Runner) (duty : Duty) (origin : Origin) (text : String) : Run Unit := do
  let p ← get
  let before := p.inputLine
  let text := String.ofList (text.toList.filter (· ≠ '\x00'))
  let text := if p.extended then withLastLine text else text
  let mut input := Input.ofText text origin.line p.extended false []
  let mut empty := true
  for _ in [0:text.length + 2] do
    let q ← get
    let aliases := if q.extended && !q.hasToggle "expand_aliases" then [] else q.aliases
    match readLine { input with
      aliases := aliases, alternatives := q.hasToggle "extglob", warnings := [] } with
    | .error e =>
      showInput origin.shown (upToLine (e.line + 1 - input.line) input.chars)
      if q.extended then
        complainLines origin.label e.messages
        match e.rest? with
        | some (rest, line) =>
          setStatus 1
          empty := false
          input := Input.ofText (String.ofList rest) line true false []
        | none =>
          setStatus 2
          return ()
      else
        modify fun p => { p with line := e.line }
        fatal ((e.messages.head?.map Prod.snd).getD "")
    | .ok (none, rest) =>
      showInput origin.shown (input.chars.take (input.chars.length - rest.chars.length))
      modify fun p => { p with inputLine := before }
      if empty then setStatus 0
      return ()
    | .ok (some c, rest) =>
      showInput origin.shown (input.chars.take (input.chars.length - rest.chars.length))
      if q.extended then complainLines origin.label rest.warnings
      input := rest
      match c with
      | .nothing => pure ()
      | _ => empty := false
      modify fun p => { p with inputLine := rest.line }
      let ends := match rest.ahead? with
        | some .ending => true
        | _ => false
      runLine run ⟨duty.tested, duty.last && ends⟩ c

/-- Runs all that a process does, and then the action that it has set for its end. -/
def runLife (run : Runner) (body : Run Unit) : Run Unit := do
  match ← outcome body with
  | .error (.signal n) => throw (.signal n)
  | .error .exhausted => throw .exhausted
  | _ =>
    let p ← get
    match p.traps.lookup 0 with
    | none => return ()
    | some action =>
      set { p with
        traps := p.traps.filter fun t => t.1 ≠ 0,
        interrupted? := some p.status,
        extras := { p.extras with
          shift := 0, level := p.extras.endLevel } }
      match ← outcome (run (.text action .none ⟨1, false, "exit trap: "⟩)) with
      | .error .finish => return ()
      | .error .failure => return ()
      | .error (.signal n) => throw (.signal n)
      | .error .exhausted => throw .exhausted
      | _ => setStatus p.status

/-- Runs all that a process does, and at last the commands that read from its channels. -/
def runWholeLife (run : Runner) (body : Run Unit) : Run Unit := do
  let r ← outcome (runLife run body)
  let readers := (← get).extras.readers
  modify fun p => { p with extras := { p.extras with readers := [] } }
  runReaders run readers
  match r with
  | .ok () => return ()
  | .error stop => throw stop

end Looplet.Shell
