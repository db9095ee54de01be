import Looplet.ExitStatus
import Looplet.Launch
import Looplet.Shell.Layout
import Looplet.Shell.Stream
import Looplet.Shell.Table

/-!
# Processes

A process is a shell with its variables, functions, settings and open files, in a world that it
shares with other processes. `Run` is a computation of a process, which may stop before its end.
A process that is forked runs on a copy and leaves only its changes to the world (`fork`).

All texts are texts of bytes. A path is read as ordinary text when it is looked up.
-/

namespace Looplet.Shell

/-- A variable. It may be marked without having a value, and it may have a table of values. Its
values may be numbers that are computed, or have letters of one kind only, and it may stand for the
variable that its value names. -/
structure Variable where
  name : String
  text? : Option String
  exported : Bool := false
  readOnly : Bool := false
  table? : Option Table := none
  integer : Bool := false
  letters? : Option CaseChange := none
  reference : Bool := false
  /-- Whether a table was never given values, not even none. -/
  declaredOnly : Bool := false
  deriving DecidableEq

/-- The value of a variable. Of a table, the one with the key zero counts. -/
def Variable.value? (v : Variable) : Option String :=
  match v.table? with
  | some t => t.get? "0"
  | none => v.text?

/-- The values of a variable as a table. -/
def Variable.table (v : Variable) : Table :=
  v.table?.getD (Table.ofValues 0 v.text?.toList)

/-- A function: its body, the file that defines it, and how far its lines are from those of the
file. -/
structure Function where
  body : Command
  source : String
  shift : Int := 0
  exported : Bool := false
  readOnly : Bool := false

/-- A call that has not ended: the name of the function, the line of the call, and the file that
defines the function. -/
structure Call where
  name : String
  line : Nat
  source : String
  deriving DecidableEq

/-- One of the values that a variable is set to, which may have a key. -/
structure Given where
  key? : Option String
  adds : Bool
  value : String
  deriving DecidableEq

/-- A command that waits for what it reads: the open file for that, and its other open files. -/
structure Waiting where
  command : Command
  shift : Int
  input : Nat
  descriptors : List (Nat × Nat)

/-- A program that a shell of the standard has found: its place on the search path, and whether the
shell has changed its directory since. -/
structure Tracked where
  name : String
  place : Nat
  stale : Bool
  deriving DecidableEq

/-- A program that a shell that knows more than the standard has found: its path, and how often it
was looked up since. -/
structure Hashed where
  name : String
  path : String
  hits : Nat
  deriving DecidableEq

/-- What a shell keeps that knows more than the standard. -/
structure Extras where
  /-- The settings that have names only. -/
  toggles : List String
  /-- How the parts of the last pipeline ended. -/
  pipeStatus : List Nat
  /-- The calls at hand, the innermost first. -/
  calls : List Call
  lastArgument : String
  /-- The directories to go back to. -/
  directories : List String
  /-- The programs that were found. -/
  hashed : List Hashed
  /-- How many shells there are between this one and the first. -/
  depth : Nat
  /-- How deep the commands at hand lie inside others. -/
  level : Nat
  /-- The same for the commands that are run at the end of the process. -/
  endLevel : Nat
  /-- The values between parentheses among the arguments of the command at hand. -/
  pending : List (String × Bool × List Given)
  /-- The commands that read what the command at hand writes. -/
  readers : List Waiting
  /-- The last number of a row that looks like chance. -/
  seed : Nat
  /-- How far the lines of the commands at hand lie from where they were read. -/
  shift : Int

/-- Why a computation stops before its end. The last status is kept by the process. -/
inductive Stop where
  | leave (levels : Nat)
  | again (levels : Nat)
  | giveBack
  | finish
  | failure
  /-- Gives up the commands that were read together. -/
  | discard
  | signal (number : Nat)
  | exhausted
  deriving DecidableEq

/-- A process. -/
structure Process where
  world : World
  /-- The open file behind every descriptor. -/
  descriptors : List (Nat × Nat)
  umask : Nat
  /-- When the process is ended from outside. -/
  deadline? : Option Nat
  /-- The number of the process, and the one that it shows as its own. -/
  id : Nat
  shellId : Nat
  /-- The processes that this one comes from. -/
  parents : List Nat
  name : String
  args : List String
  bindings : List Variable
  /-- What variables were before functions made them their own, the innermost call first. -/
  locals : List (List (String × Option Variable))
  functions : List (String × Function)
  aliases : List (String × String)
  /-- The programs that a shell of the standard has found, the oldest first. -/
  tracked : List Tracked
  options : List Char
  /-- Actions by the number of a signal; the end of the process has number zero. -/
  traps : List (Nat × String)
  status : Nat
  /-- The status of the last command whose output was used in the words at hand. -/
  substituted? : Option Nat
  /-- The line and the command of the shell that messages name. -/
  line : Nat
  builtin? : Option String
  /-- The line up to which the script has been read. -/
  inputLine : Nat
  /-- Whether the command at hand is tested. -/
  tested : Bool
  background? : Option Nat
  /-- The processes in the background and how they ended. -/
  jobs : List (Nat × ExitStatus)
  /-- The status before the action of a signal that is running. -/
  interrupted? : Option Nat
  loops : Nat
  /-- Why an output could not be written. -/
  outputFault? : Option SystemError
  /-- How much of the argument at hand `getopts` has read. -/
  optionOffset : Nat
  /-- Whether the shell knows more than the standard. -/
  extended : Bool
  extras : Extras

/-- A computation of a process. -/
abbrev Run := ExceptT Stop (StateM Process)

/-- What depends on a command. If it is tested it may fail without ending the shell. If it is the
last thing that a process does, the process ends as it does. -/
structure Duty where
  tested : Bool
  last : Bool
  deriving DecidableEq

/-- A command on which nothing depends. -/
def Duty.none : Duty := ⟨false, false⟩

/-- Where a text of commands comes from: the line that it starts at, whether it is shown as it is
read, and what messages name if it cannot be read. -/
structure Origin where
  line : Nat
  shown : Bool
  label : String
  deriving DecidableEq

/-- A text that has lines of its own. -/
def Origin.inner : Origin := ⟨1, false, ""⟩

/-- What a process can be asked to do. -/
inductive Job where
  /-- Runs a command. -/
  | command (command : Command) (duty : Duty)
  /-- Runs a command as all that a process does, which ends after it. -/
  | life (command : Command) (tested : Bool)
  /-- Runs the commands of a text. -/
  | text (text : String) (duty : Duty) (origin : Origin)
  /-- Becomes a program. -/
  | program (launch : Launch)

/-- How jobs are done. -/
abbrev Runner := Job → Run Unit

/-- A text of bytes as a path. -/
def pathOf (s : String) : String := Text.decoded (Text.toBytes s)

/-! ## Output -/

/-- The open file behind a descriptor. -/
def Process.openFile? (p : Process) (fd : Nat) : Option OpenFile := do
  let index ← p.descriptors.lookup fd
  p.world.opened[index]?

/-- Writes to a descriptor. To write to a pipe that nobody reads ends the process. -/
def writeTo (fd : Nat) (text : String) : Run (Except SystemError Unit) := do
  let p ← get
  match p.descriptors.lookup fd with
  | none => return .error .badDescriptor
  | some index =>
    if p.world.isClogged index then throw (.signal 13)
    match p.world.write index (Text.toBytes text) with
    | .ok w =>
      set { p with world := w }
      return .ok ()
    | .error e => return .error e

/-- Writes to the standard output. -/
def say (text : String) : Run Unit := do
  if text ≠ "" then
    match ← writeTo 1 text with
    | .ok () => return ()
    | .error e => modify fun p => { p with outputFault? := some e }

/-- Writes to the error output. -/
def sayError (text : String) : Run Unit := do
  let _ ← writeTo 2 text

/-- The file whose commands are run. -/
def Process.source (p : Process) : String :=
  match p.extras.calls with
  | call :: _ => call.source
  | [] => p.name

/-- What stands before a message. -/
def Process.heading (p : Process) : String :=
  (if p.extended then p.source ++ ": line " else p.name ++ ": ") ++ Nat.repr p.line ++ ": "
    ++ match p.builtin? with
      | some name => name ++ ": "
      | none => ""

/-- Writes a message. -/
def complain (message : String) : Run Unit := do
  sayError ((← get).heading ++ message ++ "\n")

/-- Sets the status. -/
def setStatus (n : Nat) : Run Unit := modify fun p => { p with status := n }

/-- Writes a message and stops with a status. -/
def fatalWith {α : Type} (status : Nat) (message : String) : Run α := do
  complain message
  setStatus status
  throw .failure

/-- Writes a message and stops. -/
def fatal {α : Type} (message : String) : Run α := fatalWith 2 message

/-- Writes a message and gives up: a command of the shell, or all commands that were read together
with the one at hand. -/
def giveUp {α : Type} (message : String) : Run α := do
  complain message
  setStatus 1
  if (← get).builtin?.isSome then throw .failure else throw .discard

/-- Writes a message and ends the shell. The status tells whether its commands are an argument. -/
def endWith {α : Type} (message : String) : Run α := do
  complain message
  setStatus (if 'c' ∈ (← get).options then 127 else 1)
  throw .finish

/-- Goes to a line of the commands at hand. -/
def atLine (line : Nat) : Run Unit :=
  modify fun p => { p with line := (Int.ofNat line + p.extras.shift).toNat }

/-- Runs a computation and gives what became of it. -/
def outcome {α : Type} (body : Run α) : Run (Except Stop α) := fun p =>
  match body p with
  | (r, q) => (.ok r, q)

/-! ## Variables -/

/-- The variable of a name, as it was set. -/
def Process.binding? (p : Process) (name : String) : Option Variable :=
  p.bindings.find? fun v => v.name = name

/-- The name that a name stands for, where one variable may stand for another. -/
def Process.target (p : Process) (name : String) : String :=
  let step (n : String) : String :=
    match p.binding? n with
    | some v => if v.reference then (v.text?.filter (· ≠ "")).getD n else n
    | none => n
  if p.extended then (List.range 8).foldl (fun n _ => step n) name else name

/-- The version of the shell that knows more than the standard. -/
def versionParts : List String := ["5", "2", "21", "1", "release", "x86_64-pc-linux-gnu"]

/-- The next number of a row that looks like chance. -/
def nextChance (n : Nat) : Nat :=
  let n := if n = 0 then 123459876 else n
  let t := 16807 * Int.ofNat (n % 127773) - 2836 * Int.ofNat (n / 127773)
  (if t < 0 then t + 2147483647 else t).toNat

/-- A process that has moved on in the row that looks like chance. -/
def Process.withChance (p : Process) : Process :=
  { p with extras := { p.extras with seed := nextChance p.extras.seed } }

/-- A variable that the shell computes when it is asked for. -/
def Process.computed? (p : Process) (name : String) : Option Variable :=
  let text (s : String) : Option Variable := some { name := name, text? := some s }
  let list (values : List String) : Option Variable :=
    some { name := name, text? := none, table? := some (Table.ofValues 0 values) }
  let calls := p.extras.calls
  match name with
  | "LINENO" => text (Nat.repr p.line)
  | "BASHPID" => text (Nat.repr p.id)
  | "BASH_SUBSHELL" => text (Nat.repr p.extras.depth)
  | "BASH_ARGV0" => text p.name
  | "RANDOM" =>
    let n := p.extras.seed
    text (Nat.repr (((n / 65536) ^^^ (n % 65536)) % 32768))
  | "SECONDS" => text (Nat.repr (p.world.clock / 1000))
  | "_" => text p.extras.lastArgument
  | "PIPESTATUS" => list (p.extras.pipeStatus.map Nat.repr)
  | "FUNCNAME" => if calls.length < 2 then none else list (calls.map Call.name)
  | "BASH_LINENO" => list (calls.map fun c => Nat.repr c.line)
  | "BASH_SOURCE" => list (calls.map Call.source)
  | "GROUPS" => list ["65534"]
  | "DIRSTACK" => list (Text.encoded p.world.files.cwdPath :: p.extras.directories)
  | _ => none

/-- The variable of a name. -/
def Process.variableOf? (p : Process) (name : String) : Option Variable :=
  if p.extended then
    let name := p.target name
    match p.computed? name with
    | some v => some v
    | none => p.binding? name
  else p.binding? name

/-- The value of a variable. -/
def Process.value? (p : Process) (name : String) : Option String :=
  (p.variableOf? name).bind Variable.value?

/-- The values of a variable. -/
def Process.table (p : Process) (name : String) : Table :=
  ((p.variableOf? name).map Variable.table).getD (.empty .numbers)

/-- Sets a variable in a list of variables, or takes it out. -/
def putVariable (name : String) (v? : Option Variable) : List Variable → List Variable
  | [] => v?.toList
  | w :: rest => if w.name = name then v?.toList ++ rest else w :: putVariable name v? rest

/-- Changes a variable without looking at whether it may be changed. -/
def changeVariable (name : String) (f : Variable → Variable) : Run Unit :=
  modify fun p =>
    let v := (p.binding? name).getD { name := name, text? := none }
    { p with bindings := putVariable name (some (f v)) p.bindings }

/-- Writes a message that names no command of the shell. -/
def complainPlainly (message : String) : Run Unit := do
  sayError ({ ← get with builtin? := none }.heading ++ message ++ "\n")

/-- Says that a variable cannot be changed, and stops. The message names no command. -/
def readOnlyError {α : Type} (name : String) : Run α := do
  let p ← get
  if p.extended then
    complainPlainly (name ++ ": readonly variable")
    setStatus 1
    if p.builtin?.isSome then throw .failure
    else if 'e' ∈ p.options then throw .finish
    else throw .discard
  else fatal (name ++ ": is read only")

/-- Whether a variable cannot be changed. -/
def Process.isReadOnly (p : Process) (name : String) : Bool :=
  ((p.binding? name).map Variable.readOnly).getD false

/-- A letter of another kind. -/
def CaseChange.letter (change : CaseChange) (c : Char) : Char :=
  match change with
  | .upper => c.toUpper
  | .lower => c.toLower
  | .turned => if c.isUpper then c.toLower else c.toUpper

/-- A value with the letters that a variable asks for. A variable that asks for turned letters has a
capital letter first and small ones after it. -/
def Variable.lettered (v : Variable) (value : String) : String :=
  match v.letters? with
  | none => value
  | some .turned =>
    match value.toList with
    | c :: cs => String.ofList (c.toUpper :: cs.map Char.toLower)
    | [] => ""
  | some change => value.map change.letter

/-- Forgets where programs are. -/
def forgetPrograms : Run Unit :=
  modify fun p => { p with tracked := [], extras := { p.extras with hashed := [] } }

/-- Looks for programs again if the variable that changes is the search path. -/
def heedPath (name : String) : Run Unit := do if name = "PATH" then forgetPrograms

/-- Sets one of the values of a variable, or its only one. -/
def putValue (name : String) (key? : Option String) (value : String) : Run Unit := do
  let p ← get
  if p.isReadOnly name then readOnlyError name
  else
    if name = "OPTIND" then set { p with optionOffset := 0 }
    heedPath name
    changeVariable name fun v =>
      let v := { v with exported := v.exported || 'a' ∈ p.options }
      match key?, v.table? with
      | none, none => { v with text? := some (v.lettered value) }
      | _, _ =>
        { v with
          text? := none, declaredOnly := false,
          table? := some (v.table.put (key?.getD "0") (v.lettered value)) }

/-- Takes a variable away. -/
def unsetVariable (name : String) : Run Unit := do
  let p ← get
  if p.isReadOnly name then readOnlyError name
  else
    set { p with bindings := putVariable name none p.bindings }
    heedPath name

/-- Keeps the present state of a variable, to be restored when the call at hand ends. -/
def keepVariable (name : String) : Run Unit := do
  modify fun p =>
    match p.locals with
    | frame :: rest =>
      if (frame.lookup name).isSome then p
      else { p with locals := ((name, p.binding? name) :: frame) :: rest }
    | [] => p
  if (← get).extended then heedPath name

/-- Starts to keep variables. -/
def openFrame : Run Unit := modify fun p => { p with locals := [] :: p.locals }

/-- Restores the variables that were kept. -/
def closeFrame : Run Unit := do
  let p ← get
  match p.locals with
  | frame :: rest =>
    set { p with
      bindings := frame.foldl (fun vs (name, v?) => putVariable name v? vs) p.bindings,
      locals := rest }
    for (name, _) in frame do heedPath name
  | [] => pure ()

/-- The variables that other programs see. -/
def Process.exports (p : Process) : List (String × String) :=
  p.bindings.filterMap fun v =>
    match v.text? with
    | some value => if v.exported then some (v.name, value) else none
    | none => none

/-- The name of the variable that stands for a function in other programs. -/
def functionVariable (name : String) : String := "BASH_FUNC_" ++ name ++ "%%"

/-- What other programs see. A shell that knows more than the standard lists variables in the order
of a table by names, then functions, and the path of the program last. -/
def Process.environment (p : Process) : List (String × String) :=
  if p.extended then
    let (path, others) := p.exports.partition fun v => v.1 = "_"
    let functions := p.functions.filter fun f => f.2.exported
    (others.foldl (fun (t : Table) (name, value) => t.put name value) (.empty .texts)).items
      ++ (functions.map fun (name, f) => (functionVariable name, exportedText f.body)) ++ path
  else p.exports

/-- Whether the language of other programs is written in a code of several bytes. -/
def Process.isUtf8 (p : Process) : Bool :=
  let given := ["LC_ALL", "LC_CTYPE", "LANG"].findSome? fun name =>
    (p.exports.lookup name).filter (· ≠ "")
  (given.getD "").map Char.toLower ∈ ["c.utf-8", "c.utf8"]

/-- The characters that divide fields. -/
def Process.separators (p : Process) : String := (p.value? "IFS").getD " \t\n"

/-! ## Descriptors -/

/-- Sets what stands behind a descriptor, or closes it. -/
def setDescriptor (fd : Nat) (index? : Option Nat) : Run Unit :=
  modify fun p =>
    let others := p.descriptors.filter fun d => d.1 ≠ fd
    { p with descriptors := (index?.map fun i => (fd, i)).toList ++ others }

/-- Puts an open file behind a descriptor. -/
def install (fd : Nat) (f : OpenFile) : Run Unit := do
  let p ← get
  let (index, w) := p.world.addOpen f
  set { p with world := w }
  setDescriptor fd (some index)

/-- The file that a path leads to, opened in a mode. -/
def openPath (path : String) (mode : OpenMode) : Run (Except SystemError OpenFile) := do
  let p ← get
  let standard := fun n => (p.openFile? n).map OpenFile.stream
  match mode with
  | .input =>
    match World.openInput p.world.files (pathOf path) with
    | .error e => return .error e
    | .ok (place, e) =>
      return (World.streamOf standard place e false).map fun s => ⟨s, true, false⟩
  | _ =>
    let exists_ := match p.world.files.find? (pathOf path) with
      | some (_, e) => e.isFile
      | none => false
    if mode = .output && 'C' ∈ p.options && exists_ then return .error .alreadyExists
    let empty := mode = .output || mode = .clobber
    match p.world.openOutput (pathOf path) (0o666 &&& (0o777 ^^^ p.umask)) empty with
    | .error e => return .error e
    | .ok (place, e, w) =>
      match World.streamOf standard place e (mode = .append) with
      | .error e => return .error e
      | .ok s =>
        set { p with world := if empty then w.emptied s else w }
        return .ok ⟨s, mode = .both, true⟩

/-- Why a file cannot be opened or made, in the words of the shell. -/
def openReason (making : Bool) (e : SystemError) : String :=
  if e = .noEntry || e = .notDirectory then
    if making then "Directory nonexistent" else "No such file"
  else e.reason

/-- The bytes that are left in a descriptor, of which `amount` are taken. -/
def readFrom (fd : Nat) (amount : ByteArray → Nat) : Run (Except SystemError String) := do
  let p ← get
  match p.descriptors.lookup fd with
  | none => return .error .badDescriptor
  | some index =>
    match p.world.read index amount with
    | .error e => return .error e
    | .ok (bytes, w) =>
      set { p with world := w }
      return .ok (Text.ofBytes bytes)

/-- All that is left in a descriptor. -/
def readAll (fd : Nat) : Run (Except SystemError String) := readFrom fd ByteArray.size

/-- The next line in a descriptor, with its line feed. -/
def readLineFrom (fd : Nat) : Run (Except SystemError String) :=
  readFrom fd fun bytes =>
    let line := bytes.toList.takeWhile (· ≠ 10)
    min bytes.size (line.length + 1)

/-! ## Other processes -/

/-- The number of the action before every command. -/
def debugMark : Nat := 65

/-- The number of the action after a command that failed. -/
def errorMark : Nat := 66

/-- The number of the action at the end of a function or a file. -/
def returnMark : Nat := 67

/-- Whether an action counts in functions and in processes that are forked. -/
def Process.passesOn (p : Process) (n : Nat) : Bool :=
  (n = errorMark && 'E' ∈ p.options) || ((n = debugMark || n = returnMark) && 'T' ∈ p.options)

/-- The process that is forked from another. It keeps only the signals that are ignored. -/
def Process.child (p : Process) : Process :=
  { p with
    id := p.world.processes,
    parents := p.id :: p.parents,
    world := { p.world with processes := p.world.processes + 1 },
    traps := p.traps.filter fun t => t.2 = "" || p.passesOn t.1,
    jobs := [],
    interrupted? := none,
    extras := { p.extras with
      depth := p.extras.depth + 1, endLevel := p.extras.level + 1, readers := [] } }

/-- The process after one that it has forked. -/
def Process.after (p : Process) (child : Process) : Process :=
  let files := { child.world.files with cwd := p.world.files.cwd }
  { p with world := { child.world with files := files } }

/-- Runs a computation in a process of its own and gives how that ended. -/
def fork (body : Run Unit) : Run ExitStatus := fun p =>
  match body p.child with
  | (.error (.signal n), q) => (.ok (.signal n), p.after q)
  | (.error .exhausted, q) => (.error .exhausted, p.after q)
  | (_, q) => (.ok (.code (q.status % 256)), p.after q)

/-- What a shell says of a process that a signal ended. -/
def signalText (n : Nat) : String :=
  if 34 ≤ n then "Real-time signal " ++ Nat.repr (n - 34)
  else
    ([(1, "Hangup"), (2, "Interrupt"), (3, "Quit"), (4, "Illegal instruction"),
      (5, "Trace/breakpoint trap"), (6, "Aborted"), (7, "Bus error"),
      (8, "Floating point exception"), (9, "Killed"), (10, "User defined signal 1"),
      (11, "Segmentation fault"), (12, "User defined signal 2"), (13, "Broken pipe"),
      (14, "Alarm clock"), (15, "Terminated"), (16, "Stack fault"),
      (24, "CPU time limit exceeded"), (25, "File size limit exceeded"),
      (26, "Virtual timer expired"), (27, "Profiling timer expired"), (29, "I/O possible"),
      (30, "Power failure"), (31, "Bad system call")].lookup n).getD
      ("Unknown signal " ++ Nat.repr n)

/-- A text with blanks after it up to a width. -/
def columnOf (width : Nat) (s : String) : String :=
  s ++ String.ofList (List.replicate (width - s.length) ' ')

/-- Reports a process that a signal ended. An interrupt and a broken pipe go without saying. -/
def reportEnd : ExitStatus → Run Unit
  | .code _ => return ()
  | .signal n => do
    let p ← get
    if n = 2 || n = 13 then return ()
    else if p.extended && n ≠ 15 then
      let id := Nat.repr (p.world.processes - 1)
      complain (id ++ " " ++ columnOf 23 (signalText n))
    else sayError (signalText n ++ "\n")

/-- The status that a shell shows for the end of a process. -/
def statusOf : ExitStatus → Nat
  | .code n => n
  | .signal n => 128 + n

end Looplet.Shell
