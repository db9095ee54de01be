import Looplet.Awk.Grammar
import Looplet.Shell.Execution
import Looplet.Shell.Expansion
import Looplet.Utility.Basic

/-!
# What a program keeps while it runs

The record at hand and its fields determine each other: the fields are found when one is asked for,
and the record is put together when it is asked for after a field has changed. Output waits until it
is asked to go, and at the end goes to commands first.
-/

namespace Looplet.Awk

open Shell (Run Runner Process)
open Text (Regex)

/-- What a name stands for in a call. -/
inductive Slot where
  | value (v : Value)
  | table (index : Nat)

/-- An output: its name, where it leads, and what waits for it. A file has the number of an open
file. -/
structure Output where
  name : String
  way : Way
  file : Nat
  waiting : String

/-- An input: its name, what is left of it, and how the command that wrote it ended. -/
structure Input where
  name : String
  rest : List Char
  status : Nat

/-- Why something stops before its end. -/
inductive Leave where
  | leave
  | again
  | next
  | nextFile
  | exit
  | giveBack (v : Value)
  /-- The program cannot go on. -/
  | fault (message : String)

/-- The state of a program. -/
structure State where
  functions : Std.HashMap String Function
  values : Std.HashMap String Value
  tables : Array Table
  tableOf : Std.HashMap String Nat
  /-- The names of the call at hand. -/
  frame : List (String × Slot)
  /-- The record, unless it has to be put together. -/
  record? : Option Value
  /-- The fields, unless they have to be found. -/
  fields? : Option (Array Value)
  outputs : List Output
  inputs : List Input
  /-- What waits for the standard output. -/
  waiting : String
  /-- What is left of the file at hand. -/
  main? : Option (List Char)
  /-- The next argument that may be a file, and whether one was. -/
  nextArg : Nat
  sawFile : Bool
  ended : Bool
  /-- The rules that are inside their ranges. -/
  inside : List Nat
  status : Nat
  seed : Value
  /-- The last number of a row that looks like chance. -/
  chance : Nat
  regexes : Std.HashMap String Regex

/-- A computation of a program. -/
abbrev Act := ExceptT Leave (StateT State Run)

/-! ## Names -/

/-- A table among the tables. -/
def tableAt (index : Nat) : Act Table := do return ((← get).tables[index]?).getD .empty

/-- Changes a table. -/
def changeTable (index : Nat) (f : Table → Table) : Act Unit :=
  modify fun s => { s with tables := s.tables.modify index f }

/-- Adds a table. -/
def newTable : Act Nat := do
  let s ← get
  set { s with tables := s.tables.push .empty }
  return s.tables.size

/-- The number of the table that a name stands for, if it does. -/
def knownTable? (name : String) : Act (Option Nat) := do
  let s ← get
  match s.frame.lookup name with
  | some (.table i) => return some i
  | some (.value _) => return none
  | none => return s.tableOf.get? name

/-- The number of the table that a name stands for. -/
def tableNamed (name : String) : Act Nat := do
  match ← knownTable? name with
  | some i => return i
  | none =>
    let i ← newTable
    let inFrame := ((← get).frame.lookup name).isSome
    modify fun s =>
      if inFrame then
        { s with frame := s.frame.map fun f => if f.1 = name then (name, .table i) else f }
      else { s with tableOf := s.tableOf.insert name i }
    return i

/-- The value of a name that is not in a call. -/
def globalValue (name : String) : Act Value := do return ((← get).values.get? name).getD .unset

/-- Sets the value of a name that is not in a call. -/
def setGlobal (name : String) (v : Value) : Act Unit :=
  modify fun s => { s with values := s.values.insert name v }

/-- A setting as a text. -/
def setting (name : String) : Act String := do
  match ← globalValue name with
  | .number x => return numberText "%.6g" x
  | v => return v.toText "%.6g"

/-- A value as a text. -/
def textOf (v : Value) : Act String := do
  match v with
  | .number x => return numberText (← setting "CONVFMT") x
  | v => return v.toText ""

/-- A value as it is printed. -/
def printedText (v : Value) : Act String := do
  match v with
  | .number x => return numberText (← setting "OFMT") x
  | v => return v.toText ""

/-! ## Faults -/

/-- Stops the program while it runs. -/
def failure {α : Type} (message : String) : Act α := do
  let file := ((← globalValue "FILENAME").toText "")
  let fnr := numberText "%.6g" (← globalValue "FNR").toNumber
  let nr := numberText "%.6g" (← globalValue "NR").toNumber
  throw (.fault ("run time error: " ++ message ++ "\n\tFILENAME=\"" ++ file ++ "\" FNR=" ++ fnr
    ++ " NR=" ++ nr))

/-- The regular expression that a text stands for. -/
def regexNamed (source : String) : Act Regex := do
  match (← get).regexes.get? source with
  | some r => return r
  | none =>
    match regexOf source with
    | .ok r =>
      modify fun s => { s with regexes := s.regexes.insert source r }
      return r
    | .error message => failure message

/-- What a text divides. One character stands for itself, and a blank for all blanks. -/
def dividerOf (s : String) : Act Divider := do
  match s.toList with
  | [] => return .nothing
  | [' '] => return .blanks
  | [c] => return .char c
  | _ => return .regex (← regexNamed s)

/-! ## Records and fields -/

/-- The fields of the record. -/
def fieldsNow : Act (Array Value) := do
  let s ← get
  match s.fields? with
  | some fields => return fields
  | none =>
    let record ← textOf (s.record?.getD .unset)
    let parts := (← dividerOf (← setting "FS")).parts record
    let fields := (parts.map Value.input).toArray
    modify fun s => { s with fields? := some fields }
    return fields

/-- The record. -/
def recordNow : Act Value := do
  let s ← get
  match s.record? with
  | some r => return r
  | none =>
    let texts ← (s.fields?.getD #[]).toList.mapM textOf
    let record := Value.input ((← setting "OFS").intercalate texts)
    modify fun s => { s with record? := some record }
    return record

/-- Sets the record. -/
def setRecord (v : Value) : Act Unit := do
  modify fun s => { s with record? := some v, fields? := none }

/-- How many fields there may be. -/
def fieldLimit : Nat := 32767

/-- The field of a number. -/
def fieldNow (index : Int) : Act Value := do
  if index < 0 then
    let n := if index < 0 then "-" ++ Nat.repr index.natAbs else Nat.repr index.natAbs
    failure ("negative field index $" ++ n)
  else if index = 0 then recordNow
  else return ((← fieldsNow)[index.toNat - 1]?).getD (.text "")

/-- Fields up to a number. -/
def padFields (fields : Array Value) (count : Nat) : Array Value :=
  fields ++ Array.replicate (min count fieldLimit - fields.size) (.input "")

/-- Sets the field of a number. -/
def setField (index : Int) (v : Value) : Act Unit := do
  if index < 0 then let _ ← fieldNow index
  else if index = 0 then setRecord v
  else
    let fields := padFields (← fieldsNow) index.toNat
    let fields := fields.modify (index.toNat - 1) fun _ => v
    modify fun s => { s with record? := none, fields? := some fields }

/-- Sets how many fields there are. -/
def setFieldCount (count : Nat) : Act Unit := do
  let fields := padFields ((← fieldsNow).extract 0 count) count
  modify fun s => { s with record? := none, fields? := some fields }

/-- The value of a name. -/
def valueNamed (name : String) : Act Value := do
  match (← get).frame.lookup name with
  | some (.value v) => return v
  | some (.table _) => return .unset
  | none => if name = "NF" then return .ofNat (← fieldsNow).size else globalValue name

/-- Sets the value of a name. -/
def setNamed (name : String) (v : Value) : Act Unit := do
  let s ← get
  match s.frame.lookup name with
  | some _ =>
    let changed (f : String × Slot) : String × Slot := if f.1 = name then (name, .value v) else f
    set { s with frame := s.frame.map changed }
  | none =>
    if name = "NF" then setFieldCount (indexOf v.toNumber).toNat
    else setGlobal name v

/-! ## Output -/

/-- Writes to an open file. -/
def writeOpen (index : Nat) (text : String) : Run (Except SystemError Unit) := do
  let p ← get
  match p.world.write index (Text.toBytes text) with
  | .ok w =>
    set { p with world := w }
    return .ok ()
  | .error e => return .error e

/-- A shell that runs a text. -/
def shellFor (command : String) : Launch := ⟨"sh", ["sh", "-c", command]⟩

/-- Runs a command in a process of its own, on an input if there is one. -/
def runCommand (run : Runner) (command : String) (input? : Option String) : Run ExitStatus := do
  match input? with
  | none => Shell.fork (run (.program (shellFor command)))
  | some text =>
    let p ← get
    let (reading, writing, w) := p.world.addPipe
    set { p with world := w }
    let _ ← writeOpen writing text
    Shell.fork do
      Shell.setDescriptor 0 (some reading)
      run (.program (shellFor command))

/-- How the end of a command is shown. -/
def endNumber : ExitStatus → Nat
  | .code n => n
  | .signal n => 256 + n

/-- Says that something could not be written. -/
def closeFailure (name : String) (e : SystemError) : Act Unit :=
  throw (.fault ("close failed on file \"" ++ name ++ "\" (" ++ e.reason ++ ")"))

/-- Writes what waits for the standard output. -/
def flushMain : Act Unit := do
  let text := (← get).waiting
  modify fun s => { s with waiting := "" }
  if text ≠ "" then
    match ← Shell.writeTo 1 text with
    | .ok () => return ()
    | .error e => closeFailure "/dev/stdout" e

/-- Writes what waits for files. -/
def flushFiles : Act Unit := do
  for o in (← get).outputs do
    if o.way ≠ .command && o.waiting ≠ "" then
      modify fun s => { s with outputs := s.outputs.map fun q =>
        if q.name = o.name then { q with waiting := "" } else q }
      match ← writeOpen o.file o.waiting with
      | .ok () => pure ()
      | .error e => closeFailure o.name e

/-- Writes all that waits for files and the standard output. -/
def flushAll : Act Unit := do
  flushMain
  flushFiles

/-- Says why a file cannot be opened. -/
def cannotOpen (name : String) (e : SystemError) (ending : String) : String :=
  "cannot open \"" ++ name ++ "\"" ++ ending ++ " (" ++ e.reason ++ ")"

/-- The names of the standard output. -/
def isMainOutput (name : String) : Bool := name = "/dev/stdout" || name = "-"

/-- Writes to an output. -/
def emitTo (way : Way) (name text : String) : Act Unit := do
  if way ≠ .command && isMainOutput name then
    modify fun s => { s with waiting := s.waiting ++ text }
  else if way ≠ .command && name = "/dev/stderr" then Shell.sayError text
  else
    match (← get).outputs.find? fun o => o.name = name with
    | some o =>
      modify fun s =>
        let others := s.outputs.filter fun q => q.name ≠ name
        { s with outputs := { o with waiting := o.waiting ++ text } :: others }
    | none =>
      let file ← if way = .command then pure 0 else do
        match ← Shell.openPath name (if way = .append then .append else .clobber) with
        | .error e => throw (.fault (cannotOpen name e " for output"))
        | .ok f =>
          let p ← (get : Run Process)
          let (index, w) := p.world.addOpen f
          (set { p with world := w } : Run Unit)
          pure index
      modify fun s => { s with outputs := ⟨name, way, file, text⟩ :: s.outputs }

/-- Closes an output. Gives how its command ended. -/
def closeOutput (run : Runner) (o : Output) : Act Nat := do
  modify fun s => { s with outputs := s.outputs.filter fun q => q.name ≠ o.name }
  if o.way = .command then return endNumber (← runCommand run o.name (some o.waiting))
  else
    match ← writeOpen o.file o.waiting with
    | .ok () => return 0
    | .error e =>
      closeFailure o.name e
      return 0

/-- Closes all outputs, those that lead to commands first. -/
def closeAll (run : Runner) : Act Unit := do
  let outputs := (← get).outputs
  for o in outputs do
    if o.way = .command then let _ ← closeOutput run o
  for o in outputs do
    if o.way ≠ .command then let _ ← closeOutput run o
  flushMain

/-! ## Input -/

/-- What divides records. -/
def recordDivider : Act Divider := do
  match (← setting "RS").toList with
  | [] => return .nothing
  | [c] => return .char c
  | cs => return .regex (← regexNamed (String.ofList cs))

/-- The next record of a text, and what is left of it. -/
def recordIn? (cs : List Char) : Act (Option (String × List Char)) := do
  let d ← recordDivider
  let cs := match d with
    | .nothing => cs.dropWhile (· = '\n')
    | _ => cs
  if cs.isEmpty then return none
  else
    let (record, rest) := nextRecord d cs
    return some (String.ofList record, rest)

/-- Whether an argument sets a variable. -/
def isSetting (s : String) : Bool :=
  let name := s.toList.takeWhile (· ≠ '=')
  s.toList.contains '=' && (name.head?.map isNameStart).getD false
    && name.all fun c => isNameStart c || c.isDigit

/-- Sets a variable as an argument says. -/
def applySetting (s : String) : Act Unit := do
  let name := s.toList.takeWhile (· ≠ '=')
  let value := String.ofList (s.toList.drop (name.length + 1))
  let key := String.ofList name
  if key = "NF" then setNamed key (.input (unescapedText value))
  else setGlobal key (.input (unescapedText value))

/-- Opens the main input. -/
def openMain (name : String) : Act Unit := do
  match ← Utility.inputText name with
  | .error e => throw (.fault (cannotOpen name e ""))
  | .ok text =>
    setGlobal "FILENAME" (.text name)
    setGlobal "FNR" (.number 0)
    modify fun s => { s with main? := some text.toList, sawFile := true }

/-- Goes to the next file among the arguments. Gives whether there is one. -/
def nextFile : Nat → Act Bool
  | 0 => return false
  | fuel + 1 => do
    let s ← get
    let count := indexOf (← globalValue "ARGC").toNumber
    if count ≤ Int.ofNat s.nextArg then
      if s.sawFile then return false
      else
        openMain "-"
        return true
    else
      let t ← tableAt (← tableNamed "ARGV")
      set { ← get with nextArg := s.nextArg + 1 }
      let arg := (← textOf ((t.get? (Nat.repr s.nextArg)).getD .unset))
      if arg = "" then nextFile fuel
      else if isSetting arg then
        applySetting arg
        nextFile fuel
      else
        openMain arg
        return true

/-- How many arguments are looked at. -/
def argLimit : Nat := 100000

/-- The next record of the main input. -/
def mainRecord? : Nat → Act (Option String)
  | 0 => return none
  | fuel + 1 => do
    let s ← get
    if s.ended then return none
    match s.main? with
    | none =>
      if ← nextFile argLimit then mainRecord? fuel
      else
        modify fun s => { s with ended := true }
        return none
    | some cs =>
      match ← recordIn? cs with
      | some (record, rest) =>
        modify fun s => { s with main? := some rest }
        setGlobal "NR" (.number ((← globalValue "NR").toNumber + 1))
        setGlobal "FNR" (.number ((← globalValue "FNR").toNumber + 1))
        return some record
      | none =>
        modify fun s => { s with main? := none }
        mainRecord? fuel

/-- The next record of an input that is open, or that can be opened. Gives one, zero or minus one
for a record, the end and a failure. -/
def otherRecord? (run : Runner) (origin : Origin) (name : String) :
    Act (Float × Option String) := do
  let found? := (← get).inputs.find? fun i => i.name = name
  let input? : Option Input ← match found? with
    | some i => pure (some i)
    | none =>
      if origin = .command then do
        flushAll
        let (ended, text) ← Shell.writtenBy (run (.program (shellFor name)))
        pure (some ⟨name, text.toList, endNumber ended⟩)
      else do
        let text ← if name = "-" || name = "/dev/stdin" then Shell.readAll 0
          else Utility.inputText name
        match text with
        | .ok t => pure (some ⟨name, t.toList, 0⟩)
        | .error _ => pure none
  match input? with
  | none => return (-1, none)
  | some i =>
    let (record?, rest) := match ← recordIn? i.rest with
      | some (record, rest) => (some record, rest)
      | none => (none, [])
    modify fun s =>
      let others := s.inputs.filter fun j => j.name ≠ name
      { s with inputs := { i with rest := rest } :: others }
    return (if record?.isSome then 1 else 0, record?)

/-- Closes what has a name. Gives how it ended, or minus one. -/
def closeNamed (run : Runner) (name : String) : Act Value := do
  let s ← get
  set { s with inputs := s.inputs.filter fun i => i.name ≠ name }
  match s.outputs.find? fun o => o.name = name, s.inputs.find? fun i => i.name = name with
  | some o, _ => return .ofNat (← closeOutput run o)
  | none, some i => return .ofNat i.status
  | none, none => return .number (-1)

end Looplet.Awk
