import Looplet.Awk.Evaluation

/-!
# The program that runs programs on records

The text of the program is an argument, or in files. Variables may be set before it starts. What is
wrong with the program is said before it starts, and then it does not start.
-/

namespace Looplet.Awk

open Shell (Run Runner setStatus)
open Utility (complainAs lastPart)

/-- How the program is called. -/
structure Call where
  /-- The files that hold the text. -/
  files : List String
  settings : List String
  args : List String

/-- What arguments ask for. -/
inductive Request where
  | call (c : Call)
  | help
  | version
  | faulty (message : String)

/-- A request with a setting before all others. -/
def Request.withSetting (r : Request) (s : String) : Request :=
  match r with
  | .call c => .call { c with settings := s :: c.settings }
  | r => r

/-- A request with a file before all others. -/
def Request.withFile (r : Request) (path : String) : Request :=
  match r with
  | .call c => .call { c with files := path :: c.files }
  | r => r

/-- What an option with a value means for the rest of a request. -/
def applyOption (letter : Char) (value : String) (rest : Request) : Request :=
  match letter with
  | 'f' => rest.withFile value
  | 'F' => rest.withSetting ("FS=" ++ value)
  | 'v' =>
    if isSetting value then rest.withSetting value
    else .faulty ("improper assignment: -v " ++ value)
  | _ =>
    if value.toLower ∈ ["version", "v"] then .version
    else if value.toLower ∈ ["help", "usage", "h", "u"] then .help
    else rest

/-- Reads arguments. -/
def requestOf : Nat → List String → Request
  | 0, args => .call ⟨[], [], args⟩
  | _ + 1, [] => .call ⟨[], [], []⟩
  | fuel + 1, a :: rest =>
    match a.toList with
    | ['-', '-'] => .call ⟨[], [], rest⟩
    | ['-'] => .call ⟨[], [], a :: rest⟩
    | '-' :: '-' :: cs =>
      if String.ofList cs ∈ ["version"] then .version
      else if String.ofList cs ∈ ["help", "usage"] then .help
      else .faulty ("not an option: " ++ a)
    | '-' :: letter :: cs =>
      if letter ∈ ['f', 'F', 'v', 'W'] then
        match cs, rest with
        | [], [] => .faulty ("option -" ++ letter.toString ++ " lacks argument")
        | [], value :: more => applyOption letter value (requestOf fuel more)
        | _, _ => applyOption letter (String.ofList cs) (requestOf fuel rest)
      else .faulty ("not an option: " ++ a)
    | _ => .call ⟨[], [], a :: rest⟩

/-- How the program is used. -/
def usage : String :=
  "Usage: mawk [Options] [Program] [file ...]\n\nProgram:\n"
    ++ "    The -f option value is the name of a file containing program text.\n"
    ++ "    If no -f option is given, a \"--\" ends option processing; the following\n"
    ++ "    parameters are the program text.\n\nOptions:\n"
    ++ "    -f program-file  Program  text is read from file instead of from the\n"
    ++ "                     command-line.  Multiple -f options are accepted.\n"
    ++ "    -F value         sets the field separator, FS, to value.\n"
    ++ "    -v var=value     assigns value to program variable var.\n"
    ++ "    --               unambiguous end of options.\n\n"
    ++ "    Implementation-specific options are prefixed with \"-W\".  They can be\n"
    ++ "    abbreviated:\n\n"
    ++ "    -W version       show version information and exit.\n"
    ++ "    -W compat        pre-POSIX 2001.\n"
    ++ "    -W dump          show assembler-like listing of program and exit.\n"
    ++ "    -W help          show this message and exit.\n"
    ++ "    -W interactive   set unbuffered output, line-buffered input.\n"
    ++ "    -W exec file     use file as program as well as last option.\n"
    ++ "    -W posix         stricter POSIX checking.\n"
    ++ "    -W random=number set initial random seed.\n"
    ++ "    -W sprintf=number adjust size of sprintf buffer.\n"
    ++ "    -W usage         show this message and exit.\n"

/-- The version of the program. -/
def versionLine : String := "mawk 1.3.4 20240123\n"

/-- Reads the files that hold a program. Gives what cannot be read otherwise. -/
def textOfFiles : List String → Run (Except String String)
  | [] => return .ok ""
  | path :: rest => do
    match ← Utility.inputText path with
    | .error e => return .error (cannotOpen path e "")
    | .ok text =>
      let text := if text.endsWith "\n" || rest.isEmpty then text else text ++ "\n"
      return (← textOfFiles rest).map (text ++ ·)

/-- The values that a program starts with. -/
def firstValues : List (String × Value) :=
  [("FS", .text " "), ("OFS", .text " "), ("ORS", .text "\n"), ("RS", .text "\n"),
    ("CONVFMT", .text "%.6g"), ("OFMT", .text "%.6g"), ("SUBSEP", .text "\x1c"),
    ("NR", .number 0), ("FNR", .number 0), ("RSTART", .number 0), ("RLENGTH", .number (-1)),
    ("FILENAME", .unset)]

/-- A table of texts. -/
def tableOfTexts (items : List (String × String)) : Table :=
  items.foldl (fun t (key, s) => t.put key (.input s)) .empty

/-- The state that a program starts in. -/
def State.first (p : Program) (name : String) (args : List String)
    (environment : List (String × String)) : State where
  functions := p.functions.foldl (fun m f => m.insert f.name f) ∅
  values := ((firstValues ++ [("ARGC", Value.ofNat (args.length + 1))]).foldl
    (fun m (key, v) => m.insert key v) ∅)
  tables := #[tableOfTexts environment,
    tableOfTexts (((List.range (args.length + 1)).map Nat.repr).zip (name :: args))]
  tableOf := (∅ : Std.HashMap String Nat).insert "ENVIRON" 0 |>.insert "ARGV" 1
  frame := []
  record? := some .unset
  fields? := none
  outputs := []
  inputs := []
  waiting := ""
  main? := none
  nextArg := 1
  sawFile := false
  ended := false
  inside := []
  status := 0
  seed := .number 0
  chance := 1
  regexes := ∅

/-- Runs something to its end, and says why it stopped before it. Gives the state after it. -/
def settle (name : String) (body : Act Unit) (s : State) : Run State := do
  let (r, s) ← body.run.run s
  match r with
  | .error (.fault message) =>
    complainAs name message
    return { s with status := 2 }
  | _ => return s

/-- Runs a program on arguments. -/
def runProgram (run : Runner) (name : String) (p : Program) (settings args : List String) :
    Run Unit := do
  let first := State.first p name args (← get).environment
  let s ← settle name (do
    settings.forM applySetting
    runRules (evaluator run evaluationDepth) p.rules) first
  let s ← settle name (closeAll run) s
  setStatus s.status

/-- Runs a program on records. -/
def awk (run : Runner) (fullName : String) (args : List String) : Run Unit := do
  let name := lastPart fullName
  let start (text label : String) (settings args : List String) : Run Unit := do
    match Program.ofText text with
    | .error messages =>
      for message in messages do complainAs name (label ++ message)
      setStatus 2
    | .ok p => runProgram run name p settings args
  match requestOf (args.length + 1) args with
  | .help =>
    Shell.say usage
    setStatus 0
  | .version =>
    Shell.say versionLine
    setStatus 0
  | .faulty message =>
    complainAs name message
    setStatus 2
  | .call c =>
    match c.files, c.args with
    | [], [] =>
      Shell.sayError usage
      setStatus 0
    | [], text :: rest => start text "" c.settings rest
    | path :: _, rest =>
      match ← textOfFiles c.files with
      | .error message =>
        complainAs name message
        setStatus 2
      | .ok text => start text (path ++ ": ") c.settings rest

end Looplet.Awk
