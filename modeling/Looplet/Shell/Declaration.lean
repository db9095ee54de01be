import Looplet.Shell.Settings
import Looplet.Shell.Trace

/-!
# Declarations

The commands of a shell that knows more than the standard which declare variables: they mark them,
give them one value or several, make them belong to the function at hand, or show how they are
declared.
-/

namespace Looplet.Shell

/-- Whether a function is being run. -/
def Process.inFunction (p : Process) : Bool :=
  p.extras.calls.any fun c => c.name ≠ "main" && c.name ≠ "source"

/-! ## Marks -/

/-- What a declaration says about variables. A letter is set or taken back. -/
structure Marks where
  letters : List (Char × Bool)
  deriving DecidableEq

namespace Marks

/-- Whether a letter is set. -/
def has (m : Marks) (c : Char) : Bool := m.letters.any fun l => l = (c, true)

/-- Whether a letter is taken back. -/
def drops (m : Marks) (c : Char) : Bool := m.letters.any fun l => l = (c, false)

/-- What letters become of the values of a variable. -/
def letterChange (m : Marks) (old : Option CaseChange) : Option CaseChange :=
  let change (c : Char) : Option CaseChange :=
    if c = 'u' then some .upper else if c = 'l' then some .lower else some .turned
  m.letters.foldl (fun now (c, on) =>
    if c ∈ ['u', 'l', 'c'] then (if on then change c else if now = change c then none else now)
    else now) old

/-- A variable with all marks but those that only count after its value is set. -/
def before (m : Marks) (v : Variable) : Variable :=
  let keys? := if m.has 'A' then some Keys.texts else if m.has 'a' then some Keys.numbers else none
  let v := { v with
    integer := (v.integer || m.has 'i') && !m.drops 'i',
    letters? := m.letterChange v.letters?,
    reference := (v.reference || m.has 'n') && !m.drops 'n' }
  match keys?, v.table? with
  | some keys, none =>
    let only := v.text?.toList.map fun s => ("0", s)
    { v with text? := none, table? := some ⟨keys, only⟩, declaredOnly := only.isEmpty }
  | _, _ => v

/-- A variable with the marks that count after its value is set. -/
def after (m : Marks) (v : Variable) : Variable :=
  { v with
    readOnly := v.readOnly || m.has 'r',
    exported := (v.exported || m.has 'x') && !m.drops 'x' }

end Marks

/-- Reads the letters at the start of the arguments of a declaration. -/
def marksOf (known : List Char) : Nat → List String → Run (Marks × List String)
  | 0, args => return (⟨[]⟩, args)
  | fuel + 1, args =>
    match args with
    | [] => return (⟨[]⟩, [])
    | a :: rest =>
      let read (on : Bool) (cs : List Char) : Run (Marks × List String) := do
        match cs.find? fun c => c ∉ known with
        | some c => misused ((if on then "-" else "+") ++ c.toString ++ ": invalid option")
        | none =>
          let (m, rest) ← marksOf known fuel rest
          return (⟨cs.map (fun c => (c, on)) ++ m.letters⟩, rest)
      match a.toList with
      | ['-', '-'] => return (⟨[]⟩, rest)
      | '-' :: c :: cs => read true (c :: cs)
      | '+' :: c :: cs => read false (c :: cs)
      | _ => return (⟨[]⟩, args)

/-! ## Belonging to a function -/

/-- Whether a variable cannot belong to a function, since it is fixed outside of all functions. -/
def Process.isFixedOutside (p : Process) (name : String) : Bool :=
  p.isReadOnly name && p.locals.all fun frame => (frame.lookup name).isNone

/-- Lets a variable belong to the function at hand. It has no value at first. -/
def makeLocal (name : String) : Run Unit := do
  let p ← get
  match p.locals with
  | frame :: _ =>
    if (frame.lookup name).isNone then
      keepVariable name
      modify fun q => { q with
        bindings := putVariable name (some { name := name, text? := none }) q.bindings }
  | [] => return ()

/-- Does something to the variable of a name as it is outside of all functions. -/
def outsideFunctions (name : String) (body : Run Unit) : Run Unit := do
  let p ← get
  let outer := p.locals.reverse.findSome? fun frame => (frame.lookup name)
  match outer with
  | none => body
  | some v? =>
    let inner := p.binding? name
    modify fun q => { q with bindings := putVariable name v? q.bindings }
    let r ← outcome body
    let changed := (← get).binding? name
    let rec replaceLast : List (List (String × Option Variable)) →
        List (List (String × Option Variable))
      | [] => []
      | frame :: rest =>
        if rest.any fun f => (f.lookup name).isSome then frame :: replaceLast rest
        else frame.map (fun e => if e.1 = name then (name, changed) else e) :: rest
    modify fun q => { q with
      bindings := putVariable name inner q.bindings,
      locals := replaceLast q.locals }
    match r with
    | .ok () => return ()
    | .error stop => throw stop

/-! ## Declaring -/

/-- An argument of a declaration: a name that may have a subscript, and what it is set to. -/
structure Declared where
  name : String
  subscript? : Option String
  adds : Bool
  value? : Option String

/-- Reads an argument of a declaration. -/
def Declared.ofText (s : String) : Declared :=
  let (left, value?) := splitAssignment s
  let adds := left.endsWith "+" && value?.isSome
  let left := if adds then String.ofList left.toList.dropLast else left
  let (name, subscript?) := splitSubscript left
  ⟨name, subscript?, adds, value?⟩

/-- Why a variable cannot get the table that is asked for. -/
def tableFault? (m : Marks) (v : Variable) : Option String :=
  match v.table?.map Table.keys with
  | some .numbers =>
    if m.has 'A' then some (v.name ++ ": cannot convert indexed to associative array") else none
  | some .texts =>
    if m.has 'a' then some (v.name ++ ": cannot convert associative to indexed array") else none
  | none => none

/-- The values of a text between parentheses. -/
def givenIn? (text : String) : Option (List Given) :=
  match text.toList with
  | '(' :: cs =>
    if cs.getLast? = some ')' then
      let words := ((String.ofList cs.dropLast).splitOn " ").filter (· ≠ "")
      some (words.map fun w => ⟨none, false, w⟩)
    else none
  | _ => none

/-- Sets what an argument of a declaration sets. -/
def setDeclared (m : Marks) (d : Declared) (given? : Option (Bool × List Given)) : Run Unit := do
  match given?, d.value? with
  | some (adds, items), _ => setItems d.name adds items
  | none, some value =>
    match if m.has 'a' || m.has 'A' then givenIn? value else none with
    | some items => setItems d.name d.adds items
    | none =>
      if m.has 'n' then
        changeVariable d.name fun v => { v with text? := some value }
      else setValue d.name d.subscript? d.adds value
  | none, none =>
    if d.subscript?.isSome then
      changeVariable d.name fun v => { v with
        table? := some v.table, text? := none, declaredOnly := v.table.items.isEmpty }

/-- Why a variable cannot stand for what a text names. -/
def referenceFault? (d : Declared) : Option String :=
  match d.value? with
  | none => none
  | some value =>
    if value = "" then some (notIdentifier "")
    else if !isName (splitSubscript value).1 then
      some ("\x60" ++ value ++ "': invalid variable name for name reference")
    else if value = d.name then
      some (d.name ++ ": nameref variable self references not allowed")
    else none

/-- Declares a variable. Gives whether that succeeds. -/
def declare (m : Marks) (inFunction : Bool) (arg : String) : Run Bool := do
  let d := Declared.ofText arg
  let given? := (← get).extras.pending.lookup arg
  if !isName d.name then
    complain (notIdentifier arg)
    return false
  else if inFunction && (← get).isFixedOutside d.name then
    complain (d.name ++ ": readonly variable")
    return false
  else
    if inFunction then makeLocal d.name
    let p ← get
    let v := (p.binding? d.name).getD { name := d.name, text? := none }
    let changes := given?.isSome || d.value?.isSome || m.drops 'r'
    if v.readOnly && changes then
      let naming := p.builtin?.filter fun b => b ∈ ["declare", "typeset", "local"]
      sayError ({ p with builtin? := naming }.heading ++ d.name ++ ": readonly variable\n")
      return false
    else if let some fault := tableFault? m v then
      complain fault
      return false
    else if let some fault := if m.has 'n' then referenceFault? d else none then
      complain fault
      return false
    else
      changeVariable d.name m.before
      match ← outcome (setDeclared m d given?) with
      | .ok () =>
        changeVariable d.name m.after
        return true
      | .error .failure => return false
      | .error stop => throw stop

/-- Declares variables. Gives the status. -/
def declareAll (m : Marks) (inFunction : Bool) (args : List String) : Run Nat := do
  let mut status := 0
  for arg in args do
    if !(← declare m inFunction arg) then status := 1
  return status

/-! ## Showing declarations -/

/-- The variables in the order of their names. -/
def Process.sortedVariables (p : Process) : List Variable :=
  (sorted (p.bindings.map Variable.name)).filterMap p.binding?

/-- Shows how variables are declared. -/
def showDeclarations (keep : Variable → Bool) : Run Unit := do
  let p ← get
  let lines := (p.sortedVariables.filter keep).map fun v => v.declaration p.isUtf8 ++ "\n"
  say (String.join lines)

/-- Shows how the variables of some names are declared. Gives the status. -/
def showDeclared (names : List String) : Run Nat := do
  let mut status := 0
  for name in names do
    let p ← get
    let v? := match p.binding? name with
      | some v => some v
      | none => p.computed? name
    match v? with
    | some v => say (v.declaration p.isUtf8 ++ "\n")
    | none =>
      complain (name ++ ": not found")
      status := 1
  return status

/-- Whether a variable has all marks that are asked for. -/
def Marks.fits (m : Marks) (v : Variable) : Bool :=
  let flags := v.flags.toList
  m.letters.all fun (c, on) => !on || c ∉ ['a', 'A', 'i', 'n', 'r', 'x', 'l', 'u', 'c'] || c ∈ flags

/-- The functions in the order of their names. -/
def Process.sortedFunctions (p : Process) : List (String × Function) :=
  (sorted (p.functions.map Prod.fst)).filterMap fun name =>
    (p.functions.lookup name).map fun f => (name, f)

/-- The definitions of all functions. -/
def Process.functionTexts (p : Process) : String :=
  String.join (p.sortedFunctions.map fun (name, f) => definitionText name f.body ++ "\n")

/-- The marks of a function. -/
def Function.flags (f : Function) : String :=
  "f" ++ (if f.readOnly then "r" else "") ++ (if f.exported then "x" else "")

/-- A function as it is shown in a list: its definition if that is asked for, and how it is marked
if there is more to say. -/
def Function.listing (bare : Bool) (name : String) (f : Function) : String :=
  let marks := "declare -" ++ f.flags ++ " " ++ name ++ "\n"
  if bare then marks
  else definitionText name f.body ++ "\n" ++ (if f.flags = "f" then "" else marks)

/-- Shows all functions of a kind. -/
def listFunctions (bare : Bool) (keep : Function → Bool) : Run Unit := do
  let fs := (← get).sortedFunctions.filter fun f => keep f.2
  say (String.join (fs.map fun (name, f) => f.listing bare name))

/-- Changes a function. -/
def changeFunction (name : String) (change : Function → Function) : Run Unit :=
  modify fun p => { p with
    functions := p.functions.map fun (n, f) => (n, if n = name then change f else f) }

/-- Shows functions or marks them. Gives the status. -/
def declareFunctions (m : Marks) (names : List String) : Run Nat := do
  let bare := m.has 'F'
  let letters := m.letters.filter fun l => l.1 ∉ ['f', 'F', 'p']
  if names.isEmpty then
    let keep (f : Function) : Bool := (!m.has 'r' || f.readOnly) && (!m.has 'x' || f.exported)
    listFunctions bare keep
    return 0
  else
    let mut status := 0
    for name in names do
      match (← get).functions.lookup name with
      | none =>
        if m.has 'p' then complain (name ++ ": not found")
        else if name.toList.contains '=' then
          failWithStatus 1 "cannot use \x60-f' to make functions"
        status := 1
      | some f =>
        if m.has 'p' then say (f.listing bare name)
        else if letters.isEmpty then
          say ((if bare then name else definitionText name f.body) ++ "\n")
        else if f.readOnly && m.drops 'r' then
          complain (name ++ ": readonly function")
          status := 1
        else
          changeFunction name fun f => { f with
            readOnly := f.readOnly || m.has 'r',
            exported := (f.exported || m.has 'x') && !m.drops 'x' }
    return status

/-! ## Commands -/

/-- Declares variables, or shows how they are declared. -/
def declareBuiltin : BuiltinBody := fun _ args => do
  let (m, rest) ← marksOf "aAfFgiIlnrtuxpc".toList (args.length + 1) args
  if m.has 'f' || m.has 'F' then declareFunctions m rest
  else if rest.isEmpty then
    if m.has 'p' || !m.letters.isEmpty then showDeclarations m.fits
    else
      let p ← get
      let set := p.sortedVariables.filter fun v => v.text?.isSome || v.table?.isSome
      say (String.join (set.map fun v => v.listing p.isUtf8 ++ "\n"))
      say p.functionTexts
    return 0
  else if m.has 'p' then showDeclared rest
  else
    let inFunction := (← get).inFunction
    if m.has 'g' && inFunction then
      let mut status := 0
      for arg in rest do
        let failed ← outcome (outsideFunctions (Declared.ofText arg).name do
          if !(← declare m false arg) then throw .failure)
        match failed with
        | .ok () => pure ()
        | .error .failure => status := 1
        | .error stop => throw stop
      return status
    else declareAll m inFunction rest

/-- Lets variables belong to the function at hand. -/
def richLocalBuiltin : BuiltinBody := fun _ args => do
  let p ← get
  if !p.inFunction then failWithStatus 1 "can only be used in a function"
  else
    let (m, rest) ← marksOf "aAiIlnrtuxpc".toList (args.length + 1) args
    if rest.isEmpty then
      let mine := (p.locals.head?.getD []).map Prod.fst
      showDeclarations fun v => v.name ∈ mine
      return 0
    else declareAll m true (rest.filter (· ≠ "-"))

/-- Marks functions. Gives the status. -/
def markFunctions (names : List String) (mark : Function → Function) : Run Nat := do
  let mut status := 0
  for name in names do
    if ((← get).functions.lookup name).isSome then changeFunction name mark
    else
      complain (name ++ ": not a function")
      status := 1
  return status

/-- Shows the variables that arguments set. -/
def traceDeclared (run : Runner) (args : List String) : Run Unit := do
  let utf8 := (← get).isUtf8
  for arg in args do
    let (target, value?) := splitAssignment arg
    match value? with
    | some value =>
      if isName (Declared.ofText arg).name then
        traceText run (target ++ "=" ++ Quoting.assigned utf8 value)
    | none => pure ()

/-- Lets other programs see variables. -/
def richExportBuiltin : BuiltinBody := fun run args => do
  let (opts, rest) ← options "fnp" args
  let has (c : Char) : Bool := opts.any fun o => o.1 = c
  if rest.isEmpty then
    if has 'f' then listFunctions false Function.exported
    else showDeclarations Variable.exported
    return 0
  else if has 'f' then markFunctions rest fun f => { f with exported := !has 'n' }
  else
    traceDeclared run rest
    let p ← get
    let isKnown (arg : String) : Bool := (splitAssignment arg).2.isSome || (p.binding? arg).isSome
    declareAll ⟨[('x', !has 'n')]⟩ false
      (if has 'n' then rest.filter fun a => isKnown a || !isName a else rest)

/-- Protects variables from change. -/
def richReadonlyBuiltin : BuiltinBody := fun run args => do
  let (opts, rest) ← options "aAfp" args
  let onFunctions := opts.any fun o => o.1 = 'f'
  if rest.isEmpty then
    if onFunctions then listFunctions false Function.readOnly
    else showDeclarations Variable.readOnly
    return 0
  else if onFunctions then markFunctions rest fun f => { f with readOnly := true }
  else
    let letters := (opts.filter fun o => o.1 = 'a' || o.1 = 'A').map fun o => (o.1, true)
    traceDeclared run rest
    declareAll ⟨('r', true) :: letters⟩ false rest

/-- Takes a variable or one of its values away. Gives whether there was one. -/
def unsetNamed (keepsTarget : Bool) (arg : String) : Run Bool := do
  let p ← get
  let (name, subscript?) := splitSubscript arg
  let name := if keepsTarget then name else p.target name
  if p.isReadOnly name then
    failWithStatus 1 (name ++ ": cannot unset: readonly variable")
  else
    match p.binding? name, subscript? with
    | none, _ => return false
    | some v, some subscript =>
      if (subscript = "@" || subscript = "*") && v.table?.all fun t => t.keys = .numbers then
        modify fun q => { q with bindings := putVariable name none q.bindings }
      else
        match ← keyFor name subscript with
        | .ok key => changeVariable name fun v => { v with
            text? := if v.table?.isNone && key = "0" then none else v.text?,
            table? := v.table?.map fun t => t.erase key }
        | .error message => giveUp message
      return true
    | some _, none =>
      modify fun q => { q with bindings := putVariable name none q.bindings }
      heedPath name
      return true

/-- Takes variables or functions away. -/
def richUnsetBuiltin : BuiltinBody := fun _ args => do
  let (opts, rest) ← options "fvn" args
  let has (c : Char) : Bool := opts.any fun o => o.1 = c
  let dropFunction (name : String) : Run Unit := do
    let p ← get
    if (p.functions.lookup name).any Function.readOnly then
      failWithStatus 1 (name ++ ": cannot unset: readonly function")
    else set { p with functions := p.functions.filter fun f => f.1 ≠ name }
  let mut status := 0
  for name in rest do
    do
      let drop : Run Unit := do
        if has 'f' then dropFunction name
        else if !(← unsetNamed (has 'n') name) && !has 'v' then dropFunction name
      match ← outcome drop with
      | .ok () => pure ()
      | .error .failure => status := 1
      | .error stop => throw stop
  return status

/-- Evaluates expressions. -/
def letBuiltin : BuiltinBody := fun _ args => do
  if args.isEmpty then failWithStatus 1 "expression expected"
  else
    let mut last : Int64 := 0
    for a in args do
      match ← calculate a with
      | .ok n => last := n
      | .error message =>
        complainFault "" message
        throw .failure
    return if last = 0 then 1 else 0

end Looplet.Shell
