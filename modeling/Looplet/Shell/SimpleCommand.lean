import Looplet.Shell.Execution

/-!
# Simple commands

A simple command is run in a fixed order: its words are expanded, its files opened, its variables
set, and then what its first word stands for is run: a function, a command of the shell, or a file.
A shell that knows more than the standard sets the variables before it opens the files, and it opens
those for a program in the process of the program.
-/

namespace Looplet.Shell

/-! ## Words -/

/-- Whether the arguments of a command may set variables, so that they are not divided. -/
def takesAssignments (extended : Bool) (fields : List String) : Bool :=
  let isWrapper (s : String) : Bool := s = "command" || (extended && s = "builtin")
  match fields.dropWhile isWrapper with
  | name :: _ =>
    if extended then name ∈ declaringCommands else name ∈ ["export", "readonly", "local"]
  | [] => false

/-- The values between parentheses. -/
def expandItems (run : Runner) : List Item → Run (List Given)
  | [] => return []
  | .plain w :: rest => do
    let words := if 'B' ∈ (← get).options then bracedWords w else [w]
    let fields ← words.mapM (fieldsOf run)
    let more ← expandItems run rest
    return (fields.flatten.map fun s => ⟨none, false, s⟩) ++ more
  | .keyed subscript adds w :: rest => do
    let key ← textOfWord run .text subscript
    let value ← textOfWord run .assignment w
    let more ← expandItems run rest
    return ⟨some key, adds, value⟩ :: more

/-- Values between parentheses as they are shown, where `quote` shows a text. -/
def shownItems (quote : String → String) (given : List Given) : String :=
  "(" ++ " ".intercalate (given.map fun g =>
    (match g.key? with
      | some key => "[" ++ quote key ++ (if g.adds then "]+=" else "]=")
      | none => "") ++ quote g.value) ++ ")"

/-- The values between parentheses that a variable is set to. -/
def itemsOf? : Word → Option (List Item)
  | [.text false "", .items items] => some items
  | _ => none

/-- An argument that sets a variable, as a command that declares it gets it. Values between
parentheses are kept for that command. -/
def declaringArgument (run : Runner) : Assignment → Run String
  | .set name subscript? adds value => do
    let subscript ← match subscript? with
      | some w => do pure ("[" ++ (← textOfWord run .text w) ++ "]")
      | none => pure ""
    let target := name ++ subscript
    match itemsOf? value with
    | some items =>
      let given ← expandItems run items
      traceText run (target ++ (if adds then "+=" else "=") ++ shownItems Quoting.single given)
      modify fun p => { p with extras := { p.extras with
        pending := (target, adds, given) :: p.extras.pending } }
      return target
    | none =>
      return target ++ (if adds then "+=" else "=") ++ (← textOfWord run .assignment value)

/-- The fields of a word of a command. -/
def argumentFields (run : Runner) (w : Word) : Run (List String) := do
  let words := if 'B' ∈ (← get).options then bracedWords w else [w]
  let fields ← words.mapM (fieldsOf run)
  return fields.flatten

/-- Expands the words of a command from left to right. -/
def expandWords (run : Runner) (fields : List String) : List Word → Run (List String)
  | [] => return fields
  | w :: rest => do
    let extended := (← get).extended
    let set? := if !takesAssignments extended fields then none
      else if extended then richAssignment? w
      else assignment? w
    match set? with
    | some a =>
      let arg ← declaringArgument run a
      expandWords run (fields ++ [arg]) rest
    | none =>
      let more ← argumentFields run w
      expandWords run (fields ++ more) rest

/-! ## Assignments -/

/-- Sets a variable for good. What is set is shown before that, as `show_` does it, and given back.
Values between parentheses are shown as they are `written`. -/
def assign (run : Runner) (show_ : String → Run Unit) (written : String) : Assignment → Run String
  | .set name subscript? adds w => do
    let utf8 := (← get).isUtf8
    let sign := if adds then "+=" else "="
    match itemsOf? w, subscript? with
    | some _, some subscript =>
      giveUp (name ++ "[" ++ (← textOfWord run .text subscript)
        ++ "]: cannot assign list to array member")
    | some items, none =>
      show_ written
      setItems name adds (← expandItems run items)
      return written
    | none, _ =>
      let value ← textOfWord run .assignment w
      let subscript? ← subscript?.mapM (textOfWord run .text)
      let target := name ++ ((subscript?.map fun s => "[" ++ s ++ "]").getD "")
      let shown := target ++ sign
        ++ (if (← get).extended then Quoting.assigned utf8 value else value)
      show_ shown
      setValue name subscript? adds value
      return shown

/-- Sets a variable for other programs until the frame at hand ends. A shell that knows more than
the standard takes the value as it is, whatever marks the variable has. -/
def setLocally (name value : String) : Run Unit := do
  keepVariable name
  if (← get).extended then
    changeVariable name fun _ => { name, text? := some value, exported := true }
  else
    setVariable name value
    changeVariable name fun v => { v with exported := true }

/-- Sets a variable for one command only. Gives what was set as it is shown. A variable that cannot
be changed stays as it is, in a shell that knows more than the standard. -/
def assignLocally (run : Runner) (_ : String) : Assignment → Run String
  | .set name subscript? adds w => do
    let p ← get
    let value ← match itemsOf? w with
      | some items => do pure (shownItems (Quoting.traced p.isUtf8) (← expandItems run items))
      | none => textOfWord run .assignment w
    let shown := name ++ "=" ++ (if p.extended then Quoting.assigned p.isUtf8 value else value)
    match subscript? with
    | some subscript =>
      complain (notIdentifier (name ++ "[" ++ (← textOfWord run .text subscript) ++ "]"))
    | none =>
      if p.extended && p.isReadOnly name then complain (name ++ ": readonly variable")
      else
        let old := (p.value? name).getD ""
        setLocally name (← if p.extended && adds then newValue (p.binding? name) old true value
          else pure (if adds then old ++ value else value))
    return shown

/-- Expands and sets variables from left to right; `set` sets one that is written in a way. Gives
what was set. -/
def assignAll (set : String → Assignment → Run String) :
    List (String × Assignment) → Run (List String)
  | [] => return []
  | (written, a) :: rest => do
    let shown ← set written a
    return shown :: (← assignAll set rest)

/-! ## Wrappers -/

/-- What `command` runs: its arguments after its options, if those only say where to look, and
whether they say that standard programs are meant. -/
def commandTarget? (standardPath : Bool) : List String → Option (List String × Bool)
  | [] => none
  | a :: rest =>
    match a.toList with
    | ['-', '-'] => if rest.isEmpty then none else some (rest, standardPath)
    | '-' :: c :: cs => if (c :: cs).all (· = 'p') then commandTarget? true rest else none
    | _ => some (a :: rest, standardPath)

/-- A command without the words that say how to find it, and how it is found. -/
def withoutWrapper (extended : Bool) : Nat → Scope → List String → List String × Scope
  | fuel + 1, scope, "command" :: rest =>
    match commandTarget? scope.standardPath rest with
    | some (args, standard) =>
      withoutWrapper extended fuel { scope with functions := false, standardPath := standard } args
    | none => ("command" :: rest, scope)
  | fuel + 1, scope, "builtin" :: rest =>
    match if extended then (if rest.head? = some "--" then rest.drop 1 else rest) else [] with
    | [] => ("builtin" :: rest, scope)
    | args => withoutWrapper extended fuel { scope with functions := false, files := false } args
  | _, scope, args => (args, scope)

/-- What `command` says about names. -/
def commandBuiltin : BuiltinBody := fun _ args => do
  let (opts, names) ← options "pvV" args
  let standardPath := opts.any fun o => o.1 = 'p'
  let asked := (opts.filter fun o => o.1 ≠ 'p').map Prod.fst
  if asked.isEmpty then return 0
  else if (← get).extended then describeRichly (asked.getLast? = some 'V') standardPath names
  else describeCommand ('V' ∈ asked) standardPath names

/-! ## Running -/

/-- Runs the body of a command of the shell and checks its output. -/
def runBody (run : Runner) (body : BuiltinBody) (name : String) (args : List String) :
    Run Unit := do
  modify fun p => { p with outputFault? := none }
  let status ← body run args
  let p ← get
  match p.outputFault? with
  | some e =>
    complain (if p.extended then "write error: " ++ e.reason else name ++ ": I/O error")
    setStatus (status ||| 1)
  | none => setStatus status

/-- Runs a command of the shell. If it fails, only a special one ends a shell of the standard. -/
def runBuiltin (run : Runner) (special : Bool) (args : List String) : Run Unit := do
  let name := args.head?.getD ""
  let saved := (← get).builtin?
  modify fun p => { p with builtin? := some name }
  let r ← outcome do
    if name = "exec" then
      if 1 < args.length then replaceProcess run (args.drop 1) else setStatus 0
    else
      let p ← get
      let body := if name = "command" then commandBuiltin else p.builtinBody name
      runBody run body name (args.drop 1)
  modify fun p => { p with
    builtin? := saved, outputFault? := none, extras := { p.extras with pending := [] } }
  match r with
  | .ok () => return ()
  | .error .failure => if special && !(← get).extended then throw .failure
  | .error stop => throw stop

/-- How deep functions may call functions in a shell of the standard. -/
def callLimit : Nat := 1000

/-- Gives up if functions call functions too deep. A variable says how deep they may in a shell that
knows more than the standard. -/
def checkDepth (name : String) : Run Unit := do
  let p ← get
  let depth := (p.extras.calls.filter fun c => c.name ≠ "main" && c.name ≠ "source").length
  if p.extended then
    match (p.value? "FUNCNEST").bind fun s => Text.natural? s.toList with
    | some limit =>
      if 0 < limit && limit ≤ depth then
        giveUp (name ++ ": maximum function nesting level exceeded (" ++ Nat.repr limit ++ ")")
    | none => pure ()
  else if callLimit ≤ depth then
    fatal ("Maximum function recursion depth (" ++ Nat.repr callLimit ++ ") reached")

/-- Calls a function. -/
def callFunction (run : Runner) (tested : Bool) (name : String) (f : Function)
    (args : List String) : Run Unit := do
  let p ← get
  checkDepth name
  openFrame
  let extras := { p.extras with
    calls := ⟨name, p.line, f.source⟩ :: p.extras.calls,
    shift := f.shift }
  let (hidden, passed) := p.traps.partition fun t => debugMark ≤ t.1 && !p.passesOn t.1
  modify fun q => { q with
    args := args, loops := 0, optionOffset := 0,
    traps := if p.extended then passed else p.traps,
    extras := extras }
  let r ← outcome do
    let r ← outcome (run (.command f.body ⟨tested, false⟩))
    if p.extended then runExtraAction run returnMark
    match r with
    | .ok () => return ()
    | .error stop => throw stop
  closeFrame
  modify fun q => { q with
    args := p.args, loops := p.loops, optionOffset := p.optionOffset,
    traps := if p.extended then
        q.traps ++ hidden.filter fun t => q.traps.all fun u => u.1 ≠ t.1
      else q.traps,
    extras := { q.extras with calls := p.extras.calls, shift := p.extras.shift } }
  match r with
  | .ok () => return ()
  | .error .giveBack => return ()
  | .error stop => throw stop

/-- The name of the function that is called for a command that is not found. -/
def handlerName : String := "command_not_found_handle"

/-- Runs a command that is not found, in a shell that knows more than the standard. -/
def runMissing (run : Runner) (tested : Bool) (args : List String) (e : SystemError) :
    Run Unit := do
  let name := args.head?.getD ""
  let handler? := (← get).functions.lookup handlerName
  match if name.toList.contains '/' then none else handler? with
  | some f => callFunction run tested handlerName f args
  | none =>
    complainRun name e
    setStatus 127

/-- Runs what the first word of a command stands for, with the files that `opened` opens. -/
def runFound (run : Runner) (duty : Duty) (special : Bool) (opened : Run Unit → Run Unit)
    (scope : Scope) (args : List String) : Run Unit := do
  let p ← get
  let name := args.head?.getD ""
  if !scope.files && !p.isBuiltin name then
    opened do
      complain ("builtin: " ++ name ++ ": not a shell builtin")
      setStatus 1
  else
    match ← findCommand scope name with
    | .function f => opened (callFunction run duty.tested name f (args.drop 1))
    | .builtin => opened do
      modify fun q => { q with tested := duty.tested }
      runBuiltin run special args
    | .file path => runFile run opened scope.standardPath path args duty.last
    | .missing e =>
      if p.extended then runApart run opened duty.last (runMissing run duty.tested args e)
      else
        complainRun name e
        setStatus 127

/-- Shows what was set, each on a line of its own in a shell that knows more than the standard. -/
def traceAssignments (run : Runner) (saved : List (Nat × Nat)) (shown : List String) :
    Run Unit := do
  if (← get).extended then
    for s in shown do showCommand run saved s
  else if !shown.isEmpty then showCommand run saved (" ".intercalate shown)

/-- Runs a command without words: its variables are set for good. -/
def runAssignments (run : Runner) (assignments : List (String × Assignment))
    (redirects : List Redirect) : Run Unit := do
  let p ← get
  let openings ← openingsOf run redirects
  let conclude : Run Unit := do setStatus ((← get).substituted?.getD 0)
  if p.extended then
    let _ ← assignAll (assign run (showCommand run p.descriptors)) assignments
    withOpenings (return ()) conclude [] openings
    modify fun q => { q with
      descriptors := p.descriptors, extras := { q.extras with lastArgument := "" } }
  else
    let body : Run Unit := do
      let shown ← assignAll (assign run fun _ => return ()) assignments
      traceAssignments run p.descriptors shown
      conclude
    withOpenings (return ()) body [] openings

/-- Takes note of the last argument of a command. -/
def noteLastArgument (s : String) : Run Unit :=
  modify fun p => { p with extras := { p.extras with lastArgument := s } }

/-- Runs a computation, in a frame for variables or not. -/
def inFrame (framed : Bool) (body : Run Unit) : Run Unit := do
  if framed then openFrame
  let r ← outcome body
  if framed then closeFrame
  match r with
  | .ok () => return ()
  | .error stop => throw stop

/-- Runs a computation that does not see the variables of the frame at hand. -/
def outsideFrame {α : Type} (body : Run α) : Run α := do
  let p ← get
  let own := (p.locals.head?.getD []).map fun (name, _) => (name, p.binding? name)
  closeFrame
  let r ← outcome body
  openFrame
  for (name, v?) in own do
    keepVariable name
    modify fun q => { q with bindings := putVariable name v? q.bindings }
  match r with
  | .ok a => return a
  | .error stop => throw stop

/-- Runs a command with words. Variables that are set before a special command of the standard stay
set; for any other they are set only while it runs. The files that `exec` opens stay open. -/
def runWords (run : Runner) (duty : Duty) (assignments : List (String × Assignment))
    (fields : List String) (redirects : List Redirect) : Run Unit := do
  let p ← get
  let special := decide (fields.head?.getD "" ∈ specialBuiltins)
  let framed := if p.extended then !assignments.isEmpty else !special
  let openings ← openingsOf run redirects
  let openings := if p.extended && framed then openings.map outsideFrame else openings
  let setsPath := assignments.any fun (_, .set name ..) => name = "PATH"
  let (args, scope) :=
    withoutWrapper p.extended fields.length { ownPath := setsPath } fields
  let keeps := special && !p.extended
  let fault : Run Unit := if keeps then throw .failure else return ()
  let opened (body : Run Unit) : Run Unit := do
    if args.head? = some "exec" then
      if ← performAll true [] openings then body else fault
    else withOpenings fault body [] openings
  if p.extended then
    inFrame framed do
      let shown ← assignAll (assignLocally run) assignments
      traceAssignments run p.descriptors shown
      trace run p.descriptors fields
      runFound run duty special opened scope args
      noteLastArgument (fields.getLast?.getD "")
  else
    opened <| inFrame framed do
      let set := if keeps then assign run (fun _ => return ()) else assignLocally run
      let shown ← assignAll set assignments
      trace run p.descriptors (shown ++ fields)
      runFound run duty special id scope args

/-- Runs a simple command, whose assignments and words are `written` in a way. -/
def runSimple (run : Runner) (duty : Duty) (line : Nat) (assignments : List Assignment)
    (words : List Word) (redirects : List Redirect) (written : List String) : Run Unit := do
  atLine line
  runExtraAction run debugMark
  modify fun p => { p with substituted? := none }
  let lasting := (words.head?.bind plain?) = some "exec"
  withChannels run lasting do
    let fields ← expandWords run [] words
    let assignments := written.zip assignments
    if fields.isEmpty then runAssignments run assignments redirects
    else runWords run duty assignments fields redirects

end Looplet.Shell
