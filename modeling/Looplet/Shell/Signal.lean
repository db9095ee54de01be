import Looplet.Shell.Settings

/-!
# Signals

The shell knows a signal by its number or its name. `kill` sends signals, `trap` sets what happens
when one arrives. A signal with an action waits until the command at hand is done; any other ends
the process at once, unless it is ignored or harmless.
-/

namespace Looplet.Shell

/-! ## Names -/

/-- The name of a signal. -/
def signalName (n : Nat) : String :=
  if n = 0 then "EXIT"
  else if 34 ≤ n then
    if n = 34 then "RTMIN"
    else if n < 50 then "RTMIN+" ++ Nat.repr (n - 34)
    else if n < 64 then "RTMAX-" ++ Nat.repr (64 - n)
    else "RTMAX"
  else
    match ExitStatus.signalNames.lookup n with
    | some name => if n = 16 then "16" else String.ofList (name.toList.drop 3)
    | none => Nat.repr n

/-- How many signals there are, with the end of a process as the first. -/
def signalCount : Nat := 65

/-- The number of a signal that is given by its number. -/
def signalNumber? (s : String) : Option Nat := do
  let n ← Text.natural? s.toList
  if n < signalCount then some n else none

/-- The number of a signal that is given by its number or its name. Only names from `least` on
count. -/
def signalOf? (least : Nat) (s : String) : Option Nat :=
  match signalNumber? s with
  | some n => some n
  | none =>
    ((List.range signalCount).drop least).find? fun n =>
      (signalName n).map Char.toLower = s.map Char.toLower

/-- The actions that no signal asks for, by name. -/
def extraNames : List (String × Nat) :=
  [("EXIT", 0), ("DEBUG", debugMark), ("ERR", errorMark), ("RETURN", returnMark)]

/-- The name of a signal in full, or of an action that no signal asks for. -/
def fullSignalName (n : Nat) : String :=
  match extraNames.find? fun e => e.2 = n with
  | some (name, _) => name
  | none => if n = 16 then "SIGSTKFLT" else "SIG" ++ signalName n

/-- The number of a signal that is given by its number or by its name, which may be in full. -/
def richSignalOf? (s : String) : Option Nat :=
  let name := s.map Char.toUpper
  let bare := if name.startsWith "SIG" then String.ofList (name.toList.drop 3) else name
  match signalNumber? s with
  | some n => some n
  | none => if bare = "STKFLT" then some 16 else signalOf? 1 bare

/-- The number of an action that is given by its number or by its name. -/
def richActionOf? (s : String) : Option Nat :=
  match extraNames.lookup (s.map Char.toUpper) with
  | some n => some n
  | none => richSignalOf? s

/-! ## Arrival -/

/-- The signals that have arrived for a process, taken from the world. -/
def takeSignals : Run (List Nat) := do
  let p ← get
  let mine := p.world.signals.filter fun s => s.1 = p.id
  set { p with world := { p.world with signals := p.world.signals.filter fun s => s.1 ≠ p.id } }
  return (mine.map Prod.snd).mergeSort

/-- Runs the action of a signal, whose lines are counted from a line. The status is the same after
it. -/
def runAction (run : Runner) (line : Nat) (action : String) : Run Unit := do
  let p ← get
  let before := p.interrupted?.getD p.status
  set { p with
    interrupted? := some before,
    builtin? := if p.extended then none else p.builtin?,
    extras := { p.extras with shift := 0, level := p.extras.level + 1 } }
  run (.text action .none ⟨line, false, "trap: "⟩)
  modify fun q => { q with
    status := before, interrupted? := p.interrupted?,
    line := if p.extended then p.line else q.line,
    builtin? := if p.extended then p.builtin? else q.builtin?,
    extras := { q.extras with
      shift := p.extras.shift, level := p.extras.level, pipeStatus := p.extras.pipeStatus } }

/-- Runs the action that no signal asks for, unless it is running. -/
def runExtraAction (run : Runner) (mark : Nat) : Run Unit := do
  let p ← get
  match if p.extended then p.traps.lookup mark else none with
  | none => return ()
  | some action =>
    if action = "" then return ()
    else
      set { p with traps := p.traps.filter fun t => t.1 ≠ mark }
      let r ← outcome (runAction run p.line action)
      modify fun q => { q with
        traps := if q.traps.any fun t => t.1 = mark then q.traps else (mark, action) :: q.traps }
      match r with
      | .ok () => return ()
      | .error stop => throw stop

/-- Does what the signals that have arrived ask for. -/
def heedSignals (run : Runner) : Run Unit := do
  if (← get).world.signals.isEmpty then return ()
  for n in ← takeSignals do
    match (← get).traps.lookup n with
    | some action => if action ≠ "" && n ≠ 9 then runAction run 1 action
    | none => if n ∉ ExitStatus.harmlessSignals then throw (.signal n)

/-! ## Commands -/

/-- How `kill` is called. -/
def killUsage : String :=
  "Usage: kill [-s sigspec | -signum | -sigspec] [pid | job]... or\nkill -l [exitstatus]"

/-- Lists the names of signals, or gives the name of one. -/
def listSignals : List String → Run Nat
  | [] => do
    say ("0\n" ++ String.join
      (((List.range signalCount).drop 1).map fun n => signalName n ++ "\n"))
    return 0
  | s :: _ => do
    let n ← numberOf s
    let n := if 128 < n then n - 128 else n
    if 0 < n && n < signalCount then
      say (signalName n ++ "\n")
      return 0
    else fatal ("invalid signal number or exit status: " ++ s)

/-- Whether there is a process of a number: the one at hand, one that it comes from, or one that
it has started. -/
def Process.knows (p : Process) (id : Nat) : Bool :=
  id = p.id || id = p.shellId || id ∈ p.parents || p.jobs.any fun j => j.1 = id

/-- Sends a signal to a process. -/
def sendSignal (n : Nat) (target : String) : Run Bool := do
  if target.toList.head? = some '%' then fatal ("No such job: " ++ target)
  else
    let id ← numberOf target
    let p ← get
    if p.knows id then
      if n ≠ 0 then
        set { p with world := { p.world with signals := p.world.signals ++ [(id, n)] } }
      return true
    else
      complain (SystemError.reason (if id = 1 then .notPermitted else .noProcess) ++ "\n")
      return false

/-- Sends a signal to processes. -/
def killBuiltin : BuiltinBody := fun _ args => do
  let direct? := match args with
    | a :: _ =>
      match a.toList with
      | '-' :: cs => signalOf? 1 (String.ofList cs)
      | _ => none
    | [] => none
  match direct? with
  | some n =>
    if args.length < 2 then fatal killUsage
    else
      let sent ← (args.drop 1).mapM (sendSignal n)
      return if sent.all id then 0 else 1
  | none =>
    let (opts, rest) ← options "ls:" args
    let mut n := 15
    for (c, s) in opts do
      if c = 's' then
        match signalOf? 1 s with
        | some m => n := m
        | none => fatal ("invalid signal number or name: " ++ s)
    if opts.any fun o => o.1 = 'l' then
      if opts.any fun o => o.1 = 's' then fatal killUsage else listSignals rest
    else if rest.isEmpty then fatal killUsage
    else
      let sent ← rest.mapM (sendSignal n)
      return if sent.all id then 0 else 1

/-- Lists the actions of signals. -/
def listTraps : Run Unit := do
  let traps := (← get).traps
  let lines := (List.range signalCount).filterMap fun n =>
    (traps.lookup n).map fun action =>
      "trap -- " ++ requoted action ++ " " ++ signalName n ++ "\n"
  say (String.join lines)

/-- Sets or clears the action of a signal. -/
def setTrap (n : Nat) (action? : Option String) : Run Unit :=
  modify fun p =>
    let others := p.traps.filter fun t => t.1 ≠ n
    { p with traps := (action?.map fun a => (n, a)).toList ++ others }

/-- Sets what happens when signals arrive. -/
def trapBuiltin : BuiltinBody := fun _ args => do
  match ← operands args with
  | [] =>
    listTraps
    return 0
  | first :: rest =>
    let clears := rest.isEmpty || (signalNumber? first).isSome
    let action? := if clears || first = "-" then none else some first
    for s in if clears then first :: rest else rest do
      match signalOf? 0 s with
      | some n => setTrap n action?
      | none =>
        sayError ("trap: " ++ s ++ ": bad trap\n")
        return 1
    return 0

/-- Waits for processes in the background, which have ended already. -/
def waitBuiltin : BuiltinBody := fun _ args => do
  let mut status := 0
  for s in ← operands args do
    if s.toList.head? = some '%' then fatal ("No such job: " ++ s)
    else
      let id ← numberOf s
      match (← get).jobs.lookup id with
      | some ended =>
        reportEnd ended
        status := statusOf ended
      | none => status := 127
  return status

/-! ## Of a shell that knows more -/

/-- The numbers and names of all signals in rows of five. -/
def signalTable : String :=
  let known := ((List.range signalCount).drop 1).filter fun n => n ≠ 32 && n ≠ 33
  let cell := fun ((n, i) : Nat × Nat) =>
    let number := Nat.repr n
    (if number.length < 2 then " " else "") ++ number ++ ") " ++ fullSignalName n
      ++ (if i % 5 = 4 then "\n" else "\t")
  String.join (known.zipIdx.map cell) ++ "\n"

/-- What is wrong with the name of a signal. -/
def badSignal (s : String) : String := s ++ ": invalid signal specification"

/-- Gives the name of a signal, or its number. Gives whether there is one. -/
def translateSignal (s : String) : Run Bool := do
  match Text.natural? s.toList with
  | some n =>
    let n := if 128 < n then n - 128 else n
    if n < signalCount then
      say (signalName n ++ "\n")
      return true
    else
      complain (badSignal s)
      return false
  | none =>
    match richSignalOf? s with
    | some n =>
      say (Nat.repr n ++ "\n")
      return true
    | none =>
      complain (badSignal s)
      return false

/-- Sends a signal to a process. Gives whether there is one. -/
def sendRichly (n : Nat) (target : String) : Run Bool := do
  let say_ (message : String) : Run Bool := do
    complain message
    return false
  let digits := if target.startsWith "-" then target.toList.drop 1 else target.toList
  if target.startsWith "%" then say_ (target ++ ": no such job")
  else if target = "" then say_ "\x60': not a pid or valid job spec"
  else
    match Text.natural? digits with
    | none => say_ (target ++ ": arguments must be process or job IDs")
    | some id =>
      let p ← get
      if p.knows id && !target.startsWith "-" then
        if n ≠ 0 then
          set { p with world := { p.world with signals := p.world.signals ++ [(id, n)] } }
        return true
      else
        say_ ("(" ++ target ++ ") - "
          ++ SystemError.reason (if id = 1 then .notPermitted else .noProcess))

/-- Sends a signal to processes. -/
def sendAll (n : Nat) (targets : List String) : Run Nat := do
  if targets.isEmpty then showUsage
  else
    let sent ← targets.mapM (sendRichly n)
    return if sent.any id then 0 else 1

/-- Sends a signal to processes, or lists signals. -/
def richKillBuiltin : BuiltinBody := fun _ args => do
  match args with
  | [] => showUsage
  | a :: rest =>
    let named (s : String) (targets : List String) : Run Nat := do
      match richSignalOf? s with
      | some n => sendAll n targets
      | none => failWithStatus 1 (badSignal s)
    if a = "-l" || a = "-L" then
      if rest.isEmpty then
        say signalTable
        return 0
      else
        let found ← rest.mapM translateSignal
        return if found.all id then 0 else 1
    else if a = "-s" || a = "-n" then
      match rest with
      | [] => failWithStatus 1 (a ++ ": option requires an argument")
      | s :: targets => named s targets
    else if a = "--" then sendAll 15 rest
    else if a.startsWith "-" then
      named (String.ofList (a.toList.drop 1)) (if rest.head? = some "--" then rest.drop 1 else rest)
    else sendAll 15 args

/-- Lists actions, all of them or those of some signals. -/
def showActions (names : List String) : Run Nat := do
  let traps := (← get).traps
  let line (n : Nat) : Option String := (traps.lookup n).map fun action =>
    "trap -- " ++ Quoting.single action ++ " " ++ fullSignalName n ++ "\n"
  if names.isEmpty then
    say (String.join ((List.range (returnMark + 1)).filterMap line))
    return 0
  else
    let mut status := 0
    for s in names do
      match richActionOf? s with
      | some n => say ((line n).getD "")
      | none =>
        complain (badSignal s)
        status := 1
    return status

/-- Sets what happens when signals arrive, or shows it. -/
def richTrapBuiltin : BuiltinBody := fun _ args => do
  let (opts, rest) ← if args.head? = some "-" then pure ([], args) else options "lp" args
  if opts.any fun o => o.1 = 'l' then
    say signalTable
    return 0
  else if !opts.isEmpty || rest.isEmpty then showActions rest
  else
    let first := rest.head?.getD ""
    let clears := (signalNumber? first).isSome || (rest.length = 1 && first ≠ "-")
    if rest.length = 1 && first ≠ "-" && (richActionOf? first).isNone then showUsage
    let action? := if clears || first = "-" then none else some first
    let mut status := 0
    for s in if clears then rest else rest.drop 1 do
      match richActionOf? s with
      | some n => setTrap n action?
      | none =>
        complain (badSignal s)
        status := 1
    return status

/-- Waits for processes in the background, which have ended already. Those that are waited for are
forgotten. -/
def richWaitBuiltin : BuiltinBody := fun _ args => do
  let (opts, ids) ← options "fnp:" args
  let p ← get
  if opts.any fun o => o.1 = 'n' then
    match p.jobs.getLast? with
    | none => return 127
    | some (_, ended) =>
      set { p with jobs := p.jobs.dropLast }
      return statusOf ended
  else if ids.isEmpty then
    set { p with jobs := [] }
    return 0
  else
    let numbered (s : String) : Option ExitStatus := do
      let n ← Text.natural? (s.toList.drop 1)
      let job ← if n = 0 then none else p.jobs.reverse[n - 1]?
      return job.2
    let mut status := 0
    for s in ids do
      if s.startsWith "%" then
        match numbered s with
        | some ended => status := statusOf ended
        | none =>
          complain (s ++ ": no such job")
          status := 127
      else
        match Text.natural? s.toList with
        | none =>
          complain ("\x60" ++ s ++ "': not a pid or valid job spec")
          status := 1
        | some id =>
          match p.jobs.lookup id with
          | some ended => status := statusOf ended
          | none =>
            complain ("pid " ++ s ++ " is not a child of this shell")
            status := 127
    return status

end Looplet.Shell
