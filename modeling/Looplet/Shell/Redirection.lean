import Looplet.Shell.Trace

/-!
# Redirections

The words of a redirection are expanded first (`prepare`), and then the open files are changed
(`Opening.perform`). A shell of the standard expands the words of all redirections before it changes
anything. What a redirection changes is taken back after the command (`withOpenings`), apart from
descriptors that were given to variables; all that the command itself opens stays open.
-/

namespace Looplet.Shell

/-- A redirection whose words are expanded. A source that cannot be used is named in messages as it
was written. -/
inductive Opening where
  | file (fd : Nat) (mode : OpenMode) (path : String)
  | both (mode : OpenMode) (path : String)
  | copy (fd source : Nat) (written : String) (moves : Bool)
  | close (fd : Nat)
  | text (fd : Nat) (text : String)
  | named (name : String) (opening : Opening)
  | fault (message : String)

/-- The only field of the target of a redirection. There is none if it has several fields. -/
def onlyField? (run : Runner) (target : Word) : Run (Option String) := do
  let words := if 'B' ∈ (← get).options then bracedWords target else [target]
  let fields ← words.mapM (fieldsOf run)
  match fields.flatten with
  | [s] => return some s
  | _ => return none

/-- What is wrong with a target that is not one field. -/
def ambiguous (written : String) : Opening := .fault (written ++ ": ambiguous redirect")

/-- A change to a descriptor that a text such as `1`, `1-` or `-` asks for. -/
def copyFrom? (fd : Nat) (target : Word) (written s : String) : Option Opening :=
  let moves := s.endsWith "-"
  let digits := if moves then s.toList.dropLast else s.toList
  let written := match target with
    | [.text ..] => s
    | _ => written
  if s = "-" then some (.close fd)
  else (Text.natural? digits).map fun n => .copy fd n written moves

/-- Expands the words of a redirection in a shell that knows more than the standard. -/
def prepareRichly (run : Runner) : Redirect → Run Opening
  | .file fd mode target written => do
    match ← onlyField? run target with
    | some path => return .file fd mode path
    | none => return ambiguous written
  | .document fd text source => do
    let purpose := match source with
      | .lines .. => Purpose.document
      | .word _ => .text
    return .text fd (← textOfWord run purpose text)
  | .bothOutputs append target written => do
    match ← onlyField? run target with
    | some path => return .both (if append then .append else .output) path
    | none => return ambiguous written
  | .duplicate fd mayBeBoth _ target written => do
    match ← onlyField? run target with
    | none => return ambiguous written
    | some s =>
      match copyFrom? fd target written s with
      | some o => return o
      | none => return if mayBeBoth then .both .output s else ambiguous written
  | .named name r => do return .named name (← prepareRichly run r)

/-- Expands the words of a redirection. -/
def prepare (run : Runner) (r : Redirect) : Run Opening := do
  if (← get).extended then prepareRichly run r
  else
    match r with
    | .file fd mode target _ => return .file fd mode (← textOfWord run .text target)
    | .document fd text _ => return .text fd (← textOfWord run .text text)
    | .duplicate fd _ _ target _ =>
      match (← textOfWord run .text target).toList with
      | ['-'] => return .close fd
      | [c] =>
        if c.isDigit then return .copy fd (Text.digitValue c) c.toString false
        else badTarget
      | _ => badTarget
    | _ => badTarget
where
  badTarget : Run Opening := do
    modify fun p => { p with line := p.inputLine }
    fatal "Syntax error: Bad fd number"

/-- Why a file cannot be opened, in words. -/
def openFault (path : String) (mode : OpenMode) (e : SystemError) : Run String := do
  if (← get).extended then
    let reason := if e = .alreadyExists then "cannot overwrite existing file" else e.reason
    return path ++ ": " ++ reason
  else
    let making := mode ≠ .input
    let verb := if making then "cannot create " else "cannot open "
    return verb ++ path ++ ": " ++ openReason making e

/-- The first descriptor for a variable. -/
def firstNamed : Nat := 10

/-- The first descriptor for the paths of channels, after those for variables. -/
def firstOfChannels : Nat := 40

/-- An opening for another descriptor. -/
def Opening.at (fd : Nat) : Opening → Opening
  | .file _ mode path => .file fd mode path
  | .copy _ source written moves => .copy fd source written moves
  | .close _ => .close fd
  | .text _ body => .text fd body
  | o => o

/-- Changes the open files, where an opening may hold another. Gives a message if that fails. -/
def Opening.performWithin : Nat → Opening → Run (Option String)
  | 0, _ => return none
  | depth + 1, o => do
    match o with
    | .file fd mode path =>
      match ← openPath path mode with
      | .ok f =>
        install fd f
        return none
      | .error e => return some (← openFault path mode e)
    | .both mode path =>
      match ← openPath path mode with
      | .ok f =>
        install 1 f
        setDescriptor 2 ((← get).descriptors.lookup 1)
        return none
      | .error e => return some (← openFault path mode e)
    | .copy fd source written moves =>
      match (← get).descriptors.lookup source with
      | some index =>
        setDescriptor fd (some index)
        if moves && fd ≠ source then setDescriptor source none
        return none
      | none => return some (written ++ ": " ++ SystemError.badDescriptor.reason)
    | .close fd =>
      setDescriptor fd none
      return none
    | .text fd body =>
      let p ← get
      let (reading, writing, w) := p.world.addPipe
      set { p with world := (w.write writing (Text.toBytes body)).toOption.getD w }
      setDescriptor fd (some reading)
      return none
    | .named name (.close _) =>
      match ((← get).value? name).bind fun s => Text.natural? s.toList with
      | some fd =>
        setDescriptor fd none
        return none
      | none => return some (name ++ ": Bad file descriptor")
    | .named name inner =>
      let used := (← get).descriptors.map Prod.fst
      let free := ((List.range firstOfChannels).drop firstNamed).find? fun n => n ∉ used
      let fd := free.getD firstNamed
      match ← (inner.at fd).performWithin depth with
      | some message => return some message
      | none =>
        setVariable name (Nat.repr fd)
        return none
    | .fault message => return some message

/-- Changes the open files. Gives a message if that fails. -/
def Opening.perform (o : Opening) : Run (Option String) := o.performWithin 2

/-- The descriptors that an opening changes for a command only. -/
def Opening.changed : Opening → List Nat
  | .file fd _ _ => [fd]
  | .both _ _ => [1, 2]
  | .copy fd source _ moves => if moves then [fd, source] else [fd]
  | .close fd => [fd]
  | .text fd _ => [fd]
  | .named _ _ => []
  | .fault _ => []

/-- Complains about an opening that failed. A shell of the standard that has put the descriptor at
hand away leaves it closed meanwhile. -/
def Opening.complain (o : Opening) (putsAway : Bool) (message : String) : Run Unit := do
  let p ← get
  match o with
  | .copy fd .. =>
    if putsAway && !p.extended then
      setDescriptor fd none
      Shell.complain message
      setDescriptor fd (p.descriptors.lookup fd)
    else Shell.complain message
  | _ => Shell.complain message
  setStatus (if p.extended then 1 else 2)

/-- Changes the open files. Gives whether that succeeds, and complains if it does not. What is
changed for the first time may be put away, to be taken back later. -/
def Opening.performed (o : Opening) (putsAway : Bool) (changed : List Nat) : Run Bool := do
  match ← o.perform with
  | none => return true
  | some message =>
    o.complain (putsAway && o.changed.all fun fd => fd ∉ changed) message
    return false

/-- How to get the openings for redirections. Their words are expanded at once in a shell of the
standard, and otherwise when it is their turn. -/
def openingsOf (run : Runner) (redirects : List Redirect) : Run (List (Run Opening)) := do
  if (← get).extended then return redirects.map (prepare run)
  else return (← redirects.mapM (prepare run)).map pure

/-- Changes the open files from left to right, for good, after the descriptors that are `changed`.
Gives whether that succeeds. -/
def performAll (putsAway : Bool) (changed : List Nat) : List (Run Opening) → Run Bool
  | [] => return true
  | opening :: rest => do
    let o ← opening
    if ← o.performed putsAway changed then performAll putsAway (o.changed ++ changed) rest
    else return false

/-- Runs a computation and then makes some descriptors what they were before. -/
def keeping (fds : List Nat) (before : List (Nat × Nat)) (body : Run Unit) : Run Unit := do
  let r ← outcome body
  for fd in fds do setDescriptor fd (before.lookup fd)
  match r with
  | .ok () => return ()
  | .error stop => throw stop

/-- Runs a computation with other open files and then takes the changes back, after the descriptors
that are `changed`. If there is a file that cannot be opened, `fault` is run in place of the
computation. -/
def withOpenings (fault body : Run Unit) (changed : List Nat) : List (Run Opening) → Run Unit
  | [] => body
  | opening :: rest => do
    let o ← opening
    let before := (← get).descriptors
    if ← o.performed true changed then
      keeping o.changed before (withOpenings fault body (o.changed ++ changed) rest)
    else fault

/-! ## Channels -/

/-- Runs the commands that read what has been written to their channels. -/
def runReaders (run : Runner) : List Waiting → Run Unit
  | [] => return ()
  | w :: rest => do
    let status := (← get).status
    let _ ← fork do
      modify fun p => { p with
        descriptors := w.descriptors,
        extras := { p.extras with shift := w.shift, level := p.extras.level + 1 } }
      setDescriptor 0 (some w.input)
      run (.life w.command false)
    setStatus status
    runReaders run rest

/-- Runs a command and then the commands that read from its channels, which are closed after it.
Those of a command that changes the files of the shell wait until the shell ends. -/
def withChannels (run : Runner) (lasting : Bool) (body : Run Unit) : Run Unit := do
  let p ← get
  if !p.extended then body
  else
    set { p with extras := { p.extras with readers := [] } }
    let r ← outcome body
    let readers := (← get).extras.readers
    if lasting then
      modify fun q => { q with extras := { q.extras with readers := p.extras.readers ++ readers } }
    else
      let isOld (d : Nat × Nat) : Bool := d.1 < firstOfChannels || d ∈ p.descriptors
      modify fun q => { q with
        descriptors := q.descriptors.filter isOld,
        extras := { q.extras with readers := p.extras.readers } }
      runReaders run readers
    match r with
    | .ok () => return ()
    | .error stop => throw stop

end Looplet.Shell
