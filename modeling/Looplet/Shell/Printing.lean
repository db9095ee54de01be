import Looplet.Shell.Format
import Looplet.Shell.Intake

/-!
# Writing arguments

`echo` writes its arguments as they are, `printf` as a format says. What is wrong with a format or
with a number is worded as the shell at hand does.
-/

namespace Looplet.Shell

/-- The style of formats of a shell that knows more than the standard. -/
def Process.richStyle (p : Process) : Style :=
  ⟨true, false, p.isUtf8, .extended, Quoting.plain p.isUtf8, false⟩

/-- Writes its arguments. -/
def echoBuiltin : BuiltinBody := fun _ args => do
  let p ← get
  let style := { p.richStyle with needsZero := true }
  say (if p.extended then echoedPlainly style true (p.hasToggle "xpg_echo") args else echoed args)
  return 0

/-- A complaint of `printf` in words. -/
def Complaint.text (extended : Bool) : Complaint → String
  | partly arg => arg ++ if extended then ": invalid number" else ": not completely converted"
  | notNumber arg => arg ++ if extended then ": invalid number" else ": expected numeric value"
  | outOfRange arg =>
    (if extended then "warning: " else "") ++ arg ++ ": Numerical result out of range"
  | afterQuote rest => rest

/-- What is wrong with a format, in words. -/
def FormatFault.text (extended : Bool) : FormatFault → String
  | invalid written letter =>
    if extended then "\x60" ++ letter.toString ++ "': invalid format character"
    else written ++ ": invalid directive"
  | unfinished written =>
    if extended then "\x60" ++ written ++ "': missing format character"
    else "missing format character"

/-- Writes its arguments as a format says, in the style of the standard. -/
def printfBuiltin : BuiltinBody := fun _ args => do
  match ← operands args with
  | [] => fatal "usage: printf format [arg ...]"
  | format :: rest =>
    let s := Format.printed .standard format rest
    for c in s.complaints do complain (c.text false)
    if let some fault := s.fault? then complain (fault.text false)
    say s.output
    return if s.fault?.isSome then 2 else if s.complaints.isEmpty then 0 else 1

/-- Writes the lines of a text that are complete, and gives the rest. -/
def sayLines (text : String) : Run String := do
  let rest := (text.toList.reverse.takeWhile (· ≠ '\n')).reverse
  say (String.ofList (text.toList.take (text.length - rest.length)))
  return String.ofList rest

/-- Writes a text with complaints in it, each at a place. What stands before a complaint is written
as far as its lines are complete. Gives what is not written yet. -/
def sayWithRemarks (extended : Bool) : Nat → String → List (Nat × Complaint) → Run String
  | _, text, [] => return text
  | done, text, (place, c) :: rest => do
    let before := String.ofList (text.toList.take (place - done))
    let waiting ← sayLines before
    complain (c.text extended)
    let after := String.ofList (text.toList.drop (place - done))
    sayWithRemarks extended (place - waiting.length) (waiting ++ after) rest

/-- Writes its arguments as a format says, or sets a variable to that. -/
def richPrintfBuiltin : BuiltinBody := fun _ args => do
  let (opts, rest) ← options "v:" args
  let target? := opts.reverse.lookup 'v'
  if let some target := target? then
    if !isName (splitSubscript target).1 then failWithStatus 2 (notIdentifier target)
  match rest with
  | [] => showUsage
  | format :: rest =>
    let s := Format.printed (← get).richStyle format rest
    let waiting ← match target? with
      | some _ => do
        for c in s.complaints do complain (c.text true)
        pure ""
      | none => sayWithRemarks true 0 s.output s.remarks
    match s.fault? with
    | some fault =>
      let waiting ← sayLines waiting
      complain (fault.text true)
      say waiting
      return 1
    | none =>
      match target? with
      | some target => setNamed target s.output
      | none => say waiting
      let fails : Complaint → Bool
        | .outOfRange _ => false
        | c => !c.isWarning
      return if s.complaints.any fails then 1 else 0

end Looplet.Shell
