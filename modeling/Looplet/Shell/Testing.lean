import Looplet.Shell.CountedCondition
import Looplet.Shell.Lookup

/-!
# Testing conditions

What the shell knows about files and about itself answers the conditions of `test`. A shell of the
standard reads a condition by its operators, one that knows more by the number of its arguments.
-/

namespace Looplet.Shell

/-- Whether a test on a path holds. -/
def Process.pathHolds (p : Process) (op path : String) : Bool :=
  let isLinkTest := op = "-L" || op = "-h"
  let found := if isLinkTest then p.world.files.findLink (pathOf path)
    else p.world.files.find (pathOf path)
  match found with
  | .error _ => false
  | .ok (_, e) =>
    match op with
    | "-e" => true
    | "-f" => e.isFile
    | "-d" => e.isDirectory
    | "-c" => !e.isFile && !e.isDirectory && !e.isQueue
    | "-p" => e.isQueue
    | "-L" | "-h" => e.target?.isSome
    | "-s" => !e.bytes.isEmpty || e.isDirectory
    | "-r" => e.allows .read
    | "-w" => e.allows .write
    | "-x" => e.allows .execute
    | "-u" => e.mode &&& 0o4000 ≠ 0
    | "-g" => e.mode &&& 0o2000 ≠ 0
    | "-k" => e.mode &&& 0o1000 ≠ 0
    | "-O" => e.own
    | "-G" => e.own
    | _ => false

/-- Whether two files are one, or one is newer or older than the other. A file that is not there
counts as old if `missingIsOld`. -/
def Process.comparePaths (p : Process) (missingIsOld : Bool) (op a b : String) : Bool :=
  match op, p.world.files.find? (pathOf a), p.world.files.find? (pathOf b) with
  | "-ef", some (q, _), some (r, _) => p.world.sameFile q r
  | "-nt", some _, none => missingIsOld
  | "-ot", none, some _ => missingIsOld
  | _, _, _ => false

/-- What conditions ask about files. -/
def Process.conditionFiles (p : Process) : Condition.Files where
  holds := p.pathHolds
  compare := p.comparePaths p.extended

/-- The status of a condition. -/
def conditionStatus : Except String Bool → Run Nat
  | .ok true => return 0
  | .ok false => return 1
  | .error message => fatal message

/-- Whether a condition holds. -/
def testBuiltin : BuiltinBody := fun _ args => do
  conditionStatus (Condition.ofArguments (← get).conditionFiles args)

/-- Whether a condition in brackets holds. -/
def bracketBuiltin : BuiltinBody := fun _ args => do
  conditionStatus (Condition.ofBracketed (← get).conditionFiles args)

/-! ## Of a shell that knows more -/

/-- Whether a variable, or one of its values, is set. -/
def Process.isSet (p : Process) (text : String) : Bool :=
  match splitSubscript text with
  | (name, some subscript) =>
    let t := p.table name
    if subscript = "@" || subscript = "*" then !t.items.isEmpty else (t.get? subscript).isSome
  | (name, none) => (p.parameter? name).isSome

/-- Whether a test with one operand holds that a shell knows which knows more than the standard. -/
def Process.richHolds (p : Process) (op a : String) : Bool :=
  match op with
  | "-a" => p.pathHolds "-e" a
  | "-v" => p.isSet a
  | "-o" => (richOptions.lookup a).any fun c => c ∈ p.options
  | "-R" => (p.binding? a).any Variable.reference
  | "-t" => false
  | _ => p.pathHolds op a

/-- A number as a condition reads it, which has to fit in a word. -/
def conditionNumber (s : String) : Except CountedCondition.Fault Int :=
  match wordNumber? s with
  | some n => .ok n
  | none => .error (.notNumber s)

/-- What the conditions of a shell may ask that knows more than the standard. -/
def Process.richTests (p : Process) : CountedCondition.Tests where
  unary := ["-a", "-v", "-o", "-R", "-N"] ++ Condition.unaryOps
  binary := "==" :: Condition.binaryOps
  holds := fun op a => .ok (p.richHolds op a)
  number := conditionNumber
  compare := p.comparePaths true
  lengthBefore := []
  byLooks := false
  numeric := ["-t"]

/-- What is wrong with a condition, in words. -/
def conditionFault (bracketed : Bool) : CountedCondition.Fault → String
  | .notNumber a => a ++ ": integer expression expected"
  | .notUnary a => a ++ ": unary operator expected"
  | .notBinary a => a ++ ": binary operator expected"
  | .missingAfter _ => "argument expected"
  | .missingParen (some a) => "\x60)' expected, found " ++ a
  | .missingParen none => "\x60)' expected" ++ if bracketed then ", found ]" else ""
  | .tooMany a =>
    if a.startsWith "-" then "syntax error: \x60" ++ a ++ "' unexpected" else "too many arguments"
  | .missingBracket => "missing \x60]'"

/-- The status of a condition. -/
def richStatus (bracketed : Bool) : Except CountedCondition.Fault Bool → Run Nat
  | .ok true => return 0
  | .ok false => return 1
  | .error fault => do
    complain (conditionFault bracketed fault)
    return 2

/-- Whether a condition holds. -/
def richTestBuiltin : BuiltinBody := fun _ args => do
  richStatus false (CountedCondition.holds (← get).richTests args)

/-- Whether a condition in brackets holds. -/
def richBracketBuiltin : BuiltinBody := fun _ args => do
  richStatus true (CountedCondition.ofBracketed (← get).richTests args)

end Looplet.Shell
