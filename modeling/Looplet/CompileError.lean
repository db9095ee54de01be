import Looplet.Bound.Resolve
import Looplet.Code.Lowering
import Looplet.ExitStatus
import Looplet.SystemError
import Looplet.Tree.Parser

/-!
# Errors of a build

Each error belongs to a stage. The errors of reading and binding have a position in the source.
-/

namespace Looplet

/-- The stages of a build. -/
inductive Stage where
  | lex
  | parse
  | resolve
  | codegen
  deriving DecidableEq

/-- The name of a stage. -/
def Stage.name : Stage → String
  | lex => "lex"
  | parse => "parse"
  | resolve => "resolve"
  | codegen => "codegen"

/-- Why a build fails. -/
inductive CompileError where
  | lex (error : Lexer.Error)
  | parse (error : Parser.Error)
  | resolve (error : Resolve.Error)
  | lowering (refusal : Lowering.Refusal)
  | outputIsSource (output : String)
  | unwritable (output : String) (error : SystemError)
  | noTarget
  | toolchainNotFound (name : String)
  | noToolchain (tried : List String)
  | toolchainFailed (driver : String) (status : ExitStatus) (output : String)
  | system (path : String) (error : SystemError)
  deriving DecidableEq

namespace CompileError

/-- The stage that an error belongs to. -/
def stage : CompileError → Stage
  | lex _ => .lex
  | parse _ => .parse
  | resolve _ => .resolve
  | _ => .codegen

/-- Where in the source an error stands. -/
def position? : CompileError → Option Position
  | lex e => some e.position
  | parse e => some e.position
  | resolve e => some e.position
  | _ => none

/-- The wording of an error without its stage. -/
def detail : CompileError → String
  | lex e => e.fault.message
  | parse e => "expected " ++ e.expectedText ++ ", found " ++ e.foundText
  | resolve e => e.violation.message
  | lowering r => r.message
  | outputIsSource o => "output `" ++ o ++ "` is the source file"
  | unwritable o e => "writing " ++ o ++ ": " ++ e.reason
  | noTarget => "create target machine failed"
  | toolchainNotFound n => "configured toolchain `" ++ n ++ "` not found: cannot find binary path"
  | noToolchain tried =>
    "no C toolchain found on PATH (tried " ++ ", ".intercalate tried ++ ")"
  | toolchainFailed d s o => d ++ " failed (" ++ s.text ++ "): " ++ o
  | system _ e => e.message

/-- What stands before the wording of an error. -/
def heading : CompileError → String
  | system path _ => "i/o error on " ++ path
  | e =>
    match e.position? with
    | some p => e.stage.name ++ " error at " ++ p.text
    | none => e.stage.name ++ " error"

/-- The wording of an error. -/
def message (e : CompileError) : String := e.heading ++ ": " ++ e.detail

/-- The wording of an error and of what caused it. Only an error of the system is its own cause. -/
def chain : CompileError → String
  | system path e => (system path e).message ++ ": " ++ e.message
  | e => e.message

end CompileError

end Looplet
