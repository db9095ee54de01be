import Looplet.CompileError
import Looplet.Log

/-!
# From source text to module

`compile` joins the stages: tokens, tree, bound program, module. `compileVerified` also asks a
verifier about the module. What a program is lowered to is well-formed, so a verifier has nothing
to say as long as it accepts that, and a build may do without it. `compileEvents` is what a build
reports: one event for each stage that succeeds, and one for each definition that is bound.
-/

namespace Looplet

/-- Reads a program off a text. -/
def parse (src : String) : Except CompileError Program :=
  match tokenize src with
  | .error e => .error (.lex e)
  | .ok ts =>
    match Program.ofTokens ts with
    | .error e => .error (.parse e)
    | .ok p => .ok p

/-- Reads and binds a program. -/
def bindSource (src : String) : Except CompileError Bound.Program :=
  match parse src with
  | .error e => .error e
  | .ok p =>
    match resolve p with
    | .error e => .error (.resolve e)
    | .ok b => .ok b

/-- Lowers a bound program. -/
def lowerProgram (p : Bound.Program) : Except CompileError Code.Module :=
  match lower p with
  | .error r => .error (.lowering r)
  | .ok m => .ok m

/-- Compiles a text. -/
def compile (src : String) : Except CompileError Code.Module :=
  match bindSource src with
  | .error e => .error e
  | .ok p => lowerProgram p

/-- Binds a tree and lowers it, with a verifier that is asked about the module. -/
def Program.emit (verify : Code.Module → Option String) (t : Program) :
    Except CompileError Code.Module :=
  match resolve t with
  | .error e => .error (.resolve e)
  | .ok b => (emitProgram verify b).mapError .lowering

/-- Compiles a text, with a verifier that is asked about the module. -/
def compileVerified (verify : Code.Module → Option String) (src : String) :
    Except CompileError Code.Module := do
  let t ← parse src
  t.emit verify

/-! ## Events -/

/-- The events of definitions that are bound, up to the first that cannot be. -/
def definitionEvents (table : Resolve.Table) : List Tree.Item → List Event
  | [] => []
  | i :: rest =>
    match i.body? with
    | none => definitionEvents table rest
    | some body =>
      match Resolve.definition table i body with
      | .error _ => []
      | .ok f => .resolvedFunction f.name f.slots.length f.loops :: definitionEvents table rest

/-- The events of binding and lowering a program. -/
def programEvents (p : Program) : List Event :=
  match Resolve.tableOf p with
  | .error _ => []
  | .ok table =>
    match Resolve.checkMain table with
    | .error _ => []
    | .ok () =>
      definitionEvents table p.items ++
        match resolve p with
        | .error _ => []
        | .ok b =>
          .resolved b.functions.length b.declarations.length ::
            match lower b with
            | .error _ => []
            | .ok _ => [.generated b.functions.length b.declarations.length]

/-- The events of compiling a text. -/
def compileEvents (src : String) : List Event :=
  match tokenize src with
  | .error _ => []
  | .ok ts =>
    .lexed ts.length ::
      match Program.ofTokens ts with
      | .error _ => []
      | .ok p => .parsed p.items.length :: programEvents p

end Looplet
