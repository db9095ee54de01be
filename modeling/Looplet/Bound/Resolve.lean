import Looplet.Bound

/-!
# Binding names

`resolve` binds a program tree, or reports the first violation of the rules of names:

* items have different names, and `main` is a definition without parameters;
* the parameters of a definition are different;
* a variable is a parameter or the target of an assignment that stands before it in the text;
* a call names an item and passes as many arguments as it has parameters;
* a jump stands in a loop, one with a label in a loop of that label;
* a loop has another label than the loops around it.

Repeated names are found first, then faults of `main`, then faults in the bodies in source order.
-/

namespace Looplet

namespace Resolve

/-- A rule of names that a program breaks. -/
inductive Violation where
  | declaredTwice (name : String)
  | definedTwice (name : String)
  | declaredAndDefined (name : String) (first : Position)
  | mainMissing
  | mainDeclared
  | mainParams (count : Nat)
  | repeatedParam (param function : String)
  | unassigned (name : String)
  | undeclaredCallee (name : String)
  | argumentCount (name : String) (expected got : Nat)
  | jumpOutsideLoop (jump : Jump)
  | unknownLabel (jump : Jump) (label : String)
  | shadowedLabel (label : String)
  deriving DecidableEq

/-- A name or a phrase as a message quotes it. -/
def ticked (s : String) : String := "`" ++ s ++ "`"

/-- The wording of a violation. -/
def Violation.message : Violation → String
  | declaredTwice n => "extern " ++ ticked n ++ " is declared twice"
  | definedTwice n => "function " ++ ticked n ++ " is defined twice"
  | declaredAndDefined n p =>
    ticked n ++ " is both declared extern and defined (first at " ++ p.text ++ ")"
  | mainMissing => "missing `main` function definition"
  | mainDeclared => "`main` must be defined, not declared extern"
  | mainParams n => "`main` must take no parameters, found " ++ Nat.repr n
  | repeatedParam x f => "duplicate parameter " ++ ticked x ++ " in " ++ ticked f
  | unassigned x => "variable " ++ ticked x ++ " is used before it is assigned"
  | undeclaredCallee f => "call to undeclared function " ++ ticked f
  | argumentCount f m n =>
    ticked f ++ " expects " ++ Nat.repr m ++ " argument(s), got " ++ Nat.repr n
  | jumpOutsideLoop j => ticked j.word ++ " outside of a loop"
  | unknownLabel j l =>
    ticked (j.word ++ " " ++ l) ++ " has no enclosing loop labeled " ++ ticked l
  | shadowedLabel l => "loop label " ++ ticked l ++ " shadows an enclosing loop"

/-- A violation and where it stands. -/
structure Error where
  position : Position
  violation : Violation
  deriving DecidableEq

/-! ## The table of items -/

/-- Whether an item is declared or defined. -/
inductive Origin where
  | declared
  | defined
  deriving DecidableEq

/-- What a call needs to know of an item. -/
structure Signature where
  origin : Origin
  arity : Nat
  position : Position
  deriving DecidableEq

/-- The signature of an item. -/
def Signature.ofItem (i : Tree.Item) : Signature :=
  ⟨if i.isDeclaration then .declared else .defined, i.params.length, i.position⟩

/-- Item names with their signatures, in source order. -/
abbrev Table := List (String × Signature)

/-- The violation of a second item `name`, of the given origin, after the item `first`. -/
def repeatedItem (name : String) (first : Signature) (origin : Origin) : Violation :=
  match first.origin, origin with
  | .declared, .declared => .declaredTwice name
  | .defined, .defined => .definedTwice name
  | _, _ => .declaredAndDefined name first.position

/-- Adds items to a table, each under a name of its own. -/
def tableFrom (table : Table) : List Tree.Item → Except Error Table
  | [] => .ok table
  | i :: rest =>
    let signature := Signature.ofItem i
    match table.lookup i.name with
    | some first => .error ⟨i.position, repeatedItem i.name first signature.origin⟩
    | none => tableFrom (table ++ [(i.name, signature)]) rest

/-- The table of a program's items. -/
def tableOf (p : Program) : Except Error Table :=
  tableFrom [] p.items

/-- Checks that `main` is a definition without parameters. -/
def checkMain (table : Table) : Except Error Unit :=
  match table.lookup "main" with
  | none => .error ⟨Position.start, .mainMissing⟩
  | some s =>
    if s.origin = .declared then .error ⟨s.position, .mainDeclared⟩
    else if s.arity ≠ 0 then .error ⟨s.position, .mainParams s.arity⟩
    else .ok ()

/-! ## Bodies -/

/-- A loop around the statement at hand. -/
structure OpenLoop where
  label? : Option String
  id : Nat
  deriving DecidableEq

/-- What the statements so far have named: the slots, and how many loops there are. -/
structure Scope where
  slots : List String
  loops : Nat
  deriving DecidableEq

/-- The slot of a variable, a new one at its first assignment. -/
def Scope.assign (s : Scope) (x : String) : Nat × Scope :=
  match s.slots.idxOf? x with
  | some slot => (slot, s)
  | none => (s.slots.length, { s with slots := s.slots ++ [x] })

/-- The callee that a name in the table stands for. -/
def Signature.callee (s : Signature) (name : String) : Bound.Callee :=
  match s.origin with
  | .declared => .declared name
  | .defined => .defined name

mutual

/-- Binds an expression that sees the given slots. -/
def expr (table : Table) (slots : List String) : Tree.Expr → Except Error Bound.Expr
  | .int v => .ok (.int v)
  | .var x p =>
    match slots.idxOf? x with
    | some slot => .ok (.load slot)
    | none => .error ⟨p, .unassigned x⟩
  | .binary op l r => do
    let l ← expr table slots l
    let r ← expr table slots r
    return .binary op l r
  | .call f args p =>
    match table.lookup f with
    | none => .error ⟨p, .undeclaredCallee f⟩
    | some s =>
      if s.arity ≠ args.length then .error ⟨p, .argumentCount f s.arity args.length⟩
      else do
        let args ← exprs table slots args
        return .call (s.callee f) args

/-- Binds expressions from left to right. -/
def exprs (table : Table) (slots : List String) : List Tree.Expr → Except Error (List Bound.Expr)
  | [] => .ok []
  | e :: es => do
    let e ← expr table slots e
    let es ← exprs table slots es
    return e :: es

end

/-- The loop that a jump acts on, `loops` being the loops around it from the inside out. -/
def jumpTarget (j : Jump) (loops : List OpenLoop) (p : Position) :
    Option String → Except Error Nat
  | none =>
    match loops.head? with
    | some l => .ok l.id
    | none => .error ⟨p, .jumpOutsideLoop j⟩
  | some label =>
    match loops.find? fun l => l.label? = some label with
    | some l => .ok l.id
    | none => .error ⟨p, .unknownLabel j label⟩

/-- The label of a loop, if it would hide one of the loops around it. -/
def shadowing? (loops : List OpenLoop) (label? : Option String) : Option String :=
  label?.filter fun label => loops.any fun l => l.label? = some label

mutual

/-- Binds a statement inside the given loops. A right-hand side does not see the slot that its own
assignment makes, and a condition lies outside its loop. -/
def stmt (table : Table) (loops : List OpenLoop) (scope : Scope) :
    Tree.Stmt → Except Error (Bound.Stmt × Scope)
  | .assign x e _ => do
    let e ← expr table scope.slots e
    let (slot, scope) := scope.assign x
    return (.store slot e, scope)
  | .ifThen c body => do
    let c ← expr table scope.slots c
    let (body, scope) ← stmts table loops scope body
    return (.ifElse c body [], scope)
  | .ifElse c t e => do
    let c ← expr table scope.slots c
    let (t, scope) ← stmts table loops scope t
    let (e, scope) ← stmts table loops scope e
    return (.ifElse c t e, scope)
  | .loop label? c body p =>
    match shadowing? loops label? with
    | some label => .error ⟨p, .shadowedLabel label⟩
    | none => do
      let id := scope.loops
      let c ← expr table scope.slots c
      let (body, scope) ←
        stmts table (⟨label?, id⟩ :: loops) { scope with loops := id + 1 } body
      return (.loop id c body, scope)
  | .jump j label? p => do
    let id ← jumpTarget j loops p label?
    return (.jump j id, scope)
  | .expr e => do
    let e ← expr table scope.slots e
    return (.expr e, scope)

/-- Binds statements from the first to the last. -/
def stmts (table : Table) (loops : List OpenLoop) (scope : Scope) :
    List Tree.Stmt → Except Error (List Bound.Stmt × Scope)
  | [] => .ok ([], scope)
  | s :: ss => do
    let (s, scope) ← stmt table loops scope s
    let (ss, scope) ← stmts table loops scope ss
    return (s :: ss, scope)

end

/-- Checks that no parameter repeats one of those before it. -/
def checkParams (function : String) (p : Position) (seen : List String) :
    List String → Except Error Unit
  | [] => .ok ()
  | x :: xs =>
    if x ∈ seen then .error ⟨p, .repeatedParam x function⟩
    else checkParams function p (seen ++ [x]) xs

/-- Binds a definition. -/
def definition (table : Table) (i : Tree.Item) (body : List Tree.Stmt) :
    Except Error Bound.Function := do
  checkParams i.name i.position [] i.params
  let (body, scope) ← stmts table [] ⟨i.params, 0⟩ body
  return ⟨i.name, i.params.length, scope.slots, scope.loops, body⟩

/-- Binds the definitions among items, in order. -/
def definitions (table : Table) : List Tree.Item → Except Error (List Bound.Function)
  | [] => .ok []
  | i :: rest =>
    match i.body? with
    | none => definitions table rest
    | some body => do
      let f ← definition table i body
      let fs ← definitions table rest
      return f :: fs

/-- The declarations among items, in order. -/
def declarations (items : List Tree.Item) : List Bound.Declaration :=
  (items.filter Tree.Item.isDeclaration).map fun i => ⟨i.name, i.params, i.position⟩

end Resolve

/-- Binds a program, or reports its first violation. -/
def resolve (p : Program) : Except Resolve.Error Bound.Program := do
  let table ← Resolve.tableOf p
  Resolve.checkMain table
  let functions ← Resolve.definitions table p.items
  return ⟨functions, Resolve.declarations p.items⟩

end Looplet
