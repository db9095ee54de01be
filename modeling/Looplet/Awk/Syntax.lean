/-!
# Programs on records

A program is a list of rules. A rule has a pattern, which chooses records, and an action for them.
Values are texts and numbers; a name stands for one value or for a table of values.
-/

namespace Looplet.Awk

/-- An operation on numbers. -/
inductive Operation where
  | add
  | subtract
  | multiply
  | divide
  | remainder
  | power
  deriving DecidableEq

/-- A comparison of two values. -/
inductive Comparison where
  | less
  | lessOrEqual
  | equal
  | unequal
  | greater
  | greaterOrEqual
  deriving DecidableEq

/-- Where output goes, apart from the standard output. -/
inductive Way where
  | file
  | append
  | command
  deriving DecidableEq

/-- Where a record is read from. -/
inductive Origin where
  | main
  | file
  | command
  deriving DecidableEq

/-- An expression. -/
inductive Expr where
  | number (value : Float)
  | text (value : String)
  /-- Whether the record matches. -/
  | regex (source : String)
  | name (name : String)
  | element (table : String) (keys : List Expr)
  | field (index : Expr)
  | assign (target : Expr) (operation? : Option Operation) (value : Expr)
  /-- Adds one or takes one away. The value is the one before or after it. -/
  | step (target : Expr) (up : Bool) (before : Bool)
  | negate (operand : Expr)
  | affirm (operand : Expr)
  | not (operand : Expr)
  | compute (operation : Operation) (first second : Expr)
  | compare (comparison : Comparison) (first second : Expr)
  | matching (negated : Bool) (subject pattern : Expr)
  | join (first second : Expr)
  | and (first second : Expr)
  | or (first second : Expr)
  | choose (condition first second : Expr)
  | has (table : String) (keys : List Expr)
  | call (function : String) (args : List Expr)
  /-- A function of the language. -/
  | builtin (function : String) (args : List Expr)
  /-- Reads a record. The source has an expression unless it is the main input. -/
  | read (origin : Origin) (source : List Expr) (target : List Expr)

/-- A statement. -/
inductive Statement where
  | expr (e : Expr)
  | print (args : List Expr) (output? : Option (Way × Expr))
  | printf (args : List Expr) (output? : Option (Way × Expr))
  | block (body : List Statement)
  | choice (condition : Expr) (yes : Statement) (no? : List Statement)
  /-- Repeats something as long as a condition holds. After every round a step is done. -/
  | loop (condition? : Option Expr) (step : List Expr) (body : Statement)
  /-- Repeats something that is done at least once. -/
  | loopOnce (body : Statement) (condition : Expr)
  /-- Does something for every key of a table. -/
  | each (name table : String) (body : Statement)
  | leave
  | again
  | next
  | nextFile
  | exit (status? : Option Expr)
  | giveBack (value? : Option Expr)
  /-- Takes an element out of a table, or all of them. -/
  | erase (table : String) (keys? : Option (List Expr))

/-- What a rule is for. -/
inductive Pattern where
  | before
  | after
  | always
  | when (condition : Expr)
  /-- From a record to another one. -/
  | range (first last : Expr)

/-- A rule. -/
structure Rule where
  pattern : Pattern
  action : Statement

/-- A function of a program: its name, its parameters and its body. -/
structure Function where
  name : String
  params : List String
  body : Statement
  /-- The parameters that are tables. -/
  tables : List String

/-- A program. -/
structure Program where
  rules : List Rule
  functions : List Function

/-! ## Parameters that are tables -/

mutual

/-- The names that an expression uses as tables. `given` tells for which arguments a function takes
tables. -/
def Expr.tables (given : String → List Bool) : Expr → List String
  | .element t keys => t :: tablesOfAll given keys
  | .field i => i.tables given
  | .assign t _ v => t.tables given ++ v.tables given
  | .step t _ _ => t.tables given
  | .negate e => e.tables given
  | .affirm e => e.tables given
  | .not e => e.tables given
  | .compute _ a b => a.tables given ++ b.tables given
  | .compare _ a b => a.tables given ++ b.tables given
  | .matching _ a b => a.tables given ++ b.tables given
  | .join a b => a.tables given ++ b.tables given
  | .and a b => a.tables given ++ b.tables given
  | .or a b => a.tables given ++ b.tables given
  | .choose c a b => c.tables given ++ a.tables given ++ b.tables given
  | .has t keys => t :: tablesOfAll given keys
  | .call f args => tablesOfArgs (given f) args ++ tablesOfAll given args
  | .builtin f args =>
    (if f = "split" then tablesOfArgs [false, true] args else []) ++ tablesOfAll given args
  | .read _ source target => tablesOfAll given source ++ tablesOfAll given target
  | _ => []

/-- The names that some expressions use as tables. -/
def tablesOfAll (given : String → List Bool) : List Expr → List String
  | [] => []
  | e :: es => e.tables given ++ tablesOfAll given es

/-- The names among arguments that are taken as tables. -/
def tablesOfArgs : List Bool → List Expr → List String
  | true :: more, .name t :: es => t :: tablesOfArgs more es
  | _ :: more, _ :: es => tablesOfArgs more es
  | _, _ => []

end

mutual

/-- The names that a statement uses as tables. -/
def Statement.tables (given : String → List Bool) : Statement → List String
  | .expr e => e.tables given
  | .print args output? => tablesOfAll given (args ++ (output?.map Prod.snd).toList)
  | .printf args output? => tablesOfAll given (args ++ (output?.map Prod.snd).toList)
  | .block body => tablesOfBody given body
  | .choice c yes no? => c.tables given ++ yes.tables given ++ tablesOfBody given no?
  | .loop c? step body =>
    tablesOfAll given c?.toList ++ tablesOfAll given step ++ body.tables given
  | .loopOnce body c => body.tables given ++ c.tables given
  | .each _ t body => t :: body.tables given
  | .exit e? => tablesOfAll given e?.toList
  | .giveBack e? => tablesOfAll given e?.toList
  | .erase t keys? => t :: tablesOfAll given (keys?.getD [])
  | _ => []

/-- The names that some statements use as tables. -/
def tablesOfBody (given : String → List Bool) : List Statement → List String
  | [] => []
  | s :: rest => s.tables given ++ tablesOfBody given rest

end

/-- For which arguments a function takes tables, as far as is known. -/
def tableArgs (functions : List Function) (name : String) : List Bool :=
  match functions.find? fun f => f.name = name with
  | some f => f.params.map fun p => f.tables.contains p
  | none => []

/-- Looks once more for the parameters that are tables. -/
def refineTables (functions : List Function) : List Function :=
  functions.map fun f => { f with tables := f.body.tables (tableArgs functions) }

/-- Finds the parameters that are tables, also those that are only passed on. -/
def withTables (functions : List Function) : List Function :=
  (List.range (functions.length + 1)).foldl (fun fs _ => refineTables fs) functions

end Looplet.Awk
