import Looplet.Proofs.Bound.Table
import Looplet.Proofs.Tree.Moved

/-!
# Binding does not look at positions

A program at moved positions is bound to the same functions, or it breaks the same rule at the moved
position (`resolve_moved`). A body sees of the other items only what a table gives for their names,
so that tables which give the same are as good as each other (`definition_congr`).
-/

namespace Looplet

variable {f : Position → Position}

namespace Resolve

/-- The signature at another position. -/
def Signature.moved (f : Position → Position) (s : Signature) : Signature :=
  { s with position := f s.position }

@[simp] theorem Signature.origin_moved (s : Signature) : (s.moved f).origin = s.origin := rfl

@[simp] theorem Signature.ofItem_moved (i : Tree.Item) :
    Signature.ofItem (i.moved f) = (Signature.ofItem i).moved f := by
  simp [ofItem, Signature.moved, Tree.Item.moved, Tree.Item.isDeclaration]

/-- The violation with the position in it moved. -/
def Violation.moved (f : Position → Position) : Violation → Violation
  | declaredAndDefined name first => declaredAndDefined name (f first)
  | v => v

/-- The error at another position. That `main` is missing is no fault of a place in the text. -/
def Error.moved (f : Position → Position) (e : Error) : Error :=
  match e.violation with
  | .mainMissing => e
  | v => ⟨f e.position, v.moved f⟩

@[simp] theorem Error.moved_id (e : Error) : e.moved id = e := by
  rcases e with ⟨p, v⟩
  cases v <;> rfl

/-- The second table gives the entries of the first one at moved positions. -/
def Moves (f : Position → Position) (table table' : Table) : Prop :=
  ∀ name, table'.lookup name = (table.lookup name).map (Signature.moved f)

end Resolve

/-- The bound program with its declarations at other positions. -/
def Bound.Program.moved (f : Position → Position) (b : Bound.Program) : Bound.Program :=
  ⟨b.functions, b.declarations.map fun d => { d with position := f d.position }⟩

theorem Tree.Expr.length_movedAll (es : List Tree.Expr) :
    (Tree.Expr.movedAll f es).length = es.length := by
  induction es with
  | nil => rfl
  | cons e es ih => rw [Tree.Expr.movedAll, List.length_cons, List.length_cons, ih]

namespace Resolve

variable {table table' : Table}

/-! ## Bodies -/

mutual

theorem expr_moved (h : Moves f table table') {slots : List String} : (e : Tree.Expr) →
    expr table' slots (e.moved f) = (expr table slots e).mapError (Error.moved f)
  | .int v => rfl
  | .var x p => by
    rw [Tree.Expr.moved, expr, expr]
    cases slots.idxOf? x <;> rfl
  | .binary op l r => by
    rw [Tree.Expr.moved, expr, expr, expr_moved h l, expr_moved h r, mapError_bind]
    simp only [mapError_bind]
    rfl
  | .call g args p => by
    rw [Tree.Expr.moved, expr, expr, h g, Tree.Expr.length_movedAll]
    cases table.lookup g with
    | none => rfl
    | some s =>
      simp only [Option.map_some]
      by_cases ha : s.arity ≠ args.length
      · rw [if_pos ha, if_pos (show (s.moved f).arity ≠ args.length from ha)]
        rfl
      · rw [if_neg ha, if_neg (show ¬(s.moved f).arity ≠ args.length from ha), exprs_moved h args,
          mapError_bind]
        rfl

theorem exprs_moved (h : Moves f table table') {slots : List String} : (es : List Tree.Expr) →
    exprs table' slots (Tree.Expr.movedAll f es) = (exprs table slots es).mapError (Error.moved f)
  | [] => rfl
  | e :: es => by
    rw [Tree.Expr.movedAll, exprs, exprs, expr_moved h e, exprs_moved h es, mapError_bind]
    simp only [mapError_bind]
    rfl

end

theorem jumpTarget_moved (j : Jump) (loops : List OpenLoop) (p : Position)
    (label? : Option String) :
    jumpTarget j loops (f p) label? = (jumpTarget j loops p label?).mapError (Error.moved f) := by
  cases label? with
  | none =>
    simp only [jumpTarget]
    cases loops.head? <;> rfl
  | some label =>
    simp only [jumpTarget]
    cases loops.find? fun l => l.label? = some label <;> rfl

mutual

theorem stmt_moved (h : Moves f table table') {loops : List OpenLoop} {scope : Scope} :
    (s : Tree.Stmt) →
    stmt table' loops scope (s.moved f) = (stmt table loops scope s).mapError (Error.moved f)
  | .assign x e p => by
    rw [Tree.Stmt.moved, stmt, stmt, expr_moved h e, mapError_bind]
    rfl
  | .ifThen c body => by
    rw [Tree.Stmt.moved, stmt, stmt, expr_moved h c, mapError_bind]
    simp only [mapError_bind, stmts_moved h body]
    rfl
  | .ifElse c t e => by
    rw [Tree.Stmt.moved, stmt, stmt, expr_moved h c, mapError_bind]
    simp only [mapError_bind, stmts_moved h t, stmts_moved h e]
    rfl
  | .loop label? c body p => by
    rw [Tree.Stmt.moved, stmt, stmt]
    cases shadowing? loops label? with
    | some label => rfl
    | none =>
      simp only [mapError_bind, expr_moved h c, stmts_moved h body]
      rfl
  | .jump j label? p => by
    rw [Tree.Stmt.moved, stmt, stmt, jumpTarget_moved, mapError_bind]
    rfl
  | .expr e => by
    rw [Tree.Stmt.moved, stmt, stmt, expr_moved h e, mapError_bind]
    rfl

theorem stmts_moved (h : Moves f table table') {loops : List OpenLoop} {scope : Scope} :
    (ss : List Tree.Stmt) →
    stmts table' loops scope (Tree.Stmt.movedAll f ss)
      = (stmts table loops scope ss).mapError (Error.moved f)
  | [] => rfl
  | s :: ss => by
    rw [Tree.Stmt.movedAll, stmts, stmts, stmt_moved h s, mapError_bind]
    simp only [mapError_bind, stmts_moved h ss]
    rfl

end

theorem checkParams_moved (g : String) (p : Position) (seen xs : List String) :
    checkParams g (f p) seen xs = (checkParams g p seen xs).mapError (Error.moved f) := by
  induction xs generalizing seen with
  | nil => rfl
  | cons x xs ih =>
    rw [checkParams, checkParams, ih]
    split <;> rfl

/-! ## Definitions -/

theorem definition_moved (h : Moves f table table') (i : Tree.Item) (body : List Tree.Stmt) :
    definition table' (i.moved f) (Tree.Stmt.movedAll f body)
      = (definition table i body).mapError (Error.moved f) := by
  have hparams : checkParams i.name (f i.position) [] i.params
      = (checkParams i.name i.position [] i.params).mapError (Error.moved f) :=
    checkParams_moved ..
  rw [definition, definition, mapError_bind, ← hparams]
  simp only [mapError_bind, ← stmts_moved h body]
  rfl

/-- A body is bound in the same way by tables that give the same for every name. -/
theorem definition_congr (h : ∀ name, table'.lookup name = table.lookup name) (i : Tree.Item)
    (body : List Tree.Stmt) : definition table' i body = definition table i body := by
  have hmoves : Moves id table table' := by
    intro name
    rw [h name]
    cases table.lookup name <;> rfl
  have hmoved := definition_moved hmoves i body
  rw [i.moved_id, Tree.Stmt.movedAll_id] at hmoved
  rw [hmoved]
  cases definition table i body with
  | ok g => rfl
  | error e => exact congrArg Except.error e.moved_id

theorem definitions_moved (h : Moves f table table') (items : List Tree.Item) :
    definitions table' (items.map (Tree.Item.moved f))
      = (definitions table items).mapError (Error.moved f) := by
  induction items with
  | nil => rfl
  | cons i items ih =>
    rw [List.map_cons, definitions, definitions, Tree.Item.moved]
    cases hb : i.body? with
    | none => exact ih
    | some body =>
      have hd := definition_moved h i body
      rw [Tree.Item.moved, hb] at hd
      simp only [Option.map_some, mapError_bind, ih] at hd ⊢
      rw [hd]
      rfl

/-! ## The table -/

/-- A table with its entries at moved positions. -/
def Table.moved (f : Position → Position) (table : Table) : Table :=
  table.map fun entry => (entry.1, entry.2.moved f)

theorem moves_moved (table : Table) : Moves f table (table.moved f) := by
  intro name
  induction table with
  | nil => rfl
  | cons entry table ih =>
    rw [Table.moved, List.map_cons, List.lookup_cons, List.lookup_cons]
    cases name == entry.1 with
    | true => rfl
    | false => exact ih

theorem repeatedItem_moved (name : String) (first : Signature) (origin : Origin) :
    repeatedItem name (first.moved f) origin = (repeatedItem name first origin).moved f := by
  unfold repeatedItem
  rw [Signature.origin_moved]
  cases first.origin <;> cases origin <;> rfl

theorem tableFrom_moved (table : Table) (items : List Tree.Item) :
    tableFrom (table.moved f) (items.map (Tree.Item.moved f))
      = mapBoth (Error.moved f) (Table.moved f) (tableFrom table items) := by
  induction items generalizing table with
  | nil => rfl
  | cons i items ih =>
    rw [List.map_cons, tableFrom, tableFrom, moves_moved, Tree.Item.name_moved,
      Signature.ofItem_moved]
    cases table.lookup i.name with
    | some first =>
      simp only [Option.map_some, Signature.origin_moved, repeatedItem_moved, mapBoth]
      unfold repeatedItem
      cases first.origin <;> cases (Signature.ofItem i).origin <;> rfl
    | none =>
      have happend : table.moved f ++ [(i.name, (Signature.ofItem i).moved f)]
          = Table.moved f (table ++ [(i.name, .ofItem i)]) := by
        simp [Table.moved]
      simp only [Option.map_none, happend]
      exact ih _

theorem checkMain_moved (h : Moves f table table') :
    checkMain table' = (checkMain table).mapError (Error.moved f) := by
  rw [checkMain, checkMain, h]
  cases table.lookup "main" with
  | none => rfl
  | some s =>
    simp only [Option.map_some]
    by_cases ho : s.origin = .declared
    · rw [if_pos ho, if_pos (show (s.moved f).origin = .declared from ho)]
      rfl
    · rw [if_neg ho, if_neg (show ¬(s.moved f).origin = .declared from ho)]
      by_cases ha : s.arity ≠ 0
      · rw [if_pos ha, if_pos (show (s.moved f).arity ≠ 0 from ha)]
        rfl
      · rw [if_neg ha, if_neg (show ¬(s.moved f).arity ≠ 0 from ha)]
        rfl

theorem declarations_moved (items : List Tree.Item) :
    declarations (items.map (Tree.Item.moved f))
      = (declarations items).map fun d => { d with position := f d.position } := by
  have hdeclared : Tree.Item.isDeclaration ∘ Tree.Item.moved f = Tree.Item.isDeclaration :=
    funext Tree.Item.isDeclaration_moved
  rw [declarations, declarations, List.filter_map, hdeclared, List.map_map, List.map_map]
  rfl

end Resolve

/-- A program at moved positions is bound to the same, or it is reported at the moved position. -/
theorem resolve_moved (p : Program) :
    resolve (p.moved f) = mapBoth (Resolve.Error.moved f) (Bound.Program.moved f) (resolve p) := by
  have htable : Resolve.tableOf (p.moved f)
      = mapBoth (Resolve.Error.moved f) (Resolve.Table.moved f) (Resolve.tableOf p) :=
    Resolve.tableFrom_moved [] p.items
  rw [resolve, resolve, htable]
  cases Resolve.tableOf p with
  | error e => rfl
  | ok table =>
    have hmoves := Resolve.moves_moved (f := f) table
    have hmain := Resolve.checkMain_moved hmoves
    have hdefinitions := Resolve.definitions_moved hmoves p.items
    simp only [mapBoth, ok_bind, hmain]
    cases Resolve.checkMain table with
    | error e => rfl
    | ok u =>
      simp only [Except.mapError, ok_bind, Program.moved, hdefinitions]
      cases Resolve.definitions table p.items with
      | error e => rfl
      | ok fs =>
        simp only [ok_bind, Resolve.declarations_moved]
        rfl

end Looplet
