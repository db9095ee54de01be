import Looplet.Proofs.Bound.Binding
import Looplet.Proofs.Tree.Literals

/-!
# Literals after names are bound

Binding names leaves the literals alone: a bound program has those of the tree, in the same order
(`literals_of_resolve`).
-/

namespace Looplet

namespace Bound

mutual

/-- The literals in an expression, from left to right. -/
def Expr.literals : Expr → List Int64
  | .int v => [v]
  | .load _ => []
  | .binary _ l r => l.literals ++ r.literals
  | .call _ args => Expr.literalsOfAll args

/-- The literals in expressions. -/
def Expr.literalsOfAll : List Expr → List Int64
  | [] => []
  | e :: es => e.literals ++ Expr.literalsOfAll es

end

mutual

/-- The literals in a statement, from left to right. -/
def Stmt.literals : Stmt → List Int64
  | .store _ e => e.literals
  | .ifElse c t e => c.literals ++ (Stmt.literalsOfAll t ++ Stmt.literalsOfAll e)
  | .loop _ c body => c.literals ++ Stmt.literalsOfAll body
  | .jump _ _ => []
  | .expr e => e.literals

/-- The literals in statements. -/
def Stmt.literalsOfAll : List Stmt → List Int64
  | [] => []
  | s :: ss => s.literals ++ Stmt.literalsOfAll ss

end

/-- The literals in a program. -/
def Program.literals (q : Program) : List Int64 :=
  q.functions.flatMap fun f => Stmt.literalsOfAll f.body

end Bound

/-! ## Bodies -/

section

variable {items : List Tree.Item} {slots : List String}

mutual

theorem BindsExpr.literals : {e : Tree.Expr} → {b : Bound.Expr} → BindsExpr items slots e b →
    b.literals = e.literals
  | _, _, .int v => by rw [Bound.Expr.literals, Tree.Expr.literals]
  | _, _, .var _ _ => by rw [Bound.Expr.literals, Tree.Expr.literals]
  | _, _, .binary _ hl hr => by
    rw [Bound.Expr.literals, Tree.Expr.literals, hl.literals, hr.literals]
  | _, _, .call _ _ hargs => by rw [Bound.Expr.literals, Tree.Expr.literals, hargs.literals]

theorem BindsExprs.literals : {es : List Tree.Expr} → {bs : List Bound.Expr} →
    BindsExprs items slots es bs → Bound.Expr.literalsOfAll bs = Tree.Expr.literalsOfAll es
  | _, _, .nil => by rw [Bound.Expr.literalsOfAll, Tree.Expr.literalsOfAll]
  | _, _, .cons h hs => by
    rw [Bound.Expr.literalsOfAll, Tree.Expr.literalsOfAll, h.literals, hs.literals]

end

mutual

theorem BindsStmt.literals : {loops : List Resolve.OpenLoop} → {s : Tree.Stmt} →
    {b : Bound.Stmt} → BindsStmt items slots loops s b → b.literals = s.literals
  | _, _, _, .assign _ _ he => by rw [Bound.Stmt.literals, Tree.Stmt.literals, he.literals]
  | _, _, _, .ifThen hc hb => by
    rw [Bound.Stmt.literals, Tree.Stmt.literals, hc.literals, hb.literals,
      Bound.Stmt.literalsOfAll, List.append_nil]
  | _, _, _, .ifElse hc ht he => by
    rw [Bound.Stmt.literals, Tree.Stmt.literals, hc.literals, ht.literals, he.literals]
  | _, _, _, .loop _ hc hb => by
    rw [Bound.Stmt.literals, Tree.Stmt.literals, hc.literals, hb.literals]
  | _, _, _, .jump _ _ _ => by rw [Bound.Stmt.literals, Tree.Stmt.literals]
  | _, _, _, .expr he => by rw [Bound.Stmt.literals, Tree.Stmt.literals, he.literals]

theorem BindsStmts.literals : {loops : List Resolve.OpenLoop} → {ss : List Tree.Stmt} →
    {bs : List Bound.Stmt} → BindsStmts items slots loops ss bs →
    Bound.Stmt.literalsOfAll bs = Tree.Stmt.literalsOfAll ss
  | _, _, _, .nil => by rw [Bound.Stmt.literalsOfAll, Tree.Stmt.literalsOfAll]
  | _, _, _, .cons h hs => by
    rw [Bound.Stmt.literalsOfAll, Tree.Stmt.literalsOfAll, h.literals, hs.literals]

end

end

/-! ## Programs -/

theorem BindsItem.literals {items : List Tree.Item} {i : Tree.Item} {f : Bound.Function}
    (h : BindsItem items i f) : Bound.Stmt.literalsOfAll f.body = i.literals := by
  obtain ⟨body, hb, hbinds⟩ := h.body
  rw [hbinds.literals, Tree.Item.literals, hb, Option.getD_some]

theorem flatMap_literals_functions {items is : List Tree.Item} {fs : List Bound.Function}
    (h : List.Forall₂ (BindsItem items) is fs) :
    (fs.flatMap fun f => Bound.Stmt.literalsOfAll f.body) = is.flatMap Tree.Item.literals := by
  induction h with
  | nil => rfl
  | cons hi _ ih => rw [List.flatMap_cons, List.flatMap_cons, hi.literals, ih]

/-- Declarations have no literals. -/
theorem flatMap_literals_definitions (items : List Tree.Item) :
    (items.filter fun i => !i.isDeclaration).flatMap Tree.Item.literals =
      items.flatMap Tree.Item.literals := by
  induction items with
  | nil => rfl
  | cons i items ih =>
    rw [List.flatMap_cons, ← ih]
    cases hb : i.body? with
    | none =>
      have hnone : i.literals = [] := by
        rw [Tree.Item.literals, hb, Option.getD_none, Tree.Stmt.literalsOfAll]
      rw [List.filter_cons_of_neg (by simp [Tree.Item.isDeclaration, hb]), hnone, List.nil_append]
    | some body =>
      rw [List.filter_cons_of_pos (by simp [Tree.Item.isDeclaration, hb]), List.flatMap_cons]

open Resolve in
/-- A program that is accepted keeps its literals, in their order. -/
theorem literals_of_resolve {p : Program} {b : Bound.Program} (h : resolve p = .ok b) :
    b.literals = p.literals := by
  obtain ⟨hn, -, fs, hfs, rfl⟩ := resolve_eq_ok.mp h
  have hbinds := (definitions_eq_ok.mp hfs).imp fun i f hd => hd.binds hn
  rw [Bound.Program.literals, flatMap_literals_functions hbinds, flatMap_literals_definitions,
    Program.literals]

end Looplet
