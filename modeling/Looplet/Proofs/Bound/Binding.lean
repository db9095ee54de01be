import Looplet.Proofs.Bound.Table

/-!
# What is bound to what

The bound program is the tree again, part by part, with other names for the same things
(`binds_of_resolve`): a slot for a variable, the number of a loop for the loop that a jump acts on,
and a callee that says whether it is declared or defined. A slot that is given out while the list of
slots is still growing means the same name in the list at the end, so the lemmas are about any list
`S` that goes on from the slots at hand.
-/

namespace Looplet

open Resolve (OpenLoop)

/-- A name stands for a callee: there are items of that name, and they are all declarations or all
definitions, as the callee has it. -/
structure NamesCallee (items : List Tree.Item) (name : String) (callee : Bound.Callee) : Prop where
  exists_item : ∃ i ∈ items, i.name = name
  callee_eq : ∀ i ∈ items, i.name = name →
    callee = if i.isDeclaration then .declared name else .defined name

/-- The loop, among those around a jump from the inside out, that the jump acts on: the innermost
one, or the innermost one with the label of the jump. -/
inductive Targets : List OpenLoop → Option String → Nat → Prop where
  | innermost {l : OpenLoop} {loops : List OpenLoop} : Targets (l :: loops) none l.id
  | here {l : OpenLoop} {loops : List OpenLoop} {label : String} (hl : l.label? = some label) :
    Targets (l :: loops) (some label) l.id
  | outside {l : OpenLoop} {loops : List OpenLoop} {label : String} {id : Nat}
    (hl : l.label? ≠ some label) (h : Targets loops (some label) id) :
    Targets (l :: loops) (some label) id

section

variable (items : List Tree.Item) (slots : List String)

mutual

/-- An expression and what it is bound to. -/
inductive BindsExpr : Tree.Expr → Bound.Expr → Prop where
  | int (v : Int64) : BindsExpr (.int v) (.int v)
  | var {x : String} {slot : Nat} (p : Position) (hx : slots[slot]? = some x) :
    BindsExpr (.var x p) (.load slot)
  | binary (op : BinaryOp) {l r : Tree.Expr} {bl br : Bound.Expr} (hl : BindsExpr l bl)
    (hr : BindsExpr r br) : BindsExpr (.binary op l r) (.binary op bl br)
  | call {f : String} {callee : Bound.Callee} {args : List Tree.Expr} {bs : List Bound.Expr}
    (p : Position) (hf : NamesCallee items f callee) (hargs : BindsExprs args bs) :
    BindsExpr (.call f args p) (.call callee bs)

/-- Expressions and what they are bound to, one by one. -/
inductive BindsExprs : List Tree.Expr → List Bound.Expr → Prop where
  | nil : BindsExprs [] []
  | cons {e : Tree.Expr} {es : List Tree.Expr} {b : Bound.Expr} {bs : List Bound.Expr}
    (h : BindsExpr e b) (hs : BindsExprs es bs) : BindsExprs (e :: es) (b :: bs)

end

mutual

/-- A statement inside loops, and what it is bound to. -/
inductive BindsStmt : List OpenLoop → Tree.Stmt → Bound.Stmt → Prop where
  | assign {loops : List OpenLoop} {x : String} {e : Tree.Expr} {slot : Nat} {b : Bound.Expr}
    (p : Position) (hx : slots[slot]? = some x) (he : BindsExpr items slots e b) :
    BindsStmt loops (.assign x e p) (.store slot b)
  | ifThen {loops : List OpenLoop} {c : Tree.Expr} {body : List Tree.Stmt} {bc : Bound.Expr}
    {bbody : List Bound.Stmt} (hc : BindsExpr items slots c bc) (hb : BindsStmts loops body bbody) :
    BindsStmt loops (.ifThen c body) (.ifElse bc bbody [])
  | ifElse {loops : List OpenLoop} {c : Tree.Expr} {t e : List Tree.Stmt} {bc : Bound.Expr}
    {bt be : List Bound.Stmt} (hc : BindsExpr items slots c bc) (ht : BindsStmts loops t bt)
    (he : BindsStmts loops e be) : BindsStmt loops (.ifElse c t e) (.ifElse bc bt be)
  | loop {loops : List OpenLoop} {label? : Option String} {c : Tree.Expr} {body : List Tree.Stmt}
    {id : Nat} {bc : Bound.Expr} {bbody : List Bound.Stmt} (p : Position)
    (hc : BindsExpr items slots c bc) (hb : BindsStmts (⟨label?, id⟩ :: loops) body bbody) :
    BindsStmt loops (.loop label? c body p) (.loop id bc bbody)
  | jump {loops : List OpenLoop} {label? : Option String} {id : Nat} (j : Jump) (p : Position)
    (h : Targets loops label? id) : BindsStmt loops (.jump j label? p) (.jump j id)
  | expr {loops : List OpenLoop} {e : Tree.Expr} {b : Bound.Expr} (he : BindsExpr items slots e b) :
    BindsStmt loops (.expr e) (.expr b)

/-- Statements and what they are bound to, one by one. -/
inductive BindsStmts : List OpenLoop → List Tree.Stmt → List Bound.Stmt → Prop where
  | nil {loops : List OpenLoop} : BindsStmts loops [] []
  | cons {loops : List OpenLoop} {s : Tree.Stmt} {ss : List Tree.Stmt} {b : Bound.Stmt}
    {bs : List Bound.Stmt} (h : BindsStmt loops s b) (hs : BindsStmts loops ss bs) :
    BindsStmts loops (s :: ss) (b :: bs)

end

end

namespace Tree

mutual

/-- How many loops there are in a statement. -/
def Stmt.loopCount : Stmt → Nat
  | .assign _ _ _ => 0
  | .ifThen _ body => Stmt.loopCountOfAll body
  | .ifElse _ t e => Stmt.loopCountOfAll t + Stmt.loopCountOfAll e
  | .loop _ _ body _ => Stmt.loopCountOfAll body + 1
  | .jump _ _ _ => 0
  | .expr _ => 0

/-- How many loops there are in statements. -/
def Stmt.loopCountOfAll : List Stmt → Nat
  | [] => 0
  | s :: ss => s.loopCount + Stmt.loopCountOfAll ss

end

end Tree

namespace Bound

mutual

/-- The numbers of the loops in a statement, in the order of its text. -/
def Stmt.loopIds : Stmt → List Nat
  | .store _ _ => []
  | .ifElse _ t e => Stmt.loopIdsOfAll t ++ Stmt.loopIdsOfAll e
  | .loop id _ body => id :: Stmt.loopIdsOfAll body
  | .jump _ _ => []
  | .expr _ => []

/-- The numbers of the loops in statements. -/
def Stmt.loopIdsOfAll : List Stmt → List Nat
  | [] => []
  | s :: ss => s.loopIds ++ Stmt.loopIdsOfAll ss

end

end Bound

/-- An item and the function that it is bound to. The first slots are those of the parameters; no
two slots of the function have one name, and no two loops one number. -/
structure BindsItem (items : List Tree.Item) (i : Tree.Item) (f : Bound.Function) : Prop where
  name : f.name = i.name
  params : f.params = i.params.length
  first : i.params <+: f.slots
  slots : f.slots.Nodup
  body : ∃ body, i.body? = some body ∧ BindsStmts items f.slots [] body f.body
  loops : (Bound.Stmt.loopIdsOfAll f.body).Nodup

/-- A program and what it is bound to: declarations to themselves, definitions to functions, both in
source order. -/
structure Program.Binds (p : Program) (b : Bound.Program) : Prop where
  declarations : b.declarations =
    (p.items.filter fun i => i.isDeclaration).map fun i => ⟨i.name, i.params, i.position⟩
  functions : List.Forall₂ (BindsItem p.items) (p.items.filter fun i => !i.isDeclaration)
    b.functions

end Looplet

namespace Looplet.Resolve

variable {items : List Tree.Item} {table : Table} {S slots : List String}

/-! ## Callees and jumps -/

theorem namesCallee_of_lookup (hn : (items.map Tree.Item.name).Nodup) {f : String} {s : Signature}
    (h : (tableOfItems items).lookup f = some s) : NamesCallee items f (s.callee f) := by
  rw [lookup_tableOfItems] at h
  obtain ⟨i, hi, rfl⟩ := Option.map_eq_some_iff.mp h
  refine ⟨⟨i, List.mem_of_find?_eq_some hi, by simpa using List.find?_some hi⟩, ?_⟩
  rintro j hj rfl
  obtain rfl : j = i := Option.some.inj ((find?_of_mem hn hj).symm.trans hi)
  cases hd : j.isDeclaration <;> simp [Signature.callee, Signature.ofItem, hd]

theorem targets_of_target? {loops : List OpenLoop} {label? : Option String} {id : Nat}
    (h : target? loops label? = some id) : Targets loops label? id := by
  cases label? with
  | none =>
    cases loops with
    | nil => cases h
    | cons l loops =>
      cases h
      exact .innermost
  | some label =>
    induction loops with
    | nil => cases h
    | cons l loops ih =>
      rw [target?, List.find?_cons] at h
      by_cases hl : l.label? = some label
      · simp only [hl, decide_true, Option.map_some, Option.some.injEq] at h
        exact h ▸ .here hl
      · rw [decide_eq_false hl] at h
        exact .outside hl (ih h)

/-! ## Bodies -/

mutual

theorem binds_expr (hn : (items.map Tree.Item.name).Nodup) (hS : slots <+: S) :
    (e : Tree.Expr) → {b : Bound.Expr} → expr (tableOfItems items) slots e = .ok b →
    BindsExpr items S e b
  | .int v, b, h => by
    cases h
    exact .int v
  | .var x p, b, h => by
    obtain ⟨slot, hx, rfl⟩ := expr_var.mp h
    exact .var p (getElem?_of_isPrefix hS (getElem?_of_idxOf? hx))
  | .binary op l r, b, h => by
    obtain ⟨bl, hl, br, hr, rfl⟩ := expr_binary.mp h
    exact .binary op (binds_expr hn hS l hl) (binds_expr hn hS r hr)
  | .call f args p, b, h => by
    obtain ⟨s, hs, -, bs, hbs, rfl⟩ := expr_call.mp h
    exact .call p (namesCallee_of_lookup hn hs) (binds_exprs hn hS args hbs)

theorem binds_exprs (hn : (items.map Tree.Item.name).Nodup) (hS : slots <+: S) :
    (es : List Tree.Expr) → {bs : List Bound.Expr} →
    exprs (tableOfItems items) slots es = .ok bs → BindsExprs items S es bs
  | [], bs, h => by
    cases h
    exact .nil
  | e :: es, bs, h => by
    obtain ⟨b, hb, bs', hbs, rfl⟩ := exprs_cons.mp h
    exact .cons (binds_expr hn hS e hb) (binds_exprs hn hS es hbs)

end

mutual

theorem binds_stmt (hn : (items.map Tree.Item.name).Nodup) {loops : List OpenLoop}
    {scope : Scope} : (s : Tree.Stmt) → {r : Bound.Stmt × Scope} →
    stmt (tableOfItems items) loops scope s = .ok r → r.2.slots <+: S →
    BindsStmt items S loops s r.1
  | .assign x e p, r, h, hS => by
    obtain ⟨b, hb, rfl⟩ := stmt_assign.mp h
    exact .assign p (getElem?_of_isPrefix hS (scope.getElem?_assign x))
      (binds_expr hn ((scope.grows_assign x).slots.trans hS) e hb)
  | .ifThen c body, r, h, hS => by
    obtain ⟨bc, hc, rb, hb, rfl⟩ := stmt_ifThen.mp h
    exact .ifThen (binds_expr hn ((stmts_grows body hb).slots.trans hS) c hc)
      (binds_stmts hn body hb hS)
  | .ifElse c t e, r, h, hS => by
    obtain ⟨bc, hc, rt, ht, re, he, rfl⟩ := stmt_ifElse.mp h
    have hSt := (stmts_grows e he).slots.trans hS
    exact .ifElse (binds_expr hn ((stmts_grows t ht).slots.trans hSt) c hc)
      (binds_stmts hn t ht hSt) (binds_stmts hn e he hS)
  | .loop label? c body p, r, h, hS => by
    obtain ⟨-, bc, hc, rb, hb, rfl⟩ := stmt_loop.mp h
    -- the condition sees the slots from before the body, which are still in their places after it
    have hpre : scope.slots <+: S := (stmts_grows body hb).slots.trans hS
    exact .loop p (binds_expr hn hpre c hc) (binds_stmts hn body hb hS)
  | .jump j label? p, r, h, hS => by
    obtain ⟨id, hid, rfl⟩ := stmt_jump.mp h
    exact .jump j p (targets_of_target? hid)
  | .expr e, r, h, hS => by
    obtain ⟨b, hb, rfl⟩ := stmt_expr.mp h
    exact .expr (binds_expr hn hS e hb)

theorem binds_stmts (hn : (items.map Tree.Item.name).Nodup) {loops : List OpenLoop}
    {scope : Scope} : (ss : List Tree.Stmt) → {rs : List Bound.Stmt × Scope} →
    stmts (tableOfItems items) loops scope ss = .ok rs → rs.2.slots <+: S →
    BindsStmts items S loops ss rs.1
  | [], rs, h, hS => by
    cases h
    exact .nil
  | s :: ss, rs, h, hS => by
    obtain ⟨r, hr, rs', hrs, rfl⟩ := stmts_cons.mp h
    exact .cons (binds_stmt hn s hr ((stmts_grows ss hrs).slots.trans hS))
      (binds_stmts hn ss hrs hS)

end

/-! ## Numbers of loops -/

mutual

/-- The loops of a statement get the next numbers, in order. -/
theorem loopIds_stmt {loops : List OpenLoop} {scope : Scope} : (s : Tree.Stmt) →
    {r : Bound.Stmt × Scope} → stmt table loops scope s = .ok r →
    r.2.loops = scope.loops + s.loopCount ∧ r.1.loopIds = List.range' scope.loops s.loopCount
  | .assign x e p, r, h => by
    obtain ⟨b, -, rfl⟩ := stmt_assign.mp h
    refine ⟨?_, rfl⟩
    simp only [Scope.assign]
    cases scope.slots.idxOf? x <;> rfl
  | .ifThen c body, r, h => by
    obtain ⟨bc, -, rb, hb, rfl⟩ := stmt_ifThen.mp h
    obtain ⟨hn, hids⟩ := loopIds_stmts body hb
    refine ⟨hn, ?_⟩
    rw [Bound.Stmt.loopIds, Bound.Stmt.loopIdsOfAll, List.append_nil, hids, Tree.Stmt.loopCount]
  | .ifElse c t e, r, h => by
    obtain ⟨bc, -, rt, ht, re, he, rfl⟩ := stmt_ifElse.mp h
    obtain ⟨hm, hidst⟩ := loopIds_stmts t ht
    obtain ⟨hn, hidse⟩ := loopIds_stmts e he
    refine ⟨by rw [hn, hm, Tree.Stmt.loopCount, Nat.add_assoc], ?_⟩
    rw [Bound.Stmt.loopIds, hidst, hidse, hm, List.range'_append_1, Tree.Stmt.loopCount]
  | .loop label? c body p, r, h => by
    obtain ⟨-, bc, -, rb, hb, rfl⟩ := stmt_loop.mp h
    obtain ⟨hn, hids⟩ := loopIds_stmts body hb
    -- the loop takes its number before the loops in its body do
    refine ⟨by rw [hn, Tree.Stmt.loopCount, Nat.add_right_comm, Nat.add_assoc], ?_⟩
    rw [Bound.Stmt.loopIds, hids, Tree.Stmt.loopCount, List.range'_succ]
  | .jump j label? p, r, h => by
    obtain ⟨id, -, rfl⟩ := stmt_jump.mp h
    exact ⟨rfl, rfl⟩
  | .expr e, r, h => by
    obtain ⟨b, -, rfl⟩ := stmt_expr.mp h
    exact ⟨rfl, rfl⟩

theorem loopIds_stmts {loops : List OpenLoop} {scope : Scope} : (ss : List Tree.Stmt) →
    {rs : List Bound.Stmt × Scope} → stmts table loops scope ss = .ok rs →
    rs.2.loops = scope.loops + Tree.Stmt.loopCountOfAll ss ∧
      Bound.Stmt.loopIdsOfAll rs.1 = List.range' scope.loops (Tree.Stmt.loopCountOfAll ss)
  | [], rs, h => by
    cases h
    exact ⟨rfl, rfl⟩
  | s :: ss, rs, h => by
    obtain ⟨r, hr, rs', hrs, rfl⟩ := stmts_cons.mp h
    obtain ⟨hm, hids⟩ := loopIds_stmt s hr
    obtain ⟨hn, hidss⟩ := loopIds_stmts ss hrs
    refine ⟨by rw [hn, hm, Tree.Stmt.loopCountOfAll, Nat.add_assoc], ?_⟩
    rw [Bound.Stmt.loopIdsOfAll, hids, hidss, hm, List.range'_append_1, Tree.Stmt.loopCountOfAll]

end

/-! ## Programs -/

theorem Defines.binds (hn : (items.map Tree.Item.name).Nodup) {i : Tree.Item} {f : Bound.Function}
    (h : Defines (tableOfItems items) i f) : BindsItem items i f := by
  obtain ⟨body, hb, hf⟩ := h
  obtain ⟨hp, rs, hrs, rfl⟩ := definition_eq_ok.mp hf
  have hg := stmts_grows body hrs
  obtain ⟨-, hids⟩ := loopIds_stmts body hrs
  exact ⟨rfl, rfl, hg.slots, hg.nodup hp,
    ⟨body, hb, binds_stmts hn body hrs (List.prefix_refl _)⟩, hids ▸ List.nodup_range'⟩

end Looplet.Resolve

namespace Looplet

open Resolve in
/-- A program that is accepted is bound part by part: nothing is left out, doubled or moved. -/
theorem binds_of_resolve {p : Program} {b : Bound.Program} (h : resolve p = .ok b) : p.Binds b := by
  obtain ⟨hn, -, fs, hfs, rfl⟩ := resolve_eq_ok.mp h
  exact ⟨rfl, (definitions_eq_ok.mp hfs).imp fun i f hd => hd.binds hn⟩

/-- Jumps out of two loops, to the inner one and to the outer one by its label. -/
def crossing : Program :=
  let p := Position.start
  ⟨[⟨"print_int", ["w"], p, none⟩,
    ⟨"scan", ["a", "b"], p, some [
      .loop (some "rows") (.var "a" p) [
        .loop none (.var "b" p) [.jump .again none p, .jump .leave (some "rows") p] p,
        .ifThen (.var "b" p) [.jump .again none p],
        .assign "c" (.call "print_int" [.var "a" p] p) p] p]⟩,
    ⟨"main", [], p, some [.expr (.call "scan" [.int 1, .int 0] p)]⟩]⟩

/-- What the jumps are bound to. -/
def crossed : Bound.Program :=
  ⟨[⟨"scan", 2, ["a", "b", "c"], 2, [
      .loop 0 (.load 0) [
        .loop 1 (.load 1) [.jump .again 1, .jump .leave 0],
        .ifElse (.load 1) [.jump .again 0] [],
        .store 2 (.call (.declared "print_int") [.load 0])]]⟩,
    ⟨"main", 0, [], 0, [.expr (.call (.defined "scan") [.int 1, .int 0])]⟩],
    [⟨"print_int", ["w"], .start⟩]⟩

theorem crossing_binds : resolve crossing = .ok crossed ∧ crossing.Binds crossed :=
  have h : resolve crossing = .ok crossed := by rfl
  ⟨h, binds_of_resolve h⟩

end Looplet
