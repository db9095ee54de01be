import Looplet.Proofs.Bound.Literals
import Looplet.Proofs.Lowering.Program

/-!
# What operands stand for

An operand computes an expression if it is the constant of a literal, or a value that the
instructions define from operands that compute the parts (`Computes`). The expressions of a body are
those that its statements store, test or drop (`Stmt.uses`), and these hold all its literals
(`literals_usesOfAll`). In a lowered program the function that has a body computes each of them, and
stores or tests it (`HasBody`):

    lower q = .ok m → ∀ f ∈ q.functions, ∃ g ∈ m.functions, g.symbol = functionSymbol f.name ∧
      HasBody names builtins (instrsOf g.blocks) f                          (hasBody_of_lower)

Nothing is assumed of the program: its literals may be any words, and functions may share a name.
-/

namespace Looplet

namespace Bound

/-- What a statement does with an expression of its own. -/
inductive Use where
  | stored (slot : Nat) (e : Expr)
  | tested (e : Expr)
  | dropped (e : Expr)

/-- The expression that is used. -/
def Use.expr : Use → Expr
  | stored _ e => e
  | tested e => e
  | dropped e => e

mutual

/-- The uses of expressions in a statement, in the order of its text. -/
def Stmt.uses : Stmt → List Use
  | .store slot e => [.stored slot e]
  | .ifElse c t e => .tested c :: (Stmt.usesOfAll t ++ Stmt.usesOfAll e)
  | .loop _ c body => .tested c :: Stmt.usesOfAll body
  | .jump _ _ => []
  | .expr e => [.dropped e]

/-- The uses of expressions in statements. -/
def Stmt.usesOfAll : List Stmt → List Use
  | [] => []
  | s :: ss => s.uses ++ Stmt.usesOfAll ss

end

mutual

/-- Every literal of a statement is in an expression that it uses. -/
theorem Stmt.literals_uses : (s : Stmt) →
    s.uses.flatMap (fun u => u.expr.literals) = s.literals
  | .store slot e => by
    rw [Stmt.uses, Stmt.literals, List.flatMap_singleton, Use.expr]
  | .ifElse c t e => by
    rw [Stmt.uses, Stmt.literals, List.flatMap_cons, List.flatMap_append, Stmt.literals_usesOfAll t,
      Stmt.literals_usesOfAll e, Use.expr]
  | .loop id c body => by
    rw [Stmt.uses, Stmt.literals, List.flatMap_cons, Stmt.literals_usesOfAll body, Use.expr]
  | .jump j id => by
    rw [Stmt.uses, Stmt.literals, List.flatMap_nil]
  | .expr e => by
    rw [Stmt.uses, Stmt.literals, List.flatMap_singleton, Use.expr]

theorem Stmt.literals_usesOfAll : (ss : List Stmt) →
    (Stmt.usesOfAll ss).flatMap (fun u => u.expr.literals) = Stmt.literalsOfAll ss
  | [] => by
    rw [Stmt.usesOfAll, Stmt.literalsOfAll, List.flatMap_nil]
  | s :: ss => by
    rw [Stmt.usesOfAll, Stmt.literalsOfAll, List.flatMap_append, Stmt.literals_uses s,
      Stmt.literals_usesOfAll ss]

end

end Bound

namespace Lowering

open Code (Operand Op Instr Block)
open Draft

section

variable (ctx : Context) (is : List Instr)

mutual

/-- Among these instructions the operand stands for the expression. -/
inductive Computes : Operand → Bound.Expr → Prop where
  | int (v : Int64) : Computes (.const v) (.int v)
  | load {n slot : Nat} {cell : Operand} (hcell : ctx.cell slot = .ok cell)
    (hi : .define n "load" (.load cell) ∈ is) : Computes (.value n) (.load slot)
  | add {n : Nat} {x y : Operand} {l r : Bound.Expr} (hl : Computes x l) (hr : Computes y r)
    (hi : .define n "add" (.add x y) ∈ is) : Computes (.value n) (.binary .add l r)
  | equal {n bit : Nat} {x y : Operand} {l r : Bound.Expr} (hl : Computes x l) (hr : Computes y r)
    (hbit : .define bit "eq" (.compare .equal x y) ∈ is)
    (hi : .define n "eq.zext" (.extend (.value bit)) ∈ is) :
    Computes (.value n) (.binary .equal l r)
  | notEqual {n bit : Nat} {x y : Operand} {l r : Bound.Expr} (hl : Computes x l)
    (hr : Computes y r) (hbit : .define bit "ne" (.compare .notEqual x y) ∈ is)
    (hi : .define n "ne.zext" (.extend (.value bit)) ∈ is) :
    Computes (.value n) (.binary .notEqual l r)
  | call {n : Nat} {callee : Bound.Callee} {symbol : String} {xs : List Operand}
    {args : List Bound.Expr} (hsymbol : ctx.symbol callee = .ok symbol)
    (hargs : ComputesAll xs args) (hi : .define n "call" (.call symbol xs) ∈ is) :
    Computes (.value n) (.call callee args)

/-- The operands stand for the expressions, one by one. -/
inductive ComputesAll : List Operand → List Bound.Expr → Prop where
  | nil : ComputesAll [] []
  | cons {x : Operand} {xs : List Operand} {e : Bound.Expr} {es : List Bound.Expr}
    (h : Computes x e) (hs : ComputesAll xs es) : ComputesAll (x :: xs) (e :: es)

end

/-- The instructions compute the expression and do with it what the statement does. -/
inductive InCode : Bound.Use → Prop where
  | stored {slot : Nat} {e : Bound.Expr} {x cell : Operand} (he : Computes ctx is x e)
    (hcell : ctx.cell slot = .ok cell) (hi : .store x cell ∈ is) : InCode (.stored slot e)
  | tested {e : Bound.Expr} {x : Operand} {n a b : Nat} (he : Computes ctx is x e)
    (hbit : .define n "cond" (.compare .notEqual x (.const 0)) ∈ is)
    (hi : .branch (.value n) a b ∈ is) : InCode (.tested e)
  | dropped {e : Bound.Expr} {x : Operand} (he : Computes ctx is x e) : InCode (.dropped e)

end

variable {ctx : Context} {is : List Instr} {d d' : Draft} {B : List Block}

/-! ## Expressions -/

theorem define_subset {α : Type} {f : Fragment α} {hint : String} {op : Op} :
    (f.define hint op).instrs ⊆ is ↔ f.instrs ⊆ is ∧ .define f.next hint op ∈ is := by
  rw [Fragment.define, List.append_subset, List.cons_subset, and_iff_left (List.nil_subset is)]

theorem subset_of_binary {f : Fragment (Operand × Operand)} {op : BinaryOp}
    (h : (f.binary op).instrs ⊆ is) : f.instrs ⊆ is := by
  cases op with
  | add => exact (define_subset.mp h).1
  | equal => exact (define_subset.mp (define_subset.mp h).1).1
  | notEqual => exact (define_subset.mp (define_subset.mp h).1).1

theorem computes_binary {f : Fragment (Operand × Operand)} {l r : Bound.Expr} (op : BinaryOp)
    (hl : Computes ctx is f.result.1 l) (hr : Computes ctx is f.result.2 r)
    (h : (f.binary op).instrs ⊆ is) : Computes ctx is (f.binary op).result (.binary op l r) := by
  cases op with
  | add => exact .add hl hr (define_subset.mp h).2
  | equal =>
    obtain ⟨hbit, hi⟩ := define_subset.mp h
    exact .equal hl hr (define_subset.mp hbit).2 hi
  | notEqual =>
    obtain ⟨hbit, hi⟩ := define_subset.mp h
    exact .notEqual hl hr (define_subset.mp hbit).2 hi

mutual

theorem computes_of_expr {next : Nat} : (e : Bound.Expr) → {f : Fragment Operand} →
    expr ctx next e = .ok f → f.instrs ⊆ is → Computes ctx is f.result e
  | .int v, f, h, _ => by
    simp only [expr, Operand.ofBits_toUInt64, Except.ok.injEq] at h
    subst h
    exact .int v
  | .load slot, f, h, hsub => by
    obtain ⟨cell, hcell, rfl⟩ := expr_load.mp h
    exact .load hcell (define_subset.mp hsub).2
  | .binary op l r, f, h, hsub => by
    obtain ⟨fl, hl, fr, hr, rfl⟩ := expr_binary.mp h
    obtain ⟨hsubl, hsubr⟩ := List.append_subset.mp (subset_of_binary hsub)
    exact computes_binary op (computes_of_expr l hl hsubl) (computes_of_expr r hr hsubr) hsub
  | .call callee args, f, h, hsub => by
    obtain ⟨symbol, hsymbol, fs, hfs, rfl⟩ := expr_call.mp h
    obtain ⟨hsubs, hi⟩ := define_subset.mp hsub
    exact .call hsymbol (computesAll_of_exprs args hfs hsubs) hi

theorem computesAll_of_exprs {next : Nat} : (es : List Bound.Expr) →
    {f : Fragment (List Operand)} → exprs ctx next es = .ok f → f.instrs ⊆ is →
    ComputesAll ctx is f.result es
  | [], f, h, _ => by
    cases h
    exact .nil
  | e :: es, f, h, hsub => by
    obtain ⟨g, hg, gs, hgs, rfl⟩ := exprs_cons.mp h
    obtain ⟨hsub₁, hsub₂⟩ := List.append_subset.mp hsub
    exact .cons (computes_of_expr e hg hsub₁) (computesAll_of_exprs es hgs hsub₂)

end

/-- A condition is tested where its bit decides a branch. -/
theorem inCode_of_condition {next a b : Nat} {c : Bound.Expr} {f : Fragment Operand}
    (h : condition ctx next c = .ok f) (hsub : f.instrs ⊆ is) (hi : .branch f.result a b ∈ is) :
    InCode ctx is (.tested c) := by
  obtain ⟨g, hg, rfl⟩ := condition_eq_ok.mp h
  obtain ⟨hsub', hbit⟩ := define_subset.mp hsub
  exact .tested (computes_of_expr c hg hsub') hbit hi

/-! ## Drafts -/

/-- The instructions in blocks. -/
def instrsOf (bs : List Block) : List Instr :=
  bs.flatMap Block.instrs

theorem mem_instrsOf {b : Block} {k : Nat} {i : Instr} (hb : B[k]? = some b) (hi : i ∈ b.instrs) :
    i ∈ instrsOf B :=
  List.mem_flatMap.mpr ⟨b, List.mem_of_getElem? hb, hi⟩

/-- Instructions that are added stay when the blocks are extended. -/
theorem subset_of_push (hd : d.current < d.blocks.length) (h : Extends (d.push is).blocks B) :
    is ⊆ instrsOf B := by
  intro i hi
  obtain ⟨more, hB⟩ := h _ _ (getElem?_push_self (List.getElem?_eq_getElem hd) is)
  exact mem_instrsOf hB (List.mem_append_left more (List.mem_append_right _ hi))

theorem subset_of_pushFragment {α : Type} {f : Fragment α} (hd : d.current < d.blocks.length)
    (h : Extends (d.pushFragment f).blocks B) : f.instrs ⊆ instrsOf B :=
  subset_of_push (d := { d with next := f.next }) hd h

theorem extends_leave (d : Draft) (target next : Nat) :
    Extends d.blocks (d.leave target next).blocks :=
  extends_push d _

/-- The condition of a conditional and the branch on it are written before the first part. -/
theorem subset_of_thenPart {f : Fragment Operand} (hd : d.current < d.blocks.length)
    (h : Extends (d.thenPart f).blocks B) : f.instrs ⊆ instrsOf B ∧
      .branch f.result d.blocks.length (d.blocks.length + 1) ∈ instrsOf B := by
  have happend := (extends_push _ _).trans h
  constructor
  · exact subset_of_pushFragment (d := { d with ifs := d.ifs + 1 }) hd
      ((extends_append _ _).trans happend)
  · exact subset_of_push (by simpa using Nat.lt_add_right _ hd) h (List.mem_singleton_self _)

/-- The condition of a loop and the branch on it are written before the body. -/
theorem subset_of_loopBody {f : Fragment Operand} (hd : d.current < d.blocks.length)
    (h : Extends (d.loopBody f).blocks B) : f.instrs ⊆ instrsOf B ∧
      .branch f.result (d.current + 1) (d.current + 2) ∈ instrsOf B := by
  constructor
  · exact subset_of_pushFragment hd ((extends_push _ _).trans h)
  · exact subset_of_push (by simpa using hd) h (List.mem_singleton_self _)

/-! ## Statements -/

mutual

theorem inCode_of_stmt {loops : List OpenLoop} {d d' : Draft} : (s : Bound.Stmt) → d.Live →
    stmt ctx loops d s = .ok d' → Extends d'.blocks B → ∀ u ∈ s.uses, InCode ctx (instrsOf B) u
  | .store slot e, hd, h, hB => by
    obtain ⟨f, hf, cell, hcell, rfl⟩ := (stmt_store hd).mp h
    have hlt : (d.pushFragment f).current < (d.pushFragment f).blocks.length := by
      simpa using hd.lt
    have hfrag := subset_of_pushFragment hd.lt ((extends_push _ _).trans hB)
    have hstore := subset_of_push hlt hB (List.mem_singleton_self _)
    rw [Bound.Stmt.uses, List.forall_mem_singleton]
    exact .stored (computes_of_expr e hf hfrag) hcell hstore
  | .ifElse c t e, hd, h, hB => by
    have ht : Grow ctx loops t := grow ctx loops t
    have he : Grow ctx loops e := grow ctx loops e
    obtain ⟨f, hf, d₁, h₁, d₂, h₂, rfl⟩ := (stmt_ifElse hd ht he).mp h
    have p := choice_ifElse hd ht he h₁ h₂
    have hB₂ := (extends_leave d₂ _ _).trans hB
    have hB₁ := (extends_leave d₁ _ _).trans (p.elseGrows.blocks.trans hB₂)
    obtain ⟨hfrag, hbranch⟩ := subset_of_thenPart hd.lt (p.thenGrows.blocks.trans hB₁)
    rw [Bound.Stmt.uses, List.forall_mem_cons, List.forall_mem_append]
    exact ⟨inCode_of_condition hf hfrag hbranch, inCode_of_stmts t p.thenFresh.live h₁ hB₁,
      inCode_of_stmts e p.elseFresh.live h₂ hB₂⟩
  | .loop id c body, hd, h, hB => by
    have hb := grow ctx (⟨id, d.blocks.length, d.blocks.length + 2⟩ :: loops) body
    obtain ⟨f, hf, d₁, h₁, rfl⟩ := (stmt_loop hd hb).mp h
    have p := turn_loop hd hb h₁
    have hB₁ := (extends_leave d₁ _ _).trans hB
    obtain ⟨hfrag, hbranch⟩ := subset_of_loopBody p.headFresh.live.lt (p.grows.blocks.trans hB₁)
    rw [Bound.Stmt.uses, List.forall_mem_cons]
    exact ⟨inCode_of_condition hf hfrag hbranch, inCode_of_stmts body p.bodyFresh.live h₁ hB₁⟩
  | .jump j id, _, _, _ => by
    rw [Bound.Stmt.uses]
    exact List.forall_mem_nil _
  | .expr e, hd, h, hB => by
    obtain ⟨f, hf, rfl⟩ := (stmt_expr hd).mp h
    rw [Bound.Stmt.uses, List.forall_mem_singleton]
    exact .dropped (computes_of_expr e hf (subset_of_pushFragment hd.lt hB))

theorem inCode_of_stmts {loops : List OpenLoop} {d d' : Draft} : (ss : List Bound.Stmt) →
    d.Live → stmts ctx loops d ss = .ok d' → Extends d'.blocks B →
    ∀ u ∈ Bound.Stmt.usesOfAll ss, InCode ctx (instrsOf B) u
  | [], _, _, _ => by
    rw [Bound.Stmt.usesOfAll]
    exact List.forall_mem_nil _
  | s :: ss, hd, h, hB => by
    obtain ⟨d₁, h₁, h₂⟩ := stmts_cons.mp h
    obtain ⟨hd₁, -⟩ := stmt_grows s hd h₁
    have hB₁ := (stmts_grows ss hd₁ h₂).2.blocks.trans hB
    rw [Bound.Stmt.usesOfAll, List.forall_mem_append]
    exact ⟨inCode_of_stmt s hd h₁ hB₁, inCode_of_stmts ss hd₁ h₂ hB⟩

end

/-! ## Functions -/

variable {names : List String} {builtins : List Builtin} {arity : Nat}

/-- The instructions do with the expressions of a body what its statements do. The cells of the
function are numbered from some value on. -/
def HasBody (names : List String) (builtins : List Builtin) (is : List Instr)
    (f : Bound.Function) : Prop :=
  ∃ base, ∀ u ∈ Bound.Stmt.usesOfAll f.body, InCode ⟨names, builtins, base, f.slots.length⟩ is u

theorem extends_enter (d : Draft) (slots : Nat) (cs : List Instr) :
    Extends d.blocks (d.enter slots cs).blocks := by
  intro k b hb
  refine ⟨[], ?_⟩
  rw [enter, List.getElem?_append_left (List.getElem?_eq_some_iff.mp hb).1, List.append_nil]
  exact hb

theorem hasBody_of_body {f : Bound.Function} (h : body names builtins arity d f = .ok d')
    (hB : Extends d'.blocks B) :
    HasBody names builtins (instrsOf B) f ∧ Extends d.blocks d'.blocks := by
  obtain ⟨cs, hcs, d₁, h₁, rfl⟩ := body_eq_ok.mp h
  have hlive := live_enter d f.slots.length (cells_straight hcs)
  have hret := extends_push d₁ [.ret (.const 0)]
  have hgrows := (stmts_grows f.body hlive h₁).2.blocks.trans hret
  exact ⟨⟨d.next, inCode_of_stmts f.body hlive h₁ (hret.trans hB)⟩,
    (extends_enter d _ cs).trans hgrows⟩

theorem hasBody_of_bodies {fs : List Bound.Function} (h : bodies names builtins arity d fs = .ok d')
    (hB : Extends d'.blocks B) :
    (∀ f ∈ fs, HasBody names builtins (instrsOf B) f) ∧ Extends d.blocks d'.blocks := by
  induction fs generalizing d with
  | nil =>
    cases h
    exact ⟨List.forall_mem_nil _, .refl _⟩
  | cons f fs ih =>
    obtain ⟨d₁, h₁, h₂⟩ := bind_eq_ok.mp h
    obtain ⟨hrest, hext₂⟩ := ih h₂
    obtain ⟨hf, hext₁⟩ := hasBody_of_body h₁ (hext₂.trans hB)
    exact ⟨List.forall_mem_cons.mpr ⟨hf, hrest⟩, hext₁.trans hext₂⟩

/-- The last function of a name has the bodies of all functions of that name. -/
theorem hasBody_of_function {before after : List Bound.Function} {f : Bound.Function}
    {g : Code.Function} (h : function names builtins before f after = .ok g)
    (hlast : namesakes f.name after = []) :
    g.symbol = Code.functionSymbol f.name ∧
      ∀ f' ∈ namesakes f.name before ++ [f], HasBody names builtins (instrsOf g.blocks) f' := by
  simp only [function, bind_eq_ok, pure_eq_ok, hlast, List.isEmpty_nil, if_true] at h
  obtain ⟨d, hd, rfl⟩ := h
  exact ⟨rfl, (hasBody_of_bodies hd (.refl _)).1⟩

theorem mem_namesakes {name : String} {fs : List Bound.Function} {f : Bound.Function} :
    f ∈ namesakes name fs ↔ f ∈ fs ∧ f.name = name := by
  rw [namesakes, List.mem_filter, decide_eq_true_iff]

theorem hasBody_of_functions (before : List Bound.Function) {fs : List Bound.Function}
    {gs : List Code.Function} (h : functions names builtins before fs = .ok gs) :
    ∀ f ∈ before ++ fs, namesakes f.name fs ≠ [] → ∃ g ∈ gs,
      g.symbol = Code.functionSymbol f.name ∧ HasBody names builtins (instrsOf g.blocks) f := by
  induction fs generalizing before gs with
  | nil => exact fun f _ hne => absurd rfl hne
  | cons f' after ih =>
    simp only [functions, bind_eq_ok, pure_eq_ok] at h
    obtain ⟨g', hg', gs', hgs', rfl⟩ := h
    intro f hf hne
    by_cases hlast : namesakes f.name after = []
    · -- no function of the name comes later, so this one has it and all the bodies
      have hname : f'.name = f.name := by
        by_contra hn
        rw [namesakes, List.filter_cons_of_neg (by simpa using hn)] at hne
        exact hne hlast
      rw [← hname] at hlast ⊢
      obtain ⟨hsymbol, hbodies⟩ := hasBody_of_function hg' hlast
      have hmem := mem_namesakes.mpr ⟨hf, hname.symm⟩
      rw [namesakes, List.filter_append, List.filter_cons_of_pos (by simp), ← namesakes,
        ← namesakes, hlast] at hmem
      exact ⟨g', List.mem_cons_self .., hsymbol, hbodies f hmem⟩
    · obtain ⟨g, hg, hbody⟩ := ih (before ++ [f']) hgs' f (by simpa using hf) hlast
      exact ⟨g, List.mem_cons_of_mem _ hg, hbody⟩

/-- In the module of a program every function has the code of its body under its symbol. -/
theorem hasBody_of_lower {q : Bound.Program} {m : Code.Module} (h : lower q = .ok m) :
    ∃ builtins, builtinsOf q.declarations = .ok builtins ∧
      ∀ f ∈ q.functions, ∃ g ∈ m.functions, g.symbol = Code.functionSymbol f.name ∧
        HasBody (q.functions.map Bound.Function.name) builtins (instrsOf g.blocks) f := by
  simp only [lower, bind_eq_ok] at h
  obtain ⟨builtins, hbuiltins, gs, hgs, h⟩ := h
  split at h
  · cases h
    refine ⟨builtins, hbuiltins, fun f hf => ?_⟩
    have hne : namesakes f.name q.functions ≠ [] :=
      List.ne_nil_of_mem (mem_namesakes.mpr ⟨hf, rfl⟩)
    obtain ⟨g, hg, hbody⟩ := hasBody_of_functions [] hgs f hf hne
    exact ⟨g, List.mem_append_left _ (List.mem_append_right _ hg), hbody⟩
  · cases h

end Lowering

end Looplet
