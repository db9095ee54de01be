import Looplet.Bound.Resolve
import Looplet.Proofs.Bound.References
import Looplet.Proofs.Result

/-!
# Names that are bound

What it takes that a part of a tree is bound, one lemma for each form of it. While statements are
bound the slots stay different and only grow, and loops are counted up (`stmts_grows`). What is
bound is in scope of its slots and loops (`stmts_scoped`).
-/

namespace Looplet.Resolve

variable {table : Table} {slots : List String} {loops : List OpenLoop} {scope scope' : Scope}

/-! ## Expressions -/

theorem expr_var {x : String} {p : Position} {b : Bound.Expr} :
    expr table slots (.var x p) = .ok b ↔ ∃ slot, slots.idxOf? x = some slot ∧ b = .load slot := by
  simp only [expr]
  cases slots.idxOf? x <;> simp [eq_comm]

theorem expr_binary {op : BinaryOp} {l r : Tree.Expr} {b : Bound.Expr} :
    expr table slots (.binary op l r) = .ok b ↔ ∃ bl, expr table slots l = .ok bl ∧
      ∃ br, expr table slots r = .ok br ∧ b = .binary op bl br := by
  refine bind_eq_ok.trans ?_
  simp only [bind_eq_ok, pure_eq_ok]

theorem expr_call {f : String} {args : List Tree.Expr} {p : Position} {b : Bound.Expr} :
    expr table slots (.call f args p) = .ok b ↔
      ∃ s, table.lookup f = some s ∧ s.arity = args.length ∧
        ∃ bs, exprs table slots args = .ok bs ∧ b = .call (s.callee f) bs := by
  simp only [expr]
  cases table.lookup f with
  | none => simp
  | some s =>
    by_cases hs : s.arity = args.length
    · simp only [hs, ne_eq, not_true_eq_false, if_false, bind_eq_ok, pure_eq_ok, Option.some.injEq,
        exists_eq_left', true_and]
    · simp [hs]

theorem exprs_cons {e : Tree.Expr} {es : List Tree.Expr} {bs : List Bound.Expr} :
    exprs table slots (e :: es) = .ok bs ↔ ∃ b, expr table slots e = .ok b ∧
      ∃ bs', exprs table slots es = .ok bs' ∧ bs = b :: bs' := by
  refine bind_eq_ok.trans ?_
  simp only [bind_eq_ok, pure_eq_ok]

theorem length_exprs {es : List Tree.Expr} {bs : List Bound.Expr}
    (h : exprs table slots es = .ok bs) : bs.length = es.length := by
  induction es generalizing bs with
  | nil =>
    cases h
    rfl
  | cons e es ih =>
    obtain ⟨b, -, bs', hbs, rfl⟩ := exprs_cons.mp h
    rw [List.length_cons, List.length_cons, ih hbs]

/-! ## Statements -/

/-- The loop that a jump with or without a label acts on. -/
def target? (loops : List OpenLoop) : Option String → Option Nat
  | none => loops.head?.map OpenLoop.id
  | some label => (loops.find? fun l => l.label? = some label).map OpenLoop.id

theorem jumpTarget_eq_ok {j : Jump} {p : Position} {label? : Option String} {id : Nat} :
    jumpTarget j loops p label? = .ok id ↔ target? loops label? = some id := by
  cases label? with
  | none =>
    simp only [jumpTarget, target?]
    cases loops.head? <;> simp
  | some label =>
    simp only [jumpTarget, target?]
    cases loops.find? fun l => l.label? = some label <;> simp

theorem exists_of_target? (label? : Option String) {id : Nat} (h : target? loops label? = some id) :
    ∃ l ∈ loops, l.id = id := by
  cases label? with
  | none =>
    obtain ⟨l, hl, rfl⟩ := Option.map_eq_some_iff.mp h
    exact ⟨l, List.mem_of_mem_head? hl, rfl⟩
  | some label =>
    obtain ⟨l, hl, rfl⟩ := Option.map_eq_some_iff.mp h
    exact ⟨l, List.mem_of_find?_eq_some hl, rfl⟩

variable {r : Bound.Stmt × Scope} {rs : List Bound.Stmt × Scope}

theorem stmt_assign {x : String} {e : Tree.Expr} {p : Position} :
    stmt table loops scope (.assign x e p) = .ok r ↔ ∃ b, expr table scope.slots e = .ok b ∧
      r = (.store (scope.assign x).1 b, (scope.assign x).2) := by
  refine bind_eq_ok.trans ?_
  simp only [pure_eq_ok]

theorem stmt_ifThen {c : Tree.Expr} {body : List Tree.Stmt} :
    stmt table loops scope (.ifThen c body) = .ok r ↔ ∃ bc, expr table scope.slots c = .ok bc ∧
      ∃ rb, stmts table loops scope body = .ok rb ∧ r = (.ifElse bc rb.1 [], rb.2) := by
  refine bind_eq_ok.trans ?_
  simp only [bind_eq_ok, pure_eq_ok]

theorem stmt_ifElse {c : Tree.Expr} {t e : List Tree.Stmt} :
    stmt table loops scope (.ifElse c t e) = .ok r ↔ ∃ bc, expr table scope.slots c = .ok bc ∧
      ∃ rt, stmts table loops scope t = .ok rt ∧ ∃ re, stmts table loops rt.2 e = .ok re ∧
        r = (.ifElse bc rt.1 re.1, re.2) := by
  refine bind_eq_ok.trans ?_
  simp only [bind_eq_ok, pure_eq_ok]

theorem stmt_loop {label? : Option String} {c : Tree.Expr} {body : List Tree.Stmt} {p : Position} :
    stmt table loops scope (.loop label? c body p) = .ok r ↔ shadowing? loops label? = none ∧
      ∃ bc, expr table scope.slots c = .ok bc ∧
      ∃ rb, stmts table (⟨label?, scope.loops⟩ :: loops)
          { scope with loops := scope.loops + 1 } body = .ok rb ∧
        r = (.loop scope.loops bc rb.1, rb.2) := by
  simp only [stmt]
  cases shadowing? loops label? with
  | none => simp only [bind_eq_ok, pure_eq_ok, true_and]
  | some label => simp

theorem stmt_jump {j : Jump} {label? : Option String} {p : Position} :
    stmt table loops scope (.jump j label? p) = .ok r ↔
      ∃ id, target? loops label? = some id ∧ r = (.jump j id, scope) := by
  refine bind_eq_ok.trans ?_
  simp only [pure_eq_ok, jumpTarget_eq_ok]

theorem stmt_expr {e : Tree.Expr} :
    stmt table loops scope (.expr e) = .ok r ↔ ∃ b, expr table scope.slots e = .ok b ∧
      r = (.expr b, scope) := by
  refine bind_eq_ok.trans ?_
  simp only [pure_eq_ok]

theorem stmts_cons {s : Tree.Stmt} {ss : List Tree.Stmt} :
    stmts table loops scope (s :: ss) = .ok rs ↔ ∃ r, stmt table loops scope s = .ok r ∧
      ∃ rs', stmts table loops r.2 ss = .ok rs' ∧ rs = (r.1 :: rs'.1, rs'.2) := by
  refine bind_eq_ok.trans ?_
  simp only [bind_eq_ok, pure_eq_ok]

/-! ## Growth -/

/-- The second scope has the slots of the first, and perhaps new ones, and counts on. -/
structure Scope.Grows (s t : Scope) : Prop where
  slots : s.slots <+: t.slots
  nodup : s.slots.Nodup → t.slots.Nodup
  loops_le : s.loops ≤ t.loops

theorem Scope.Grows.refl (s : Scope) : s.Grows s :=
  ⟨List.prefix_refl _, id, Nat.le_refl _⟩

theorem Scope.Grows.trans {s t u : Scope} (h : s.Grows t) (h' : t.Grows u) : s.Grows u :=
  ⟨h.slots.trans h'.slots, h'.nodup ∘ h.nodup, Nat.le_trans h.loops_le h'.loops_le⟩

/-- The slot of an assigned variable is where the variable stands afterwards. -/
theorem Scope.getElem?_assign (s : Scope) (x : String) :
    (s.assign x).2.slots[(s.assign x).1]? = some x := by
  unfold Scope.assign
  cases h : s.slots.idxOf? x with
  | some slot =>
    obtain ⟨hlt, hx, -⟩ := List.findIdx?_eq_some_iff_getElem.mp h
    exact List.getElem?_eq_some_iff.mpr ⟨hlt, by simpa using hx⟩
  | none => simp

theorem Scope.grows_assign (s : Scope) (x : String) : s.Grows (s.assign x).2 := by
  unfold Scope.assign
  cases h : s.slots.idxOf? x with
  | some slot => exact .refl s
  | none =>
    refine ⟨List.prefix_append _ _, fun hn => ?_, Nat.le_refl _⟩
    have hx : x ∉ s.slots := by simpa [List.idxOf?_eq_none_iff] using h
    rw [List.nodup_append]
    refine ⟨hn, by simp, ?_⟩
    rintro a ha b hb rfl
    exact hx (List.mem_singleton.mp hb ▸ ha)

mutual

theorem stmt_grows {loops : List OpenLoop} {scope : Scope} : (s : Tree.Stmt) →
    {r : Bound.Stmt × Scope} → stmt table loops scope s = .ok r → scope.Grows r.2
  | .assign x e p, r, h => by
    obtain ⟨b, -, rfl⟩ := stmt_assign.mp h
    exact scope.grows_assign x
  | .ifThen c body, r, h => by
    obtain ⟨bc, -, rb, hb, rfl⟩ := stmt_ifThen.mp h
    exact stmts_grows body hb
  | .ifElse c t e, r, h => by
    obtain ⟨bc, -, rt, ht, re, he, rfl⟩ := stmt_ifElse.mp h
    exact (stmts_grows t ht).trans (stmts_grows e he)
  | .loop label? c body p, r, h => by
    obtain ⟨-, bc, -, rb, hb, rfl⟩ := stmt_loop.mp h
    have hg := stmts_grows body hb
    exact ⟨hg.slots, hg.nodup, Nat.le_of_succ_le hg.loops_le⟩
  | .jump j label? p, r, h => by
    obtain ⟨id, -, rfl⟩ := stmt_jump.mp h
    exact .refl scope
  | .expr e, r, h => by
    obtain ⟨b, -, rfl⟩ := stmt_expr.mp h
    exact .refl scope

theorem stmts_grows {loops : List OpenLoop} {scope : Scope} : (ss : List Tree.Stmt) →
    {rs : List Bound.Stmt × Scope} → stmts table loops scope ss = .ok rs → scope.Grows rs.2
  | [], rs, h => by
    cases h
    exact .refl scope
  | s :: ss, rs, h => by
    obtain ⟨r, hr, rs', hrs, rfl⟩ := stmts_cons.mp h
    have hs := stmts_grows ss hrs
    exact (stmt_grows s hr).trans hs

end

/-! ## Scopes -/

theorem getElem?_of_idxOf? {x : String} {slot : Nat} (h : slots.idxOf? x = some slot) :
    slots[slot]? = some x := by
  obtain ⟨hlt, hx, -⟩ := List.findIdx?_eq_some_iff_getElem.mp h
  exact List.getElem?_eq_some_iff.mpr ⟨hlt, by simpa using hx⟩

theorem getElem?_of_isPrefix {xs ys : List String} (h : xs <+: ys) {k : Nat} {x : String}
    (hx : xs[k]? = some x) : ys[k]? = some x := by
  obtain ⟨hlt, rfl⟩ := List.getElem?_eq_some_iff.mp hx
  exact List.prefix_iff_getElem?.mp h k hlt

mutual

/-- A bound expression is in scope of its slots. -/
theorem expr_scoped {n : Nat} (hn : slots.length ≤ n) : (e : Tree.Expr) → {b : Bound.Expr} →
    expr table slots e = .ok b → b.Scoped n
  | .int v, b, h => by
    cases h
    trivial
  | .var x p, b, h => by
    obtain ⟨slot, hx, rfl⟩ := expr_var.mp h
    obtain ⟨hlt, -⟩ := List.getElem?_eq_some_iff.mp (getElem?_of_idxOf? hx)
    exact Nat.lt_of_lt_of_le hlt hn
  | .binary op l r, b, h => by
    obtain ⟨bl, hl, br, hr, rfl⟩ := expr_binary.mp h
    exact ⟨expr_scoped hn l hl, expr_scoped hn r hr⟩
  | .call f args p, b, h => by
    obtain ⟨s, -, -, bs, hbs, rfl⟩ := expr_call.mp h
    exact exprs_scoped hn args hbs

theorem exprs_scoped {n : Nat} (hn : slots.length ≤ n) : (es : List Tree.Expr) →
    {bs : List Bound.Expr} → exprs table slots es = .ok bs → Bound.Expr.ScopedAll n bs
  | [], bs, h => by
    cases h
    trivial
  | e :: es, bs, h => by
    obtain ⟨b, hb, bs', hbs, rfl⟩ := exprs_cons.mp h
    exact ⟨expr_scoped hn e hb, exprs_scoped hn es hbs⟩

end

mutual

/-- A bound statement is in scope of the slots after it and of the loops around it. -/
theorem stmt_scoped {n : Nat} {loops : List OpenLoop} {scope : Scope} : (s : Tree.Stmt) →
    {r : Bound.Stmt × Scope} → stmt table loops scope s = .ok r → r.2.slots.length ≤ n →
    r.1.Scoped n (loops.map OpenLoop.id)
  | .assign x e p, r, h, hn => by
    obtain ⟨b, hb, rfl⟩ := stmt_assign.mp h
    have hslot := (List.getElem?_eq_some_iff.mp (scope.getElem?_assign x)).1
    have hle := (scope.grows_assign x).slots.length_le
    exact ⟨Nat.lt_of_lt_of_le hslot hn, expr_scoped (Nat.le_trans hle hn) e hb⟩
  | .ifThen c body, r, h, hn => by
    obtain ⟨bc, hc, rb, hb, rfl⟩ := stmt_ifThen.mp h
    have hle := (stmts_grows body hb).slots.length_le
    exact ⟨expr_scoped (Nat.le_trans hle hn) c hc, stmts_scoped body hb hn, trivial⟩
  | .ifElse c t e, r, h, hn => by
    obtain ⟨bc, hc, rt, ht, re, he, rfl⟩ := stmt_ifElse.mp h
    have hlet := (stmts_grows t ht).slots.length_le
    have hle := Nat.le_trans (stmts_grows e he).slots.length_le hn
    exact ⟨expr_scoped (Nat.le_trans hlet hle) c hc, stmts_scoped t ht hle, stmts_scoped e he hn⟩
  | .loop label? c body p, r, h, hn => by
    obtain ⟨-, bc, hc, rb, hb, rfl⟩ := stmt_loop.mp h
    have hle : scope.slots.length ≤ rb.2.slots.length := (stmts_grows body hb).slots.length_le
    exact ⟨expr_scoped (Nat.le_trans hle hn) c hc, stmts_scoped body hb hn⟩
  | .jump j label? p, r, h, hn => by
    obtain ⟨id, hid, rfl⟩ := stmt_jump.mp h
    obtain ⟨l, hl, rfl⟩ := exists_of_target? label? hid
    exact List.mem_map_of_mem hl
  | .expr e, r, h, hn => by
    obtain ⟨b, hb, rfl⟩ := stmt_expr.mp h
    exact expr_scoped hn e hb

theorem stmts_scoped {n : Nat} {loops : List OpenLoop} {scope : Scope} : (ss : List Tree.Stmt) →
    {rs : List Bound.Stmt × Scope} → stmts table loops scope ss = .ok rs → rs.2.slots.length ≤ n →
    Bound.Stmt.ScopedAll n (loops.map OpenLoop.id) rs.1
  | [], rs, h, hn => by
    cases h
    trivial
  | s :: ss, rs, h, hn => by
    obtain ⟨r, hr, rs', hrs, rfl⟩ := stmts_cons.mp h
    have hs := stmts_scoped ss hrs hn
    exact ⟨stmt_scoped s hr (Nat.le_trans (stmts_grows ss hrs).slots.length_le hn), hs⟩

end

/-! ## Definitions -/

theorem checkParams_eq_ok {f : String} {p : Position} {seen xs : List String} :
    checkParams f p seen xs = .ok () ↔ xs.Nodup ∧ ∀ x ∈ xs, x ∉ seen := by
  induction xs generalizing seen with
  | nil => simp [checkParams]
  | cons x xs ih =>
    rw [checkParams]
    split
    · next h => simp [h]
    · next h =>
      rw [ih, List.nodup_cons, List.forall_mem_cons]
      constructor
      · rintro ⟨hn, hs⟩
        refine ⟨⟨fun hx => hs x hx (by simp), hn⟩, h, fun y hy hys => hs y hy (by simp [hys])⟩
      · rintro ⟨⟨hx, hn⟩, -, hs⟩
        refine ⟨hn, fun y hy hys => ?_⟩
        rcases List.mem_append.mp hys with hys | hys
        · exact hs y hy hys
        · exact hx (List.mem_singleton.mp hys ▸ hy)

theorem definition_eq_ok {i : Tree.Item} {body : List Tree.Stmt} {f : Bound.Function} :
    definition table i body = .ok f ↔ i.params.Nodup ∧
      ∃ rs, stmts table [] ⟨i.params, 0⟩ body = .ok rs ∧
        f = ⟨i.name, i.params.length, rs.2.slots, rs.2.loops, rs.1⟩ := by
  have hp : checkParams i.name i.position [] i.params = .ok () ↔ i.params.Nodup := by
    rw [checkParams_eq_ok]
    simp
  simp only [definition, bind_eq_ok, pure_eq_ok, ← hp]
  constructor
  · rintro ⟨_, hparams, rs, hrs, rfl⟩
    exact ⟨hparams, rs, hrs, rfl⟩
  · rintro ⟨hparams, rs, hrs, rfl⟩
    exact ⟨_, hparams, rs, hrs, rfl⟩

end Looplet.Resolve
