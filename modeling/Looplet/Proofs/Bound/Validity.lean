import Looplet.Proofs.Bound.Table
import Looplet.Proofs.Tree.Rules

/-!
# What resolution accepts

A program is bound exactly if it keeps the rules of names (`exists_resolve_iff`). A walk over a body
meets its marks in the order of the text. What it carries along stands for what lies before and
around: the slots are the names known so far (`stmts_slots`), the open loops are the labels around.
So each part is bound exactly if its marks are admitted for these names (`exists_stmts`).
-/

namespace Looplet.Resolve

variable {items : List Tree.Item} {table : Table} {slots : List String} {scope : Scope}

/-! ## Single marks -/

theorem mem_assign {x y : String} : y ∈ (scope.assign x).2.slots ↔ y ∈ scope.slots ∨ y = x := by
  unfold Scope.assign
  cases h : scope.slots.idxOf? x with
  | none => simp
  | some slot =>
    have hx : x ∈ scope.slots := List.mem_of_getElem? (getElem?_of_idxOf? h)
    constructor
    · exact .inl
    · rintro (hy | rfl)
      · exact hy
      · exact hx

theorem exists_slot {x : String} : (∃ slot, slots.idxOf? x = some slot) ↔ x ∈ slots := by
  rw [← Option.isSome_iff_exists, List.isSome_idxOf?]

theorem exists_signature (hn : (items.map Tree.Item.name).Nodup) {f : String} {n : Nat} :
    (∃ s, (tableOfItems items).lookup f = some s ∧ s.arity = n) ↔
      ∃ i ∈ items, i.name = f ∧ i.params.length = n := by
  simp only [lookup_tableOfItems, Option.map_eq_some_iff]
  constructor
  · rintro ⟨_, ⟨i, hi, rfl⟩, ha⟩
    exact ⟨i, List.mem_of_find?_eq_some hi, by simpa using List.find?_some hi, ha⟩
  · rintro ⟨i, hi, rfl, ha⟩
    exact ⟨_, ⟨i, find?_of_mem hn hi, rfl⟩, ha⟩

theorem exists_target {loops : List OpenLoop} {label? : Option String} {known : List String}
    (j : Jump) (p : Position) : (∃ id, target? loops label? = some id) ↔
      (Mark.jump j label? (loops.map OpenLoop.label?) p).Allowed items known := by
  cases label? with
  | none => cases loops <;> simp [target?, Mark.Allowed]
  | some label =>
    simp only [target?, Mark.Allowed, Option.map_eq_some_iff, List.mem_map, exists_comm (α := Nat),
      exists_and_left, exists_eq', and_true]
    rw [← Option.isSome_iff_exists, List.find?_isSome]
    simp

theorem shadowing?_eq_none {loops : List OpenLoop} {label? : Option String} {known : List String}
    (p : Position) : shadowing? loops label? = none ↔
      (Mark.loop label? (loops.map OpenLoop.label?) p).Allowed items known := by
  cases label? with
  | none => simp [shadowing?, Mark.Allowed]
  | some label => simp [shadowing?, Mark.Allowed]

/-! ## Expressions -/

mutual

theorem assignedIn_expr : (e : Tree.Expr) → assignedIn e.marks = []
  | .int v => rfl
  | .var x p => rfl
  | .binary op l r => by
    rw [Tree.Expr.marks, assignedIn_append, assignedIn_expr l, assignedIn_expr r, List.nil_append]
  | .call f args p => assignedIn_exprs args

theorem assignedIn_exprs : (es : List Tree.Expr) → assignedIn (Tree.Expr.marksOfAll es) = []
  | [] => rfl
  | e :: es => by
    rw [Tree.Expr.marksOfAll, assignedIn_append, assignedIn_expr e, assignedIn_exprs es,
      List.nil_append]

end

theorem admitted_expr_append {known : List String} {ms : List Mark} (e : Tree.Expr) :
    Admitted items known (e.marks ++ ms) ↔
      Admitted items known e.marks ∧ Admitted items known ms :=
  admitted_append fun x => by simp [assignedIn_expr e]

mutual

theorem exists_expr (hn : (items.map Tree.Item.name).Nodup) : (e : Tree.Expr) →
    ((∃ b, expr (tableOfItems items) slots e = .ok b) ↔ Admitted items slots e.marks)
  | .int v => by simp [expr, Tree.Expr.marks]
  | .var x p => by
    simp only [expr_var, Tree.Expr.marks, admitted_cons, admitted_nil, and_true, Mark.Allowed,
      ← exists_slot]
    constructor
    · rintro ⟨b, slot, hs, rfl⟩
      exact ⟨slot, hs⟩
    · rintro ⟨slot, hs⟩
      exact ⟨_, slot, hs, rfl⟩
  | .binary op l r => by
    rw [Tree.Expr.marks, admitted_expr_append, ← exists_expr hn l, ← exists_expr hn r]
    simp only [expr_binary]
    constructor
    · rintro ⟨b, bl, hl, br, hr, rfl⟩
      exact ⟨⟨bl, hl⟩, br, hr⟩
    · rintro ⟨⟨bl, hl⟩, br, hr⟩
      exact ⟨_, bl, hl, br, hr, rfl⟩
  | .call f args p => by
    rw [Tree.Expr.marks, admitted_cons, Mark.Allowed, ← exists_signature hn]
    simp only [expr_call, assignedIn, List.filterMap_cons, List.filterMap_nil, List.append_nil,
      ← exists_exprs hn args]
    constructor
    · rintro ⟨b, s, hs, ha, bs, hbs, rfl⟩
      exact ⟨⟨s, hs, ha⟩, bs, hbs⟩
    · rintro ⟨⟨s, hs, ha⟩, bs, hbs⟩
      exact ⟨_, s, hs, ha, bs, hbs, rfl⟩

theorem exists_exprs (hn : (items.map Tree.Item.name).Nodup) : (es : List Tree.Expr) →
    ((∃ bs, exprs (tableOfItems items) slots es = .ok bs) ↔
      Admitted items slots (Tree.Expr.marksOfAll es))
  | [] => by simp [exprs, Tree.Expr.marksOfAll]
  | e :: es => by
    rw [Tree.Expr.marksOfAll, admitted_expr_append, ← exists_expr hn e, ← exists_exprs hn es]
    simp only [exprs_cons]
    constructor
    · rintro ⟨_, b, hb, bs, hbs, rfl⟩
      exact ⟨⟨b, hb⟩, bs, hbs⟩
    · rintro ⟨⟨b, hb⟩, bs, hbs⟩
      exact ⟨_, b, hb, bs, hbs, rfl⟩

end

/-! ## Statements -/

mutual

/-- The slots after a statement are those before it and the names that it assigns. -/
theorem stmt_slots {loops : List OpenLoop} {scope : Scope} (around : List (Option String)) :
    (s : Tree.Stmt) → {r : Bound.Stmt × Scope} → stmt table loops scope s = .ok r → ∀ x,
      x ∈ r.2.slots ↔ x ∈ scope.slots ∨ x ∈ assignedIn (s.marks around)
  | .assign y e p, r, h, x => by
    obtain ⟨b, -, rfl⟩ := stmt_assign.mp h
    rw [mem_assign, Tree.Stmt.marks, assignedIn_append, assignedIn_expr]
    simp [assignedIn]
  | .ifThen c body, r, h, x => by
    obtain ⟨bc, -, rb, hb, rfl⟩ := stmt_ifThen.mp h
    rw [Tree.Stmt.marks, assignedIn_append, assignedIn_expr]
    exact stmts_slots around body hb x
  | .ifElse c t e, r, h, x => by
    obtain ⟨bc, -, rt, ht, re, he, rfl⟩ := stmt_ifElse.mp h
    rw [Tree.Stmt.marks, assignedIn_append, assignedIn_append, assignedIn_expr, List.nil_append,
      List.mem_append, ← or_assoc, ← stmts_slots around t ht x]
    exact stmts_slots around e he x
  | .loop label? c body p, r, h, x => by
    obtain ⟨-, bc, -, rb, hb, rfl⟩ := stmt_loop.mp h
    rw [Tree.Stmt.marks, ← List.singleton_append, assignedIn_append, assignedIn_append,
      assignedIn_expr]
    exact stmts_slots (label? :: around) body hb x
  | .jump j label? p, r, h, x => by
    obtain ⟨id, -, rfl⟩ := stmt_jump.mp h
    simp [Tree.Stmt.marks, assignedIn]
  | .expr e, r, h, x => by
    obtain ⟨b, -, rfl⟩ := stmt_expr.mp h
    simp [Tree.Stmt.marks, assignedIn_expr]

theorem stmts_slots {loops : List OpenLoop} {scope : Scope} (around : List (Option String)) :
    (ss : List Tree.Stmt) → {rs : List Bound.Stmt × Scope} →
    stmts table loops scope ss = .ok rs → ∀ x,
      x ∈ rs.2.slots ↔ x ∈ scope.slots ∨ x ∈ assignedIn (Tree.Stmt.marksOfAll around ss)
  | [], rs, h, x => by
    cases h
    simp [Tree.Stmt.marksOfAll, assignedIn]
  | s :: ss, rs, h, x => by
    obtain ⟨r, hr, rs', hrs, rfl⟩ := stmts_cons.mp h
    rw [Tree.Stmt.marksOfAll, assignedIn_append, List.mem_append, ← or_assoc,
      ← stmt_slots around s hr x]
    exact stmts_slots around ss hrs x

end

/-- What follows a bound statement is read with the slots after it. -/
theorem admitted_after_stmts {loops : List OpenLoop} {around : List (Option String)}
    {ss : List Tree.Stmt} {rs : List Bound.Stmt × Scope} {ms : List Mark}
    (h : stmts table loops scope ss = .ok rs) :
    Admitted items scope.slots (Tree.Stmt.marksOfAll around ss ++ ms) ↔
      Admitted items scope.slots (Tree.Stmt.marksOfAll around ss) ∧
        Admitted items rs.2.slots ms :=
  admitted_append (stmts_slots around ss h)

mutual

theorem exists_stmt (hn : (items.map Tree.Item.name).Nodup) {loops : List OpenLoop}
    {scope : Scope} : (s : Tree.Stmt) →
    ((∃ r, stmt (tableOfItems items) loops scope s = .ok r) ↔
      Admitted items scope.slots (s.marks (loops.map OpenLoop.label?)))
  | .assign x e p => by
    rw [Tree.Stmt.marks, admitted_expr_append, ← exists_expr hn e]
    simp only [stmt_assign, admitted_cons, Mark.Allowed, admitted_nil, and_true]
    constructor
    · rintro ⟨r, b, hb, rfl⟩
      exact ⟨b, hb⟩
    · rintro ⟨b, hb⟩
      exact ⟨_, b, hb, rfl⟩
  | .ifThen c body => by
    rw [Tree.Stmt.marks, admitted_expr_append, ← exists_expr hn c, ← exists_stmts hn body]
    simp only [stmt_ifThen]
    constructor
    · rintro ⟨r, bc, hc, rb, hb, rfl⟩
      exact ⟨⟨bc, hc⟩, rb, hb⟩
    · rintro ⟨⟨bc, hc⟩, rb, hb⟩
      exact ⟨_, bc, hc, rb, hb, rfl⟩
  | .ifElse c t e => by
    rw [Tree.Stmt.marks, admitted_expr_append, ← exists_expr hn c]
    simp only [stmt_ifElse]
    constructor
    · rintro ⟨r, bc, hc, rt, ht, re, he, rfl⟩
      rw [admitted_after_stmts ht, ← exists_stmts hn t, ← exists_stmts hn e]
      exact ⟨⟨bc, hc⟩, ⟨rt, ht⟩, re, he⟩
    · rintro ⟨⟨bc, hc⟩, hm⟩
      -- The second part is read with the slots after the first, so the first is bound first.
      obtain ⟨rt, ht⟩ := (exists_stmts hn t).mpr hm.left
      rw [admitted_after_stmts ht, ← exists_stmts hn e] at hm
      obtain ⟨-, re, he⟩ := hm
      exact ⟨_, bc, hc, rt, ht, re, he, rfl⟩
  | .loop label? c body p => by
    rw [Tree.Stmt.marks, admitted_cons, ← shadowing?_eq_none]
    simp only [assignedIn, List.filterMap_cons, List.filterMap_nil, List.append_nil]
    have hbody : (∃ rb, stmts (tableOfItems items) (⟨label?, scope.loops⟩ :: loops)
        { scope with loops := scope.loops + 1 } body = .ok rb) ↔ Admitted items scope.slots
          (Tree.Stmt.marksOfAll (label? :: loops.map OpenLoop.label?) body) :=
      exists_stmts hn body
    rw [admitted_expr_append, ← exists_expr hn c, ← hbody]
    simp only [stmt_loop]
    constructor
    · rintro ⟨r, hl, bc, hc, rb, hb, rfl⟩
      exact ⟨hl, ⟨bc, hc⟩, rb, hb⟩
    · rintro ⟨hl, ⟨bc, hc⟩, rb, hb⟩
      exact ⟨_, hl, bc, hc, rb, hb, rfl⟩
  | .jump j label? p => by
    rw [Tree.Stmt.marks, admitted_cons, ← exists_target]
    simp only [stmt_jump, admitted_nil, and_true]
    constructor
    · rintro ⟨r, id, hid, rfl⟩
      exact ⟨id, hid⟩
    · rintro ⟨id, hid⟩
      exact ⟨_, id, hid, rfl⟩
  | .expr e => by
    rw [Tree.Stmt.marks, ← exists_expr hn e]
    simp only [stmt_expr]
    constructor
    · rintro ⟨r, b, hb, rfl⟩
      exact ⟨b, hb⟩
    · rintro ⟨b, hb⟩
      exact ⟨_, b, hb, rfl⟩

theorem exists_stmts (hn : (items.map Tree.Item.name).Nodup) {loops : List OpenLoop}
    {scope : Scope} : (ss : List Tree.Stmt) →
    ((∃ rs, stmts (tableOfItems items) loops scope ss = .ok rs) ↔
      Admitted items scope.slots (Tree.Stmt.marksOfAll (loops.map OpenLoop.label?) ss))
  | [] => by simp [stmts, Tree.Stmt.marksOfAll]
  | s :: ss => by
    rw [Tree.Stmt.marksOfAll]
    simp only [stmts_cons]
    constructor
    · rintro ⟨_, r, hr, rs, hrs, rfl⟩
      rw [admitted_append (stmt_slots _ s hr), ← exists_stmt hn s, ← exists_stmts hn ss]
      exact ⟨⟨r, hr⟩, rs, hrs⟩
    · intro hm
      obtain ⟨r, hr⟩ := (exists_stmt hn s).mpr hm.left
      rw [admitted_append (stmt_slots _ s hr), ← exists_stmts hn ss] at hm
      obtain ⟨-, rs, hrs⟩ := hm
      exact ⟨_, r, hr, rs, hrs, rfl⟩

end

/-! ## Programs -/

theorem exists_definition (hn : (items.map Tree.Item.name).Nodup) {i : Tree.Item}
    {body : List Tree.Stmt} : (∃ f, definition (tableOfItems items) i body = .ok f) ↔
      ValidBody items i.params body := by
  have hbody : (∃ rs, stmts (tableOfItems items) [] ⟨i.params, 0⟩ body = .ok rs) ↔
      Admitted items i.params (Tree.Stmt.marksOfAll [] body) := exists_stmts hn body
  simp only [validBody_iff, definition_eq_ok]
  constructor
  · rintro ⟨f, hp, rs, hrs, rfl⟩
    exact ⟨hp, hbody.mp ⟨rs, hrs⟩⟩
  · rintro ⟨hp, hm⟩
    obtain ⟨rs, hrs⟩ := hbody.mpr hm
    exact ⟨_, hp, rs, hrs, rfl⟩

theorem exists_definitions (hn : (items.map Tree.Item.name).Nodup) :
    (∃ fs, definitions (tableOfItems items) items = .ok fs) ↔
      ∀ i ∈ items, ∀ body, i.body? = some body → ValidBody items i.params body := by
  simp only [definitions_eq_ok, exists_forall₂_iff, List.mem_filter, and_imp]
  refine forall₂_congr fun i hi => ?_
  cases hb : i.body? with
  | none => simp [Tree.Item.isDeclaration, hb]
  | some body =>
    simp [Tree.Item.isDeclaration, Defines, hb, exists_definition hn]

theorem checkMain_tableOfItems (hn : (items.map Tree.Item.name).Nodup) :
    checkMain (tableOfItems items) = .ok () ↔
      ∃ i ∈ items, i.name = "main" ∧ i.isDeclaration = false ∧ i.params = [] := by
  simp only [checkMain_eq_ok, lookup_tableOfItems, Option.map_eq_some_iff]
  have horigin : ∀ i : Tree.Item,
      (Signature.ofItem i).origin = .defined ↔ i.isDeclaration = false := fun i => by
    cases h : i.isDeclaration <;> simp [Signature.ofItem, h]
  constructor
  · rintro ⟨_, ⟨i, hi, rfl⟩, ho, ha⟩
    exact ⟨i, List.mem_of_find?_eq_some hi, by simpa using List.find?_some hi,
      (horigin i).mp ho, List.length_eq_zero_iff.mp ha⟩
  · rintro ⟨i, hi, hname, hd, hp⟩
    exact ⟨_, ⟨i, hname ▸ find?_of_mem hn hi, rfl⟩, (horigin i).mpr hd,
      List.length_eq_zero_iff.mpr hp⟩

end Looplet.Resolve

namespace Looplet

open Resolve in
/-- Resolution accepts the programs that keep the rules of names, and no others. -/
theorem exists_resolve_iff (p : Program) : (∃ b, resolve p = .ok b) ↔ p.Valid := by
  simp only [resolve_eq_ok]
  constructor
  · rintro ⟨b, hn, hm, fs, hfs, -⟩
    exact ⟨hn, (checkMain_tableOfItems hn).mp hm, (exists_definitions hn).mp ⟨fs, hfs⟩⟩
  · intro h
    obtain ⟨fs, hfs⟩ := (exists_definitions h.items).mpr h.bodies
    exact ⟨_, h.items, (checkMain_tableOfItems h.items).mpr h.main, fs, hfs, rfl⟩

end Looplet
