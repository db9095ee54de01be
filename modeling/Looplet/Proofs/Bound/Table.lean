import Looplet.Proofs.Bound.References
import Looplet.Proofs.Bound.Scope

/-!
# Programs that are bound

A program is bound if its items have different names, `main` is a definition without parameters, and
every definition is bound (`resolve_eq_ok`). Then the functions are those of the definitions, in
order, a name leads to the function of its item, and calls match (`callsMatch`).
-/

namespace Looplet.Resolve

/-! ## The table -/

theorem lookup_eq_none {table : Table} {name : String} :
    table.lookup name = none ↔ name ∉ table.map Prod.fst := by
  rw [List.lookup_eq_none_iff]
  simp only [List.mem_map, not_exists, not_and, bne_iff_ne]
  exact forall₂_congr fun _ _ => ne_comm

theorem tableFrom_eq_ok {table t : Table} {items : List Tree.Item} :
    tableFrom table items = .ok t ↔ (items.map Tree.Item.name).Nodup ∧
      (∀ i ∈ items, i.name ∉ table.map Prod.fst) ∧
        t = table ++ items.map fun i => (i.name, Signature.ofItem i) := by
  induction items generalizing table with
  | nil => simp [tableFrom, eq_comm]
  | cons i items ih =>
    rw [tableFrom, List.map_cons, List.nodup_cons, List.forall_mem_cons]
    cases hi : table.lookup i.name with
    | some first =>
      have hmem : i.name ∈ table.map Prod.fst := by
        by_contra h
        rw [lookup_eq_none.mpr h] at hi
        cases hi
      simp [hmem]
    | none =>
      have hmem := lookup_eq_none.mp hi
      simp only [ih, List.map_append, List.map_cons, List.map_nil, List.mem_append,
        List.mem_singleton, not_or, List.append_assoc, List.singleton_append]
      constructor
      · rintro ⟨hn, hs, rfl⟩
        refine ⟨⟨fun h => ?_, hn⟩, ⟨hmem, fun j hj => (hs j hj).1⟩, rfl⟩
        obtain ⟨j, hj, hname⟩ := List.mem_map.mp h
        exact (hs j hj).2 hname
      · rintro ⟨⟨hi, hn⟩, ⟨-, hs⟩, rfl⟩
        exact ⟨hn, fun j hj => ⟨hs j hj, fun h => hi (h ▸ List.mem_map_of_mem hj)⟩, rfl⟩

/-- The table of items. -/
def tableOfItems (items : List Tree.Item) : Table :=
  items.map fun i => (i.name, Signature.ofItem i)

theorem tableOf_eq_ok {p : Program} {t : Table} :
    tableOf p = .ok t ↔ (p.items.map Tree.Item.name).Nodup ∧ t = tableOfItems p.items := by
  simp [tableOf, tableFrom_eq_ok, tableOfItems]

theorem lookup_tableOfItems (items : List Tree.Item) (name : String) :
    (tableOfItems items).lookup name
      = (items.find? fun i => i.name = name).map Signature.ofItem := by
  induction items with
  | nil => rfl
  | cons i items ih =>
    rw [tableOfItems, List.map_cons, List.lookup_cons, List.find?_cons]
    by_cases h : name = i.name
    · simp [h]
    · rw [beq_false_of_ne h, decide_eq_false (Ne.symm h)]
      exact ih

/-- Where names are different every item has its entry. -/
theorem find?_of_mem {items : List Tree.Item} (h : (items.map Tree.Item.name).Nodup)
    {i : Tree.Item} (hi : i ∈ items) : items.find? (fun j => j.name = i.name) = some i := by
  induction items with
  | nil => cases hi
  | cons j items ih =>
    rw [List.map_cons, List.nodup_cons] at h
    rw [List.find?_cons]
    rcases List.mem_cons.mp hi with rfl | hi
    · simp
    · have hne : j.name ≠ i.name := fun hn => h.1 (hn ▸ List.mem_map_of_mem hi)
      rw [decide_eq_false hne]
      exact ih h.2 hi

theorem checkMain_eq_ok {table : Table} :
    checkMain table = .ok () ↔
      ∃ s, table.lookup "main" = some s ∧ s.origin = .defined ∧ s.arity = 0 := by
  unfold checkMain
  cases table.lookup "main" with
  | none => simp
  | some s =>
    cases ho : s.origin with
    | declared => simp [ho]
    | defined => by_cases ha : s.arity = 0 <;> simp [ho, ha]

/-! ## Definitions -/

/-- An item is a definition that is bound to the given function. -/
def Defines (table : Table) (i : Tree.Item) (f : Bound.Function) : Prop :=
  ∃ body, i.body? = some body ∧ definition table i body = .ok f

theorem Defines.name {table : Table} {i : Tree.Item} {f : Bound.Function} (h : Defines table i f) :
    f.name = i.name := by
  obtain ⟨body, -, hf⟩ := h
  obtain ⟨-, rs, -, rfl⟩ := definition_eq_ok.mp hf
  rfl

theorem Defines.params {table : Table} {i : Tree.Item} {f : Bound.Function}
    (h : Defines table i f) : f.params = i.params.length := by
  obtain ⟨body, -, hf⟩ := h
  obtain ⟨-, rs, -, rfl⟩ := definition_eq_ok.mp hf
  rfl

theorem Defines.signature {table : Table} {i : Tree.Item} {f : Bound.Function}
    (h : Defines table i f) : Signature.ofItem i = ⟨.defined, f.params, i.position⟩ := by
  have hp := h.params
  obtain ⟨body, hb, -⟩ := h
  simp [Signature.ofItem, Tree.Item.isDeclaration, hb, hp]

/-- Definitions are bound one by one, declarations are skipped. -/
theorem definitions_eq_ok {table : Table} {items : List Tree.Item} {fs : List Bound.Function} :
    definitions table items = .ok fs ↔
      List.Forall₂ (Defines table) (items.filter fun i => !i.isDeclaration) fs := by
  induction items generalizing fs with
  | nil => simp [definitions, eq_comm]
  | cons i items ih =>
    rw [definitions]
    cases hb : i.body? with
    | none =>
      simp only [ih]
      rw [List.filter_cons_of_neg (by simp [Tree.Item.isDeclaration, hb])]
    | some body =>
      rw [List.filter_cons_of_pos (by simp [Tree.Item.isDeclaration, hb])]
      simp only [bind_eq_ok, pure_eq_ok, ih, List.forall₂_cons_left_iff, Defines, hb,
        Option.some.injEq, exists_eq_left']
      constructor
      · rintro ⟨f, hf, fs', hfs, rfl⟩
        exact ⟨f, fs', hf, hfs, rfl⟩
      · rintro ⟨f, fs', hf, hfs, rfl⟩
        exact ⟨f, hf, fs', hfs, rfl⟩

theorem map_name_of_forall₂ {table : Table} {items : List Tree.Item} {fs : List Bound.Function}
    (h : List.Forall₂ (Defines table) items fs) :
    fs.map Bound.Function.name = items.map Tree.Item.name := by
  induction h with
  | nil => rfl
  | cons hd _ ih => rw [List.map_cons, List.map_cons, hd.name, ih]

/-- A name leads to the function that its item defines. -/
theorem find?_definitions {table : Table} {items : List Tree.Item} {fs : List Bound.Function}
    (h : definitions table items = .ok fs) {name : String} {i : Tree.Item} {body : List Tree.Stmt}
    (hi : items.find? (fun i => i.name = name) = some i) (hb : i.body? = some body) :
    ∃ f, fs.find? (fun f => f.name = name) = some f ∧ definition table i body = .ok f := by
  induction items generalizing fs with
  | nil => cases hi
  | cons j items ih =>
    rw [definitions] at h
    rw [List.find?_cons] at hi
    by_cases hn : j.name = name
    · simp only [hn, decide_true, Option.some.injEq] at hi
      subst hi
      simp only [hb, bind_eq_ok, pure_eq_ok] at h
      obtain ⟨f, hf, fs', -, rfl⟩ := h
      have hname : f.name = j.name := Defines.name ⟨body, hb, hf⟩
      exact ⟨f, by simp [hname, hn], hf⟩
    · simp only [hn, decide_false] at hi
      cases hj : j.body? with
      | none =>
        simp only [hj] at h
        exact ih h hi
      | some body' =>
        simp only [hj, bind_eq_ok, pure_eq_ok] at h
        obtain ⟨f, hf, fs', hfs, rfl⟩ := h
        have hname : f.name = j.name := Defines.name ⟨body', hj, hf⟩
        obtain ⟨g, hg, hd⟩ := ih hfs hi
        exact ⟨g, by simp [hname, hn]; exact hg, hd⟩

theorem resolve_eq_ok {p : Program} {b : Bound.Program} :
    resolve p = .ok b ↔ (p.items.map Tree.Item.name).Nodup ∧
      checkMain (tableOfItems p.items) = .ok () ∧
      ∃ fs, definitions (tableOfItems p.items) p.items = .ok fs ∧
        b = ⟨fs, declarations p.items⟩ := by
  simp only [resolve, bind_eq_ok, pure_eq_ok, tableOf_eq_ok]
  constructor
  · rintro ⟨t, ⟨hn, rfl⟩, _, hm, fs, hfs, rfl⟩
    exact ⟨hn, hm, fs, hfs, rfl⟩
  · rintro ⟨hn, hm, fs, hfs, rfl⟩
    exact ⟨_, ⟨hn, rfl⟩, _, hm, fs, hfs, rfl⟩

/-! ## Calls -/

/-- A call of an item as the table has it: a callee, and as many arguments as it has parameters. -/
def Table.Has (table : Table) (call : Bound.Callee × Nat) : Prop :=
  ∃ name s, table.lookup name = some s ∧ call = (s.callee name, s.arity)

mutual

theorem expr_calls {table : Table} {slots : List String} : (e : Tree.Expr) → {b : Bound.Expr} →
    expr table slots e = .ok b → ∀ c ∈ b.calls, table.Has c
  | .int v, b, h => by
    cases h
    exact nofun
  | .var x p, b, h => by
    obtain ⟨slot, -, rfl⟩ := expr_var.mp h
    exact nofun
  | .binary op l r, b, h => by
    obtain ⟨bl, hl, br, hr, rfl⟩ := expr_binary.mp h
    rw [Bound.Expr.calls, List.forall_mem_append]
    exact ⟨expr_calls l hl, expr_calls r hr⟩
  | .call f args p, b, h => by
    obtain ⟨s, hs, ha, bs, hbs, rfl⟩ := expr_call.mp h
    rw [Bound.Expr.calls, List.forall_mem_cons]
    exact ⟨⟨f, s, hs, by rw [length_exprs hbs, ha]⟩, exprs_calls args hbs⟩

theorem exprs_calls {table : Table} {slots : List String} : (es : List Tree.Expr) →
    {bs : List Bound.Expr} → exprs table slots es = .ok bs →
    ∀ c ∈ Bound.Expr.callsOfAll bs, table.Has c
  | [], bs, h => by
    cases h
    exact nofun
  | e :: es, bs, h => by
    obtain ⟨b, hb, bs', hbs, rfl⟩ := exprs_cons.mp h
    rw [Bound.Expr.callsOfAll, List.forall_mem_append]
    exact ⟨expr_calls e hb, exprs_calls es hbs⟩

end

mutual

theorem stmt_calls {table : Table} {loops : List OpenLoop} {scope : Scope} : (s : Tree.Stmt) →
    {r : Bound.Stmt × Scope} → stmt table loops scope s = .ok r → ∀ c ∈ r.1.calls, table.Has c
  | .assign x e p, r, h => by
    obtain ⟨b, hb, rfl⟩ := stmt_assign.mp h
    exact expr_calls e hb
  | .ifThen c body, r, h => by
    obtain ⟨bc, hc, rb, hb, rfl⟩ := stmt_ifThen.mp h
    rw [Bound.Stmt.calls, List.forall_mem_append, List.forall_mem_append]
    exact ⟨expr_calls c hc, stmts_calls body hb, nofun⟩
  | .ifElse c t e, r, h => by
    obtain ⟨bc, hc, rt, ht, re, he, rfl⟩ := stmt_ifElse.mp h
    rw [Bound.Stmt.calls, List.forall_mem_append, List.forall_mem_append]
    exact ⟨expr_calls c hc, stmts_calls t ht, stmts_calls e he⟩
  | .loop label? c body p, r, h => by
    obtain ⟨-, bc, hc, rb, hb, rfl⟩ := stmt_loop.mp h
    rw [Bound.Stmt.calls, List.forall_mem_append]
    exact ⟨expr_calls c hc, stmts_calls body hb⟩
  | .jump j label? p, r, h => by
    obtain ⟨id, -, rfl⟩ := stmt_jump.mp h
    exact nofun
  | .expr e, r, h => by
    obtain ⟨b, hb, rfl⟩ := stmt_expr.mp h
    exact expr_calls e hb

theorem stmts_calls {table : Table} {loops : List OpenLoop} {scope : Scope} :
    (ss : List Tree.Stmt) → {rs : List Bound.Stmt × Scope} →
    stmts table loops scope ss = .ok rs → ∀ c ∈ Bound.Stmt.callsOfAll rs.1, table.Has c
  | [], rs, h => by
    cases h
    exact nofun
  | s :: ss, rs, h => by
    obtain ⟨r, hr, rs', hrs, rfl⟩ := stmts_cons.mp h
    have hs := stmts_calls ss hrs
    rw [Bound.Stmt.callsOfAll, List.forall_mem_append]
    exact ⟨stmt_calls s hr, hs⟩

end

variable {p : Program} {b : Bound.Program}

/-- An item that the table has is declared or defined with the number of parameters that the table
says. -/
theorem accepts_of_has (h : resolve p = .ok b) {c : Bound.Callee × Nat}
    (hc : (tableOfItems p.items).Has c) : b.Accepts c.2 c.1 := by
  obtain ⟨hn, -, fs, hfs, rfl⟩ := resolve_eq_ok.mp h
  obtain ⟨name, s, hs, rfl⟩ := hc
  have hitem : ∀ i ∈ p.items, i.name = name → s = Signature.ofItem i := by
    rintro i hi rfl
    rw [lookup_tableOfItems, find?_of_mem hn hi] at hs
    exact (Option.some.inj hs).symm
  cases ho : s.origin with
  | declared =>
    simp only [Signature.callee, ho]
    intro d hd hname
    obtain ⟨i, hi, rfl⟩ := List.mem_map.mp hd
    rw [hitem i (List.mem_filter.mp hi).1 hname]
    rfl
  | defined =>
    simp only [Signature.callee, ho]
    intro f hf hname
    obtain ⟨i, hi, hd⟩ := exists_of_mem_right (definitions_eq_ok.mp hfs) hf
    rw [hitem i (List.mem_filter.mp hi).1 (hd.name.symm.trans hname), hd.signature]

theorem nodup_functions (h : resolve p = .ok b) : (b.functions.map Bound.Function.name).Nodup := by
  obtain ⟨hn, -, fs, hfs, rfl⟩ := resolve_eq_ok.mp h
  show (fs.map Bound.Function.name).Nodup
  rw [map_name_of_forall₂ (definitions_eq_ok.mp hfs)]
  exact hn.sublist (List.filter_sublist.map _)

theorem callsMatch (h : resolve p = .ok b) : b.CallsMatch := by
  intro f hf c hc
  obtain ⟨-, -, fs, hfs, hb⟩ := resolve_eq_ok.mp h
  obtain ⟨i, -, body, -, hd⟩ := exists_of_mem_right (definitions_eq_ok.mp hfs) (by
    rw [hb] at hf
    exact hf)
  obtain ⟨-, rs, hrs, rfl⟩ := definition_eq_ok.mp hd
  exact accepts_of_has h (stmts_calls body hrs c hc)

theorem accepts_main (h : resolve p = .ok b) : b.Accepts 0 (.defined "main") := by
  obtain ⟨-, hm, -⟩ := resolve_eq_ok.mp h
  obtain ⟨s, hs, ho, ha⟩ := checkMain_eq_ok.mp hm
  have := accepts_of_has h ⟨"main", s, hs, rfl⟩
  rw [Signature.callee, ho, ha] at this
  exact this

end Looplet.Resolve
