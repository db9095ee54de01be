import Looplet.Proofs.Bound.Meaning
import Looplet.Proofs.Lowering.Statement

/-!
# Lowered programs

Where functions have different names, each of them is lowered on its own (`functions_eq_ok`), and
its symbol leads to it (`function?_defined`). The declarations that can be lowered are those of
`print_int` with one parameter (`builtinsOf_eq_ok`).
-/

namespace Looplet.Lowering

open Code (Operand Instr Block)
open Draft

/-! ## Symbols -/

theorem functionSymbol_injective {a b : String}
    (h : Code.functionSymbol a = Code.functionSymbol b) : a = b :=
  (String.append_right_inj _).mp h

theorem functionSymbol_ne_printf (a : String) : Code.functionSymbol a ≠ Code.printf := by
  intro h
  have := congrArg String.toList h
  simp [Code.functionSymbol, Code.printf] at this

theorem functionSymbol_ne_entry (a : String) : Code.functionSymbol a ≠ Code.entrySymbol := by
  intro h
  have := congrArg String.toList h
  simp [Code.functionSymbol, Code.entrySymbol] at this

theorem functionSymbol_ne_printInt (a : String) :
    Code.functionSymbol a ≠ Builtin.printInt.symbol := by
  intro h
  have := congrArg String.toList h
  simp [Code.functionSymbol, Builtin.printInt] at this

/-! ## Declarations -/

theorem builtin_find?_eq_some {name : String} {b : Builtin} :
    Builtin.find? name = some b ↔ name = printName ∧ b = .printInt := by
  simp [Builtin.find?, Builtin.all, Builtin.printInt, printName, eq_comm]

theorem builtinOf_eq_ok {d : Bound.Declaration} {b : Builtin} :
    builtinOf d = .ok b ↔ (d.name = printName ∧ d.params.length = 1) ∧ b = .printInt := by
  unfold builtinOf
  cases h : Builtin.find? d.name with
  | none =>
    constructor
    · exact nofun
    · rintro ⟨⟨hn, -⟩, -⟩
      rw [builtin_find?_eq_some.mpr ⟨hn, rfl⟩] at h
      cases h
  | some b' =>
    obtain ⟨hn, rfl⟩ := builtin_find?_eq_some.mp h
    show (if 1 = d.params.length then _ else _) = _ ↔ _
    split
    · next hl => simp [hn, hl.symm, eq_comm]
    · next hl => simp [Ne.symm hl]

/-- The declarations that have a built-in all have the same one. -/
theorem builtinsOf_eq_ok {ds : List Bound.Declaration} {bs : List Builtin} :
    builtinsOf ds = .ok bs ↔ (∀ d ∈ ds, d.name = printName ∧ d.params.length = 1) ∧
      bs = ds.map fun _ => Builtin.printInt := by
  induction ds generalizing bs with
  | nil => simp [builtinsOf, eq_comm]
  | cons d ds ih =>
    simp only [builtinsOf, bind_eq_ok, pure_eq_ok, builtinOf_eq_ok, ih, List.forall_mem_cons,
      List.map_cons]
    constructor
    · rintro ⟨b, ⟨hd, rfl⟩, bs', ⟨hds, rfl⟩, rfl⟩
      exact ⟨⟨hd, hds⟩, rfl⟩
    · rintro ⟨⟨hd, hds⟩, rfl⟩
      exact ⟨_, ⟨hd, rfl⟩, _, ⟨hds, rfl⟩, rfl⟩

/-! ## Callees -/

theorem symbol_declared {ctx : Context} {name symbol : String} {ds : List Bound.Declaration}
    (hb : ctx.builtins = ds.map fun _ => .printInt) :
    ctx.symbol (.declared name) = .ok symbol ↔ ds ≠ [] ∧ name = printName ∧
      symbol = Builtin.printInt.symbol := by
  simp only [Context.symbol, hb]
  cases ds with
  | nil => simp
  | cons d ds =>
    by_cases hn : name = printName
    · simp [hn, Builtin.printInt, printName, eq_comm]
    · have : ∀ ds : List Bound.Declaration, (ds.map fun _ => Builtin.printInt).find?
          (fun b => decide (b.name = name)) = none := by
        intro ds
        rw [List.find?_eq_none]
        intro b hb
        obtain ⟨d, -, rfl⟩ := List.mem_map.mp hb
        simp only [decide_eq_true_eq]
        exact fun h => hn h.symm
      simp only [this, hn, false_and, and_false, reduceCtorEq]

theorem symbol_defined {ctx : Context} {name symbol : String} :
    ctx.symbol (.defined name) = .ok symbol ↔ name ∈ ctx.functions ∧
      symbol = Code.functionSymbol name := by
  simp only [Context.symbol]
  split
  · next h => simp [h, eq_comm]
  · next h => simp [h]

/-! ## Bodies -/

variable {names : List String} {builtins : List Builtin}

theorem initialValue_eq_ok {f : Bound.Function} {k : Nat} {o : Operand} :
    initialValue f.params f k = .ok o ↔ o = if k < f.params then .param k else .const 0 := by
  unfold initialValue
  split <;> simp [eq_comm]

theorem cells_cons {arity base k : Nat} {f : Bound.Function} {slot : String} {slots : List String}
    {is : List Instr} :
    cells arity f base k (slot :: slots) = .ok is ↔ ∃ o, initialValue arity f k = .ok o ∧
      ∃ more, cells arity f base (k + 1) slots = .ok more ∧
        is = .define (base + k) slot .alloca :: .store o (.value (base + k)) :: more := by
  simp only [cells, bind_eq_ok, pure_eq_ok]

theorem cells_straight {arity base : Nat} {f : Bound.Function} {slots : List String} {k : Nat}
    {is : List Instr} (h : cells arity f base k slots = .ok is) :
    ∀ i ∈ is, i.isTerminator = false := by
  induction slots generalizing k is with
  | nil =>
    cases h
    exact nofun
  | cons slot slots ih =>
    obtain ⟨o, -, more, hmore, rfl⟩ := cells_cons.mp h
    simp only [List.forall_mem_cons]
    exact ⟨rfl, rfl, ih hmore⟩

theorem live_enter (d : Draft) (slots : Nat) {is : List Instr}
    (h : ∀ i ∈ is, i.isTerminator = false) : (d.enter slots is).Live :=
  ⟨⟨"entry", is⟩, by simp [enter], h⟩

/-- A body is lowered after the cells of its slots, and ends with the return of zero. -/
theorem body_eq_ok {arity : Nat} {d d' : Draft} {f : Bound.Function} :
    body names builtins arity d f = .ok d' ↔ ∃ is, cells arity f d.next 0 f.slots = .ok is ∧
      ∃ d₁, stmts ⟨names, builtins, d.next, f.slots.length⟩ [] (d.enter f.slots.length is) f.body
          = .ok d₁ ∧ d' = d₁.push [.ret (.const 0)] := by
  simp only [body, bind_eq_ok]
  constructor
  · rintro ⟨is, his, d₁, h, hclose⟩
    rw [(stmts_grows f.body (live_enter d _ (cells_straight his)) h).1.close] at hclose
    cases hclose
    exact ⟨is, his, d₁, h, rfl⟩
  · rintro ⟨is, his, d₁, h, rfl⟩
    exact ⟨is, his, d₁, h, (stmts_grows f.body (live_enter d _ (cells_straight his)) h).1.close _⟩

/-! ## Functions -/

/-- A function is lowered to the blocks of its body. -/
def Lowered (names : List String) (builtins : List Builtin) (f : Bound.Function)
    (g : Code.Function) : Prop :=
  ∃ d, body names builtins f.params .empty f = .ok d ∧
    g = ⟨.internal, Code.functionSymbol f.name, f.params, d.blocks⟩

theorem Lowered.nonempty {f : Bound.Function} {g : Code.Function} (h : Lowered names builtins f g) :
    g.blocks.isEmpty = false := by
  obtain ⟨d, hd, rfl⟩ := h
  obtain ⟨is, his, d₁, h₁, rfl⟩ := body_eq_ok.mp hd
  have hlive := live_enter .empty f.slots.length (cells_straight his)
  have hlt := hlive.lt
  have hle := (stmts_grows f.body hlive h₁).2.length_le
  rw [List.isEmpty_eq_false_iff, ← List.length_pos_iff, length_push]
  omega

theorem namesakes_eq_nil {name : String} {fs : List Bound.Function}
    (h : name ∉ fs.map Bound.Function.name) : namesakes name fs = [] := by
  rw [namesakes, List.filter_eq_nil_iff]
  intro f hf hn
  exact h (List.mem_map.mpr ⟨f, hf, of_decide_eq_true hn⟩)

theorem function_eq_ok {before after : List Bound.Function} {f : Bound.Function}
    {g : Code.Function} (hb : f.name ∉ before.map Bound.Function.name)
    (ha : f.name ∉ after.map Bound.Function.name) :
    function names builtins before f after = .ok g ↔ Lowered names builtins f g := by
  have hone : ∀ d, bodies names builtins f.params .empty [f] = .ok d ↔
      body names builtins f.params .empty f = .ok d := by
    intro d
    simp only [bodies, bind_eq_ok, Except.ok.injEq, exists_eq_right]
  simp only [function, namesakes_eq_nil hb, namesakes_eq_nil ha, List.getLast?_nil,
    Option.getD_none, List.nil_append, bind_eq_ok, pure_eq_ok, hone]
  rfl

/-- Functions with different names are lowered one by one. -/
theorem functions_eq_ok (before : List Bound.Function) {fs : List Bound.Function}
    {gs : List Code.Function} (h : ((before ++ fs).map Bound.Function.name).Nodup) :
    functions names builtins before fs = .ok gs ↔ List.Forall₂ (Lowered names builtins) fs gs := by
  induction fs generalizing before gs with
  | nil => simp [functions, List.forall₂_nil_left_iff, eq_comm]
  | cons f fs ih =>
    have hnd := h
    rw [List.map_append, List.map_cons, List.nodup_append] at hnd
    obtain ⟨-, hfs, hdisjoint⟩ := hnd
    have hb : f.name ∉ before.map Bound.Function.name :=
      fun hmem => hdisjoint _ hmem _ (List.mem_cons_self ..) rfl
    have ha : f.name ∉ fs.map Bound.Function.name := (List.nodup_cons.mp hfs).1
    have hrest : (((before ++ [f]) ++ fs).map Bound.Function.name).Nodup := by
      rw [List.append_assoc]
      exact h
    simp only [functions, bind_eq_ok, pure_eq_ok, function_eq_ok hb ha, ih _ hrest,
      List.forall₂_cons_left_iff]
    constructor
    · rintro ⟨g, hg, gs', hgs, rfl⟩
      exact ⟨g, gs', hg, hgs, rfl⟩
    · rintro ⟨g, gs', hg, hgs, rfl⟩
      exact ⟨g, hg, gs', hgs, rfl⟩

/-! ## Programs -/

/-- The module of a program: built-ins, functions and the entry. -/
def moduleOf (builtins : List Builtin) (gs : List Code.Function) : Code.Module :=
  ⟨builtins.flatMap Builtin.globals, builtins.map Builtin.function ++ gs ++ [entry]⟩

theorem mem_moduleOf {builtins : List Builtin} {gs : List Code.Function} {g : Code.Function} :
    g ∈ (moduleOf builtins gs).functions ↔
      (∃ b ∈ builtins, b.function = g) ∨ g ∈ gs ∨ g = entry := by
  simp [moduleOf]

theorem lower_eq_ok {p : Bound.Program} {m : Code.Module}
    (h : (p.functions.map Bound.Function.name).Nodup) :
    lower p = .ok m ↔ ∃ bs, builtinsOf p.declarations = .ok bs ∧
      ∃ gs, List.Forall₂ (Lowered (p.functions.map Bound.Function.name) bs) p.functions gs ∧
        mainName ∈ p.functions.map Bound.Function.name ∧ m = moduleOf bs gs := by
  simp only [lower, bind_eq_ok, functions_eq_ok [] h]
  constructor
  · rintro ⟨bs, hbs, gs, hgs, hm⟩
    split at hm
    · next hmain => exact ⟨bs, hbs, gs, hgs, hmain, pure_eq_ok.mp hm⟩
    · cases hm
  · rintro ⟨bs, hbs, gs, hgs, hmain, rfl⟩
    exact ⟨bs, hbs, gs, hgs, by rw [if_pos hmain]; rfl⟩

theorem emitProgram_eq_ok {verify : Code.Module → Option String} {p : Bound.Program}
    {m : Code.Module} :
    emitProgram verify p = .ok m ↔ lower p = .ok m ∧ verify m = none := by
  simp only [emitProgram, bind_eq_ok]
  constructor
  · rintro ⟨m', hm', h⟩
    cases hv : verify m' with
    | none =>
      simp only [hv, pure_eq_ok] at h
      exact ⟨h ▸ hm', h ▸ hv⟩
    | some reason =>
      simp only [hv] at h
      cases h
  · rintro ⟨hm, hv⟩
    exact ⟨m, hm, by simp only [hv]; rfl⟩

/-! ## The functions of the module -/

/-- The test by which a module finds the function of a symbol. -/
abbrev bears (symbol : String) (g : Code.Function) : Bool :=
  decide (g.symbol = symbol) && !g.blocks.isEmpty

theorem find?_builtins (n : String) (ds : List Bound.Declaration) :
    ((ds.map fun _ => Builtin.printInt).map Builtin.function).find? (bears (Code.functionSymbol n))
      = none := by
  rw [List.find?_eq_none]
  intro g hg
  obtain ⟨b, hb, rfl⟩ := List.mem_map.mp hg
  obtain ⟨d, -, rfl⟩ := List.mem_map.mp hb
  simp [bears, Builtin.function, (functionSymbol_ne_printInt n).symm]

theorem find?_lowered {bs : List Builtin} {fs : List Bound.Function} {gs : List Code.Function}
    (h : List.Forall₂ (Lowered names bs) fs gs) {n : String} {f : Bound.Function}
    (hf : fs.find? (fun f => f.name = n) = some f) :
    ∃ g, gs.find? (bears (Code.functionSymbol n)) = some g ∧ Lowered names bs f g := by
  induction h with
  | nil => cases hf
  | @cons f' g' fs gs hl _ ih =>
    have hsymbol : g'.symbol = Code.functionSymbol f'.name := by
      obtain ⟨d, -, rfl⟩ := hl
      rfl
    by_cases hn : f'.name = n
    · simp only [List.find?_cons, hn, decide_true, Option.some.injEq] at hf
      subst hf
      refine ⟨g', ?_, hl⟩
      simp [bears, hsymbol, hn, hl.nonempty]
    · have hs : Code.functionSymbol f'.name ≠ Code.functionSymbol n :=
        fun h => hn (functionSymbol_injective h)
      simp only [List.find?_cons, hn, decide_false] at hf
      obtain ⟨g, hg, hlg⟩ := ih hf
      exact ⟨g, by simp [bears, hsymbol, hs]; exact hg, hlg⟩

variable {ds : List Bound.Declaration} {fs : List Bound.Function} {gs : List Code.Function}

/-- The symbol of a function leads to what the function is lowered to. -/
theorem function?_defined {bs : List Builtin} (hbs : builtinsOf ds = .ok bs)
    (h : List.Forall₂ (Lowered names bs) fs gs) {n : String} {f : Bound.Function}
    (hf : fs.find? (fun f => f.name = n) = some f) :
    ∃ g, (moduleOf bs gs).function? (Code.functionSymbol n) = some g ∧ Lowered names bs f g := by
  obtain ⟨g, hg, hl⟩ := find?_lowered h hf
  obtain ⟨-, rfl⟩ := builtinsOf_eq_ok.mp hbs
  refine ⟨g, ?_, hl⟩
  show List.find? (bears _) _ = _
  rw [moduleOf, List.find?_append, List.find?_append, find?_builtins, hg]
  rfl

/-- The symbol of the built-in leads to it, if there is a declaration. -/
theorem function?_printInt {d : Bound.Declaration} (hd : d ∈ ds) :
    (moduleOf (ds.map fun _ => .printInt) gs).function? Builtin.printInt.symbol
      = some Builtin.printInt.function := by
  obtain ⟨d', ds', rfl⟩ := List.exists_cons_of_ne_nil (List.ne_nil_of_mem hd)
  rfl

theorem printsWord_wordFormat {d : Bound.Declaration} (hd : d ∈ ds) :
    (moduleOf (ds.map fun _ => .printInt) gs).printsWord Builtin.wordFormat.name = true := by
  obtain ⟨d', ds', rfl⟩ := List.exists_cons_of_ne_nil (List.ne_nil_of_mem hd)
  rfl

/-- A process starts in the entry. -/
theorem function?_entry {bs : List Builtin} (hbs : builtinsOf ds = .ok bs)
    (h : List.Forall₂ (Lowered names bs) fs gs) :
    (moduleOf bs gs).function? Code.entrySymbol = some entry := by
  obtain ⟨-, rfl⟩ := builtinsOf_eq_ok.mp hbs
  have hbuiltin : ((ds.map fun _ => Builtin.printInt).map Builtin.function).find?
      (bears Code.entrySymbol) = none := by
    rw [List.find?_eq_none]
    intro g hg
    obtain ⟨b, hb, rfl⟩ := List.mem_map.mp hg
    obtain ⟨d, -, rfl⟩ := List.mem_map.mp hb
    decide
  have hfunction : gs.find? (bears Code.entrySymbol) = none := by
    clear hbuiltin hbs
    induction h with
    | nil => rfl
    | cons hl _ ih =>
      obtain ⟨d, -, rfl⟩ := hl
      simp only [List.find?_cons, bears, functionSymbol_ne_entry, decide_false, Bool.false_and]
      exact ih
  show List.find? (bears _) _ = _
  rw [moduleOf, List.find?_append, List.find?_append, hbuiltin, hfunction]
  rfl

end Looplet.Lowering
