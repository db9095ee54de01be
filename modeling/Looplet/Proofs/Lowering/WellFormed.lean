import Looplet.Proofs.Lowering.Program
import Looplet.Proofs.Lowering.Tidy
import Mathlib.Data.List.Nodup

/-!
# Lowered programs are well-formed

    lower p = .ok m → m.WellFormed           (wellFormed_of_lower)

for programs made by any means, if names are different, calls match and `main` takes no arguments.
The first block of a function makes the cells. It dominates all others, so outside of it the cells
may be used everywhere, and inside of it after they are made. So a verifier finds no fault as long
as it accepts the well-formed modules that programs are lowered to (`emitProgram_eq_lower`).
-/

namespace Looplet.Lowering

open Code (Operand Instr Block Checks numbers)
open Draft

variable {m : Code.Module} {known : Nat → Prop}

/-! ## Functions -/

theorem numbers_cells {arity base : Nat} {f : Bound.Function} {slots : List String} {k : Nat}
    {is : List Instr} (h : cells arity f base k slots = .ok is) :
    numbers is = List.range' (base + k) slots.length := by
  induction slots generalizing k is with
  | nil =>
    cases h
    rfl
  | cons slot slots ih =>
    obtain ⟨o, -, more, hmore, rfl⟩ := cells_cons.mp h
    rw [List.length_cons, List.range'_succ, Nat.add_assoc, ← ih hmore]
    rfl

theorem fits_initialValue {f : Bound.Function} {k : Nat} {o : Operand}
    (h : initialValue f.params f k = .ok o) : o.Fits m f.params known := by
  obtain rfl := initialValue_eq_ok.mp h
  split
  · next hk => exact hk
  · trivial

theorem checks_cells {base : Nat} {f : Bound.Function} {slots : List String} {k : Nat}
    {is : List Instr} (h : cells f.params f base k slots = .ok is) :
    Checks m f.params known is := by
  induction slots generalizing k is known with
  | nil =>
    cases h
    trivial
  | cons slot slots ih =>
    obtain ⟨o, ho, more, hmore, rfl⟩ := cells_cons.mp h
    refine ⟨⟨nofun, nofun⟩, ⟨fun o' ho' => ?_, nofun⟩, ih hmore⟩
    rcases List.mem_cons.mp ho' with rfl | ho'
    · exact fits_initialValue ho
    · obtain rfl := List.mem_singleton.mp ho'
      exact .inr rfl

/-- A block of its cells, and nothing else. -/
theorem tidy_enter {f : Bound.Function} {names : List String} {builtins : List Builtin}
    {is : List Instr} (h : cells f.params f 0 0 f.slots = .ok is) :
    (Draft.enter .empty f.slots.length is).Tidy m f.params
      (Context.IsCell ⟨names, builtins, 0, f.slots.length⟩) [] where
  ended i b hb := by
    have hi : i < 1 := (List.getElem?_eq_some_iff.mp hb).1
    exact .inr (.inl (Nat.lt_one_iff.mp hi))
  checks b hb := by
    obtain rfl := List.mem_singleton.mp hb
    exact checks_cells h
  targets b hb t ht := by
    obtain rfl := List.mem_singleton.mp hb
    obtain ⟨i, hi, ht⟩ := List.mem_flatMap.mp ht
    rw [Code.targets_of_not_terminator (cells_straight h i hi)] at ht
    cases ht
  nodup := by
    simp only [enter, Draft.empty, List.nil_append, List.flatMap_cons, List.flatMap_nil,
      List.append_nil, numbers_cells h]
    exact List.nodup_range'
  below b hb n hn := by
    obtain rfl := List.mem_singleton.mp hb
    rw [numbers_cells h, List.mem_range'_1] at hn
    simpa [enter, Draft.empty] using hn.2

/-- A body is tidy after its return, if its calls pass what the functions of the module take. -/
theorem tidy_body {f : Bound.Function} {names : List String} {builtins : List Builtin}
    {is : List Instr} {d₁ : Draft} (his : cells f.params f 0 0 f.slots = .ok is)
    (h₁ : stmts ⟨names, builtins, 0, f.slots.length⟩ [] (Draft.enter .empty f.slots.length is)
      f.body = .ok d₁)
    (hcalls : ∀ c ∈ Bound.Stmt.callsOfAll f.body,
      Context.Calls ⟨names, builtins, 0, f.slots.length⟩ m c) :
    (d₁.push [.ret (.const 0)]).Tidy m f.params
      (Context.IsCell ⟨names, builtins, 0, f.slots.length⟩) [] := by
  have hlive := live_enter .empty f.slots.length (cells_straight his)
  have htidy := stmts_tidy f.body h₁ hlive nofun hcalls (tidy_enter his)
  exact htidy.push_one (stmts_grows f.body hlive h₁).1.lt
    (fun b _ => ⟨by simp [Instr.operands, Operand.Fits], nofun⟩) nofun rfl

/-- A lowered function is well-formed, if its calls pass what the functions of the module take. -/
theorem Lowered.wellFormed {names : List String} {builtins : List Builtin} {f : Bound.Function}
    {g : Code.Function} (h : Lowered names builtins f g)
    (hcalls : ∀ c ∈ Bound.Stmt.callsOfAll f.body,
      Context.Calls ⟨names, builtins, 0, f.slots.length⟩ m c) : g.WellFormed m := by
  obtain ⟨d, hd, rfl⟩ := h
  obtain ⟨is, his, d₁, h₁, rfl⟩ := body_eq_ok.mp hd
  have hlive := live_enter .empty f.slots.length (cells_straight his)
  obtain ⟨hlive₁, hgrows⟩ := stmts_grows f.body hlive h₁
  have htidy := tidy_body his h₁ hcalls
  -- the first block still begins with the cells
  obtain ⟨more, hfirst⟩ := (hgrows.blocks.trans (extends_push d₁ [.ret (.const 0)])) 0 _ rfl
  have hcells : ∀ n, Context.IsCell ⟨names, builtins, 0, f.slots.length⟩ n → n ∈ numbers is := by
    intro n hn
    rw [numbers_cells his, List.mem_range'_1]
    exact ⟨hn.1, hn.2⟩
  refine ⟨fun b hb => ?_, htidy.targets, ?_, htidy.nodup⟩
  · obtain ⟨i, hi⟩ := List.mem_iff_getElem?.mp hb
    rcases htidy.ended i b hi with he | rfl | hp
    · exact he
    · exact hlive₁.ended_push rfl hi
    · cases hp
  · intro k b hb before i rest hi
    have hchecks := htidy.checks b (List.mem_of_getElem? hb)
    by_cases hk : k = 0
    · subst hk
      obtain rfl : b = ⟨"entry", is ++ more⟩ := Option.some.inj (hb.symm.trans hfirst)
      have hstart : Checks m f.params (fun _ => False) (is ++ more) := by
        refine Checks.append.mpr ⟨checks_cells his, (Checks.append.mp hchecks).2.mono fun n => ?_⟩
        rintro (hn | hn)
        · exact .inr (hcells n hn)
        · exact .inr hn
      refine (hstart.fits hi).mono fun n => ?_
      rintro (hn | hn)
      · exact hn.elim
      · exact .inl hn
    · refine (hchecks.fits hi).mono fun n => ?_
      rintro (hn | hn)
      · refine .inr ⟨0, _, Ne.symm hk, hfirst, ?_, Code.dominates_zero _ k⟩
        rw [Code.numbers_append]
        exact List.mem_append_left _ (hcells n hn)
      · exact .inl hn

theorem ended_call {name callee : String} {args : List Operand} :
    Block.Ended ⟨name, [.define 0 "" (.call callee args), .ret (.const 0)]⟩ :=
  ⟨[.define 0 "" (.call callee args)], .ret (.const 0), rfl, rfl, by simp [Instr.isTerminator]⟩

/-- A function of one block that makes a call and gives zero. -/
theorem wellFormed_call {visibility : Code.Visibility} {symbol name callee : String} {arity : Nat}
    {args : List Operand} (hargs : ∀ o ∈ args, o.Fits m arity fun _ => False)
    (hcall : m.Takes callee args.length) :
    Code.Function.WellFormed m ⟨visibility, symbol, arity,
      [⟨name, [.define 0 "" (.call callee args), .ret (.const 0)]⟩]⟩ where
  ended b hb := by
    obtain rfl := List.mem_singleton.mp hb
    exact ended_call
  targets b hb t ht := by
    obtain rfl := List.mem_singleton.mp hb
    cases ht
  fits k b hb before i rest hi := by
    obtain rfl := List.mem_singleton.mp (List.mem_of_getElem? hb)
    have hchecks : Checks m arity (fun _ => False)
        [.define 0 "" (.call callee args), .ret (.const 0)] := by
      refine ⟨⟨hargs, fun s n hs => ?_⟩,
        ⟨by simp [Instr.operands, Operand.Fits], fun s n hs => ?_⟩, trivial⟩
      · obtain ⟨rfl, rfl⟩ : callee = s ∧ args.length = n := by simpa [Instr.call?] using hs
        exact hcall
      · cases hs
    refine (hchecks.fits hi).mono fun n => ?_
    rintro (hn | hn)
    · exact hn.elim
    · exact .inl hn
  nodup := List.nodup_singleton 0

theorem wellFormed_printInt (h : Builtin.wordFormat ∈ m.globals) :
    Builtin.printInt.function.WellFormed m := by
  refine wellFormed_call (fun o ho => ?_) Nat.two_pos
  rcases List.mem_cons.mp ho with rfl | ho
  · exact ⟨_, h, rfl⟩
  · obtain rfl := List.mem_singleton.mp ho
    exact Nat.one_pos

theorem wellFormed_entry (h : m.Takes (Code.functionSymbol mainName) 0) : entry.WellFormed m :=
  wellFormed_call nofun h

/-! ## Programs -/

variable {p : Bound.Program} {builtins : List Builtin} {gs : List Code.Function}

/-- What a call may pass is what the function of its symbol takes. -/
theorem takes_of_accepts (hds : builtinsOf p.declarations = .ok builtins)
    (hgs : List.Forall₂ (Lowered (p.functions.map Bound.Function.name) builtins) p.functions gs)
    (base slots : Nat) {c : Bound.Callee × Nat} (hc : p.Accepts c.2 c.1) :
    Context.Calls ⟨p.functions.map Bound.Function.name, builtins, base, slots⟩
      (moduleOf builtins gs) c := by
  intro symbol hs
  obtain ⟨callee, n⟩ := c
  cases callee with
  | declared name =>
    obtain ⟨hd, rfl⟩ := builtinsOf_eq_ok.mp hds
    obtain ⟨hne, rfl, rfl⟩ := (symbol_declared rfl).mp hs
    obtain ⟨d, hmem⟩ := List.exists_mem_of_ne_nil _ hne
    have hn : n = 1 := (hc d hmem (hd d hmem).1).symm.trans (hd d hmem).2
    refine (if_neg (by decide)).mpr ⟨Builtin.printInt.function, ?_, rfl, hn.symm⟩
    exact mem_moduleOf.mpr (.inl ⟨_, List.mem_map.mpr ⟨d, hmem, rfl⟩, rfl⟩)
  | defined name =>
    obtain ⟨hname, rfl⟩ := symbol_defined.mp hs
    obtain ⟨f, hf, rfl⟩ := List.mem_map.mp hname
    obtain ⟨g, hg, d, -, rfl⟩ := exists_of_mem_left hgs hf
    exact (if_neg (functionSymbol_ne_printf _)).mpr
      ⟨_, mem_moduleOf.mpr (.inr (.inl hg)), rfl, hc f hf rfl⟩

theorem map_symbol {names : List String} {fs : List Bound.Function}
    (h : List.Forall₂ (Lowered names builtins) fs gs) :
    gs.map Code.Function.symbol = (fs.map Bound.Function.name).map Code.functionSymbol := by
  induction h with
  | nil => rfl
  | cons hl _ ih =>
    obtain ⟨d, -, rfl⟩ := hl
    rw [List.map_cons, List.map_cons, List.map_cons, ih]

theorem nodup_symbols {ds : List Bound.Declaration} {fs : List Bound.Function}
    (hds : builtinsOf ds = .ok builtins) (hd : (ds.map Bound.Declaration.name).Nodup)
    (hf : (fs.map Bound.Function.name).Nodup) {names : List String}
    (hgs : List.Forall₂ (Lowered names builtins) fs gs) :
    ((moduleOf builtins gs).functions.map Code.Function.symbol).Nodup := by
  obtain ⟨hnames, rfl⟩ := builtinsOf_eq_ok.mp hds
  have hbuiltin : ((ds.map fun _ => Builtin.printInt).map Builtin.function).map
      Code.Function.symbol = ds.map fun _ => Builtin.printInt.symbol := by
    simp only [List.map_map]
    rfl
  have hsame : ds.map Bound.Declaration.name = ds.map fun _ => printName :=
    List.map_congr_left fun d hd => (hnames d hd).1
  have hone : (ds.map fun _ => Builtin.printInt.symbol).Nodup := by
    rw [hsame, List.map_const', List.nodup_replicate] at hd
    rw [List.map_const', List.nodup_replicate]
    exact hd
  have hfunctions : ((fs.map Bound.Function.name).map Code.functionSymbol).Nodup :=
    hf.map fun _ _ => functionSymbol_injective
  rw [moduleOf, List.map_append, List.map_append, hbuiltin, map_symbol hgs]
  refine List.nodup_append.mpr ⟨List.nodup_append.mpr ⟨hone, hfunctions, ?_⟩, by simp, ?_⟩
  · rintro a ha b hb rfl
    obtain ⟨d, -, rfl⟩ := List.mem_map.mp ha
    obtain ⟨n, -, hn⟩ := List.mem_map.mp hb
    exact functionSymbol_ne_printInt n hn
  · rintro a ha b hb rfl
    obtain rfl : a = Code.entrySymbol := by simpa [entry] using hb
    rcases List.mem_append.mp ha with ha | ha
    · obtain ⟨d, -, hd⟩ := List.mem_map.mp ha
      exact absurd hd (by decide)
    · obtain ⟨n, -, hn⟩ := List.mem_map.mp ha
      exact functionSymbol_ne_entry n hn

section Program

variable {p : Bound.Program}

/-- A lowered program is well-formed, whoever made it. -/
theorem wellFormed_of_lower {m : Code.Module}
    (hfunctions : (p.functions.map Bound.Function.name).Nodup)
    (hdeclarations : (p.declarations.map Bound.Declaration.name).Nodup) (hcalls : p.CallsMatch)
    (hmain : p.Accepts 0 (.defined mainName)) (hm : lower p = .ok m) : m.WellFormed := by
  obtain ⟨bs, hbs, gs, hgs, hname, rfl⟩ := (lower_eq_ok hfunctions).mp hm
  refine ⟨fun g hg => ?_, nodup_symbols hbs hdeclarations hfunctions hgs⟩
  rcases mem_moduleOf.mp hg with ⟨b, hb, rfl⟩ | hg | rfl
  · obtain ⟨-, rfl⟩ := builtinsOf_eq_ok.mp hbs
    obtain ⟨d, hd, rfl⟩ := List.mem_map.mp hb
    exact wellFormed_printInt (List.mem_flatMap.mpr ⟨_, hb, List.mem_singleton_self _⟩)
  · obtain ⟨f, hf, hl⟩ := exists_of_mem_right hgs hg
    exact hl.wellFormed fun c hc => takes_of_accepts hbs hgs _ _ (hcalls f hf c hc)
  · exact wellFormed_entry (takes_of_accepts hbs hgs 0 0 (c := (.defined mainName, 0)) hmain _
      (symbol_defined.mpr ⟨hname, rfl⟩))

/-- A verifier accepts what programs are lowered to, where that is well-formed. It may think of
other modules what it likes. -/
def AcceptsLowered (verify : Code.Module → Option String) : Prop :=
  ∀ (p : Bound.Program) (m : Code.Module), lower p = .ok m → m.WellFormed → verify m = none

/-- A verifier that accepts what programs are lowered to has nothing to say. -/
theorem emitProgram_eq_lower {verify : Code.Module → Option String}
    (hverify : AcceptsLowered verify)
    (hfunctions : (p.functions.map Bound.Function.name).Nodup)
    (hdeclarations : (p.declarations.map Bound.Declaration.name).Nodup) (hcalls : p.CallsMatch)
    (hmain : p.Accepts 0 (.defined mainName)) : emitProgram verify p = lower p := by
  cases hm : lower p with
  | error r =>
    rw [emitProgram, hm]
    rfl
  | ok m =>
    have hwell := wellFormed_of_lower hfunctions hdeclarations hcalls hmain hm
    exact emitProgram_eq_ok.mpr ⟨hm, hverify p m hm hwell⟩

end Program

end Looplet.Lowering
