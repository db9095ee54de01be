import Looplet.Proofs.Emission
import Looplet.Proofs.Lowering.Additions

/-!
# How lowered modules are built

    bindSource src = .ok b → builtinsOf b.declarations = .ok builtins →
      ∃ m, lower b = .ok m ∧ Structured b m                        (exists_structured)

A lowered module is stricter than well-formed modules need to be (`Structured`): but for the cells
of the slots, which the first block makes before all else, a value is used in no other block than
its own; nothing goes to a dead block; every function of the program gives zero wherever it returns.
-/

namespace Looplet

open Code (Operand Instr Block Module numbers)

/-! ## Structured modules -/

/-- An operand is at hand in a block of `f`, after the instructions `before` of the block. -/
def AtHand (m : Module) (f : Code.Function) (before : List Instr) : Operand → Prop
  | .value n => n ∈ numbers before ∨
    ∃ entry, f.blocks.head? = some entry ∧ ∃ hint, .define n hint .alloca ∈ entry.instrs
  | .param k => k < f.arity
  | .const _ => True
  | .global name => name = Builtin.wordFormat.name ∧ Builtin.wordFormat ∈ m.globals

/-- A call of a function of the module with as many arguments as it has parameters, or of `printf`
with the format and one word. -/
def Serves (m : Module) (symbol : String) (args : List Operand) : Prop :=
  (symbol = Code.printf ∧ ∃ w, args = [.global Builtin.wordFormat.name, w]) ∨
    ∃ f ∈ m.functions, f.symbol = symbol ∧ f.arity = args.length

/-- What holds of every function of a lowered module. -/
structure StructuredFunction (m : Module) (f : Code.Function) : Prop where
  ended : ∀ b ∈ f.blocks, b.Ended
  targets : ∀ b ∈ f.blocks, ∀ t ∈ b.targets,
    0 < t ∧ ∃ c, f.blocks[t]? = some c ∧ c.name ≠ "dead"
  operands : ∀ b ∈ f.blocks, ∀ before i after, b.instrs = before ++ i :: after →
    ∀ o ∈ i.operands, AtHand m f before o
  calls : ∀ b ∈ f.blocks, ∀ n hint symbol args,
    .define n hint (.call symbol args) ∈ b.instrs → Serves m symbol args
  nodup : (f.blocks.flatMap fun b => numbers b.instrs).Nodup

/-- Code that makes a cell for every slot, in order, each filled at once with its argument or with
zero. -/
def slotCode (f : Bound.Function) : List Instr :=
  f.slots.zipIdx.flatMap fun (name, k) =>
    [.define k name .alloca, .store (if k < f.params then .param k else .const 0) (.value k)]

/-- Code that makes no cell. -/
def MakesNoCell (is : List Instr) : Prop :=
  ∀ n hint, .define n hint .alloca ∉ is

/-- A function of the program and its function in the module. -/
structure LaidOut (f : Bound.Function) (g : Code.Function) : Prop where
  symbol : g.symbol = Code.functionSymbol f.name
  arity : g.arity = f.params
  cells : ∃ rest more, g.blocks = ⟨"entry", slotCode f ++ rest⟩ :: more ∧ MakesNoCell rest ∧
    ∀ b ∈ more, MakesNoCell b.instrs
  returns : ∀ b ∈ g.blocks, ∀ w, .ret w ∈ b.instrs → w = .const 0

/-- A program and its module. -/
structure Structured (p : Bound.Program) (m : Module) : Prop where
  symbols : (Code.printf :: m.functions.map Code.Function.symbol).Nodup
  functions : ∀ g ∈ m.functions, StructuredFunction m g
  bodies : ∀ f ∈ p.functions, ∃ g ∈ m.functions, LaidOut f g
  others : ∀ g ∈ m.functions,
    (∃ f ∈ p.functions, LaidOut f g) ∨ ∀ b ∈ g.blocks, MakesNoCell b.instrs

end Looplet

namespace Looplet.Lowering

open Code (Operand Instr Block Module numbers)
open Draft

variable {m : Module} {names : List String} {builtins : List Builtin} {f : Bound.Function}
  {g : Code.Function}

/-! ## Functions of the program -/

theorem cells_eq_slotCode {slots : List String} {k : Nat} {is : List Instr}
    (h : cells f.params f 0 k slots = .ok is) :
    is = (slots.zipIdx k).flatMap fun (name, k) =>
      [.define k name .alloca,
        .store (if k < f.params then .param k else .const 0) (.value k)] := by
  induction slots generalizing k is with
  | nil =>
    cases h
    rfl
  | cons slot slots ih =>
    obtain ⟨o, ho, more, hmore, rfl⟩ := cells_cons.mp h
    rw [List.zipIdx_cons, List.flatMap_cons, ← ih hmore, initialValue_eq_ok.mp ho, Nat.zero_add]
    rfl

/-- An instruction that makes or fills the cell of a slot. -/
theorem exists_slot_of_mem {i : Instr} (h : i ∈ slotCode f) :
    ∃ k name, f.slots[k]? = some name ∧
      (i = .define k name .alloca ∨ ∃ w, i = .store w (.value k)) := by
  obtain ⟨⟨name, k⟩, hk, hi⟩ := List.mem_flatMap.mp h
  refine ⟨k, name, List.mem_zipIdx_iff_getElem?.mp hk, ?_⟩
  rcases List.mem_cons.mp hi with rfl | hi
  · exact .inl rfl
  · exact .inr ⟨_, List.mem_singleton.mp hi⟩

/-- Every slot has a cell. -/
theorem mem_slotCode {k : Nat} {name : String} (h : f.slots[k]? = some name) :
    .define k name .alloca ∈ slotCode f :=
  List.mem_flatMap.mpr ⟨(name, k), List.mem_zipIdx_iff_getElem?.mpr h, List.mem_cons_self ..⟩

/-- A lowered function makes its cells, and all its other code is plain. -/
theorem Lowered.plain (hctx : Context.Indirect ⟨names, builtins, 0, f.slots.length⟩)
    (h : Lowered names builtins f g) : ∃ rest more,
      g.blocks = ⟨"entry", slotCode f ++ rest⟩ :: more ∧
        (∀ i ∈ rest, Plain (g.blocks.map Block.name) i) ∧
        ∀ b ∈ more, ∀ i ∈ b.instrs, Plain (g.blocks.map Block.name) i := by
  obtain ⟨d, hd, rfl⟩ := h
  obtain ⟨is, his, d₁, h₁, rfl⟩ := body_eq_ok.mp hd
  obtain rfl : is = slotCode f := cells_eq_slotCode his
  have hlive := live_enter .empty f.slots.length (cells_straight his)
  have hnames : d₁.names <+: (d₁.push [.ret (.const 0)]).names := by simp
  have hadds : Adds (d₁.push [.ret (.const 0)]).names (Draft.enter .empty f.slots.length
      (slotCode f)) (d₁.push [.ret (.const 0)]) :=
    (stmts_adds hctx f.body h₁ hlive hnames nofun).push_one plain_ret
  obtain ⟨rest, hfirst⟩ := ((stmts_grows f.body hlive h₁).2.blocks.trans
    (extends_push d₁ [.ret (.const 0)])) 0 _ rfl
  -- from here on only the blocks of the finished draft matter, not how they came to be
  revert hadds hfirst
  generalize d₁.push [.ret (.const 0)] = d₂
  intro hadds hfirst
  obtain ⟨more, hmore⟩ : ∃ more, d₂.blocks = ⟨"entry", slotCode f ++ rest⟩ :: more := by
    cases hb : d₂.blocks with
    | nil =>
      rw [hb] at hfirst
      cases hfirst
    | cons b more =>
      rw [hb] at hfirst
      cases hfirst
      exact ⟨more, rfl⟩
  refine ⟨rest, more, hmore, ?_, fun b hb => ?_⟩
  -- the first block began with the cells, every other one was empty
  · obtain ⟨rest', hrest, hplain⟩ := hadds 0
    obtain rfl : rest = rest' := by
      simpa [instrsAt, hmore, enter, Draft.empty] using hrest
    exact hplain
  · obtain ⟨k, hk⟩ := List.mem_iff_getElem?.mp hb
    obtain ⟨is, his, hplain⟩ := hadds (k + 1)
    obtain rfl : b.instrs = is := by
      simpa [instrsAt, hmore, hk, enter, Draft.empty] using his
    exact hplain

theorem Lowered.laidOut (hctx : Context.Indirect ⟨names, builtins, 0, f.slots.length⟩)
    (h : Lowered names builtins f g) : LaidOut f g := by
  obtain ⟨rest, more, hblocks, hrest, hmore⟩ := h.plain hctx
  obtain ⟨d, hd, rfl⟩ := h
  refine ⟨rfl, rfl, ⟨rest, more, hblocks, fun n hint hi => (hrest _ hi).cell n hint rfl,
    fun b hb n hint hi => (hmore b hb _ hi).cell n hint rfl⟩, fun b hb w hi => ?_⟩
  rw [hblocks] at hb
  rcases List.mem_cons.mp hb with rfl | hb
  · rcases List.mem_append.mp hi with hi | hi
    · obtain ⟨k, name, -, hk | ⟨w, hk⟩⟩ := exists_slot_of_mem hi <;> cases hk
    · exact (hrest _ hi).ret w rfl
  · exact (hmore b hb _ hi).ret w rfl

/-- Values of other blocks are used in the cells of slots only. -/
theorem Lowered.atHand (h : Lowered names builtins f g)
    (hcalls : ∀ c ∈ Bound.Stmt.callsOfAll f.body,
      Context.Calls ⟨names, builtins, 0, f.slots.length⟩ m c)
    (hctx : Context.Indirect ⟨names, builtins, 0, f.slots.length⟩)
    (hglobals : ∀ text ∈ m.globals, text = Builtin.wordFormat) {b : Block} (hb : b ∈ g.blocks)
    {before after : List Instr} {i : Instr} (hi : b.instrs = before ++ i :: after) {o : Operand}
    (ho : o ∈ i.operands) : AtHand m g before o := by
  obtain ⟨rest, more, hblocks, -, -⟩ := h.plain hctx
  obtain ⟨d, hd, rfl⟩ := h
  obtain ⟨is, his, d₁, h₁, rfl⟩ := body_eq_ok.mp hd
  have hfits := (((tidy_body his h₁ hcalls).checks b hb).fits hi).operands o ho
  cases o with
  | value n =>
    rcases hfits with hcell | hbefore
    · have hlt : n < f.slots.length := by simpa using hcell.2
      have hcell := mem_slotCode (List.getElem?_eq_getElem hlt)
      exact .inr ⟨_, congrArg List.head? hblocks, _, List.mem_append_left rest hcell⟩
    · exact .inl hbefore
  | param k => exact hfits
  | const w => trivial
  | global name =>
    obtain ⟨text, htext, rfl⟩ := hfits
    obtain rfl := hglobals text htext
    exact ⟨rfl, htext⟩

theorem Lowered.structured (h : Lowered names builtins f g)
    (hcalls : ∀ c ∈ Bound.Stmt.callsOfAll f.body,
      Context.Calls ⟨names, builtins, 0, f.slots.length⟩ m c)
    (hctx : Context.Indirect ⟨names, builtins, 0, f.slots.length⟩)
    (hglobals : ∀ text ∈ m.globals, text = Builtin.wordFormat) : StructuredFunction m g := by
  have hwell := h.wellFormed hcalls
  obtain ⟨rest, more, hblocks, hrest, hmore⟩ := h.plain hctx
  have hcode : ∀ b ∈ g.blocks, ∀ i ∈ b.instrs,
      i ∈ slotCode f ∨ Plain (g.blocks.map Block.name) i := by
    intro b hb i hi
    rw [hblocks] at hb
    rcases List.mem_cons.mp hb with rfl | hb
    · exact (List.mem_append.mp hi).imp_right (hrest i)
    · exact .inr (hmore b hb i hi)
  refine ⟨hwell.ended, fun b hb t ht => ⟨(hwell.targets b hb t ht).1, ?_⟩,
    fun b hb before i after hi o => h.atHand hcalls hctx hglobals hb hi,
    fun b hb n hint symbol args hi => .inr ?_, hwell.nodup⟩
  · obtain ⟨i, hi, ht⟩ := List.mem_flatMap.mp ht
    rcases hcode b hb i hi with hslot | hplain
    · obtain ⟨k, name, -, rfl | ⟨w, rfl⟩⟩ := exists_slot_of_mem hslot <;> cases ht
    · obtain ⟨name, hname, hdead⟩ := hplain.targets t ht
      rw [List.getElem?_map] at hname
      obtain ⟨c, hc, rfl⟩ := Option.map_eq_some_iff.mp hname
      exact ⟨c, hc, hdead⟩
  · obtain ⟨k, hk⟩ := List.mem_iff_getElem?.mp hb
    obtain ⟨before, after, hsplit⟩ := List.append_of_mem hi
    have htakes := (hwell.fits k b hk before _ after hsplit).call symbol args.length rfl
    rcases hcode b hb _ hi with hslot | hplain
    · obtain ⟨k, name, -, hk | ⟨w, hk⟩⟩ := exists_slot_of_mem hslot <;> cases hk
    · rwa [Module.Takes, if_neg (hplain.call symbol _ rfl)] at htakes

/-! ## Functions of one call -/

/-- A function of one block that makes a call and gives zero. -/
theorem structured_call {visibility : Code.Visibility} {symbol name callee : String} {arity : Nat}
    {args : List Operand}
    (hargs : ∀ f : Code.Function, f.arity = arity → ∀ o ∈ args, AtHand m f [] o)
    (hcall : Serves m callee args) :
    StructuredFunction m ⟨visibility, symbol, arity,
      [⟨name, [.define 0 "" (.call callee args), .ret (.const 0)]⟩]⟩ where
  ended b hb := by
    obtain rfl := List.mem_singleton.mp hb
    exact ended_call
  targets b hb t ht := by
    obtain rfl := List.mem_singleton.mp hb
    cases ht
  operands b hb before i after hi o ho := by
    obtain rfl := List.mem_singleton.mp hb
    rcases before with _ | ⟨_, _ | ⟨_, before⟩⟩
    · cases hi
      exact hargs _ rfl o ho
    · cases hi
      obtain rfl := List.mem_singleton.mp ho
      trivial
    · simp at hi
  calls b hb n hint s as hi := by
    obtain rfl := List.mem_singleton.mp hb
    rcases List.mem_cons.mp hi with hi | hi
    · cases hi
      exact hcall
    · cases List.mem_singleton.mp hi
  nodup := List.nodup_singleton 0

theorem structured_printInt (h : Builtin.wordFormat ∈ m.globals) :
    StructuredFunction m Builtin.printInt.function := by
  refine structured_call (fun f hf o ho => ?_) (.inl ⟨rfl, _, rfl⟩)
  rcases List.mem_cons.mp ho with rfl | ho
  · exact ⟨rfl, h⟩
  · obtain rfl := List.mem_singleton.mp ho
    exact Nat.lt_of_lt_of_eq Nat.one_pos hf.symm

theorem structured_entry
    (h : ∃ f ∈ m.functions, f.symbol = Code.functionSymbol mainName ∧ f.arity = 0) :
    StructuredFunction m entry :=
  structured_call (fun _ _ _ => nofun) (.inr h)

/-! ## Programs -/

theorem indirect {ds : List Bound.Declaration} {base slots : Nat}
    (h : builtinsOf ds = .ok builtins) : Context.Indirect ⟨names, builtins, base, slots⟩ := by
  obtain ⟨-, rfl⟩ := builtinsOf_eq_ok.mp h
  intro callee symbol hs
  cases callee with
  | declared name =>
    obtain ⟨-, -, rfl⟩ := (symbol_declared rfl).mp hs
    decide
  | defined name =>
    obtain ⟨-, rfl⟩ := symbol_defined.mp hs
    exact functionSymbol_ne_printf name

/-- A lowered program is structured, whoever made it. -/
theorem structured_of_lower {p : Bound.Program}
    (hfunctions : (p.functions.map Bound.Function.name).Nodup)
    (hdeclarations : (p.declarations.map Bound.Declaration.name).Nodup) (hcalls : p.CallsMatch)
    (hmain : p.Accepts 0 (.defined mainName)) (hm : lower p = .ok m) : Structured p m := by
  obtain ⟨bs, hbs, gs, hgs, hname, rfl⟩ := (lower_eq_ok hfunctions).mp hm
  have hglobals : ∀ text ∈ (moduleOf bs gs).globals, text = Builtin.wordFormat := by
    obtain ⟨-, rfl⟩ := builtinsOf_eq_ok.mp hbs
    intro text htext
    obtain ⟨b, hb, htext⟩ := List.mem_flatMap.mp htext
    obtain ⟨d, -, rfl⟩ := List.mem_map.mp hb
    exact List.mem_singleton.mp htext
  have hbuiltin : ∀ b ∈ bs, b = .printInt := by
    obtain ⟨-, rfl⟩ := builtinsOf_eq_ok.mp hbs
    intro b hb
    obtain ⟨d, -, rfl⟩ := List.mem_map.mp hb
    rfl
  refine ⟨List.nodup_cons.mpr ⟨fun hprintf => ?_, nodup_symbols hbs hdeclarations hfunctions hgs⟩,
    fun g hg => ?_, fun f hf => ?_, fun g hg => ?_⟩
  · obtain ⟨g, hg, hsymbol⟩ := List.mem_map.mp hprintf
    rcases mem_moduleOf.mp hg with ⟨b, hb, rfl⟩ | hg | rfl
    · obtain rfl := hbuiltin b hb
      exact absurd hsymbol (by decide)
    · obtain ⟨f, hf, d, hd, rfl⟩ := exists_of_mem_right hgs hg
      exact functionSymbol_ne_printf _ hsymbol
    · exact absurd hsymbol (by decide)
  · rcases mem_moduleOf.mp hg with ⟨b, hb, rfl⟩ | hg | rfl
    · obtain rfl := hbuiltin b hb
      exact structured_printInt (List.mem_flatMap.mpr ⟨_, hb, List.mem_singleton_self _⟩)
    · obtain ⟨f, hf, hl⟩ := exists_of_mem_right hgs hg
      exact hl.structured (fun c hc => takes_of_accepts hbs hgs _ _ (hcalls f hf c hc))
        (indirect hbs) hglobals
    · have htakes := takes_of_accepts hbs hgs 0 0 (c := (.defined mainName, 0)) hmain _
        (symbol_defined.mpr ⟨hname, rfl⟩)
      rw [Module.Takes, if_neg (functionSymbol_ne_printf _)] at htakes
      exact structured_entry htakes
  · obtain ⟨g, hg, hl⟩ := exists_of_mem_left hgs hf
    exact ⟨g, mem_moduleOf.mpr (.inr (.inl hg)), hl.laidOut (indirect hbs)⟩
  · rcases mem_moduleOf.mp hg with ⟨b, hb, rfl⟩ | hg | rfl
    · obtain rfl := hbuiltin b hb
      exact .inr (by simp [MakesNoCell, Builtin.function, Builtin.printInt])
    · obtain ⟨f, hf, hl⟩ := exists_of_mem_right hgs hg
      exact .inl ⟨f, hf, hl.laidOut (indirect hbs)⟩
    · exact .inr (by simp [MakesNoCell, entry])

end Looplet.Lowering

namespace Looplet

/-- A text that is bound is lowered to a structured module, if its declarations have built-ins. -/
theorem exists_structured {src : String} {b : Bound.Program} (h : bindSource src = .ok b)
    {builtins : List Builtin} (hds : Lowering.builtinsOf b.declarations = .ok builtins) :
    ∃ m, lower b = .ok m ∧ Structured b m := by
  obtain ⟨t, -, ht⟩ := bindSource_eq_ok.mp h
  obtain ⟨m, hm⟩ := exists_lower_of_resolve ht hds
  exact ⟨m, hm, Lowering.structured_of_lower (Resolve.nodup_functions ht) (nodup_declarations ht)
    (Resolve.callsMatch ht) (Resolve.accepts_main ht) hm⟩

/-- A text with code after jumps, in loops and conditionals. -/
def jumping : String :=
  "func print_int(w); func f(a, b) \x7b out: while a \x7b if b \x7b break out; b <- 1; \x7d " ++
  "else \x7b continue; while b \x7b continue out; \x7d \x7d print_int(a); \x7d c <- a + b; \x7d " ++
  "func main() \x7b f(1, 0); \x7d"

theorem jumping_structured :
    ∃ b m, bindSource jumping = .ok b ∧ lower b = .ok m ∧ Structured b m := by
  have hds : (bindSource jumping).map (fun b => (Lowering.builtinsOf b.declarations).isOk)
      = .ok true := by
    decide +kernel
  cases hb : bindSource jumping with
  | error e =>
    rw [hb] at hds
    cases hds
  | ok b =>
    rw [hb] at hds
    obtain ⟨builtins, hbuiltins⟩ := exists_ok (Except.ok.inj hds)
    obtain ⟨m, hm, hstructured⟩ := exists_structured hb hbuiltins
    exact ⟨b, m, rfl, hm, hstructured⟩

end Looplet
