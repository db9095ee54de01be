import Looplet.Proofs.Code.WellFormed
import Looplet.Proofs.Lowering.Program

/-!
# What statements add

Statements only add code at the ends of blocks, and what they add is plain (`stmts_adds`): it makes
no cells, it does not call `printf` itself, it gives back nothing but zero, and it goes to no dead
block. Where a jump goes is judged by the names of all blocks that there will be, so the lemmas are
about any list of names that goes on from those of the draft.
-/

namespace Looplet.Lowering

open Code (Operand Op Instr Block)
open Draft

variable {ctx : Context} {N : List String} {d d' e : Draft} {is : List Instr}

/-! ## Plain code -/

/-- A place in a list of names where there is one, of a block that is not dead. -/
def Aims (N : List String) (t : Nat) : Prop :=
  ∃ name, N[t]? = some name ∧ name ≠ "dead"

/-- An instruction as statements add it, in a function whose blocks have the given names. -/
structure Plain (N : List String) (i : Instr) : Prop where
  cell : ∀ n hint, i ≠ .define n hint .alloca
  call : ∀ symbol n, i.call? = some (symbol, n) → symbol ≠ Code.printf
  ret : ∀ w, i = .ret w → w = .const 0
  targets : ∀ t ∈ i.targets, Aims N t

theorem plain_define {n : Nat} {hint : String} {op : Op} (ha : op ≠ .alloca)
    (hc : ∀ symbol args, op = .call symbol args → symbol ≠ Code.printf) :
    Plain N (.define n hint op) where
  cell := by
    rintro _ _ ⟨⟩
    exact ha rfl
  call symbol k h := by
    cases op with
    | call s args =>
      cases h
      exact hc symbol args rfl
    | _ => cases h
  ret := nofun
  targets := nofun

theorem plain_store (w cell : Operand) : Plain N (.store w cell) := ⟨nofun, nofun, nofun, nofun⟩

theorem plain_jump {t : Nat} (h : Aims N t) : Plain N (.jump t) :=
  ⟨nofun, nofun, nofun, by simpa [Instr.targets] using h⟩

theorem plain_branch {o : Operand} {t e : Nat} (ht : Aims N t) (he : Aims N e) :
    Plain N (.branch o t e) :=
  ⟨nofun, nofun, nofun, by simpa [Instr.targets] using ⟨ht, he⟩⟩

theorem plain_ret : Plain N (.ret (.const 0)) := by
  refine ⟨nofun, nofun, ?_, nofun⟩
  rintro w ⟨⟩
  rfl

theorem Fragment.plain_define {α : Type} {f : Fragment α} (h : ∀ i ∈ f.instrs, Plain N i)
    (hint : String) {op : Op} (ha : op ≠ .alloca)
    (hc : ∀ symbol args, op = .call symbol args → symbol ≠ Code.printf) :
    ∀ i ∈ (f.define hint op).instrs, Plain N i := by
  intro i hi
  rcases List.mem_append.mp hi with hi | hi
  · exact h i hi
  · obtain rfl := List.mem_singleton.mp hi
    exact Lowering.plain_define ha hc

theorem Fragment.plain_binary {f : Fragment (Operand × Operand)}
    (h : ∀ i ∈ f.instrs, Plain N i) (op : BinaryOp) :
    ∀ i ∈ (f.binary op).instrs, Plain N i := by
  have hcompare : ∀ c hint, ∀ i ∈ (f.define hint (.compare c f.result.1 f.result.2)).instrs,
      Plain N i := fun c hint => plain_define h hint nofun nofun
  cases op with
  | add => exact plain_define h "add" nofun nofun
  | equal => exact plain_define (hcompare .equal "eq") "eq.zext" nofun nofun
  | notEqual => exact plain_define (hcompare .notEqual "ne") "ne.zext" nofun nofun

/-- No callee has the symbol `printf`. -/
def Context.Indirect (ctx : Context) : Prop :=
  ∀ callee symbol, ctx.symbol callee = .ok symbol → symbol ≠ Code.printf

mutual

theorem expr_plain (hctx : ctx.Indirect) {next : Nat} : (e : Bound.Expr) →
    {f : Fragment Operand} → expr ctx next e = .ok f → ∀ i ∈ f.instrs, Plain N i
  | .int v, f, h => by
    cases h
    exact nofun
  | .load slot, f, h => by
    obtain ⟨cell, -, rfl⟩ := expr_load.mp h
    exact Fragment.plain_define (f := ⟨[], (), next⟩) nofun _ nofun nofun
  | .binary op l r, f, h => by
    obtain ⟨fl, hl, fr, hr, rfl⟩ := expr_binary.mp h
    refine Fragment.plain_binary (List.forall_mem_append.mpr ?_) op
    exact ⟨expr_plain hctx l hl, expr_plain hctx r hr⟩
  | .call callee args, f, h => by
    obtain ⟨symbol, hs, fs, hf, rfl⟩ := expr_call.mp h
    refine Fragment.plain_define (exprs_plain hctx args hf) _ nofun ?_
    rintro _ _ ⟨⟩
    exact hctx callee symbol hs

theorem exprs_plain (hctx : ctx.Indirect) {next : Nat} : (es : List Bound.Expr) →
    {f : Fragment (List Operand)} → exprs ctx next es = .ok f → ∀ i ∈ f.instrs, Plain N i
  | [], f, h => by
    cases h
    exact nofun
  | e :: es, f, h => by
    obtain ⟨g, hg, gs, hgs, rfl⟩ := exprs_cons.mp h
    exact List.forall_mem_append.mpr ⟨expr_plain hctx e hg, exprs_plain hctx es hgs⟩

end

theorem condition_plain (hctx : ctx.Indirect) {next : Nat} {c : Bound.Expr}
    {f : Fragment Operand} (h : condition ctx next c = .ok f) :
    ∀ i ∈ f.instrs, Plain N i := by
  obtain ⟨g, hg, rfl⟩ := condition_eq_ok.mp h
  exact Fragment.plain_define (expr_plain hctx c hg) _ nofun nofun

/-! ## Names of blocks -/

namespace Draft

/-- The names of the blocks of a draft. -/
def names (d : Draft) : List String :=
  d.blocks.map Block.name

@[simp] theorem length_names (d : Draft) : d.names.length = d.blocks.length :=
  List.length_map ..

@[simp] theorem names_push (d : Draft) (is : List Instr) : (d.push is).names = d.names := by
  refine List.ext_getElem? fun k => ?_
  simp only [names, push, List.getElem?_map, List.getElem?_modify]
  by_cases hk : d.current = k <;> cases d.blocks[k]? <;> simp [hk]

@[simp] theorem names_append (d : Draft) (more : List String) :
    (d.append more).names = d.names ++ more := by
  simp [names, append, Function.comp_def]

@[simp] theorem names_moveTo (d : Draft) (b : Nat) : (d.moveTo b).names = d.names := rfl

@[simp] theorem names_pushFragment {α : Type} (d : Draft) (f : Fragment α) :
    (d.pushFragment f).names = d.names :=
  names_push ..

@[simp] theorem names_leave (d : Draft) (target next : Nat) :
    (d.leave target next).names = d.names :=
  names_push ..

theorem names_thenPart (d : Draft) (f : Fragment Operand) :
    (d.thenPart f).names = d.names ++ ifNames d.ifs := by
  rw [thenPart, names_moveTo, names_push, names_append, names_pushFragment]
  rfl

theorem names_loopBody (d : Draft) (id : Nat) (f : Fragment Operand) :
    ((d.loopHead id).loopBody f).names = d.names ++ loopNames id := by
  simp [loopBody, loopHead]

theorem Grows.names (h : d.Grows e) : d.names <+: e.names := by
  refine List.prefix_iff_getElem?.mpr fun k hk => ?_
  rw [length_names] at hk
  obtain ⟨more, he⟩ := h.blocks k _ (List.getElem?_eq_getElem hk)
  simp [Draft.names, he]

end Draft

/-- The names that are appended are in their places. -/
theorem aims_of_isPrefix {before more : List String} (h : before ++ more <+: N)
    (hm : ∀ name ∈ more, name ≠ "dead") {k : Nat} (hk : k < more.length) :
    Aims N (before.length + k) := by
  obtain ⟨rest, rfl⟩ := h
  refine ⟨more[k], ?_, hm _ (List.getElem_mem hk)⟩
  rw [List.append_assoc, List.getElem?_append_right (Nat.le_add_right ..), Nat.add_sub_cancel_left,
    List.getElem?_append_left hk, List.getElem?_eq_getElem hk]

theorem ne_dead_of_mem_ifNames {n : Nat} : ∀ name ∈ ifNames n, name ≠ "dead" := by
  intro name h heq
  obtain ⟨part, -, rfl⟩ := List.mem_map.mp h
  have := congrArg String.toList heq
  simp at this

theorem ne_dead_of_mem_loopNames {id : Nat} : ∀ name ∈ loopNames id, name ≠ "dead" := by
  intro name h heq
  obtain ⟨part, -, rfl⟩ := List.mem_map.mp h
  have := congrArg String.toList heq
  simp at this

/-! ## Additions -/

/-- The instructions of a block, none if there is no such block. -/
def Draft.instrsAt (d : Draft) (k : Nat) : List Instr :=
  (d.blocks[k]?.map Block.instrs).getD []

/-- In every block the second draft has the code of the first, and perhaps plain code after it. -/
def Adds (N : List String) (d e : Draft) : Prop :=
  ∀ k, ∃ more, e.instrsAt k = d.instrsAt k ++ more ∧ ∀ i ∈ more, Plain N i

namespace Adds

theorem refl (d : Draft) : Adds N d d :=
  fun _ => ⟨[], (List.append_nil _).symm, nofun⟩

theorem trans (h : Adds N d d') (h' : Adds N d' e) : Adds N d e := by
  intro k
  obtain ⟨more, hd, hmore⟩ := h k
  obtain ⟨more', he, hmore'⟩ := h' k
  exact ⟨more ++ more', by rw [he, hd, List.append_assoc],
    List.forall_mem_append.mpr ⟨hmore, hmore'⟩⟩

theorem push (h : Adds N d e) (his : ∀ i ∈ is, Plain N i) : Adds N d (e.push is) := by
  refine h.trans fun k => ?_
  by_cases hk : k = e.current
  · subst hk
    cases hb : e.blocks[e.current]? with
    | none => exact ⟨[], by simp [instrsAt, Draft.push, hb], nofun⟩
    | some b => exact ⟨is, by simp [instrsAt, getElem?_push_self hb, hb], his⟩
  · exact ⟨[], by simp [instrsAt, getElem?_push_of_ne hk], nofun⟩

theorem push_one (h : Adds N d e) {i : Instr} (hi : Plain N i) :
    Adds N d (e.push [i]) :=
  h.push (by simpa using hi)

theorem append (h : Adds N d e) (more : List String) : Adds N d (e.append more) := by
  refine h.trans fun k => ⟨[], ?_, nofun⟩
  rw [List.append_nil]
  by_cases hk : k < e.blocks.length
  · rw [instrsAt, getElem?_append_of_lt hk, instrsAt]
  · simp only [instrsAt, Draft.append, List.getElem?_eq_none (Nat.le_of_not_lt hk),
      List.getElem?_append_right (Nat.le_of_not_lt hk), List.getElem?_map]
    cases more[k - e.blocks.length]? <;> rfl

theorem moveTo (h : Adds N d e) (b : Nat) : Adds N d (e.moveTo b) := h

theorem pushFragment {α : Type} {f : Fragment α} (h : Adds N d e)
    (hf : ∀ i ∈ f.instrs, Plain N i) : Adds N d (e.pushFragment f) :=
  h.push (e := { e with next := f.next }) hf

theorem leave (h : Adds N d e) {target : Nat} (ht : Aims N target) (next : Nat) :
    Adds N d (e.leave target next) :=
  (h.push_one (plain_jump ht)).moveTo next

end Adds

mutual

theorem stmt_adds (hctx : ctx.Indirect) {loops : List OpenLoop} {d d' : Draft} :
    (s : Bound.Stmt) → stmt ctx loops d s = .ok d' → d.Live → d'.names <+: N →
    (∀ l ∈ loops, ∀ j, Aims N (l.target j)) → Adds N d d'
  | .store slot e, h, hd, _, _ => by
    obtain ⟨f, hf, cell, -, rfl⟩ := (stmt_store hd).mp h
    exact ((Adds.refl d).pushFragment (expr_plain hctx e hf)).push_one (plain_store _ _)
  | .ifElse c t e, h, hd, hnames, hloops => by
    obtain ⟨f, hf, d₁, h₁, d₂, h₂, rfl⟩ :=
      (stmt_ifElse hd (grow ctx loops t) (grow ctx loops e)).mp h
    have p := choice_ifElse hd (grow ctx loops t) (grow ctx loops e) h₁ h₂
    have hnames₂ : d₂.names <+: N := by simpa using hnames
    have hnames₁ : d₁.names <+: N := .trans (by simpa using p.elseGrows.names) hnames₂
    -- blocks keep their places, so the three parts are where they were appended
    have hparts : d.names ++ ifNames d.ifs <+: N :=
      names_thenPart d f ▸ p.thenGrows.names.trans hnames₁
    have haims : ∀ k < 3, Aims N (d.blocks.length + k) := fun k hk => by
      simpa using aims_of_isPrefix hparts ne_dead_of_mem_ifNames hk
    have hthen : Adds N d (d.thenPart f) :=
      ((((Adds.refl d).pushFragment (e := { d with ifs := d.ifs + 1 })
        (condition_plain hctx hf)).append _).push_one
          (plain_branch (haims 0 (by decide)) (haims 1 (by decide)))).moveTo _
    have ht := hthen.trans (stmts_adds hctx t h₁ p.thenFresh.live hnames₁ hloops)
    have helse := stmts_adds hctx e h₂ p.elseFresh.live hnames₂ hloops
    exact ((ht.leave (haims 2 (by decide)) _).trans helse).leave (haims 2 (by decide)) _
  | .loop id c body, h, hd, hnames, hloops => by
    obtain ⟨f, hf, d₁, h₁, rfl⟩ := (stmt_loop hd (grow ctx _ body)).mp h
    have p := turn_loop hd (grow ctx _ body) h₁
    have hnames₁ : d₁.names <+: N := by simpa using hnames
    have hparts : d.names ++ loopNames id <+: N :=
      names_loopBody d id f ▸ p.grows.names.trans hnames₁
    have haims : ∀ k < 3, Aims N (d.blocks.length + k) := fun k hk => by
      simpa using aims_of_isPrefix hparts ne_dead_of_mem_loopNames hk
    have hhead : Adds N d (d.loopHead id) :=
      ((Adds.refl d).append _).leave (haims 0 (by decide)) _
    have hbody : Adds N d ((d.loopHead id).loopBody f) :=
      ((hhead.pushFragment (condition_plain hctx hf)).push_one
        (plain_branch (haims 1 (by decide)) (haims 2 (by decide)))).moveTo _
    have hinner : ∀ l ∈ (⟨id, d.blocks.length, d.blocks.length + 2⟩ : OpenLoop) :: loops,
        ∀ j, Aims N (l.target j) := by
      refine List.forall_mem_cons.mpr ⟨fun j => ?_, hloops⟩
      cases j with
      | leave => exact haims 2 (by decide)
      | again => exact haims 0 (by decide)
    exact (hbody.trans (stmts_adds hctx body h₁ p.bodyFresh.live hnames₁ hinner)).leave
      (haims 0 (by decide)) _
  | .jump j id, h, hd, _, hloops => by
    obtain ⟨l, hfind, rfl⟩ := (stmt_jump hd).mp h
    have hl := plain_jump (hloops l (List.mem_of_find?_eq_some hfind) j)
    exact (((Adds.refl d).push_one hl).append _).moveTo _
  | .expr e, h, hd, _, _ => by
    obtain ⟨f, hf, rfl⟩ := (stmt_expr hd).mp h
    exact (Adds.refl d).pushFragment (expr_plain hctx e hf)

theorem stmts_adds (hctx : ctx.Indirect) {loops : List OpenLoop} {d d' : Draft} :
    (ss : List Bound.Stmt) → stmts ctx loops d ss = .ok d' → d.Live → d'.names <+: N →
    (∀ l ∈ loops, ∀ j, Aims N (l.target j)) → Adds N d d'
  | [], h, _, _, _ => by
    cases h
    exact .refl d
  | s :: ss, h, hd, hnames, hloops => by
    obtain ⟨d₁, h₁, h₂⟩ := stmts_cons.mp h
    have hd₁ := (stmt_grows s hd h₁).1
    have hnames₁ := (stmts_grows ss hd₁ h₂).2.names.trans hnames
    exact (stmt_adds hctx s h₁ hd hnames₁ hloops).trans (stmts_adds hctx ss h₂ hd₁ hnames hloops)

end

end Looplet.Lowering
