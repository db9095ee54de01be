import Looplet.Compile
import Looplet.Proofs.Bound.Table
import Looplet.Proofs.Lowering.Success
import Looplet.Proofs.Lowering.WellFormed

/-!
# Bound trees can be lowered

A tree that is bound is lowered exactly if every declaration is one of `print_int` with one
parameter. If not, the first other declaration is refused, for the reason that `Item.refusal?`
gives, and there are no other refusals (`emitProgram_resolve`). The verifier may be any that accepts
the well-formed modules that programs are lowered to; as it has nothing to say then, texts are
compiled as if there were none (`compileVerified_eq_compile`).
-/

namespace Looplet

open Code (Module)

/-- Why an item is refused. -/
def Tree.Item.refusal? (i : Tree.Item) : Option Lowering.Refusal :=
  if i.isDeclaration then
    if i.name ≠ printName then some (.noBuiltin i.name)
    else if i.params.length ≠ 1 then some (.builtinArity i.name i.params.length 1)
    else none
  else none

theorem refusal?_eq_none {i : Tree.Item} :
    i.refusal? = none ↔ (i.isDeclaration = true → i.name = printName ∧ i.params.length = 1) := by
  unfold Tree.Item.refusal?
  by_cases hd : i.isDeclaration = true
  · by_cases hn : i.name = printName
    · by_cases hp : i.params.length = 1 <;> simp [hd, hn, hp]
    · simp [hd, hn]
  · simp [hd]

theorem builtinOf_eq_error_iff {i : Tree.Item} (h : i.isDeclaration = true)
    {r : Lowering.Refusal} :
    Lowering.builtinOf ⟨i.name, i.params, i.position⟩ = .error r ↔ i.refusal? = some r := by
  rw [Lowering.builtinOf_eq_error, Tree.Item.refusal?, if_pos h]
  by_cases hn : i.name = printName
  · by_cases hp : i.params.length = 1
    · simp [hn, hp]
    · simp [hn, hp, eq_comm]
  · simp [hn, eq_comm]

/-- The first item that is refused is the first declaration without a built-in. -/
theorem builtinsOf_declarations {items : List Tree.Item} {r : Lowering.Refusal} :
    Lowering.builtinsOf (Resolve.declarations items) = .error r ↔
      items.findSome? Tree.Item.refusal? = some r := by
  induction items with
  | nil => simp [Resolve.declarations, Lowering.builtinsOf]
  | cons i items ih =>
    rw [List.findSome?_cons, Resolve.declarations]
    by_cases hd : i.isDeclaration = true
    · rw [List.filter_cons_of_pos hd, List.map_cons, Lowering.builtinsOf, bind_eq_error,
        builtinOf_eq_error_iff hd]
      cases hr : i.refusal? with
      | some r' =>
        have herror := (builtinOf_eq_error_iff hd).mpr hr
        simp [herror]
      | none =>
        have hok := Lowering.builtinOf_eq_ok (b := .printInt)
          (d := ⟨i.name, i.params, i.position⟩) |>.mpr ⟨refusal?_eq_none.mp hr hd, rfl⟩
        simp only [hok, Except.ok.injEq, exists_eq_left', bind_eq_error, reduceCtorEq, false_or]
        constructor
        · rintro (h | ⟨bs, -, h⟩)
          · exact ih.mp h
          · cases h
        · exact fun h => .inl (ih.mpr h)
    · have hr : i.refusal? = none := refusal?_eq_none.mpr fun h => absurd h hd
      rw [List.filter_cons_of_neg hd, hr]
      exact ih

variable {t : Program} {b : Bound.Program}

theorem bindSource_eq_ok {src : String} :
    bindSource src = .ok b ↔ ∃ t, parse src = .ok t ∧ resolve t = .ok b := by
  unfold bindSource
  cases parse src with
  | error e => simp
  | ok t => cases hb : resolve t <;> simp [hb]

/-- Every callee that is bound has a symbol. -/
theorem knows_of_has (h : resolve t = .ok b) {builtins : List Builtin}
    (hds : Lowering.builtinsOf b.declarations = .ok builtins) (base slots : Nat)
    {c : Bound.Callee × Nat} (hc : (Resolve.tableOfItems t.items).Has c) :
    Lowering.Context.Knows ⟨b.functions.map Bound.Function.name, builtins, base, slots⟩ c.1 := by
  obtain ⟨-, -, fs, hfs, rfl⟩ := Resolve.resolve_eq_ok.mp h
  obtain ⟨name, s, hs, rfl⟩ := hc
  rw [Resolve.lookup_tableOfItems] at hs
  obtain ⟨i, hi, rfl⟩ := Option.map_eq_some_iff.mp hs
  have hmem := List.mem_of_find?_eq_some hi
  obtain rfl : i.name = name := by simpa using List.find?_some hi
  by_cases hd : i.isDeclaration = true
  · have hdecl : (⟨i.name, i.params, i.position⟩ : Bound.Declaration)
        ∈ Resolve.declarations t.items :=
      List.mem_map.mpr ⟨i, List.mem_filter.mpr ⟨hmem, hd⟩, rfl⟩
    obtain ⟨hprint, rfl⟩ := Lowering.builtinsOf_eq_ok.mp hds
    refine ⟨Builtin.printInt.symbol, ?_⟩
    simp only [Resolve.Signature.callee, Resolve.Signature.ofItem, hd, if_true]
    exact (Lowering.symbol_declared rfl).mpr
      ⟨List.ne_nil_of_mem hdecl, (hprint _ hdecl).1, rfl⟩
  · have hdef : i ∈ t.items.filter fun i => !i.isDeclaration :=
      List.mem_filter.mpr ⟨hmem, by simpa using hd⟩
    obtain ⟨f, hf, hdefines⟩ := exists_of_mem_left (Resolve.definitions_eq_ok.mp hfs) hdef
    refine ⟨Code.functionSymbol i.name, ?_⟩
    simp only [Resolve.Signature.callee, Resolve.Signature.ofItem, hd]
    exact Lowering.symbol_defined.mpr ⟨List.mem_map.mpr ⟨f, hf, hdefines.name⟩, rfl⟩

/-- If declarations have built-ins nothing is left that could be refused. -/
theorem exists_lower_of_resolve (h : resolve t = .ok b) {builtins : List Builtin}
    (hds : Lowering.builtinsOf b.declarations = .ok builtins) : ∃ m, lower b = .ok m := by
  refine (Lowering.exists_lower (Resolve.nodup_functions h)).mpr ⟨builtins, hds, fun f hf => ?_, ?_⟩
  · obtain ⟨-, -, fs, hfs, hb⟩ := Resolve.resolve_eq_ok.mp h
    have hf' : f ∈ fs := by
      rw [hb] at hf
      exact hf
    obtain ⟨i, -, body, -, hd⟩ := exists_of_mem_right (Resolve.definitions_eq_ok.mp hfs) hf'
    obtain ⟨-, rs, hrs, rfl⟩ := Resolve.definition_eq_ok.mp hd
    refine ⟨Resolve.stmts_scoped body hrs (Nat.le_refl _), fun c hc => ?_⟩
    exact knows_of_has h hds _ _ (Resolve.stmts_calls body hrs c hc)
  · obtain ⟨-, hm, -⟩ := Resolve.resolve_eq_ok.mp h
    obtain ⟨s, hs, ho, ha⟩ := Resolve.checkMain_eq_ok.mp hm
    obtain ⟨symbol, hsymbol⟩ := knows_of_has h hds 0 0 ⟨_, s, hs, rfl⟩
    rw [Resolve.Signature.callee, ho] at hsymbol
    exact (Lowering.symbol_defined.mp hsymbol).1

theorem nodup_declarations (h : resolve t = .ok b) :
    (b.declarations.map Bound.Declaration.name).Nodup := by
  obtain ⟨hn, -, fs, -, rfl⟩ := Resolve.resolve_eq_ok.mp h
  simp only [Resolve.declarations, List.map_map]
  exact hn.sublist (List.filter_sublist.map _)

/-- A verifier that accepts what programs are lowered to has nothing to say of bound trees. -/
theorem emitProgram_of_resolve {verify : Module → Option String}
    (hverify : Lowering.AcceptsLowered verify) (h : resolve t = .ok b) :
    emitProgram verify b = lower b :=
  Lowering.emitProgram_eq_lower hverify (Resolve.nodup_functions h) (nodup_declarations h)
    (Resolve.callsMatch h) (Resolve.accepts_main h)

/-- A bound tree is lowered if every declaration is one of `print_int` with one parameter. If not,
the first item that is refused says why, in source order, and nothing else is ever refused. The
verifier may be any that accepts what programs are lowered to. -/
theorem emitProgram_resolve {verify : Module → Option String}
    (hverify : Lowering.AcceptsLowered verify) (h : resolve t = .ok b) :
    ((∃ m, emitProgram verify b = .ok m) ↔
      ∀ i ∈ t.items, i.isDeclaration = true → i.name = printName ∧ i.params.length = 1) ∧
    ∀ r, emitProgram verify b = .error r ↔ t.items.findSome? Tree.Item.refusal? = some r := by
  have hdecl : b.declarations = Resolve.declarations t.items := by
    obtain ⟨-, -, fs, -, rfl⟩ := Resolve.resolve_eq_ok.mp h
    rfl
  have hall : (∀ i ∈ t.items, i.isDeclaration = true → i.name = printName ∧ i.params.length = 1) ↔
      t.items.findSome? Tree.Item.refusal? = none := by
    rw [List.findSome?_eq_none_iff]
    exact forall₂_congr fun _ _ => refusal?_eq_none.symm
  rw [hall]
  cases hds : Lowering.builtinsOf b.declarations with
  | error r =>
    have hemit : emitProgram verify b = .error r := by
      rw [emitProgram, Lowering.lower_eq_error_of_builtinsOf hds]
      rfl
    rw [hdecl] at hds
    simp [hemit, builtinsOf_declarations.mp hds]
  | ok builtins =>
    obtain ⟨m, hm⟩ := exists_lower_of_resolve h hds
    have hemit : emitProgram verify b = .ok m := (emitProgram_of_resolve hverify h).trans hm
    have hnone : t.items.findSome? Tree.Item.refusal? = none := by
      cases hr : t.items.findSome? Tree.Item.refusal? with
      | none => rfl
      | some r =>
        rw [hdecl, builtinsOf_declarations.mpr hr] at hds
        cases hds
    simp [hemit, hnone]

/-- A verifier that looks at the last instruction of every block. -/
def lastVerified (m : Module) : Option String :=
  if m.functions.all fun f => f.blocks.all fun b => b.instrs.getLast?.any Code.Instr.isTerminator
  then none else some "block has no terminator"

theorem lastVerified_of_wellFormed (m : Module) (h : m.WellFormed) : lastVerified m = none := by
  refine if_pos ?_
  simp only [List.all_eq_true]
  intro f hf b hb
  obtain ⟨body, last, hb, hl, -⟩ := (h.functions f hf).ended b hb
  simp [hb, hl]

theorem Lowering.acceptsLowered_lastVerified : AcceptsLowered lastVerified :=
  fun _ m _ => lastVerified_of_wellFormed m

/-- A text whose declaration has a built-in. -/
def provided : String := "func print_int(w); func main() \x7b print_int(1); \x7d"

/-- A text whose first declaration has too many parameters, and whose second one is unknown. -/
def overloaded : String := "func print_int(a, b); func read(); func main() \x7b \x7d"

theorem provided_emitted_overloaded_refused :
    (∃ t b m, parse provided = .ok t ∧ resolve t = .ok b ∧ emitProgram lastVerified b = .ok m) ∧
    ∃ t b, parse overloaded = .ok t ∧ resolve t = .ok b ∧
      emitProgram lastVerified b = .error (.builtinArity "print_int" 2 1) := by
  have hresolve : ∀ src ∈ [provided, overloaded],
      (parse src).map (fun t => (resolve t).isOk) = .ok true := by
    decide +kernel
  have hrefusals : [provided, overloaded].map
      (fun src => (parse src).toOption.map fun t => t.items.findSome? Tree.Item.refusal?)
        = [some none, some (some (.builtinArity "print_int" 2 1))] := by
    decide +kernel
  obtain ⟨t, ht⟩ : ∃ t, parse provided = .ok t := exists_ok (by decide +kernel)
  obtain ⟨t', ht'⟩ : ∃ t, parse overloaded = .ok t := exists_ok (by decide +kernel)
  simp only [List.forall_mem_cons, List.map_cons, ht, ht'] at hresolve hrefusals
  obtain ⟨b, hb⟩ := exists_ok (Except.ok.inj hresolve.1)
  obtain ⟨b', hb'⟩ := exists_ok (Except.ok.inj hresolve.2.1)
  simp only [Except.toOption, Option.map_some, List.map_nil, List.cons.injEq,
    Option.some.injEq] at hrefusals
  have hprovided : ∀ i ∈ t.items, i.isDeclaration = true →
      i.name = printName ∧ i.params.length = 1 :=
    fun i hi hd => refusal?_eq_none.mp (List.findSome?_eq_none_iff.mp hrefusals.1 i hi) hd
  obtain ⟨m, hm⟩ :=
    (emitProgram_resolve Lowering.acceptsLowered_lastVerified hb).1.mpr hprovided
  exact ⟨⟨t, b, m, ht, hb, hm⟩, t', b', ht', hb',
    ((emitProgram_resolve Lowering.acceptsLowered_lastVerified hb').2 _).mpr hrefusals.2.1⟩

/-! ## Trees -/

variable {verify : Module → Option String}

theorem wellFormed_of_resolve (h : resolve t = .ok b) {m : Module} (hm : lower b = .ok m) :
    m.WellFormed :=
  Lowering.wellFormed_of_lower (Resolve.nodup_functions h) (nodup_declarations h)
    (Resolve.callsMatch h) (Resolve.accepts_main h) hm

/-- A tree is emitted exactly if it is bound and lowered, since the verifier finds no fault then. -/
theorem emit_eq_ok (hverify : Lowering.AcceptsLowered verify) {m : Module} :
    t.emit verify = .ok m ↔ ∃ b, resolve t = .ok b ∧ lower b = .ok m := by
  unfold Program.emit
  cases hb : resolve t with
  | error e => simp
  | ok b =>
    simp only [emitProgram_of_resolve hverify hb, Except.ok.injEq, exists_eq_left']
    exact mapError_eq_ok

theorem stage_of_emit {e : CompileError} (h : t.emit verify = .error e) :
    e.stage = if (resolve t).isOk then .codegen else .resolve := by
  unfold Program.emit at h
  cases hb : resolve t with
  | error e' =>
    rw [hb] at h
    cases h
    rfl
  | ok b =>
    simp only [hb] at h
    cases hr : emitProgram verify b with
    | error r =>
      rw [hr] at h
      cases h
      rfl
    | ok m =>
      rw [hr] at h
      cases h

/-! ## Texts -/

theorem lowerProgram_eq_mapError (b : Bound.Program) :
    lowerProgram b = (lower b).mapError .lowering := by
  rw [lowerProgram]
  cases lower b <;> rfl

/-- With a verifier that accepts what programs are lowered to, texts are compiled as without one. -/
theorem compileVerified_eq_compile (hverify : Lowering.AcceptsLowered verify) (src : String) :
    compileVerified verify src = compile src := by
  rw [compileVerified, compile, bindSource]
  cases parse src with
  | error e => rfl
  | ok t =>
    rw [ok_bind, Program.emit]
    cases hb : resolve t with
    | error e => simp only [hb]
    | ok b => simp only [hb, emitProgram_of_resolve hverify hb, lowerProgram_eq_mapError]

end Looplet
