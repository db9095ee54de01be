import Looplet.Proofs.Bound.Moved
import Looplet.Proofs.Code.Behavior
import Looplet.Proofs.Emission
import Looplet.Proofs.Lowering.Correctness
import Looplet.Proofs.Lowering.Independence

/-!
# The order of items does not matter

A program with its items in another order is bound if the program is (`resolve_perm`), since a name
leads to the same entry of the table. Every definition is then lowered to the same code, in the
order of the items (`exists_sections`). So the two modules name the same functions, and run alike
(`emit_perm`).
-/

namespace Looplet

open Code (Module)

/-- The items of a program that have a body. -/
def Program.definitions (p : Program) : List Tree.Item :=
  p.items.filter fun i => !i.isDeclaration

/-! ## Binding -/

namespace Resolve

theorem lookup_perm {items items' : List Tree.Item} (h : items.Perm items')
    (hn : (items.map Tree.Item.name).Nodup) (name : String) :
    (tableOfItems items').lookup name = (tableOfItems items).lookup name := by
  rw [lookup_tableOfItems, lookup_tableOfItems, find?_perm h]
  intro i hi j hj hname hname'
  rw [decide_eq_true_iff] at hname hname'
  exact List.inj_on_of_nodup_map hn hi hj (hname.trans hname'.symm)

theorem defines_congr {table table' : Table}
    (h : ∀ name, table'.lookup name = table.lookup name) {i : Tree.Item} {f : Bound.Function} :
    Defines table' i f ↔ Defines table i f := by
  simp only [Defines, definition_congr h]

theorem Defines.unique {table : Table} {i : Tree.Item} {f g : Bound.Function}
    (hf : Defines table i f) (hg : Defines table i g) : f = g := by
  obtain ⟨body, hbody, hf⟩ := hf
  obtain ⟨body', hbody', hg⟩ := hg
  obtain rfl := Option.some.inj (hbody.symm.trans hbody')
  exact Except.ok.inj (hf.symm.trans hg)

end Resolve

variable {p q : Program}

theorem Program.definitions_perm (h : p.items.Perm q.items) :
    p.definitions.Perm q.definitions :=
  h.filter _

/-- A program in another order is bound if the program is. -/
theorem resolve_perm (h : p.items.Perm q.items) {b : Bound.Program} (hb : resolve p = .ok b) :
    ∃ b', resolve q = .ok b' := by
  obtain ⟨hn, hmain, fs, hfs, -⟩ := Resolve.resolve_eq_ok.mp hb
  have hlookup := Resolve.lookup_perm h hn
  have hmain' : Resolve.checkMain (Resolve.tableOfItems q.items) = .ok () := by
    rwa [Resolve.checkMain, hlookup, ← Resolve.checkMain]
  have hdefines : ∀ i ∈ q.definitions, ∃ f, Resolve.Defines (Resolve.tableOfItems q.items) i f := by
    intro i hi
    obtain ⟨f, -, hf⟩ := exists_of_mem_left (Resolve.definitions_eq_ok.mp hfs)
      ((Program.definitions_perm h).mem_iff.mpr hi)
    exact ⟨f, (Resolve.defines_congr hlookup).mpr hf⟩
  obtain ⟨fs', hfs'⟩ := exists_forall₂_iff.mpr hdefines
  exact ⟨_, Resolve.resolve_eq_ok.mpr ⟨(h.map _).nodup_iff.mp hn, hmain', fs',
    Resolve.definitions_eq_ok.mpr hfs', rfl⟩⟩

theorem isOk_resolve_perm (h : p.items.Perm q.items) : (resolve q).isOk = (resolve p).isOk := by
  cases hp : resolve p with
  | ok b =>
    obtain ⟨b', hb'⟩ := resolve_perm h hp
    rw [hb']
    rfl
  | error e =>
    cases hq : resolve q with
    | ok b' =>
      obtain ⟨b, hb⟩ := resolve_perm h.symm hq
      rw [hp] at hb
      cases hb
    | error e' => rfl

/-! ## Lowering -/

theorem Resolve.declarations_perm {items items' : List Tree.Item} (h : items.Perm items') :
    (declarations items).Perm (declarations items') :=
  (h.filter _).map _

/-- Declarations in another order have the same built-ins. -/
theorem Lowering.builtinsOf_perm {ds ds' : List Bound.Declaration} {bs : List Builtin}
    (h : ds.Perm ds') (hbs : builtinsOf ds = .ok bs) : builtinsOf ds' = .ok bs := by
  obtain ⟨hprint, rfl⟩ := builtinsOf_eq_ok.mp hbs
  refine builtinsOf_eq_ok.mpr ⟨fun d hd => hprint d (h.mem_iff.mpr hd), ?_⟩
  rw [List.map_const', List.map_const', h.length_eq]

variable {verify : Module → Option String}

/-- A program in another order is emitted if the program is, with the same built-ins, and with the
code of every definition where the definition is among the others. -/
theorem exists_sections (hverify : Lowering.AcceptsLowered verify)
    (h : p.items.Perm q.items) {m : Module} (hm : p.emit verify = .ok m) :
    ∃ (bs : List Builtin) (code : Tree.Item → Code.Function),
      m = Lowering.moduleOf bs (p.definitions.map code) ∧
      q.emit verify = .ok (Lowering.moduleOf bs (q.definitions.map code)) ∧
      ∀ i ∈ p.definitions, (code i).symbol = Code.functionSymbol i.name := by
  obtain ⟨b, hb, hlower⟩ := (emit_eq_ok hverify).mp hm
  obtain ⟨b', hb'⟩ := resolve_perm h hb
  have hnodup := Resolve.nodup_functions hb
  have hnodup' := Resolve.nodup_functions hb'
  obtain ⟨hn, -, fs, hfs, rfl⟩ := Resolve.resolve_eq_ok.mp hb
  obtain ⟨-, -, fs', hfs', rfl⟩ := Resolve.resolve_eq_ok.mp hb'
  obtain ⟨bs, hbs, gs, hgs, -, rfl⟩ := (Lowering.lower_eq_ok hnodup).mp hlower
  have hbs' := Lowering.builtinsOf_perm (Resolve.declarations_perm h) hbs
  obtain ⟨m', hlower'⟩ := exists_lower_of_resolve hb' hbs'
  obtain ⟨bs', hbs'', gs', hgs', -, rfl⟩ := (Lowering.lower_eq_ok hnodup').mp hlower'
  obtain rfl : bs = bs' := Except.ok.inj (hbs'.symm.trans hbs'')
  have : Nonempty Bound.Function := ⟨⟨"", 0, [], 0, []⟩⟩
  have : Nonempty Code.Function := ⟨Lowering.entry⟩
  -- a definition is bound to the same function in both programs, and that to the same code
  obtain ⟨binding, hbinding, rfl, rfl⟩ := exists_map_of_perm (Program.definitions_perm h)
    (Resolve.definitions_eq_ok.mp hfs) (Resolve.definitions_eq_ok.mp hfs')
    fun i f f' hf hf' => hf.unique ((Resolve.defines_congr (Resolve.lookup_perm h hn)).mp hf')
  obtain ⟨lowering, hlowering, rfl, rfl⟩ := exists_map_of_perm
    ((Program.definitions_perm h).map binding) hgs hgs'
    fun f g g' hg hg' => Lowering.lowered_unique hbs hbs' hg hg'
  have hemit := (emit_eq_ok hverify).mpr ⟨_, hb', hlower'⟩
  rw [List.map_map] at hemit
  refine ⟨bs, lowering ∘ binding, by rw [List.map_map], hemit, fun i hi => ?_⟩
  obtain ⟨d, -, hcode⟩ := hlowering (binding i) (List.mem_map_of_mem hi)
  rw [Function.comp_apply, hcode, (hbinding i hi).name]

/-! ## Running -/

/-- Where symbols are different they lead to the same functions in any order. -/
theorem function?_perm {m m' : Module} (h : m.functions.Perm m'.functions) (hm : m.WellFormed)
    (symbol : String) : m'.function? symbol = m.function? symbol := by
  refine find?_perm h fun f hf g hg hsymbol hsymbol' => ?_
  rw [Bool.and_eq_true, decide_eq_true_iff] at hsymbol hsymbol'
  exact List.inj_on_of_nodup_map hm.nodup hf hg (hsymbol.1.trans hsymbol'.1.symm)

/-- An emitted program halts or runs forever. -/
theorem halts_or_runsForever (hverify : Lowering.AcceptsLowered verify) {m : Module}
    (hm : p.emit verify = .ok m) : (∃ text, m.Halts 0 text) ∨ m.RunsForever := by
  obtain ⟨b, hb, hlower⟩ := (emit_eq_ok hverify).mp hm
  have hfollows := Lowering.lower_follows (Resolve.nodup_functions hb) (Resolve.callsMatch hb)
    (Resolve.accepts_main hb) hlower
  rcases hfollows.total with ⟨text, hends⟩ | hdiverges
  · exact .inl ⟨text, (hfollows.halts text).mp hends⟩
  · exact .inr (hfollows.forever hdiverges)

/-- Programs in two orders are both refused at the same stage, or both emitted. Then the modules
have the same texts and built-ins, and the same code for every definition, in the order of the
items; they run alike, and both halt with the same output or both run forever. -/
theorem emit_perm (hverify : Lowering.AcceptsLowered verify)
    (h : p.items.Perm q.items) :
    (∀ e, p.emit verify = .error e → ∃ e', q.emit verify = .error e' ∧ e'.stage = e.stage) ∧
    ∀ m, p.emit verify = .ok m → ∃ m', q.emit verify = .ok m' ∧ m'.globals = m.globals ∧
      (∃ (before : List Code.Function) (code : Tree.Item → Code.Function),
        m.functions = before ++ p.definitions.map code ++ [Lowering.entry] ∧
        m'.functions = before ++ q.definitions.map code ++ [Lowering.entry] ∧
        ∀ i ∈ p.definitions, (code i).symbol = Code.functionSymbol i.name) ∧
      (∀ bound, m'.run bound = m.run bound) ∧
      ((∃ text, m.Halts 0 text ∧ m'.Halts 0 text) ∨ m.RunsForever ∧ m'.RunsForever) := by
  refine ⟨fun e he => ?_, fun m hm => ?_⟩
  · cases hq : q.emit verify with
    | ok m' =>
      obtain ⟨bs, code, -, hm, -⟩ := exists_sections hverify h.symm hq
      rw [he] at hm
      cases hm
    | error e' => exact ⟨e', rfl, by rw [stage_of_emit hq, stage_of_emit he, isOk_resolve_perm h]⟩
  · have hends := halts_or_runsForever hverify hm
    obtain ⟨b, hb, hlower⟩ := (emit_eq_ok hverify).mp hm
    obtain ⟨bs, code, rfl, hm', hsymbol⟩ := exists_sections hverify h hm
    have hfunctions : (Lowering.moduleOf bs (p.definitions.map code)).functions.Perm
        (Lowering.moduleOf bs (q.definitions.map code)).functions :=
      (((Program.definitions_perm h).map code).append_left _).append_right _
    have hrun : ∀ bound, (Lowering.moduleOf bs (q.definitions.map code)).run bound
        = (Lowering.moduleOf bs (p.definitions.map code)).run bound :=
      Module.run_congr (function?_perm hfunctions (wellFormed_of_resolve hb hlower)) rfl
    refine ⟨_, hm', rfl, ⟨bs.map Builtin.function, code, rfl, rfl, hsymbol⟩, hrun, ?_⟩
    rcases hends with ⟨text, hhalts⟩ | hforever
    · exact .inl ⟨text, hhalts, by simpa only [Module.Halts, hrun] using hhalts⟩
    · exact .inr ⟨hforever, fun bound => by rw [hrun]; exact hforever bound⟩

/-- A text where a function is called before its definition. -/
def callingAhead : String :=
  "func print_int(w); func main() \x7b f(2); \x7d func f(n) \x7b print_int(n); \x7d"

theorem callingAhead_reversed :
    ∃ t m m', parse callingAhead = .ok t ∧ t.emit lastVerified = .ok m ∧
      Program.emit lastVerified ⟨t.items.reverse⟩ = .ok m' ∧ m' ≠ m ∧ m'.Halts 0 "2\n" := by
  have hrun : (parse callingAhead).map (fun t => (t.emit lastVerified).map fun m => m.run 40)
      = .ok (.ok (.halted 0, #[2])) := by
    decide +kernel
  have hdiffer : (parse callingAhead).map (fun t => decide
      (Program.emit lastVerified ⟨t.items.reverse⟩ = t.emit lastVerified)) = .ok false := by
    decide +kernel
  obtain ⟨t, ht⟩ : ∃ t, parse callingAhead = .ok t := exists_ok (by decide +kernel)
  rw [ht] at hrun hdiffer
  replace hrun : (t.emit lastVerified).map (fun m => m.run 40) = .ok (.halted 0, #[2]) :=
    Except.ok.inj hrun
  replace hdiffer := of_decide_eq_false (Except.ok.inj hdiffer)
  cases hm : t.emit lastVerified with
  | error e =>
    rw [hm] at hrun
    cases hrun
  | ok m =>
    obtain ⟨m', hm', -, -, hsame, -⟩ := (emit_perm Lowering.acceptsLowered_lastVerified
      (q := ⟨t.items.reverse⟩) (List.reverse_perm _).symm).2 m hm
    rw [hm] at hrun hdiffer
    refine ⟨t, m, m', ht, hm, hm', fun heq => hdiffer (heq ▸ hm'), 40, #[2], ?_, by decide +kernel⟩
    rw [hsame]
    exact Except.ok.inj hrun

end Looplet
