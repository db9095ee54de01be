import Looplet.Proofs.Bound.References
import Looplet.Proofs.Bound.Meaning
import Looplet.Proofs.Code.Steps
import Looplet.Proofs.Lowering.Fragment

/-!
# Lowered expressions compute what the expressions mean

An activation holds the cells of the slots, and its first values are these cells (`Holds`). Where
the calls in an expression are realized, its fragment is: it runs to its end, the result stands for
the word of the expression, and all values from before are kept.
-/

namespace Looplet.Lowering

open Code (Operand Op Instr Block Frame Machine Steps Realizes)

variable {m : Code.Module} {k : Nat} {ctx : Context} {call : Bound.Calls}

/-- The activation has the given cells, and the values from `base` on are the slots' cells. -/
structure Holds (ctx : Context) (cs : List Int64) (g : Frame) : Prop where
  cells : g.cells.toList = cs
  length : cs.length = ctx.slots
  storage : ∀ slot < ctx.slots, g.operand? (.value (ctx.base + slot)) = some (.cell slot)

theorem Holds.extends {cells : List Int64} {next : Nat} {g g' : Frame} (h : Holds ctx cells g)
    (hg : g.Extends next g') (hn : ctx.base + ctx.slots ≤ next) : Holds ctx cells g' where
  cells := by rw [hg.cells]; exact h.cells
  length := h.length
  storage slot hs := by
    rw [hg.operand? (o := .value (ctx.base + slot)) (show _ < next by omega)]
    exact h.storage slot hs

theorem cell_eq_ok {slot : Nat} {o : Operand} :
    ctx.cell slot = .ok o ↔ slot < ctx.slots ∧ o = .value (ctx.base + slot) := by
  unfold Context.cell
  split
  · next h => simp [h, eq_comm]
  · next h => simp [h]

theorem Holds.cell? {cells : List Int64} {g : Frame} (h : Holds ctx cells g) {slot : Nat}
    {o : Operand} (hc : ctx.cell slot = .ok o) : g.cell? o = some slot := by
  obtain ⟨hs, rfl⟩ := cell_eq_ok.mp hc
  have hsize : slot < g.cells.size := by
    rw [← Array.length_toList, h.cells, h.length]
    exact hs
  rw [Frame.cell?, h.storage slot hs]
  exact if_pos hsize

/-- Every call of `n` arguments that `accepts` allows is realized: the call instruction prints what
the call prints, and gives the word that the call gives. -/
def Answers (m : Code.Module) (k : Nat) (ctx : Context) (accepts : Nat → Bound.Callee → Prop)
    (call : Bound.Calls) : Prop :=
  ∀ callee symbol ws, ctx.symbol callee = .ok symbol → accepts ws.length callee →
    ∀ (g : Frame) (callers : List (Nat × Frame)) (n : Nat) (hint : String) (args : List Operand)
      (rest : List Instr), g.words? args = some ws →
      Realizes m k ⟨g.goOn (.define n hint (.call symbol args) :: rest), callers⟩ (call callee ws)
        fun w s => s = ⟨(g.define n (.word w)).goOn rest, callers⟩

/-! ## Operators -/

variable {g : Frame} {callers : List (Nat × Frame)} {rest : List Instr}

theorem operate?_compare {c : Code.Comparison} {x y : Operand} {a b : Int64}
    (hx : g.word? x = some a) (hy : g.word? y = some b) (n : Nat) :
    Machine.operate? g n (.compare c x y) = some (g.define n (.bit (c.holds a b))) := by
  simp only [Machine.operate?, hx, hy, bind, Option.bind]
  rfl

/-- A comparison whose bit is extended to a word. -/
theorem compare_steps (m : Code.Module) {c : Code.Comparison} {x y : Operand} {a b : Int64}
    (hx : g.word? x = some a) (hy : g.word? y = some b) (n : Nat) (hint hint' : String)
    (callers : List (Nat × Frame)) (rest : List Instr) :
    ∃ g', Steps m 2 ⟨g.goOn (.define n hint (.compare c x y) ::
        .define (n + 1) hint' (.extend (.value n)) :: rest), callers⟩ [] ⟨g'.goOn rest, callers⟩ ∧
      g.Extends n g' ∧ g'.word? (.value (n + 1)) = some (Code.bitWord (c.holds a b)) := by
  let g₁ := g.define n (.bit (c.holds a b))
  let g₂ := g₁.define (n + 1) (.word (Code.bitWord (c.holds a b)))
  have h₂ : Machine.operate? g₁ (n + 1) (.extend (.value n)) = some g₂ := by
    simp only [Machine.operate?, g₁, Frame.bit?_define_self, bind, Option.bind]
    rfl
  refine ⟨g₂, ?_, ?_, Frame.word?_define_self _ _ _⟩
  · exact (Steps.one (Machine.step_define (operate?_compare hx hy n))).trans
      (.one (Machine.step_define h₂))
  · exact ((Frame.Extends.refl n g).define (Nat.le_refl n) _).define (Nat.le_succ n) _

theorem bitWord_equal (a b : Int64) :
    Code.bitWord (Code.Comparison.equal.holds a b) = BinaryOp.equal.apply a b := by
  by_cases h : a = b <;> simp [Code.bitWord, Code.Comparison.holds, BinaryOp.apply, h]

theorem bitWord_notEqual (a b : Int64) :
    Code.bitWord (Code.Comparison.notEqual.holds a b) = BinaryOp.notEqual.apply a b := by
  by_cases h : a = b <;> simp [Code.bitWord, Code.Comparison.holds, BinaryOp.apply, h]

/-- An operator adds one or two operations to its operands. -/
theorem binary_steps (m : Code.Module) (f : Fragment (Operand × Operand)) (op : BinaryOp) :
    ∃ tail, (f.binary op).instrs = f.instrs ++ tail ∧
      ∀ (g : Frame) (callers : List (Nat × Frame)) (rest : List Instr) (a b : Int64),
        g.word? f.result.1 = some a → g.word? f.result.2 = some b →
        ∃ n g', Steps m n ⟨g.goOn (tail ++ rest), callers⟩ [] ⟨g'.goOn rest, callers⟩ ∧
          g.Extends f.next g' ∧ g'.word? (f.binary op).result = some (op.apply a b) := by
  cases op with
  | add =>
    refine ⟨_, rfl, fun g callers rest a b ha hb => ?_⟩
    have h : Machine.operate? g f.next (.add f.result.1 f.result.2)
        = some (g.define f.next (.word (a + b))) := by
      simp only [Machine.operate?, ha, hb, bind, Option.bind]
      rfl
    exact ⟨1, _, .one (Machine.step_define h), (Frame.Extends.refl _ g).define (Nat.le_refl _) _,
      Frame.word?_define_self _ _ _⟩
  | equal =>
    refine ⟨_, List.append_assoc .., fun g callers rest a b ha hb => ?_⟩
    obtain ⟨g', hs, hg, hw⟩ :=
      compare_steps m (c := .equal) ha hb f.next "eq" "eq.zext" callers rest
    exact ⟨2, g', hs, hg, by rw [← bitWord_equal]; exact hw⟩
  | notEqual =>
    refine ⟨_, List.append_assoc .., fun g callers rest a b ha hb => ?_⟩
    obtain ⟨g', hs, hg, hw⟩ := compare_steps m (c := .notEqual) ha hb f.next "ne" "ne.zext" callers
      rest
    exact ⟨2, g', hs, hg, by rw [← bitWord_notEqual]; exact hw⟩

/-! ## Expressions -/

/-- A load gives the word in the cell. -/
theorem load_realizes {cs : List Int64} {slot next : Nat} {cell : Operand}
    (hc : ctx.cell slot = .ok cell) (hg : Holds ctx cs g) :
    Realizes m k ⟨g.goOn (.define next "load" (.load cell) :: rest), callers⟩
      (Outcome.ofOption cs[slot]?)
      fun w s => ∃ g', s = ⟨g'.goOn rest, callers⟩ ∧ g.Extends next g' ∧
        g'.word? (.value next) = some w := by
  have hs : slot < cs.length := by
    rw [hg.length]
    exact (cell_eq_ok.mp hc).1
  have hw : g.cells[slot]? = some cs[slot] := by
    rw [← Array.getElem?_toList, hg.cells]
    exact List.getElem?_eq_getElem hs
  have h : Machine.operate? g next (.load cell) = some (g.define next (.word cs[slot])) := by
    simp only [Machine.operate?, hg.cell? hc, hw, bind, Option.bind]
    rfl
  rw [List.getElem?_eq_getElem hs]
  refine Realizes.skip (Machine.step_define h) ?_
  exact .pure ⟨_, rfl, (Frame.Extends.refl _ g).define (Nat.le_refl _) _,
    Frame.word?_define_self _ _ _⟩

mutual

theorem expr_realizes {accepts : Nat → Bound.Callee → Prop}
    (hcall : Answers m k ctx accepts call) {cs : List Int64} {callers : List (Nat × Frame)} :
    (e : Bound.Expr) → {next : Nat} → {f : Fragment Operand} → {g : Frame} → {rest : List Instr} →
    expr ctx next e = .ok f → ctx.base + ctx.slots ≤ next → (∀ c ∈ e.calls, accepts c.2 c.1) →
    Holds ctx cs g →
    Realizes m k ⟨g.goOn (f.instrs ++ rest), callers⟩ (e.eval call cs)
      fun w s => ∃ g', s = ⟨g'.goOn rest, callers⟩ ∧ g.Extends next g' ∧ g'.word? f.result = some w
  | .int v, next, f, g, rest, h, _, _, _ => by
    simp only [expr, Except.ok.injEq] at h
    subst h
    exact .pure ⟨g, rfl, .refl _ _, rfl⟩
  | .load slot, next, f, g, rest, h, _, _, hg => by
    obtain ⟨cell, hc, rfl⟩ := expr_load.mp h
    exact load_realizes hc hg
  | .binary op l r, next, f, g, rest, h, hn, ha, hg => by
    obtain ⟨fl, hl, fr, hr, rfl⟩ := expr_binary.mp h
    simp only [Bound.Expr.calls, List.mem_append] at ha
    have hsl := expr_sound l hl
    have hsr := expr_sound r hr
    obtain ⟨tail, hcode, htail⟩ := binary_steps m
      ⟨fl.instrs ++ fr.instrs, (fl.result, fr.result), fr.next⟩ op
    rw [hcode, List.append_assoc, List.append_assoc]
    refine (expr_realizes hcall l hl hn (fun c hc => ha c (.inl hc)) hg).bind ?_
    rintro a _ ⟨g₁, rfl, hg₁, hwa⟩
    refine (expr_realizes hcall r hr (Nat.le_trans hn hsl.next_le) (fun c hc => ha c (.inr hc))
      (hg.extends hg₁ hn)).bind ?_
    rintro b _ ⟨g₂, rfl, hg₂, hwb⟩
    have hwa₂ : g₂.word? fl.result = some a := by
      rw [hg₂.word? (hsl.below _ (by simp))]
      exact hwa
    obtain ⟨n, g₃, hsteps, hg₃, hw⟩ := htail g₂ callers rest a b hwa₂ hwb
    refine (Realizes.steps hsteps (Realizes.pure ?_)).mono (Nat.le_add_left k n)
    exact ⟨g₃, rfl, (hg₁.trans hg₂ hsl.next_le).trans hg₃
      (Nat.le_trans hsl.next_le hsr.next_le), hw⟩
  | .call callee args, next, f, g, rest, h, hn, ha, hg => by
    obtain ⟨symbol, hs, fs, hf, rfl⟩ := expr_call.mp h
    simp only [Bound.Expr.calls, List.mem_cons] at ha
    have hsf := exprs_sound args hf
    rw [Fragment.define, List.append_assoc]
    refine (exprs_realizes hcall args hf hn (fun c hc => ha c (.inr hc)) hg).bind ?_
    rintro ws _ ⟨hlen, g₁, rfl, hg₁, hws⟩
    have hacc : accepts ws.length callee := by
      rw [hlen]
      exact ha (callee, args.length) (.inl rfl)
    refine (hcall callee symbol ws hs hacc g₁ callers fs.next "call" fs.result rest hws).imp ?_
    rintro w _ rfl
    exact ⟨_, rfl, hg₁.define hsf.next_le _, Frame.word?_define_self _ _ _⟩

theorem exprs_realizes {accepts : Nat → Bound.Callee → Prop}
    (hcall : Answers m k ctx accepts call) {cs : List Int64} {callers : List (Nat × Frame)} :
    (es : List Bound.Expr) → {next : Nat} → {f : Fragment (List Operand)} → {g : Frame} →
    {rest : List Instr} → exprs ctx next es = .ok f → ctx.base + ctx.slots ≤ next →
    (∀ c ∈ Bound.Expr.callsOfAll es, accepts c.2 c.1) → Holds ctx cs g →
    Realizes m k ⟨g.goOn (f.instrs ++ rest), callers⟩ (Bound.Expr.evalAll call cs es)
      fun ws s => ws.length = es.length ∧ ∃ g', s = ⟨g'.goOn rest, callers⟩ ∧ g.Extends next g' ∧
        g'.words? f.result = some ws
  | [], next, f, g, rest, h, _, _, _ => by
    simp only [exprs, Except.ok.injEq] at h
    subst h
    exact .pure ⟨rfl, g, rfl, .refl _ _, rfl⟩
  | e :: es, next, f, g, rest, h, hn, ha, hg => by
    obtain ⟨fe, he, fs, hs, rfl⟩ := exprs_cons.mp h
    simp only [Bound.Expr.callsOfAll, List.mem_append] at ha
    have hse := expr_sound e he
    rw [List.append_assoc]
    refine (expr_realizes hcall e he hn (fun c hc => ha c (.inl hc)) hg).bind ?_
    rintro w _ ⟨g₁, rfl, hg₁, hw⟩
    refine (exprs_realizes hcall es hs (Nat.le_trans hn hse.next_le) (fun c hc => ha c (.inr hc))
      (hg.extends hg₁ hn)).bind ?_
    rintro ws _ ⟨hlen, g₂, rfl, hg₂, hws⟩
    refine .pure ⟨by rw [List.length_cons, List.length_cons, hlen], g₂, rfl,
      hg₁.trans hg₂ hse.next_le, ?_⟩
    have hw₂ : g₂.word? fe.result = some w := by
      rw [hg₂.word? (hse.below _ (by simp))]
      exact hw
    simp only [Frame.words?, hw₂, hws]

end

/-- The bit of a lowered condition says whether the word is not zero. -/
theorem condition_realizes {accepts : Nat → Bound.Callee → Prop}
    (hcall : Answers m k ctx accepts call) {cs : List Int64} {next : Nat} {c : Bound.Expr}
    {f : Fragment Operand} (h : condition ctx next c = .ok f) (hn : ctx.base + ctx.slots ≤ next)
    (ha : ∀ call ∈ c.calls, accepts call.2 call.1) (hg : Holds ctx cs g) :
    Realizes m k ⟨g.goOn (f.instrs ++ rest), callers⟩ (c.eval call cs)
      fun w s => ∃ g', s = ⟨g'.goOn rest, callers⟩ ∧ g.Extends next g' ∧
        g'.bit? f.result = some (w != 0) := by
  obtain ⟨e, he, rfl⟩ := condition_eq_ok.mp h
  have hse := expr_sound c he
  rw [Fragment.define, List.append_assoc]
  rw [← Outcome.bind_value (c.eval call cs)]
  refine (expr_realizes hcall c he hn ha hg).bind ?_
  rintro w _ ⟨g₁, rfl, hg₁, hw⟩
  refine Realizes.skip (Machine.step_define (operate?_compare hw (g₁.word?_const 0) e.next)) ?_
  exact .pure ⟨_, rfl, hg₁.define hse.next_le _, Frame.bit?_define_self _ _ _⟩

end Looplet.Lowering
