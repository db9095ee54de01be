import Looplet.Proofs.Lowering.Evaluation
import Looplet.Proofs.Lowering.Statement

/-!
# Lowered statements do what the statements mean

`B` are the blocks of the finished function. They extend those of every draft on the way, so the
code that remains where a draft stands is known (`Draft.rest`). From there the machine realizes the
statements that are lowered next: it gets to where the draft after them stands, or to the block that
a jump goes to (`landing`).
-/

namespace Looplet.Lowering

open Code (Operand Instr Block Frame Machine Steps Realizes)
open Draft

variable {m : Code.Module} {k : Nat} {ctx : Context} {call : Bound.Calls} {B : List Block}
variable {loops : List OpenLoop} {d d' : Draft}

/-! ## Code -/

/-- The instructions of a block, none if there is no such block. -/
def codeAt (B : List Block) (i : Nat) : List Instr :=
  (B[i]?.map Block.instrs).getD []

/-- What the blocks `B` have after the instructions of the current block. -/
def Draft.rest (d : Draft) (B : List Block) : List Instr :=
  (codeAt B d.current).drop (codeAt d.blocks d.current).length

theorem codeAt_of_getElem? {i : Nat} {b : Block} (h : B[i]? = some b) : codeAt B i = b.instrs := by
  simp [codeAt, h]

theorem exists_block {i : Nat} (h : i < B.length) : ∃ b, B[i]? = some b ∧ b.instrs = codeAt B i :=
  ⟨B[i], List.getElem?_eq_getElem h, (codeAt_of_getElem? (List.getElem?_eq_getElem h)).symm⟩

theorem rest_push (hd : d.current < d.blocks.length) (is : List Instr)
    (h : Extends (d.push is).blocks B) : d.rest B = is ++ (d.push is).rest B := by
  have hb := List.getElem?_eq_getElem hd
  have hp := getElem?_push_self hb is
  obtain ⟨more, hB⟩ := h _ _ hp
  simp only [Draft.rest, push_current, codeAt_of_getElem? hb, codeAt_of_getElem? hp,
    codeAt_of_getElem? hB]
  rw [List.append_assoc, List.drop_left, ← List.append_assoc, List.drop_left]

theorem rest_pushFragment {α : Type} (hd : d.current < d.blocks.length) {f : Fragment α}
    (h : Extends (d.pushFragment f).blocks B) :
    d.rest B = f.instrs ++ (d.pushFragment f).rest B :=
  rest_push (d := { d with next := f.next }) hd f.instrs h

theorem rest_append (hd : d.current < d.blocks.length) (names : List String) :
    (d.append names).rest B = d.rest B := by
  simp only [Draft.rest, append_current, codeAt, getElem?_append_of_lt hd]

theorem rest_fresh (h : d.Fresh) : d.rest B = codeAt B d.current := by
  obtain ⟨name, hn⟩ := h
  simp only [Draft.rest, codeAt_of_getElem? hn, List.length_nil, List.drop_zero]

/-- The code before a conditional: the condition, then a branch to one of its two parts. -/
theorem rest_thenPart {f : Fragment Operand} (hd : d.current < d.blocks.length)
    (hB : Extends (d.thenPart f).blocks B) :
    ∃ more, d.rest B
      = f.instrs ++ .branch f.result d.blocks.length (d.blocks.length + 1) :: more := by
  have hp := rest_push (B := B)
    (d := Draft.append (Draft.pushFragment { d with ifs := d.ifs + 1 } f) (ifNames d.ifs))
    (by simpa using Nat.lt_add_right _ hd)
    [.branch f.result d.blocks.length (d.blocks.length + 1)] hB
  rw [rest_append (by simpa using hd)] at hp
  have hf := rest_pushFragment (B := B) (d := { d with ifs := d.ifs + 1 }) (f := f) hd
    ((extends_append _ _).trans ((extends_push _ _).trans hB))
  exact ⟨_, by rw [show d.rest B = { d with ifs := d.ifs + 1 }.rest B from rfl, hf, hp]; rfl⟩

/-- The code before a loop goes to its condition. -/
theorem rest_loopHead {id : Nat} (hd : d.current < d.blocks.length)
    (hB : Extends (d.loopHead id).blocks B) : ∃ more, d.rest B = .jump d.blocks.length :: more := by
  have hp := rest_push (B := B) (d := d.append (loopNames id))
    (by simpa using Nat.lt_add_right _ hd) [.jump d.blocks.length] hB
  rw [rest_append hd] at hp
  exact ⟨_, hp⟩

/-- The code of a condition ends with a branch into the loop or after it. -/
theorem rest_loopBody {f : Fragment Operand} (hd : d.current < d.blocks.length)
    (hB : Extends (d.loopBody f).blocks B) :
    ∃ more, d.rest B = f.instrs ++ .branch f.result (d.current + 1) (d.current + 2) :: more := by
  have hp := rest_push (B := B) (d := d.pushFragment f) (by simpa using hd)
    [.branch f.result (d.current + 1) (d.current + 2)] hB
  have hf := rest_pushFragment (B := B) (d := d) (f := f) hd ((extends_push _ _).trans hB)
  exact ⟨_, by rw [hf, hp]; rfl⟩

/-! ## Jumps between blocks -/

variable {g : Frame} {callers : List (Nat × Frame)} {code : List Instr}

theorem jump_step {i : Nat} (hg : g.blocks = B) (hi : i < B.length) :
    Machine.step m ⟨g.goOn (.jump i :: code), callers⟩
      = .running ⟨g.goOn (codeAt B i), callers⟩ none := by
  obtain ⟨b, hb, hcode⟩ := exists_block hi
  rw [← hcode]
  exact Machine.step_jump (by rw [hg]; exact hb)

theorem branch_step_true {o : Operand} {t e : Nat} (hg : g.blocks = B)
    (ho : g.bit? o = some true) (ht : t < B.length) :
    Machine.step m ⟨g.goOn (.branch o t e :: code), callers⟩
      = .running ⟨g.goOn (codeAt B t), callers⟩ none := by
  obtain ⟨b, hb, hcode⟩ := exists_block ht
  rw [← hcode]
  exact Machine.step_branch ho (by rw [hg]; exact hb)

theorem branch_step_false {o : Operand} {t e : Nat} (hg : g.blocks = B)
    (ho : g.bit? o = some false) (he : e < B.length) :
    Machine.step m ⟨g.goOn (.branch o t e :: code), callers⟩
      = .running ⟨g.goOn (codeAt B e), callers⟩ none := by
  obtain ⟨b, hb, hcode⟩ := exists_block he
  rw [← hcode]
  exact Machine.step_branch ho (by rw [hg]; exact hb)

/-! ## Statements -/

/-- A live draft inside loops whose blocks it has, after the slots. -/
structure Ready (ctx : Context) (loops : List OpenLoop) (d : Draft) : Prop where
  live : d.Live
  loops : ∀ l ∈ loops, l.head < d.blocks.length ∧ l.exit < d.blocks.length
  next : ctx.base + ctx.slots ≤ d.next

theorem Ready.grows (h : Ready ctx loops d) (hl : d'.Live) (hg : d.Grows d') :
    Ready ctx loops d' where
  live := hl
  loops l hmem := by
    have := h.loops l hmem
    have := hg.length_le
    omega
  next := Nat.le_trans h.next hg.next_le

/-- An activation of the finished function with the given cells. -/
structure Runs (ctx : Context) (B : List Block) (cs : List Int64) (g : Frame) : Prop where
  holds : Holds ctx cs g
  blocks : g.blocks = B

theorem Runs.extends {cs : List Int64} {next : Nat} {g' : Frame} (h : Runs ctx B cs g)
    (hg : g.Extends next g') (hn : ctx.base + ctx.slots ≤ next) : Runs ctx B cs g' :=
  ⟨h.holds.extends hg hn, hg.blocks.trans h.blocks⟩

/-- The code after a statement that leads from a draft to `d'`: where `d'` stands, or at a jump the
code of the block that it goes to. -/
def landing (B : List Block) (loops : List OpenLoop) (d' : Draft) : Signal Nat → Option (List Instr)
  | .next => some (d'.rest B)
  | .jump j id => (loops.find? fun l => l.id = id).map fun l => codeAt B (l.target j)

/-- The state after a statement: an activation with the new cells, at its landing. -/
def Lands (ctx : Context) (B : List Block) (loops : List OpenLoop) (d' : Draft)
    (callers : List (Nat × Frame)) (r : Signal Nat × List Int64) (s : Machine) : Prop :=
  ∃ g code, landing B loops d' r.1 = some code ∧ s = ⟨g.goOn code, callers⟩ ∧ Runs ctx B r.2 g

/-- A part of a conditional that has come to its end goes on after the conditional. -/
theorem Lands.leave {t : Nat} {d₁ : Draft} {b : Nat} {r : Signal Nat × List Int64} {s : Machine}
    (h : Lands ctx B loops d₁ callers r s) (hd : d₁.current < d₁.blocks.length)
    (hB : Extends (d₁.leave t b).blocks B) (ht : t < B.length) (hrest : d'.rest B = codeAt B t) :
    ∃ n u, Steps m n s [] u ∧ Lands ctx B loops d' callers r u := by
  obtain ⟨g, code, hl, rfl, hg⟩ := h
  obtain ⟨signal, cs⟩ := r
  cases signal with
  | next =>
    simp only [landing, Option.some.injEq] at hl
    subst hl
    rw [rest_push hd _ hB]
    exact ⟨1, _, .one (jump_step hg.blocks ht), g, _, rfl, by rw [hrest], hg⟩
  | jump j id => exact ⟨0, _, .refl _, g, code, hl, rfl, hg⟩

/-- A store puts the word into the cell. -/
theorem store_realizes {cs : List Int64} {slot : Nat} {o cell : Operand} {w : Int64}
    (hc : ctx.cell slot = .ok cell) (hg : Runs ctx B cs g) (hw : g.word? o = some w) :
    Realizes m k ⟨g.goOn (.store o cell :: code), callers⟩
      (if slot < cs.length then pure (Signal.next, cs.set slot w) else .undefined :
        Outcome (Signal Nat × List Int64))
      fun r s => ∃ g', s = ⟨g'.goOn code, callers⟩ ∧ r.1 = .next ∧ Runs ctx B r.2 g' := by
  have hs : slot < cs.length := by
    rw [hg.holds.length]
    exact (cell_eq_ok.mp hc).1
  rw [if_pos hs]
  refine Realizes.skip (Machine.step_store hw (hg.holds.cell? hc))
    (.pure ⟨_, rfl, rfl, ?_, hg.blocks⟩)
  exact ⟨by simp [hg.holds.cells], by rw [List.length_set]; exact hg.holds.length,
    hg.holds.storage⟩

/-- The loop of a draft: its condition and its body are realized, and so is every number of turns
that the budget allows, from the block of its condition on. -/
theorem iterate_realizes {id b : Nat} {d₁ : Draft} {condition : List Int64 → Outcome Int64}
    {body : List Int64 → Outcome (Signal Nat × List Int64)} {o : Operand}
    (hd₁ : d₁.current < d₁.blocks.length) (hB : Extends (d₁.leave b (b + 2)).blocks B)
    (hb : b + 2 < B.length) (hend : d'.rest B = codeAt B (b + 2))
    (hc : ∀ cs g, Runs ctx B cs g → Realizes m k ⟨g.goOn (codeAt B b), callers⟩ (condition cs)
      fun w s => ∃ g' more, s = ⟨g'.goOn (.branch o (b + 1) (b + 2) :: more), callers⟩ ∧
        Runs ctx B cs g' ∧ g'.bit? o = some (w != 0))
    (hbody : ∀ cs g, Runs ctx B cs g → Realizes m k ⟨g.goOn (codeAt B (b + 1)), callers⟩ (body cs)
      (Lands ctx B (⟨id, b, b + 2⟩ :: loops) d₁ callers)) :
    ∀ turns ≤ k, ∀ cs g, Runs ctx B cs g → Realizes m turns ⟨g.goOn (codeAt B b), callers⟩
      (Outcome.iterate (fun target => decide (target = id)) condition body turns cs)
      (Lands ctx B loops d' callers) := by
  intro turns
  induction turns with
  | zero => exact fun _ _ _ _ => Realizes.unfinished
  | succ turns ih =>
    intro hk cs g hg
    rw [Outcome.iterate]
    refine ((hc cs g hg).mono hk).bind ?_
    rintro w _ ⟨g₁, more, rfl, hg₁, ho⟩
    by_cases hw : w = 0
    · rw [hw] at ho
      rw [if_pos hw]
      exact .skip (branch_step_false hg₁.blocks ho hb) (.pure ⟨g₁, _, rfl, by rw [hend], hg₁⟩)
    · rw [show (w != 0) = true by simp [hw]] at ho
      rw [if_neg hw]
      refine .step (branch_step_true hg₁.blocks ho (by omega))
        (((hbody cs g₁ hg₁).mono (by omega)).bind ?_)
      rintro ⟨signal, cs₂⟩ _ ⟨g₂, code₂, hl, rfl, hg₂⟩
      cases signal with
      | next =>
        simp only [landing, Option.some.injEq] at hl
        subst hl
        rw [rest_push hd₁ _ hB]
        exact .skip (jump_step hg₂.blocks (by omega)) (ih (by omega) cs₂ g₂ hg₂)
      | jump j target =>
        by_cases ht : target = id
        · subst ht
          simp only [landing, List.find?_cons, decide_true, Option.map_some,
            Option.some.injEq] at hl
          subst hl
          simp only [decide_true, if_true]
          cases j with
          | leave => exact .pure ⟨g₂, _, rfl, by rw [hend]; rfl, hg₂⟩
          | again => exact ih (by omega) cs₂ g₂ hg₂
        · have hid : ¬ id = target := fun h => ht h.symm
          simp only [landing, List.find?_cons, hid, decide_false] at hl
          simp only [ht, decide_false, Bool.false_eq_true, if_false]
          exact .pure ⟨g₂, code₂, hl, rfl, hg₂⟩

mutual

theorem stmt_realizes {accepts : Nat → Bound.Callee → Prop}
    (hcall : Answers m k ctx accepts call) {callers : List (Nat × Frame)} : (s : Bound.Stmt) →
    {loops : List OpenLoop} → {d d' : Draft} → {cs : List Int64} → {g : Frame} →
    Ready ctx loops d → stmt ctx loops d s = .ok d' → Extends d'.blocks B →
    (∀ c ∈ s.calls, accepts c.2 c.1) → Runs ctx B cs g →
    Realizes m k ⟨g.goOn (d.rest B), callers⟩ (s.exec call k cs) (Lands ctx B loops d' callers)
  | .store slot e, loops, d, d', cs, g, hd, h, hB, ha, hg => by
    obtain ⟨f, hf, cell, hc, rfl⟩ := (stmt_store hd.live).mp h
    have hlt := hd.live.lt
    have hlt' : (d.pushFragment f).current < (d.pushFragment f).blocks.length := by simpa using hlt
    rw [rest_pushFragment hlt ((extends_push _ _).trans hB), rest_push hlt' _ hB]
    refine (expr_realizes hcall e hf hd.next ha hg.holds).bind ?_
    rintro w _ ⟨g₁, rfl, hg₁, hw⟩
    refine (store_realizes hc (hg.extends hg₁ hd.next) hw).imp ?_
    rintro ⟨signal, cs'⟩ _ ⟨g₂, rfl, rfl, hg₂⟩
    exact ⟨g₂, _, rfl, rfl, hg₂⟩
  | .ifElse c t e, loops, d, d', cs, g, hd, h, hB, ha, hg => by
    obtain ⟨f, hf, d₁, h₁, d₂, h₂, rfl⟩ :=
      (stmt_ifElse hd.live (grow ctx loops t) (grow ctx loops e)).mp h
    have p := choice_ifElse hd.live (grow ctx loops t) (grow ctx loops e) h₁ h₂
    -- the blocks of every draft on the way are part of `B`
    have hB₂ : Extends d₂.blocks B := (extends_push _ _).trans hB
    have hB₁ : Extends (d₁.leave (d.blocks.length + 2) (d.blocks.length + 1)).blocks B :=
      p.elseGrows.blocks.trans hB₂
    have hB₀ : Extends (d.thenPart f).blocks B :=
      p.thenGrows.blocks.trans ((extends_push _ _).trans hB₁)
    have hlen : d.blocks.length + 2 < B.length := Nat.lt_of_lt_of_le p.exit.lt hB₂.length_le
    have hout : (d₂.leave (d.blocks.length + 2) (d.blocks.length + 2)).rest B
        = codeAt B (d.blocks.length + 2) := rest_fresh (p.exit.push _).fresh
    have hg₀ := grows_thenPart (condition_sound hf)
    have hready₀ := hd.grows p.thenFresh.live hg₀
    have hready₁ := hd.grows p.elseFresh.live
      ((hg₀.trans p.thenGrows).leave (d.blocks.length + 2) (Nat.le_succ _))
    simp only [Bound.Stmt.calls, List.mem_append] at ha
    obtain ⟨more, hrest⟩ := rest_thenPart hd.live.lt hB₀
    rw [hrest]
    refine (condition_realizes hcall hf hd.next (fun c hc => ha c (.inl hc)) hg.holds).bind ?_
    rintro w _ ⟨g₁, rfl, hg₁', hbit⟩
    have hr := hg.extends hg₁' hd.next
    by_cases hw : w = 0
    · rw [hw] at hbit
      rw [if_pos hw]
      refine .skip (branch_step_false hr.blocks hbit (by omega)) ?_
      rw [show codeAt B (d.blocks.length + 1) = _ from (rest_fresh p.elseFresh).symm]
      exact (stmts_realizes hcall e hready₁ h₂ hB₂ (fun c hc => ha c (.inr (.inr hc))) hr).andThen
        fun r s hl => hl.leave p.elseLive.lt hB hlen hout
    · rw [show (w != 0) = true by simp [hw]] at hbit
      rw [if_neg hw]
      refine .skip (branch_step_true hr.blocks hbit (by omega)) ?_
      rw [show codeAt B d.blocks.length = _ from (rest_fresh p.thenFresh).symm]
      exact (stmts_realizes hcall t hready₀ h₁ ((extends_push _ _).trans hB₁)
        (fun c hc => ha c (.inr (.inl hc))) hr).andThen
          fun r s hl => hl.leave p.thenLive.lt hB₁ hlen hout
  | .loop id c body, loops, d, d', cs, g, hd, h, hB, ha, hg => by
    obtain ⟨f, hf, d₁, h₁, rfl⟩ := (stmt_loop hd.live (grow ctx _ body)).mp h
    have p := turn_loop hd.live (grow ctx _ body) h₁
    -- the blocks of every draft on the way are part of `B`
    have hB₁ : Extends d₁.blocks B := (extends_push _ _).trans hB
    have hBbody : Extends ((d.loopHead id).loopBody f).blocks B := p.grows.blocks.trans hB₁
    have hBhead : Extends (d.loopHead id).blocks B :=
      (extends_push { d.loopHead id with next := f.next } _).trans
        ((extends_push _ _).trans hBbody)
    have hlen : d.blocks.length + 2 < B.length := Nat.lt_of_lt_of_le p.exit.lt hB₁.length_le
    have hout : (d₁.leave d.blocks.length (d.blocks.length + 2)).rest B
        = codeAt B (d.blocks.length + 2) := rest_fresh (p.exit.push _).fresh
    have hready : Ready ctx (⟨id, d.blocks.length, d.blocks.length + 2⟩ :: loops)
        ((d.loopHead id).loopBody f) := by
      have hready := hd.grows p.bodyFresh.live (grows_loopBody d id (condition_sound hf))
      have hlt := p.bodyExit.lt
      refine ⟨p.bodyFresh.live, ?_, hready.next⟩
      intro l hl
      rcases List.mem_cons.mp hl with rfl | hl
      · exact ⟨Nat.lt_of_le_of_lt (Nat.le_add_right _ 2) hlt, hlt⟩
      · exact hready.loops l hl
    simp only [Bound.Stmt.calls, List.mem_append] at ha
    obtain ⟨more, hrest⟩ := rest_loopHead hd.live.lt hBhead
    obtain ⟨more', hrest'⟩ := rest_loopBody p.headFresh.live.lt hBbody
    rw [hrest]
    refine .skip (jump_step hg.blocks (by omega)) ?_
    rw [Bound.Stmt.exec]
    refine iterate_realizes (o := f.result) p.live.lt hB hlen hout ?_ ?_ k (Nat.le_refl k) cs g hg
    · intro cs' g' hg'
      rw [show codeAt B d.blocks.length = (d.loopHead id).rest B from (rest_fresh p.headFresh).symm,
        hrest']
      refine (condition_realizes hcall hf hd.next (fun c hc => ha c (.inl hc)) hg'.holds).imp ?_
      rintro w _ ⟨g₁, rfl, hg₁', hbit⟩
      exact ⟨g₁, more', rfl, hg'.extends hg₁' hd.next, hbit⟩
    · intro cs' g' hg'
      rw [show codeAt B (d.blocks.length + 1) = _ from (rest_fresh p.bodyFresh).symm]
      exact stmts_realizes hcall body hready h₁ hB₁ (fun c hc => ha c (.inr hc)) hg'
  | .jump j id, loops, d, d', cs, g, hd, h, hB, ha, hg => by
    obtain ⟨l, hl, rfl⟩ := (stmt_jump hd.live).mp h
    have hlen := hB.length_le
    have hmem := hd.loops l (List.mem_of_find?_eq_some hl)
    have hgrow := (grows_dead d (l.target j)).length_le
    have ht : l.target j < B.length := by
      cases j <;> simp only [OpenLoop.target] <;> omega
    rw [rest_push hd.live.lt _ ((extends_append _ _).trans hB)]
    refine .skip (jump_step hg.blocks ht) (.pure ⟨g, _, ?_, rfl, hg⟩)
    simp only [landing, hl, Option.map_some]
  | .expr e, loops, d, d', cs, g, hd, h, hB, ha, hg => by
    obtain ⟨f, hf, rfl⟩ := (stmt_expr hd.live).mp h
    rw [rest_pushFragment hd.live.lt hB]
    refine (expr_realizes hcall e hf hd.next ha hg.holds).bind ?_
    rintro w _ ⟨g₁, rfl, hg₁, -⟩
    exact .pure ⟨g₁, _, rfl, rfl, hg.extends hg₁ hd.next⟩

theorem stmts_realizes {accepts : Nat → Bound.Callee → Prop}
    (hcall : Answers m k ctx accepts call) {callers : List (Nat × Frame)} :
    (ss : List Bound.Stmt) → {loops : List OpenLoop} → {d d' : Draft} → {cs : List Int64} →
    {g : Frame} → Ready ctx loops d → stmts ctx loops d ss = .ok d' → Extends d'.blocks B →
    (∀ c ∈ Bound.Stmt.callsOfAll ss, accepts c.2 c.1) → Runs ctx B cs g →
    Realizes m k ⟨g.goOn (d.rest B), callers⟩ (Bound.Stmt.execAll call k ss cs)
      (Lands ctx B loops d' callers)
  | [], loops, d, d', cs, g, hd, h, hB, ha, hg => by
    simp only [stmts, Except.ok.injEq] at h
    subst h
    exact .pure ⟨g, _, rfl, rfl, hg⟩
  | s :: ss, loops, d, d', cs, g, hd, h, hB, ha, hg => by
    obtain ⟨d₁, h₁, h₂⟩ := stmts_cons.mp h
    simp only [Bound.Stmt.callsOfAll, List.mem_append] at ha
    obtain ⟨hl₁, hg₁⟩ := stmt_grows s hd.live h₁
    obtain ⟨hl₂, hg₂⟩ := stmts_grows ss hl₁ h₂
    refine (stmt_realizes hcall s hd h₁ (hg₂.blocks.trans hB) (fun c hc => ha c (.inl hc)) hg).bind
      ?_
    rintro ⟨signal, cs₁⟩ _ ⟨g₁, code, hl, rfl, hr⟩
    cases signal with
    | next =>
      simp only [landing, Option.some.injEq] at hl
      subst hl
      exact stmts_realizes hcall ss (hd.grows hl₁ hg₁) h₂ hB (fun c hc => ha c (.inr hc)) hr
    | jump j id => exact .pure ⟨g₁, code, hl, rfl, hr⟩

end

end Looplet.Lowering
