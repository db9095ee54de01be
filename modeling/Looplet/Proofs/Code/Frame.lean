import Looplet.Code.Machine

/-!
# Activations while straight code runs

Straight code only defines values. `Frame.Extends bound f g`: the activation `g` differs from `f` at
most in its remaining code and in values numbered from `bound` on, so every operand below the bound
stands for the same in both.
-/

namespace Looplet.Code

theorem Values.getD_define (vs : Values) (n k : Nat) (v : Value) :
    (vs.define n v).getD k none = if k = n then some v else vs.getD k none := by
  simp only [Values.define, Array.getD_eq_getD_getElem?]
  split
  · next h =>
    rw [Array.getElem?_setIfInBounds]
    by_cases hk : n = k
    · subst hk
      simp [h]
    · simp [hk, Ne.symm hk]
  · next h =>
    rw [Array.getElem?_push, Array.getElem?_append, Array.getElem?_replicate]
    simp only [Array.size_append, Array.size_replicate]
    by_cases hk : k = n
    · subst hk
      rw [if_pos (by omega), if_pos rfl]
      rfl
    · rw [if_neg (by omega), if_neg hk]
      by_cases hs : k < vs.size
      · rw [if_pos hs]
      · rw [if_neg hs, Array.getElem?_eq_none (by omega)]
        split <;> rfl

/-- An operand that is no value numbered from `bound` on. -/
def Operand.Below (bound : Nat) : Operand → Prop
  | .value n => n < bound
  | _ => True

theorem Operand.Below.mono {b c : Nat} {o : Operand} (h : o.Below b) (hb : b ≤ c) : o.Below c := by
  cases o with
  | value n => exact Nat.lt_of_lt_of_le h hb
  | _ => trivial

namespace Frame

/-- The second activation has the blocks, the arguments and the cells of the first one, and its
values below `bound`. -/
structure Extends (bound : Nat) (f g : Frame) : Prop where
  blocks : g.blocks = f.blocks
  args : g.args = f.args
  cells : g.cells = f.cells
  values : ∀ n < bound, g.values.getD n none = f.values.getD n none

theorem Extends.refl (bound : Nat) (f : Frame) : f.Extends bound f :=
  ⟨rfl, rfl, rfl, fun _ _ => rfl⟩

theorem Extends.trans {b c : Nat} {f g h : Frame} (hfg : f.Extends b g) (hgh : g.Extends c h)
    (hb : b ≤ c) : f.Extends b h where
  blocks := hgh.blocks.trans hfg.blocks
  args := hgh.args.trans hfg.args
  cells := hgh.cells.trans hfg.cells
  values n hn := (hgh.values n (Nat.lt_of_lt_of_le hn hb)).trans (hfg.values n hn)

theorem Extends.define {b n : Nat} {f g : Frame} (h : f.Extends b g) (hb : b ≤ n) (v : Value) :
    f.Extends b (g.define n v) where
  blocks := h.blocks
  args := h.args
  cells := h.cells
  values k hk := by
    show (g.values.define n v).getD k none = _
    rw [Values.getD_define, if_neg (by omega)]
    exact h.values k hk

theorem Extends.operand? {b : Nat} {f g : Frame} (h : f.Extends b g) {o : Operand}
    (ho : o.Below b) : g.operand? o = f.operand? o := by
  cases o with
  | value n => exact h.values n ho
  | param n => simp only [Frame.operand?, h.args]
  | const w => rfl
  | global name => rfl

theorem Extends.word? {b : Nat} {f g : Frame} (h : f.Extends b g) {o : Operand}
    (ho : o.Below b) : g.word? o = f.word? o := by
  simp only [Frame.word?, h.operand? ho]

@[simp] theorem word?_const (f : Frame) (w : Int64) : f.word? (.const w) = some w := rfl

theorem operand?_define (f : Frame) (n k : Nat) (v : Value) :
    (f.define n v).operand? (.value k) = if k = n then some v else f.operand? (.value k) :=
  Values.getD_define f.values n k v

@[simp] theorem word?_define_self (f : Frame) (n : Nat) (w : Int64) :
    (f.define n (.word w)).word? (.value n) = some w := by
  rw [word?, operand?_define, if_pos rfl]

@[simp] theorem bit?_define_self (f : Frame) (n : Nat) (b : Bool) :
    (f.define n (.bit b)).bit? (.value n) = some b := by
  rw [bit?, operand?_define, if_pos rfl]

/-- A function starts in its first block. -/
theorem enter?_eq_some {f : Function} {b : Block} (h : f.blocks[0]? = some b) (args : List Int64) :
    enter? f args = some ⟨f.blocks, b.instrs, args, #[], #[]⟩ := by
  unfold enter?
  cases hb : f.blocks with
  | nil =>
    rw [hb] at h
    cases h
  | cons b' bs =>
    rw [hb] at h
    cases h
    rfl

/-! ## The code that remains -/

@[simp] theorem goOn_goOn (f : Frame) (code code' : List Instr) :
    (f.goOn code).goOn code' = f.goOn code' := rfl

@[simp] theorem code_goOn (f : Frame) (code : List Instr) : (f.goOn code).code = code := rfl

@[simp] theorem blocks_goOn (f : Frame) (code : List Instr) :
    (f.goOn code).blocks = f.blocks := rfl

@[simp] theorem cells_goOn (f : Frame) (code : List Instr) : (f.goOn code).cells = f.cells := rfl

@[simp] theorem operand?_goOn (f : Frame) (code : List Instr) (o : Operand) :
    (f.goOn code).operand? o = f.operand? o := by
  cases o <;> rfl

@[simp] theorem word?_goOn (f : Frame) (code : List Instr) (o : Operand) :
    (f.goOn code).word? o = f.word? o := by
  rw [word?, word?, operand?_goOn]

@[simp] theorem cell?_goOn (f : Frame) (code : List Instr) (o : Operand) :
    (f.goOn code).cell? o = f.cell? o := by
  rw [cell?, cell?, operand?_goOn, cells_goOn]

@[simp] theorem bit?_goOn (f : Frame) (code : List Instr) (o : Operand) :
    (f.goOn code).bit? o = f.bit? o := by
  rw [bit?, bit?, operand?_goOn]

@[simp] theorem words?_goOn (f : Frame) (code : List Instr) (os : List Operand) :
    (f.goOn code).words? os = f.words? os := by
  induction os with
  | nil => rfl
  | cons o os ih => rw [words?, words?, word?_goOn, ih]

end Frame

namespace Machine

variable {m : Module} {f : Frame} {callers : List (Nat × Frame)} {rest : List Instr}

/-- An operation other than a call looks only at the activation, not at its remaining code. -/
theorem operate?_goOn (f : Frame) (rest : List Instr) (n : Nat) (op : Op) :
    operate? (f.goOn rest) n op = (operate? f n op).map fun g => g.goOn rest := by
  cases op with
  | alloca => rfl
  | load p =>
    simp only [operate?, bind, Frame.cell?_goOn, Frame.cells_goOn]
    cases f.cell? p with
    | none => rfl
    | some c =>
      cases h : f.cells[c]? with
      | none => simp [h]
      | some w =>
        simp [h]
        rfl
  | add a b =>
    simp only [operate?, bind, Frame.word?_goOn]
    cases f.word? a <;> cases f.word? b <;> rfl
  | compare c a b =>
    simp only [operate?, bind, Frame.word?_goOn]
    cases f.word? a <;> cases f.word? b <;> rfl
  | extend a =>
    simp only [operate?, bind, Frame.bit?_goOn]
    cases f.bit? a <;> rfl
  | call symbol args => rfl

theorem step_define {g : Frame} {n : Nat} {hint : String} {op : Op} (h : operate? f n op = some g) :
    step m ⟨f.goOn (.define n hint op :: rest), callers⟩
      = .running ⟨g.goOn rest, callers⟩ none := by
  have hg := operate?_goOn f rest n op
  rw [h] at hg
  cases op with
  | call symbol args => cases h
  | _ =>
    simp only [step, Frame.code_goOn, Frame.goOn_goOn, hg]
    rfl

theorem step_store {v p : Operand} {w : Int64} {c : Nat} (hv : f.word? v = some w)
    (hp : f.cell? p = some c) :
    step m ⟨f.goOn (.store v p :: rest), callers⟩
      = .running ⟨{ f with cells := f.cells.setIfInBounds c w }.goOn rest, callers⟩ none := by
  simp only [step, Frame.code_goOn, Frame.goOn_goOn, Frame.word?_goOn, Frame.cell?_goOn, hv, hp]
  rfl

theorem step_jump {b : Nat} {block : Block} (h : f.blocks[b]? = some block) :
    step m ⟨f.goOn (.jump b :: rest), callers⟩ = .running ⟨f.goOn block.instrs, callers⟩ none := by
  simp only [step, Frame.code_goOn, Frame.goOn_goOn, Frame.jump?, Frame.blocks_goOn, h]
  rfl

theorem step_branch {c : Operand} {t e : Nat} {bit : Bool} {block : Block}
    (hc : f.bit? c = some bit) (h : f.blocks[if bit then t else e]? = some block) :
    step m ⟨f.goOn (.branch c t e :: rest), callers⟩
      = .running ⟨f.goOn block.instrs, callers⟩ none := by
  simp only [step, Frame.code_goOn, Frame.goOn_goOn, Frame.bit?_goOn, hc, Frame.jump?,
    Frame.blocks_goOn, h]
  rfl

theorem step_ret {v : Operand} {w : Int64} (hv : f.word? v = some w) :
    step m ⟨f.goOn (.ret v :: rest), callers⟩ = giveBack w callers := by
  simp only [step, Frame.code_goOn, Frame.goOn_goOn, Frame.word?_goOn, hv]

theorem step_call {symbol hint : String} {n : Nat} {args : List Operand} {callee : Function}
    {ws : List Int64} {g : Frame} (hs : symbol ≠ printf) (hm : m.function? symbol = some callee)
    (hw : f.words? args = some ws) (hg : Frame.enter? callee ws = some g) :
    step m ⟨f.goOn (.define n hint (.call symbol args) :: rest), callers⟩
      = .running ⟨g, (n, f.goOn rest) :: callers⟩ none := by
  simp only [step, Frame.code_goOn, Frame.goOn_goOn, if_neg hs, call, hm, Frame.words?_goOn, hw, hg,
    continueIn]

theorem step_print {format arg : Operand} {hint : String} {n : Nat} {w : Int64} {g : String}
    (hf : f.operand? format = some (.text g)) (hw : f.word? arg = some w)
    (hg : m.printsWord g = true) :
    step m ⟨f.goOn (.define n hint (.call printf [format, arg]) :: rest), callers⟩
      = .running ⟨(f.define n (.word (Int64.ofNat (printedLine w).length))).goOn rest, callers⟩
          (some w) := by
  simp only [step, Frame.code_goOn, Frame.goOn_goOn, if_true, print, Frame.operand?_goOn, hf,
    Frame.word?_goOn, hw, hg]
  rfl

end Machine

end Looplet.Code
