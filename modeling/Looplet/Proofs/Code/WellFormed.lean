import Looplet.Code
import Mathlib.Data.List.Basic

/-!
# Well-formed modules

What a verifier asks of a module (`Module.WellFormed`): every block has one terminator, at its end;
jumps go to blocks of the function, and none goes to the first; an operand is there before it is
used, in its block or in a block that dominates it; calls pass as many arguments as the callee has
parameters; numbers and symbols are not used twice.
-/

namespace Looplet.Code

/-! ## Parts of instructions -/

/-- What an operation works on. -/
def Op.operands : Op → List Operand
  | alloca => []
  | load p => [p]
  | add a b => [a, b]
  | compare _ a b => [a, b]
  | extend a => [a]
  | call _ args => args

/-- What an instruction works on. -/
def Instr.operands : Instr → List Operand
  | define _ _ op => op.operands
  | store w p => [w, p]
  | jump _ => []
  | branch c _ _ => [c]
  | ret w => [w]

/-- The blocks that an instruction may go to. -/
def Instr.targets : Instr → List Nat
  | jump b => [b]
  | branch _ t e => [t, e]
  | _ => []

/-- The number of the value that an instruction gives. -/
def Instr.number? : Instr → Option Nat
  | define n _ _ => some n
  | _ => none

/-- The symbol that an instruction calls, and with how many arguments. -/
def Instr.call? : Instr → Option (String × Nat)
  | define _ _ (.call symbol args) => some (symbol, args.length)
  | _ => none

/-- The numbers of the values that instructions give. -/
def numbers (is : List Instr) : List Nat :=
  is.filterMap Instr.number?

@[simp] theorem numbers_append (is js : List Instr) :
    numbers (is ++ js) = numbers is ++ numbers js :=
  List.filterMap_append

theorem targets_of_not_terminator {i : Instr} (h : i.isTerminator = false) : i.targets = [] := by
  cases i with
  | jump b => cases h
  | branch c t e => cases h
  | _ => rfl

/-! ## Blocks -/

/-- A block has one terminator, its last instruction. -/
def Block.Ended (b : Block) : Prop :=
  ∃ body last, b.instrs = body ++ [last] ∧ last.isTerminator = true ∧
    ∀ i ∈ body, i.isTerminator = false

/-- The blocks that may come after a block. -/
def Block.targets (b : Block) : List Nat :=
  b.instrs.flatMap Instr.targets

/-- A way through blocks from the first one to the given one. -/
inductive Path (blocks : List Block) : List Nat → Nat → Prop where
  | start : Path blocks [0] 0
  | next {visited : List Nat} {k t : Nat} {b : Block} (h : Path blocks visited k)
    (hb : blocks[k]? = some b) (ht : t ∈ b.targets) : Path blocks (t :: visited) t

/-- Every way to block `k` goes through block `j`. -/
def Dominates (blocks : List Block) (j k : Nat) : Prop :=
  ∀ visited, Path blocks visited k → j ∈ visited

theorem dominates_zero (blocks : List Block) (k : Nat) : Dominates blocks 0 k := by
  intro visited h
  induction h with
  | start => simp
  | next _ _ _ ih => exact List.mem_cons_of_mem _ ih

/-- The value `n` is there in block `k` after the instructions `before`. -/
def Available (blocks : List Block) (k : Nat) (before : List Instr) (n : Nat) : Prop :=
  n ∈ numbers before ∨
    ∃ j b, j ≠ k ∧ blocks[j]? = some b ∧ n ∈ numbers b.instrs ∧ Dominates blocks j k

/-! ## Modules -/

/-- A call of a symbol may pass `n` arguments. -/
def Module.Takes (m : Module) (symbol : String) (n : Nat) : Prop :=
  if symbol = printf then 0 < n else ∃ f ∈ m.functions, f.symbol = symbol ∧ f.arity = n

/-- An operand is there in a function of the given arity, `known` being the values that are. -/
def Operand.Fits (m : Module) (arity : Nat) (known : Nat → Prop) : Operand → Prop
  | .value n => known n
  | .param k => k < arity
  | .const _ => True
  | .global name => ∃ g ∈ m.globals, g.name = name

/-- All operands of an instruction are there, and a call passes what its callee takes. -/
structure Instr.Fits (m : Module) (arity : Nat) (known : Nat → Prop) (i : Instr) : Prop where
  operands : ∀ o ∈ i.operands, o.Fits m arity known
  call : ∀ symbol n, i.call? = some (symbol, n) → m.Takes symbol n

/-- What a verifier asks of a function. -/
structure Function.WellFormed (m : Module) (f : Function) : Prop where
  ended : ∀ b ∈ f.blocks, b.Ended
  targets : ∀ b ∈ f.blocks, ∀ t ∈ b.targets, 0 < t ∧ t < f.blocks.length
  fits : ∀ (k : Nat) (b : Block), f.blocks[k]? = some b →
    ∀ (before : List Instr) (i : Instr) (rest : List Instr), b.instrs = before ++ i :: rest →
      i.Fits m f.arity (Available f.blocks k before)
  nodup : (f.blocks.flatMap fun b => numbers b.instrs).Nodup

/-- What a verifier asks of a module. -/
structure Module.WellFormed (m : Module) : Prop where
  functions : ∀ f ∈ m.functions, f.WellFormed m
  nodup : (m.functions.map Function.symbol).Nodup

/-! ## Lists of instructions -/

theorem Operand.Fits.mono {m : Module} {arity : Nat} {known known' : Nat → Prop} {o : Operand}
    (h : o.Fits m arity known) (hk : ∀ n, known n → known' n) : o.Fits m arity known' := by
  cases o with
  | value n => exact hk n h
  | _ => exact h

theorem Instr.Fits.mono {m : Module} {arity : Nat} {known known' : Nat → Prop} {i : Instr}
    (h : i.Fits m arity known) (hk : ∀ n, known n → known' n) : i.Fits m arity known' :=
  ⟨fun o ho => (h.operands o ho).mono hk, h.call⟩

/-- Every instruction finds its operands among the values known before and those that the
instructions before it give. -/
def Checks (m : Module) (arity : Nat) (known : Nat → Prop) : List Instr → Prop
  | [] => True
  | i :: is => i.Fits m arity known ∧ Checks m arity (fun n => known n ∨ i.number? = some n) is

namespace Checks

variable {m : Module} {arity : Nat} {known known' : Nat → Prop} {is js : List Instr}

theorem mono (h : Checks m arity known is) (hk : ∀ n, known n → known' n) :
    Checks m arity known' is := by
  induction is generalizing known known' with
  | nil => trivial
  | cons i is ih => exact ⟨h.1.mono hk, ih h.2 fun n => Or.imp_left (hk n)⟩

theorem append : Checks m arity known (is ++ js) ↔
    Checks m arity known is ∧ Checks m arity (fun n => known n ∨ n ∈ numbers is) js := by
  induction is generalizing known with
  | nil => simp [Checks, numbers]
  | cons i is ih =>
    have hk : (fun n => (known n ∨ i.number? = some n) ∨ n ∈ numbers is)
        = fun n => known n ∨ n ∈ numbers (i :: is) := by
      funext n
      simp only [numbers, List.mem_filterMap, List.mem_cons, exists_eq_or_imp, or_assoc]
    rw [List.cons_append, Checks, ih, Checks, hk, and_assoc]

theorem fits (h : Checks m arity known is) {before rest : List Instr} {i : Instr}
    (hi : is = before ++ i :: rest) : i.Fits m arity fun n => known n ∨ n ∈ numbers before := by
  rw [hi, append] at h
  exact h.2.1

end Checks

end Looplet.Code
