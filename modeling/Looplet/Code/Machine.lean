import Looplet.Code
import Looplet.Text.Decimal

/-!
# Running modules

The machine runs one instruction at a time (`step`). Its state is a stack of activations; the
cells and the values of an activation are its own. A step may print a word. `run` repeats steps up
to a bound and collects what is printed.
-/

namespace Looplet.Code

/-- What an operand stands for while a function runs. -/
inductive Value where
  | word (word : Int64)
  | bit (bit : Bool)
  | cell (index : Nat)
  | text (global : String)
  deriving DecidableEq

/-- The values defined so far, by number. -/
abbrev Values := Array (Option Value)

/-- Defines a value, or defines it anew. -/
def Values.define (vs : Values) (n : Nat) (v : Value) : Values :=
  if n < vs.size then vs.setIfInBounds n (some v)
  else (vs ++ Array.replicate (n - vs.size) none).push (some v)

/-- One activation of a function: the instructions that remain of the current block, the
arguments, the values and the cells. -/
structure Frame where
  blocks : List Block
  code : List Instr
  args : List Int64
  values : Values
  cells : Array Int64

namespace Frame

/-- An activation at the start of a function. -/
def enter? (f : Function) (args : List Int64) : Option Frame :=
  match f.blocks with
  | [] => none
  | b :: _ => some ⟨f.blocks, b.instrs, args, #[], #[]⟩

/-- What an operand stands for. -/
def operand? (f : Frame) : Operand → Option Value
  | .value n => f.values.getD n none
  | .param n => f.args[n]?.map .word
  | .const w => some (.word w)
  | .global g => some (.text g)

/-- The word that an operand stands for. -/
def word? (f : Frame) (o : Operand) : Option Int64 :=
  match f.operand? o with
  | some (.word w) => some w
  | _ => none

/-- The words that operands stand for. -/
def words? (f : Frame) : List Operand → Option (List Int64)
  | [] => some []
  | o :: os =>
    match f.word? o, f.words? os with
    | some w, some ws => some (w :: ws)
    | _, _ => none

/-- The cell that an operand stands for. -/
def cell? (f : Frame) (o : Operand) : Option Nat :=
  match f.operand? o with
  | some (.cell n) => if n < f.cells.size then some n else none
  | _ => none

/-- The bit that an operand stands for. -/
def bit? (f : Frame) (o : Operand) : Option Bool :=
  match f.operand? o with
  | some (.bit b) => some b
  | _ => none

/-- Defines a value. -/
def define (f : Frame) (n : Nat) (v : Value) : Frame :=
  { f with values := f.values.define n v }

/-- Goes on with the given instructions. -/
def goOn (f : Frame) (code : List Instr) : Frame :=
  { f with code := code }

/-- Goes to the start of a block. -/
def jump? (f : Frame) (block : Nat) : Option Frame :=
  match f.blocks[block]? with
  | some b => some (f.goOn b.instrs)
  | none => none

end Frame

/-- Whether two words compare. -/
def Comparison.holds : Comparison → Int64 → Int64 → Bool
  | equal, a, b => a == b
  | notEqual, a, b => a != b

/-- The word of a bit. -/
def bitWord (b : Bool) : Int64 := if b then 1 else 0

/-- A word and a line feed, as they are printed. -/
def printedLine (w : Int64) : String := Text.ofWord w ++ "\n"

/-- Whether a global is the format that prints a word on a line. -/
def Module.printsWord (m : Module) (name : String) : Bool :=
  m.globals.any fun g => g.name = name && g.text = "%ld\n"

/-- The activation that runs, and those that wait for it with the number of the value they wait
for. -/
structure Machine where
  frame : Frame
  callers : List (Nat × Frame)

namespace Machine

/-- What one step leads to: a machine and perhaps a printed word, the end, or nowhere. -/
inductive Next where
  | running (machine : Machine) (printed? : Option Int64)
  | halted (status : Int64)
  | stuck

/-- Goes on in the given activation, if there is one. -/
def continueIn (callers : List (Nat × Frame)) (printed? : Option Int64) : Option Frame → Next
  | some f => .running ⟨f, callers⟩ printed?
  | none => .stuck

/-- The activation after a value is defined by an operation other than a call. -/
def operate? (f : Frame) (n : Nat) : Op → Option Frame
  | .alloca => some ({ f with cells := f.cells.push 0 }.define n (.cell f.cells.size))
  | .load p => do
    let c ← f.cell? p
    let w ← f.cells[c]?
    return f.define n (.word w)
  | .add a b => do
    let x ← f.word? a
    let y ← f.word? b
    return f.define n (.word (x + y))
  | .compare c a b => do
    let x ← f.word? a
    let y ← f.word? b
    return f.define n (.bit (c.holds x y))
  | .extend a => do
    let b ← f.bit? a
    return f.define n (.word (bitWord b))
  | .call _ _ => none

/-- A call of `printf`: a format for one word, and the word. The result is how much was printed. -/
def print (m : Module) (f : Frame) (callers : List (Nat × Frame)) (n : Nat)
    (args : List Operand) : Next :=
  match args with
  | [format, arg] =>
    match f.operand? format, f.word? arg with
    | some (.text g), some w =>
      if m.printsWord g then
        .running ⟨f.define n (.word (Int64.ofNat (printedLine w).length)), callers⟩ (some w)
      else .stuck
    | _, _ => .stuck
  | _ => .stuck

/-- A call of a function of the module. Arguments beyond its parameters are not looked at. -/
def call (m : Module) (f : Frame) (callers : List (Nat × Frame)) (n : Nat) (symbol : String)
    (args : List Operand) : Next :=
  match m.function? symbol, f.words? args with
  | some callee, some ws => continueIn ((n, f) :: callers) none (Frame.enter? callee ws)
  | _, _ => .stuck

/-- The return of a word to the activation that waits for it, or to the environment. -/
def giveBack (w : Int64) : List (Nat × Frame) → Next
  | [] => .halted w
  | (n, f) :: callers => .running ⟨f.define n (.word w), callers⟩ none

/-- Runs one instruction. -/
def step (m : Module) (s : Machine) : Next :=
  match s.frame.code with
  | [] => .stuck
  | i :: rest =>
    let f := s.frame.goOn rest
    match i with
    | .define n _ (.call symbol args) =>
      if symbol = printf then print m f s.callers n args else call m f s.callers n symbol args
    | .define n _ op => continueIn s.callers none (operate? f n op)
    | .store v p =>
      match f.word? v, f.cell? p with
      | some w, some c =>
        .running ⟨{ f with cells := f.cells.setIfInBounds c w }, s.callers⟩ none
      | _, _ => .stuck
    | .jump b => continueIn s.callers none (f.jump? b)
    | .branch c t e =>
      match f.bit? c with
      | some b => continueIn s.callers none (f.jump? (if b then t else e))
      | none => .stuck
    | .ret v =>
      match f.word? v with
      | some w => giveBack w s.callers
      | none => .stuck

/-- The machine at the entry of a module. -/
def start? (m : Module) : Option Machine := do
  let f ← m.function? entrySymbol
  let frame ← Frame.enter? f []
  return ⟨frame, []⟩

/-- How a run ends: with a status, in a state without a step, or at the bound on its steps. -/
inductive End where
  | halted (status : Int64)
  | stuck
  | bounded
  deriving DecidableEq

/-- Runs up to `bound` steps. Gives the end of the run and the words printed, `printed` being those
printed before. -/
def run (m : Module) : Nat → Machine → Array Int64 → End × Array Int64
  | 0, _, printed => (.bounded, printed)
  | bound + 1, s, printed =>
    match step m s with
    | .running s' none => run m bound s' printed
    | .running s' (some w) => run m bound s' (printed.push w)
    | .halted status => (.halted status, printed)
    | .stuck => (.stuck, printed)

end Machine

/-- Runs a module from its entry up to `bound` steps. -/
def Module.run (m : Module) (bound : Nat) : Machine.End × Array Int64 :=
  match Machine.start? m with
  | some s => Machine.run m bound s #[]
  | none => (.stuck, #[])

/-- The text of printed words. -/
def printedText (ws : Array Int64) : String :=
  String.join (ws.toList.map printedLine)

end Looplet.Code
