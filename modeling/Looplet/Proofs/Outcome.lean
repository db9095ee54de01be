import Looplet.Text.Decimal
import Looplet.Tree

/-!
# Outcomes

The meaning of a part of a program is what it comes to on a budget (`Outcome`): a result, or no
result before the budget ends, in both cases with the words that it prints on the way. The budget
bounds the depth of calls and the turns of every loop. A whole program is a function from budgets
to outcomes: it ends with what it comes to on some budget, and it runs forever if no budget is
enough.
-/

namespace Looplet

/-- What a part of a program comes to on a budget. It is `undefined` where a program made by hand
has no meaning, as at a variable without a cell. -/
inductive Outcome (α : Type) where
  | value (printed : List Int64) (result : α)
  | unfinished (printed : List Int64)
  | undefined
  deriving DecidableEq

namespace Outcome

variable {α β γ δ : Type}

/-- The outcome when the given words are printed first. -/
def after (ws : List Int64) : Outcome α → Outcome α
  | value vs a => value (ws ++ vs) a
  | unfinished vs => unfinished (ws ++ vs)
  | undefined => undefined

/-- Goes on with the result, if there is one. -/
protected def bind (o : Outcome α) (f : α → Outcome β) : Outcome β :=
  match o with
  | value ws a => (f a).after ws
  | unfinished ws => unfinished ws
  | undefined => undefined

instance : Monad Outcome where
  pure := value []
  bind := Outcome.bind

/-- The result that there may be. -/
def ofOption : Option α → Outcome α
  | some a => value [] a
  | none => undefined

/-- The words that are printed. -/
def printed : Outcome α → List Int64
  | value ws _ => ws
  | unfinished ws => ws
  | undefined => []

@[simp] theorem pure_eq (a : α) : (pure a : Outcome α) = value [] a := rfl

@[simp] theorem value_bind (ws : List Int64) (a : α) (f : α → Outcome β) :
    (value ws a >>= f) = (f a).after ws := rfl

@[simp] theorem unfinished_bind (ws : List Int64) (f : α → Outcome β) :
    (unfinished ws >>= f) = unfinished ws := rfl

@[simp] theorem undefined_bind (f : α → Outcome β) : (undefined >>= f) = undefined := rfl

@[simp] theorem after_nil (o : Outcome α) : o.after [] = o := by
  cases o <;> rfl

theorem bind_value (o : Outcome α) : (o >>= value []) = o := by
  cases o with
  | value ws a => simp [after]
  | unfinished ws => rfl
  | undefined => rfl

/-! ## Outcomes that are alike -/

/-- Two outcomes of the same kind that print the same words and have related results. -/
inductive Alike (R : α → β → Prop) : Outcome α → Outcome β → Prop where
  | value (ws : List Int64) {a : α} {b : β} (h : R a b) : Alike R (value ws a) (value ws b)
  | unfinished (ws : List Int64) : Alike R (unfinished ws) (unfinished ws)
  | undefined : Alike R undefined undefined

namespace Alike

variable {R : α → β → Prop} {S : γ → δ → Prop}

theorem pure {a : α} {b : β} (h : R a b) :
    Alike R (Pure.pure a : Outcome α) (Pure.pure b : Outcome β) :=
  .value [] h

theorem after {x : Outcome α} {y : Outcome β} (h : Alike R x y) (ws : List Int64) :
    Alike R (x.after ws) (y.after ws) := by
  cases h with
  | value vs h => exact .value (ws ++ vs) h
  | unfinished vs => exact .unfinished (ws ++ vs)
  | undefined => exact .undefined

theorem bind {x : Outcome α} {y : Outcome β} {f : α → Outcome γ} {g : β → Outcome δ}
    (h : Alike R x y) (hf : ∀ a b, R a b → Alike S (f a) (g b)) :
    Alike S (x >>= f) (y >>= g) := by
  cases h with
  | value ws h => exact (hf _ _ h).after ws
  | unfinished ws => exact .unfinished ws
  | undefined => exact .undefined

protected theorem refl (x : Outcome α) : Alike Eq x x := by
  cases x with
  | value ws a => exact .value ws rfl
  | unfinished ws => exact .unfinished ws
  | undefined => exact .undefined

theorem eq {x y : Outcome α} (h : Alike Eq x y) : x = y := by
  cases h with
  | value ws h => rw [h]
  | unfinished => rfl
  | undefined => rfl

end Alike

end Outcome

/-! ## Operators and declared functions -/

/-- The word of an operator applied to two words. Sums wrap around. -/
def BinaryOp.apply : BinaryOp → Int64 → Int64 → Int64
  | .add, a, b => a + b
  | .equal, a, b => if a = b then 1 else 0
  | .notEqual, a, b => if a = b then 0 else 1

/-- The name of the declared function that prints a word. -/
def printName : String := "print_int"

/-- A call of a declared function. The only one there is prints its argument and gives zero. -/
def callDeclared (name : String) (args : List Int64) : Outcome Int64 :=
  match args with
  | [w] => if name = printName then .value [w] 0 else .undefined
  | _ => .undefined

/-! ## Loops -/

/-- How a statement is left: at its end, or by a jump to a loop around it. -/
inductive Signal (τ : Type) where
  | next
  | jump (jump : Jump) (target : τ)

/-- Both statements are left in the same way, by jumps to related targets. -/
inductive Signal.Alike {τ υ : Type} (T : τ → υ → Prop) : Signal τ → Signal υ → Prop where
  | next : Alike T .next .next
  | jump (j : Jump) {t : τ} {u : υ} (h : T t u) : Alike T (.jump j t) (.jump j u)

/-- Runs a loop from the state `s` for at most `turns` turns. Jumps to a target that is `mine` act
on this loop, all others leave it. The loop goes on while the condition is not zero. -/
def Outcome.iterate {σ τ : Type} (mine : τ → Bool) (condition : σ → Outcome Int64)
    (body : σ → Outcome (Signal τ × σ)) : Nat → σ → Outcome (Signal τ × σ)
  | 0, _ => .unfinished []
  | turns + 1, s => do
    let w ← condition s
    if w = 0 then return (.next, s)
    else
      let (signal, s) ← body s
      match signal with
      | .next => iterate mine condition body turns s
      | .jump j target =>
        if mine target then
          match j with
          | .again => iterate mine condition body turns s
          | .leave => return (.next, s)
        else return (.jump j target, s)

/-- Loops whose conditions and bodies are alike are alike, if targets that are related either act
both on their loop or leave both to targets that are related outside. -/
theorem Outcome.Alike.iterate {σ σ' τ τ' : Type} {R : σ → σ' → Prop} {T U : τ → τ' → Prop}
    {mine : τ → Bool} {mine' : τ' → Bool} {condition : σ → Outcome Int64}
    {condition' : σ' → Outcome Int64} {body : σ → Outcome (Signal τ × σ)}
    {body' : σ' → Outcome (Signal τ' × σ')}
    (hc : ∀ s s', R s s' → condition s = condition' s')
    (hb : ∀ s s', R s s' →
      Alike (fun r r' => Signal.Alike T r.1 r'.1 ∧ R r.2 r'.2) (body s) (body' s'))
    (ht : ∀ t t', T t t' →
      mine t = true ∧ mine' t' = true ∨ mine t = false ∧ mine' t' = false ∧ U t t')
    (turns : Nat) {s : σ} {s' : σ'} (hs : R s s') :
    Alike (fun r r' => Signal.Alike U r.1 r'.1 ∧ R r.2 r'.2)
      (iterate mine condition body turns s) (iterate mine' condition' body' turns s') := by
  induction turns generalizing s s' with
  | zero => exact .unfinished []
  | succ turns ih =>
    rw [Outcome.iterate, Outcome.iterate, hc s s' hs]
    refine (Alike.refl (condition' s')).bind ?_
    rintro w _ rfl
    by_cases h0 : w = 0
    · rw [if_pos h0, if_pos h0]
      exact .pure ⟨.next, hs⟩
    · rw [if_neg h0, if_neg h0]
      refine (hb s s' hs).bind ?_
      rintro ⟨signal, s₁⟩ ⟨signal', s₁'⟩ ⟨hsignal, hs₁⟩
      cases hsignal with
      | next => exact ih hs₁
      | @jump j t t' htt =>
        obtain ⟨hm, hm'⟩ | ⟨hm, hm', hU⟩ := ht t t' htt
        · simp only [hm, hm', if_true]
          cases j with
          | leave => exact .pure ⟨.next, hs₁⟩
          | again => exact ih hs₁
        · simp only [hm, hm', Bool.false_eq_true, if_false]
          exact .pure ⟨.jump j hU, hs₁⟩

/-! ## What is seen of a program -/

/-- A word in decimal on a line of its own. -/
def line (w : Int64) : String := Text.ofWord w ++ "\n"

/-- The program ends, and has printed the given text. -/
def Ends (run : Nat → Outcome Int64) (text : String) : Prop :=
  ∃ budget ws w, run budget = .value ws w ∧ String.join (ws.map line) = text

/-- The program runs forever. -/
def Diverges (run : Nat → Outcome Int64) : Prop :=
  ∀ budget, ∃ ws, run budget = .unfinished ws

/-- The program prints the given text as its line number `i`, counted from zero. -/
def Prints (run : Nat → Outcome Int64) (i : Nat) (text : String) : Prop :=
  ∃ budget, ((run budget).printed.map line)[i]? = some text

end Looplet
